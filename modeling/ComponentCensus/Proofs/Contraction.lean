import ComponentCensus.Proofs.NumberLine

/-!
# Narrowing a report again

A report that is loaded may have any shape, and narrowing it may fail at each of its stages.  Where
it succeeds, every stage keeps some of what it reads, in its order; and what is kept passes all
stages once more, although the names that they follow are collected again from what is left.

So narrowing is a contraction: it only takes away, and doing it twice is doing it once.  Neither is
clear from a single stage, because what a later stage keeps depends on names that earlier ones
found.

## Main results

* `narrowTo_thins_once` : what is narrowed is a part of the report, and narrowing it again gives it
  back.

## Strategy

* `Stages` names what each stage reads and keeps, and `narrowTo_eq_ok_iff` says that narrowing
  succeeds exactly if all stages do.
* The stages that test one entry at a time keep what they have kept.  In the pass over the
  variables one depends on those before it: the step and the run over the list show that a dropped
  variable binds no name (`followVariable_cases`, `foldlM_followVariable_cases`).
* `Stages.again` has the stages of the second run, which lead to the same report.
-/

namespace ComponentCensus

/-- The items of a member that may be absent. -/
def Value.itemsUnder (name : String) (value : Value) : Except Fault (List Value) := do
  (← value.lookupD name (.list [])).items

namespace Report

/-- The bucket of a group; what is missing is empty. -/
def bucketAt (patterns : Value) (group name : String) : Except Fault Value := do
  (← patterns.lookupD group (.object [])).lookupD name (.list [])

/-- The entries of an import bucket that come from a library, under its name. -/
def ownImports (library : Value) (bucket : String × Value) : Except Fault (String × List Value) := do
  return (bucket.1, ← ownedItems library bucket.2)

/-- A bucket of advanced usage, of which only loaded modules have a source. -/
def ownLoaded (library : Value) (bucket : String × Value) : Except Fault (String × Value) := do
  if bucket.1 = "lazy" || bucket.1 = "dynamic" then
    return (bucket.1, Value.list (← ownedItems library bucket.2))
  else
    return bucket

/-- Whether the root of a rendering is bound. -/
def hasBoundRoot (bound : List Value) (item : Value) : Except Fault Bool := do
  return (Value.str (← renderedName item).2).isAmong bound

/-- Whether the attributes of an entry belong to a rendered name. -/
def isRendered (rendered : List String) (item : Value) : Except Fault Bool := do
  return (← (← item.member "component").asMember).isAmong (rendered.map .str)

/-- The name that an entry renders. -/
def componentOf (item : Value) : Except Fault String := do
  return (← renderedName item).1

/-- What the stages of narrowing read from a report and what they keep of it. -/
structure Stages where
  importMembers : List (String × Value)
  usageMembers : List (String × Value)
  advancedMembers : List (String × Value)
  imports : List (String × List Value)
  imported : List Value
  spaces : List Value
  destructurings : List Value
  direct : List Value
  assignments : List Value
  bound : List Value
  assigned : List Value
  renderings : List Value
  rooted : List Value
  rendered : List String
  advanced : List (String × Value)
  attributes : List Value
  props : List Value
  candidates : List Value
  components : List Value
  importTotal : Nat
  usageTotal : Nat
  advancedTotal : Nat

namespace Stages

/-- The imports kept in a bucket. -/
def bucket (stages : Stages) (name : String) : List Value :=
  (Entries.get? name stages.imports).getD []

/-- The import buckets as members of a group. -/
def importBuckets (stages : Stages) : List (String × Value) :=
  stages.imports.map fun bucket => (bucket.1, Value.list bucket.2)

/-- The usage buckets: renderings and variables are replaced, the others stay. -/
def usageBuckets (stages : Stages) : List (String × Value) :=
  Entries.put "variables" (.list stages.assigned)
    (Entries.put "jsx" (.list stages.rooted) stages.usageMembers)

/-- The report that the stages lead to. -/
def report (stages : Stages) : Report where
  summary :=
    { imports := (stages.bucket "default").length + (stages.bucket "named").length +
        (stages.bucket "namespace").length
      components := stages.components.length
      usagePatterns := (stages.importTotal + stages.usageTotal + stages.advancedTotal +
        stages.props.length : Nat) }
  patterns := .object
    [("imports", .object stages.importBuckets), ("usage", .object stages.usageBuckets),
     ("advanced", .object stages.advanced), ("props", .list stages.props)]
  components := stages.components

/-- Every stage succeeds on a report. -/
structure Of (stages : Stages) (report : Report) (library : Value) : Prop where
  importMembers : report.patterns.lookupD "imports" (.object []) = .ok (.object stages.importMembers)
  usageMembers : report.patterns.lookupD "usage" (.object []) = .ok (.object stages.usageMembers)
  advancedMembers :
    report.patterns.lookupD "advanced" (.object []) = .ok (.object stages.advancedMembers)
  imports : stages.importMembers.mapM (ownImports library) = .ok stages.imports
  imported : boundByImports stages.bucket = .ok stages.imported
  spaces : addMembers "name" [] (stages.bucket "namespace") = .ok stages.spaces
  destructurings :
    (Value.object stages.usageMembers).itemsUnder "destructuring" = .ok stages.destructurings
  direct : stages.destructurings.foldlM (followDestructuring stages.spaces) stages.imported =
    .ok stages.direct
  assignments : (Value.object stages.usageMembers).itemsUnder "variables" = .ok stages.assignments
  bound : stages.assignments.foldlM followVariable (stages.direct, []) =
    .ok (stages.bound, stages.assigned)
  renderings : (Value.object stages.usageMembers).itemsUnder "jsx" = .ok stages.renderings
  rooted : stages.renderings.filterM (hasBoundRoot stages.bound) = .ok stages.rooted
  rendered : stages.rooted.mapM componentOf = .ok stages.rendered
  advanced : stages.advancedMembers.mapM (ownLoaded library) = .ok stages.advanced
  attributes : report.patterns.itemsUnder "props" = .ok stages.attributes
  props : stages.attributes.filterM (isRendered stages.rendered) = .ok stages.props
  candidates : report.components.filterM (isKeptComponent stages.bound stages.rendered) =
    .ok stages.candidates
  components : sortValues stages.candidates = .ok stages.components
  importTotal : totalSize stages.importBuckets = .ok stages.importTotal
  usageTotal : totalSize stages.usageBuckets = .ok stages.usageTotal
  advancedTotal : totalSize stages.advanced = .ok stages.advancedTotal

end Stages

theorem eq_object_of_members {value : Value} {found : List (String × Value)}
    (hfound : value.members = .ok found) : value = .object found := by
  cases value with
  | object members =>
      cases hfound
      rfl
  | _ => cases hfound

/-- Narrowing succeeds exactly if all of its stages do. -/
theorem narrowTo_eq_ok_iff {report kept : Report} {library : Value} :
    report.narrowTo library = .ok kept ↔
      ∃ stages : Stages, stages.Of report library ∧ kept = stages.report := by
  constructor
  · intro hkept
    -- the results of the stages, one after the other
    unfold narrowTo at hkept
    obtain ⟨importGroup, himportGroup, hkept⟩ := exists_of_bind_eq_ok hkept
    obtain ⟨usageGroup, husageGroup, hkept⟩ := exists_of_bind_eq_ok hkept
    obtain ⟨advancedGroup, hadvancedGroup, hkept⟩ := exists_of_bind_eq_ok hkept
    obtain ⟨importMembers, himportMembers, hkept⟩ := exists_of_bind_eq_ok hkept
    obtain ⟨imports, himports, hkept⟩ := exists_of_bind_eq_ok hkept
    obtain ⟨imported, himported, hkept⟩ := exists_of_bind_eq_ok hkept
    obtain ⟨spaces, hspaces, hkept⟩ := exists_of_bind_eq_ok hkept
    obtain ⟨taken, htaken, hkept⟩ := exists_of_bind_eq_ok hkept
    obtain ⟨destructurings, hdestructurings, hkept⟩ := exists_of_bind_eq_ok hkept
    obtain ⟨direct, hdirect, hkept⟩ := exists_of_bind_eq_ok hkept
    obtain ⟨assignmentList, hassignmentList, hkept⟩ := exists_of_bind_eq_ok hkept
    obtain ⟨assignments, hassignments, hkept⟩ := exists_of_bind_eq_ok hkept
    obtain ⟨⟨bound, assigned⟩, hbound, hkept⟩ := exists_of_bind_eq_ok hkept
    obtain ⟨renderingList, hrenderingList, hkept⟩ := exists_of_bind_eq_ok hkept
    obtain ⟨renderings, hrenderings, hkept⟩ := exists_of_bind_eq_ok hkept
    obtain ⟨rooted, hrooted, hkept⟩ := exists_of_bind_eq_ok hkept
    obtain ⟨rendered, hrendered, hkept⟩ := exists_of_bind_eq_ok hkept
    obtain ⟨usageMembers, husageMembers, hkept⟩ := exists_of_bind_eq_ok hkept
    obtain ⟨advancedMembers, hadvancedMembers, hkept⟩ := exists_of_bind_eq_ok hkept
    obtain ⟨advanced, hadvanced, hkept⟩ := exists_of_bind_eq_ok hkept
    obtain ⟨attributeList, hattributeList, hkept⟩ := exists_of_bind_eq_ok hkept
    obtain ⟨attributes, hattributes, hkept⟩ := exists_of_bind_eq_ok hkept
    obtain ⟨props, hprops, hkept⟩ := exists_of_bind_eq_ok hkept
    obtain ⟨candidates, hcandidates, hkept⟩ := exists_of_bind_eq_ok hkept
    obtain ⟨components, hcomponents, hkept⟩ := exists_of_bind_eq_ok hkept
    obtain ⟨importTotal, himportTotal, hkept⟩ := exists_of_bind_eq_ok hkept
    obtain ⟨usageTotal, husageTotal, hkept⟩ := exists_of_bind_eq_ok hkept
    obtain ⟨advancedTotal, hadvancedTotal, hkept⟩ := exists_of_bind_eq_ok hkept
    cases hkept
    obtain rfl := eq_object_of_members himportMembers
    obtain rfl := eq_object_of_members husageMembers
    obtain rfl := eq_object_of_members hadvancedMembers
    exact ⟨⟨importMembers, usageMembers, advancedMembers, imports, imported, spaces, destructurings,
      direct, assignments, bound, assigned, renderings, rooted, rendered, advanced, attributes,
      props, candidates, components, importTotal, usageTotal, advancedTotal⟩,
      ⟨himportGroup, husageGroup, hadvancedGroup, himports, himported, hspaces,
      bind_of_eq_ok htaken hdestructurings, hdirect, bind_of_eq_ok hassignmentList hassignments,
      hbound, bind_of_eq_ok hrenderingList hrenderings, hrooted, hrendered, hadvanced,
      bind_of_eq_ok hattributeList hattributes, hprops, hcandidates, hcomponents, himportTotal,
      husageTotal, hadvancedTotal⟩, rfl⟩
  · rintro ⟨stages, hstages, rfl⟩
    -- lists that are read and filtered in two steps are one stage here
    obtain ⟨destructuringList, htaken, hdestructurings⟩ := exists_of_bind_eq_ok hstages.destructurings
    obtain ⟨assignmentList, hassignmentList, hassignments⟩ := exists_of_bind_eq_ok hstages.assignments
    obtain ⟨renderingList, hrenderingList, hrenderings⟩ := exists_of_bind_eq_ok hstages.renderings
    obtain ⟨attributeList, hattributeList, hattributes⟩ := exists_of_bind_eq_ok hstages.attributes
    unfold narrowTo
    refine bind_of_eq_ok hstages.importMembers (bind_of_eq_ok hstages.usageMembers
      (bind_of_eq_ok hstages.advancedMembers (bind_of_eq_ok rfl ?_)))
    refine bind_of_eq_ok hstages.imports (bind_of_eq_ok hstages.imported
      (bind_of_eq_ok hstages.spaces ?_))
    refine bind_of_eq_ok htaken (bind_of_eq_ok hdestructurings (bind_of_eq_ok hstages.direct ?_))
    refine bind_of_eq_ok hassignmentList (bind_of_eq_ok hassignments
      (bind_of_eq_ok hstages.bound ?_))
    refine bind_of_eq_ok hrenderingList (bind_of_eq_ok hrenderings (bind_of_eq_ok hstages.rooted
      (bind_of_eq_ok hstages.rendered ?_)))
    refine bind_of_eq_ok rfl (bind_of_eq_ok rfl (bind_of_eq_ok hstages.advanced ?_))
    refine bind_of_eq_ok hattributeList (bind_of_eq_ok hattributes (bind_of_eq_ok hstages.props ?_))
    refine bind_of_eq_ok hstages.candidates (bind_of_eq_ok hstages.components ?_)
    exact bind_of_eq_ok hstages.importTotal (bind_of_eq_ok hstages.usageTotal
      (bind_of_eq_ok hstages.advancedTotal rfl))

/-! ## What is kept passes again -/

section Again

variable {library : Value}

/-- The entries of a library are among those listed, and all of them are kept again. -/
theorem ownedItems_again {bucket : Value} {kept : List Value}
    (hkept : ownedItems library bucket = .ok kept) :
    (∃ items, bucket.items = .ok items ∧ kept.Sublist items) ∧
      ownedItems library (.list kept) = .ok kept := by
  unfold ownedItems at hkept
  obtain ⟨items, hitems, hkept⟩ := exists_of_bind_eq_ok hkept
  obtain ⟨hsublist, hpassed⟩ := sublist_of_filterM hkept
  exact ⟨⟨items, hitems, hsublist⟩, filterM_eq_self hpassed⟩

theorem ownImports_eq_ok {bucket : String × Value} {kept : String × List Value}
    (hkept : ownImports library bucket = .ok kept) :
    bucket.1 = kept.1 ∧ ownedItems library bucket.2 = .ok kept.2 := by
  unfold ownImports at hkept
  obtain ⟨items, hitems, hkept⟩ := exists_of_bind_eq_ok hkept
  cases hkept
  exact ⟨rfl, hitems⟩

/-- A bucket of advanced usage is filtered by source, or stays as it is. -/
theorem ownLoaded_eq_ok {bucket kept : String × Value}
    (hkept : ownLoaded library bucket = .ok kept) :
    bucket.1 = kept.1 ∧ ownLoaded library kept = .ok kept ∧
      (kept.2 = bucket.2 ∨ ∃ items, ownedItems library bucket.2 = .ok items ∧
        kept.2 = .list items) := by
  have hrun := hkept
  unfold ownLoaded at hkept
  split at hkept
  · next hloaded =>
    obtain ⟨items, hitems, hkept⟩ := exists_of_bind_eq_ok hkept
    cases hkept
    refine ⟨rfl, ?_, Or.inr ⟨items, hitems, rfl⟩⟩
    unfold ownLoaded
    rw [if_pos hloaded]
    exact bind_of_eq_ok (ownedItems_again hitems).2 rfl
  · cases hkept
    exact ⟨rfl, hrun, Or.inl rfl⟩

theorem mapM_ownImports_again {members : List (String × Value)} {imports : List (String × List Value)}
    (himports : members.mapM (ownImports library) = .ok imports) :
    (imports.map fun bucket => (bucket.1, Value.list bucket.2)).mapM (ownImports library) =
      .ok imports := by
  have hagain : ∀ bucket ∈ imports,
      ownImports library (bucket.1, Value.list bucket.2) = .ok (id bucket) := by
    intro bucket hbucket
    obtain ⟨member, -, hmember⟩ := exists_mem_of_mapM_eq_ok himports hbucket
    obtain ⟨-, howned⟩ := ownImports_eq_ok hmember
    exact bind_of_eq_ok (ownedItems_again howned).2 rfl
  rw [mapM_map_ok hagain, List.map_id]

theorem mapM_ownLoaded_again {members advanced : List (String × Value)}
    (hadvanced : members.mapM (ownLoaded library) = .ok advanced) :
    advanced.mapM (ownLoaded library) = .ok advanced := by
  have hagain : ∀ bucket ∈ advanced, ownLoaded library (id bucket) = .ok (id bucket) := by
    intro bucket hbucket
    obtain ⟨member, -, hmember⟩ := exists_mem_of_mapM_eq_ok hadvanced hbucket
    exact (ownLoaded_eq_ok hmember).2.1
  have hmap := mapM_map_ok hagain
  rwa [List.map_id] at hmap

end Again

/-! ## The pass over the variables -/

/-- A variable is kept whatever was kept before it, or it leaves no trace. -/
theorem followVariable_cases {bound kept : List Value} {state : List Value × List Value}
    {item : Value} (hstate : followVariable (bound, kept) item = .ok state) :
    state = (bound, kept) ∨ ∃ next, state = (next, kept ++ [item]) ∧
      ∀ others, followVariable (bound, others) item = .ok (next, others ++ [item]) := by
  unfold followVariable at hstate
  obtain ⟨assignment, hassignment, hstate⟩ := exists_of_bind_eq_ok hstate
  obtain ⟨reference, hreference, hstate⟩ := exists_of_bind_eq_ok hstate
  split at hstate
  · next hmentions =>
    obtain ⟨target, htarget, hstate⟩ := exists_of_bind_eq_ok hstate
    obtain ⟨name, hname, hstate⟩ := exists_of_bind_eq_ok hstate
    cases hstate
    refine Or.inr ⟨Value.addTo bound name, rfl, fun others => ?_⟩
    unfold followVariable
    refine bind_of_eq_ok hassignment (bind_of_eq_ok hreference ?_)
    rw [if_pos hmentions]
    exact bind_of_eq_ok htarget (bind_of_eq_ok hname rfl)
  · cases hstate
    exact Or.inl rfl

/-- The pass keeps variables in their order, and a second pass over what it kept binds the same
names: a variable that is dropped binds nothing that a later one could need. -/
theorem foldlM_followVariable_cases {items bound kept : List Value}
    {state : List Value × List Value}
    (hstate : items.foldlM followVariable (bound, kept) = .ok state) :
    ∃ passed, state.2 = kept ++ passed ∧ passed.Sublist items ∧
      ∀ others, passed.foldlM followVariable (bound, others) = .ok (state.1, others ++ passed) := by
  -- along the variables, for any names that are bound so far
  induction items generalizing bound kept with
  | nil =>
      cases hstate
      exact ⟨[], (List.append_nil _).symm, List.Sublist.refl _, fun others => by
        rw [List.append_nil]
        rfl⟩
  | cons item rest ih =>
      obtain ⟨next, hnext, hrest⟩ := foldlM_cons_eq_ok hstate
      rcases followVariable_cases hnext with rfl | ⟨names, rfl, hagain⟩
      · -- a variable that is dropped leaves no trace
        obtain ⟨passed, hkept, hsublist, hpassed⟩ := ih hrest
        exact ⟨passed, hkept, hsublist.cons item, hpassed⟩
      · -- one that is kept binds the same name when the kept ones are passed alone
        obtain ⟨passed, hkept, hsublist, hpassed⟩ := ih hrest
        refine ⟨item :: passed, ?_, hsublist.cons_cons item, fun others => ?_⟩
        · rw [hkept, List.append_assoc, List.singleton_append]
        · rw [List.foldlM_cons]
          refine bind_of_eq_ok (hagain others) ?_
          rw [hpassed, List.append_assoc, List.singleton_append]

/-! ## The stages of a second run -/

theorem itemsUnder_object {members : List (String × Value)} {name : String} {items : List Value}
    (hmember : Entries.get? name members = some (.list items)) :
    (Value.object members).itemsUnder name = .ok items := by
  have hlookup : (Value.object members).lookupD name (.list []) = .ok (.list items) := by
    rw [Value.lookupD, Value.lookup?, hmember]
    rfl
  exact bind_of_eq_ok hlookup rfl

namespace Stages

/-- The stages of a run on what other stages have kept. -/
def again (stages : Stages) : Stages :=
  { stages with
    importMembers := stages.importBuckets
    usageMembers := stages.usageBuckets
    advancedMembers := stages.advanced
    assignments := stages.assigned
    renderings := stages.rooted
    attributes := stages.props
    candidates := stages.components }

variable {stages : Stages}

theorem get?_variables :
    Entries.get? "variables" stages.usageBuckets = some (.list stages.assigned) :=
  Entries.get?_put_self _ _ _

theorem get?_jsx : Entries.get? "jsx" stages.usageBuckets = some (.list stages.rooted) :=
  (Entries.get?_put_other _ _ (by decide)).trans (Entries.get?_put_self _ _ _)

theorem get?_otherUsage {name : String} (hvariables : name ≠ "variables") (hjsx : name ≠ "jsx") :
    Entries.get? name stages.usageBuckets = Entries.get? name stages.usageMembers :=
  (Entries.get?_put_other _ _ hvariables).trans (Entries.get?_put_other _ _ hjsx)

theorem usageBuckets_again : stages.again.usageBuckets = stages.usageBuckets := by
  show Entries.put "variables" (.list stages.assigned)
    (Entries.put "jsx" (.list stages.rooted) stages.usageBuckets) = stages.usageBuckets
  rw [Entries.put_of_get?_eq_some get?_jsx, Entries.put_of_get?_eq_some get?_variables]

theorem report_again : stages.again.report = stages.report := by
  unfold Stages.report
  rw [usageBuckets_again]
  rfl

variable {report : Report} {library : Value}

/-- Every stage succeeds again on what the stages have kept, and keeps all of it. -/
theorem Of.again (hstages : stages.Of report library) : stages.again.Of stages.report library where
  importMembers := rfl
  usageMembers := rfl
  advancedMembers := rfl
  imports := mapM_ownImports_again hstages.imports
  imported := hstages.imported
  spaces := hstages.spaces
  destructurings := by
    -- narrowing does not touch this bucket
    have hsame := @get?_otherUsage stages "destructuring" (by decide) (by decide)
    refine Eq.trans ?_ hstages.destructurings
    show (Value.object stages.usageBuckets).itemsUnder "destructuring" = _
    rw [Value.itemsUnder, Value.itemsUnder, Value.lookupD, Value.lookupD, Value.lookup?,
      Value.lookup?, hsame]
  direct := hstages.direct
  assignments := itemsUnder_object get?_variables
  bound := by
    obtain ⟨passed, hkept, -, hpassed⟩ := foldlM_followVariable_cases hstages.bound
    rw [List.nil_append] at hkept
    have hagain := hpassed []
    rw [← hkept] at hagain
    exact hagain
  renderings := itemsUnder_object get?_jsx
  rooted := filterM_eq_self (sublist_of_filterM hstages.rooted).2
  rendered := hstages.rendered
  advanced := mapM_ownLoaded_again hstages.advanced
  attributes := rfl
  props := filterM_eq_self (sublist_of_filterM hstages.props).2
  candidates := by
    -- the candidates of the second run are the components in their order
    obtain ⟨hperm, -⟩ := sortValues_sorted hstages.components
    refine filterM_eq_self fun name hname => ?_
    exact (sublist_of_filterM hstages.candidates).2 name (hperm.subset hname)
  components := (sortValues_sorted hstages.components).2
  importTotal := hstages.importTotal
  usageTotal := by
    rw [usageBuckets_again]
    exact hstages.usageTotal
  advancedTotal := hstages.advancedTotal

end Stages

/-! ## Thinner reports -/

/-- A bucket that stayed as it was, or of which some entries are left in their order. -/
def Thinned (old new : Value) : Prop :=
  new = old ∨ ∃ items kept, old.items = .ok items ∧ new = .list kept ∧ kept.Sublist items

/-- A report of which only some entries and components are left, in their order. -/
structure ThinnedFrom (kept report : Report) : Prop where
  buckets : ∀ group ∈ ["imports", "usage", "advanced"], ∀ name, ∃ old new,
    bucketAt report.patterns group name = .ok old ∧
      bucketAt kept.patterns group name = .ok new ∧ Thinned old new
  props : ∃ items left, report.patterns.itemsUnder "props" = .ok items ∧
    kept.patterns.itemsUnder "props" = .ok left ∧ left.Sublist items
  components : kept.components.Subperm report.components

theorem bucketAt_of_group {patterns : Value} {group : String} {members : List (String × Value)}
    (hgroup : patterns.lookupD group (.object []) = .ok (.object members)) (name : String) :
    bucketAt patterns group name = .ok ((Entries.get? name members).getD (.list [])) :=
  bind_of_eq_ok hgroup rfl

/-- Groups with the same buckets, each of them thinned. -/
theorem thinned_getD {members kept : List (String × Value)}
    (hmembers : List.Forall₂ (fun old new : String × Value => old.1 = new.1 ∧ Thinned old.2 new.2)
      members kept) (name : String) :
    Thinned ((Entries.get? name members).getD (.list []))
      ((Entries.get? name kept).getD (.list [])) := by
  have hrel := Entries.rel_get? hmembers name
  generalize Entries.get? name members = old at hrel ⊢
  generalize Entries.get? name kept = new at hrel ⊢
  cases hrel with
  | none => exact Or.inl rfl
  | some hthinned => exact hthinned

namespace Stages

variable {stages : Stages} {report : Report} {library : Value} (hstages : stages.Of report library)
include hstages

theorem Of.thinned_imports (name : String) :
    Thinned ((Entries.get? name stages.importMembers).getD (.list []))
      ((Entries.get? name stages.importBuckets).getD (.list [])) := by
  refine thinned_getD ?_ name
  unfold Stages.importBuckets
  rw [List.forall₂_map_right_iff]
  refine (forall₂_of_mapM_eq_ok hstages.imports).imp fun member bucket hbucket => ?_
  obtain ⟨hname, howned⟩ := ownImports_eq_ok hbucket
  obtain ⟨⟨items, hitems, hsublist⟩, -⟩ := ownedItems_again howned
  exact ⟨hname, Or.inr ⟨items, bucket.2, hitems, rfl, hsublist⟩⟩

theorem Of.thinned_advanced (name : String) :
    Thinned ((Entries.get? name stages.advancedMembers).getD (.list []))
      ((Entries.get? name stages.advanced).getD (.list [])) := by
  refine thinned_getD ?_ name
  refine (forall₂_of_mapM_eq_ok hstages.advanced).imp fun member bucket hbucket => ?_
  obtain ⟨hname, -, hsame | ⟨items, howned, hlist⟩⟩ := ownLoaded_eq_ok hbucket
  · exact ⟨hname, Or.inl hsame⟩
  · obtain ⟨⟨listed, hlisted, hsublist⟩, -⟩ := ownedItems_again howned
    exact ⟨hname, Or.inr ⟨listed, items, hlisted, hlist, hsublist⟩⟩

theorem Of.thinned_usage (name : String) :
    Thinned ((Entries.get? name stages.usageMembers).getD (.list []))
      ((Entries.get? name stages.usageBuckets).getD (.list [])) := by
  -- the two buckets that are written anew hold a part of their items
  have hlisted : ∀ {name : String} {items kept : List Value},
      (Value.object stages.usageMembers).itemsUnder name = .ok items → kept.Sublist items →
      Entries.get? name stages.usageBuckets = some (.list kept) →
        Thinned ((Entries.get? name stages.usageMembers).getD (.list []))
          ((Entries.get? name stages.usageBuckets).getD (.list [])) := by
    intro name items kept hitems hsublist hget
    obtain ⟨old, hold, hitems⟩ := exists_of_bind_eq_ok hitems
    cases hold
    rw [hget]
    exact Or.inr ⟨items, kept, hitems, rfl, hsublist⟩
  by_cases hvariables : name = "variables"
  · subst hvariables
    obtain ⟨passed, hkept, hsublist, -⟩ := foldlM_followVariable_cases hstages.bound
    rw [List.nil_append] at hkept
    obtain rfl : stages.assigned = passed := hkept
    exact hlisted hstages.assignments hsublist get?_variables
  · by_cases hjsx : name = "jsx"
    · subst hjsx
      exact hlisted hstages.renderings (sublist_of_filterM hstages.rooted).1 get?_jsx
    · rw [get?_otherUsage hvariables hjsx]
      exact Or.inl rfl

/-- What the stages keep is thinner than what they read. -/
theorem Of.thinnedFrom : stages.report.ThinnedFrom report where
  buckets := by
    intro group hgroup name
    simp only [List.mem_cons, List.not_mem_nil, or_false] at hgroup
    rcases hgroup with rfl | rfl | rfl
    · exact ⟨_, _, bucketAt_of_group hstages.importMembers name, bucketAt_of_group rfl name,
        hstages.thinned_imports name⟩
    · exact ⟨_, _, bucketAt_of_group hstages.usageMembers name, bucketAt_of_group rfl name,
        hstages.thinned_usage name⟩
    · exact ⟨_, _, bucketAt_of_group hstages.advancedMembers name, bucketAt_of_group rfl name,
        hstages.thinned_advanced name⟩
  props := ⟨stages.attributes, stages.props, hstages.attributes, rfl,
    (sublist_of_filterM hstages.props).1⟩
  components := by
    obtain ⟨hperm, -⟩ := sortValues_sorted hstages.components
    exact hperm.subperm.trans (sublist_of_filterM hstages.candidates).1.subperm

end Stages

theorem thinnedFrom_of_narrowTo {report kept : Report} {library : Value}
    (hkept : report.narrowTo library = .ok kept) : kept.ThinnedFrom report := by
  obtain ⟨stages, hstages, rfl⟩ := narrowTo_eq_ok_iff.mp hkept
  exact hstages.thinnedFrom

/-- **Narrowing thins a report once.**  Whatever a report looks like, as long as it can be narrowed
to a library, each bucket of the result has some of the entries of the same bucket in their order,
its components are among those of the report, and narrowing the result again succeeds and gives it
back, numbers included. -/
theorem narrowTo_thins_once {report kept : Report} {library : Value}
    (hkept : report.narrowTo library = .ok kept) :
    kept.ThinnedFrom report ∧ kept.narrowTo library = .ok kept := by
  refine ⟨thinnedFrom_of_narrowTo hkept, ?_⟩
  obtain ⟨stages, hstages, rfl⟩ := narrowTo_eq_ok_iff.mp hkept
  exact narrowTo_eq_ok_iff.mpr ⟨stages.again, hstages.again, Stages.report_again.symm⟩

/-- A variable that is assigned a reference. -/
def assigning (name reference : String) : Value :=
  .object [("variable", .str name), ("assignment", .str reference)]

theorem followVariable_assigning {name reference : String} (hroots : rootNames reference = [reference])
    (bound kept : List Value) :
    followVariable (bound, kept) (assigning name reference) =
      .ok (if (Value.str reference).isAmong bound then
        (Value.addTo bound (.str name), kept ++ [assigning name reference]) else (bound, kept)) := by
  show (if (rootNames reference).any fun root => (Value.str root).isAmong bound then
    Except.ok (Value.addTo bound (.str name), kept ++ [assigning name reference])
      else .ok (bound, kept)) = _
  rw [hroots, List.any_cons, List.any_nil, Bool.or_false]
  split <;> rfl

/-- A default import. -/
def importing (name source : String) : Value :=
  .object [("name", .str name), ("source", .str source)]

/-- A loaded report of two libraries that has no renderings, advanced usage or attributes, and whose
totals are wrong. -/
def partlyFilled : Report where
  summary := ⟨9, 9, 9⟩
  patterns := .object
    [("imports", .object [("default", .list [importing "B" "m", importing "A" "n"])]),
     ("usage", .object [("variables",
       .list [assigning "C" "A", assigning "D" "B", assigning "E" "D"])])]
  components := [.str "E", .str "B", .str "A"]

/-- Its stages for the library `m`, which binds `B`, then `D`, then `E`. -/
def partlyFilledStages : Stages where
  importMembers := [("default", .list [importing "B" "m", importing "A" "n"])]
  usageMembers := [("variables", .list [assigning "C" "A", assigning "D" "B", assigning "E" "D"])]
  advancedMembers := []
  imports := [("default", [importing "B" "m"])]
  imported := [.str "B"]
  spaces := []
  destructurings := []
  direct := [.str "B"]
  assignments := [assigning "C" "A", assigning "D" "B", assigning "E" "D"]
  bound := [.str "B", .str "D", .str "E"]
  assigned := [assigning "D" "B", assigning "E" "D"]
  renderings := []
  rooted := []
  rendered := []
  advanced := []
  attributes := []
  props := []
  candidates := [.str "E", .str "B"]
  components := [.str "B", .str "E"]
  importTotal := 1
  usageTotal := 2
  advancedTotal := 0

theorem partlyFilledStages_of : partlyFilledStages.Of partlyFilled (.str "m") where
  importMembers := rfl
  usageMembers := rfl
  advancedMembers := rfl
  imports := by cbv
  imported := by cbv
  spaces := rfl
  destructurings := rfl
  direct := rfl
  assignments := rfl
  bound := by
    have hroots : ∀ name ∈ ["A", "B", "D"], rootNames name = [name] := by
      simp only [List.forall_mem_cons]
      refine ⟨?_, ?_, ?_, List.forall_mem_nil _⟩ <;> cbv
    refine bind_of_eq_ok (followVariable_assigning (hroots "A" (by simp)) ..)
      (bind_of_eq_ok (followVariable_assigning (hroots "B" (by simp)) ..)
        (bind_of_eq_ok (followVariable_assigning (hroots "D" (by simp)) ..) ?_))
    cbv
  renderings := rfl
  rooted := rfl
  rendered := rfl
  advanced := rfl
  attributes := rfl
  props := rfl
  candidates := by cbv
  components := by cbv
  importTotal := rfl
  usageTotal := by cbv
  advancedTotal := rfl

theorem partlyFilled_thins_once :
    ∃ kept, partlyFilled.narrowTo (.str "m") = .ok kept ∧ kept.components = [.str "B", .str "E"] ∧
      kept.ThinnedFrom partlyFilled ∧ kept.narrowTo (.str "m") = .ok kept := by
  have hkept : partlyFilled.narrowTo (.str "m") = .ok partlyFilledStages.report :=
    narrowTo_eq_ok_iff.mpr ⟨partlyFilledStages, partlyFilledStages_of, rfl⟩
  exact ⟨partlyFilledStages.report, hkept, rfl, narrowTo_thins_once hkept⟩

end Report

end ComponentCensus
