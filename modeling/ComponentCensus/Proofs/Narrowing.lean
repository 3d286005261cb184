import ComponentCensus.Proofs.Entries
import ComponentCensus.Proofs.Steps
import ComponentCensus.Report.Findings
import ComponentCensus.Report.LibraryFilter
import Mathlib.Data.String.Basic

/-!
# The report of a narrowed census

A report is narrowed as a document: members are looked up by name, every access may fail, and the
names that a library binds are collected as values.  The report of a census is a document of one
fixed shape, so that hardly any of these accesses can fail.

`Census.narrowed` narrows the census itself, with lists and tables.  What a library keeps is then a
matter of filters and of one pass over the variables, and nothing of it can fail.

## Main results

* `narrow_report` : narrowing the report of a census gives the report of the narrowed census.  The
  one access that may fail is to the root of a rendered name, and it does when a name has none.

## Strategy

* Lists of names are lists of texts in the document, and the operations on values do on texts what
  those on names do (`Value.isAmong_map_str`, `Value.addTo_map_str`).
* Each loop of the document is a loop over the ledger that the bucket was made from
  (`boundByImports_eq`, `foldlM_followDestructuring`, `foldlM_followVariable`).
* The steps of narrowing are then gone through in order, each with the value that it gives.
-/

namespace ComponentCensus

open ComponentCensus.Text

namespace Value

theorem isAmong_map_str (name : String) (names : List String) :
    (Value.str name).isAmong (names.map .str) = decide (name ∈ names) := by
  induction names with
  | nil => rfl
  | cons other rest ih =>
      have hsame : same (.str other) (.str name) = decide (other = name) := rfl
      unfold isAmong at ih ⊢
      rw [List.map_cons, List.any_cons, ih, hsame]
      simp [eq_comm]

theorem addTo_map_str (names : List String) (name : String) :
    addTo (names.map .str) (.str name) = (addName names name).map .str := by
  unfold addTo addName
  rw [isAmong_map_str]
  by_cases hmem : name ∈ names <;> simp [hmem]

end Value

namespace Usage

/-! ## A census narrowed to one library -/

/-- The name that a property taken out of a namespace is bound to. -/
def Destructuring.boundName (taken : Destructuring) : String :=
  (taken.localName.filter (· ≠ "")).getD taken.property

namespace Findings

/-- The findings with the imports of one library only. -/
def importsOf (f : Findings) (library : String) : Findings :=
  { f with
    defaultImports := f.defaultImports.filter fun item => Report.matchesLibrary item.source library
    namedImports := f.namedImports.filter fun item => Report.matchesLibrary item.source library
    namespaceImports :=
      f.namespaceImports.filter fun item => Report.matchesLibrary item.source library
    aliasedImports :=
      f.aliasedImports.filter fun entry => Report.matchesLibrary entry.2.source library
    lazyImports := f.lazyImports.filter fun item => Report.matchesLibrary item.source library
    dynamicImports :=
      f.dynamicImports.filter fun item => Report.matchesLibrary item.source library }

/-- The names that named imports are renamed from. -/
def renamedNames (f : Findings) : List String :=
  f.aliasedImports.values.map (·.imported)

/-- The names that the imports bind, as the ledgers tell it: a named import that is renamed is known
under its other names only. -/
def importedNames (f : Findings) : List String :=
  (f.defaultImports.map (·.name) ++ f.namespaceImports.map (·.name) ++
    f.aliasedImports.values.map (·.localName) ++
    (f.namedImports.map (·.name)).filter fun name => name ∉ f.renamedNames).foldl addName []

/-- The names that are taken out of imported namespaces. -/
def takenNames (f : Findings) : List String :=
  (f.destructurings.filter fun taken =>
    taken.source ∈ f.namespaceImports.map (·.name)).map (·.boundName)

/-- The names that the imports bind, directly or by way of a namespace. -/
def directNames (f : Findings) : List String :=
  f.takenNames.foldl addName f.importedNames

end Findings

/-- The names bound and the variables kept after one variable more. -/
def follow (state : List String × Entries String Assignment) (entry : String × Assignment) :
    List String × Entries String Assignment :=
  if (Report.rootNames entry.2.reference).any fun name => name ∈ state.1 then
    (addName state.1 entry.1, state.2 ++ [entry])
  else
    state

/-- The names bound and the variables kept after all variables, in the order of their ledger. -/
def Findings.followed (f : Findings) (library : String) :
    List String × Entries String Assignment :=
  f.assignments.foldl follow ((f.importsOf library).directNames, [])

/-- Whether the root of a rendered name is among some names. -/
def hasRootIn (names : List String) (component : String) : Bool :=
  (Report.rootNames component).head?.any fun root => root ∈ names

/-- The renderings of names that lead back to a library. -/
def Findings.renderingsOf (f : Findings) (library : String) : Entries String Rendering :=
  f.renderings.filter fun entry => hasRootIn (f.followed library).1 entry.2.component

/-- The names under which a library is rendered. -/
def Findings.renderedNames (f : Findings) (library : String) : List String :=
  (f.renderingsOf library).values.map (·.component)

/-- The findings narrowed to one library. -/
def Findings.narrowed (f : Findings) (library : String) : Findings :=
  { f.importsOf library with
    renderings := f.renderingsOf library
    props := f.props.filter fun entry => entry.1 ∈ f.renderedNames library
    assignments := (f.followed library).2 }

/-- Whether a component is bound by a library, or is the last part of a name rendered from it. -/
def Findings.keepsComponent (f : Findings) (library name : String) : Bool :=
  decide (name ∈ (f.followed library).1) ||
    (f.renderedNames library).any fun component => endsWith component ("." ++ name)

/-- A census narrowed to one library. -/
def Census.narrowed (census : Census) (library : String) : Census :=
  { census with
    components := census.components.filter (census.findings.keepsComponent library)
    findings := census.findings.narrowed library }

/-! ## The parts of a report -/

section Parts

open Report

variable {α : Type} {view : α → Value} {library : String}

/-- The entries of a bucket that come from a library. -/
theorem ownedItems_map {source : α → String}
    (hsource : ∀ item, (view item).lookupD "source" (.str "") = .ok (.str (source item)))
    (items : List α) :
    ownedItems (.str library) (.list (items.map view)) =
      .ok ((items.filter fun item => matchesLibrary (source item) library).map view) := by
  have hitem : ∀ item ∈ items,
      isOwned (.str library) (view item) = .ok (matchesLibrary (source item) library) := by
    intro item _
    rw [isOwned, hsource]
    rfl
  exact filterM_map_ok hitem

/-- Adding a member of each item adds the names that it holds. -/
theorem addMembers_map {member : String} {name : α → String}
    (hmember : ∀ item, (view item).member member = .ok (.str (name item))) (items : List α)
    (names : List String) :
    addMembers member (names.map .str) (items.map view) =
      .ok (((items.map name).foldl addName names).map .str) := by
  rw [List.foldl_map]
  refine foldlM_map_ok (List.map Value.str) (fun names item _ => ?_) names
  rw [hmember]
  exact congrArg Except.ok (Value.addTo_map_str names (name item))

/-- The names that the imports of the buckets bind. -/
theorem boundByImports_eq {f : Findings} {bucket : String → List Value}
    (hdefault : bucket "default" = f.defaultImports.map ImportRecord.toValue)
    (hnamed : bucket "named" = f.namedImports.map ImportRecord.toValue)
    (hnamespace : bucket "namespace" = f.namespaceImports.map ImportRecord.toValue)
    (haliased : bucket "aliased" = f.aliasedImports.values.map AliasedImport.toValue) :
    boundByImports bucket = .ok (f.importedNames.map .str) := by
  have hname : ∀ item : ImportRecord, item.toValue.member "name" = .ok (.str item.name) :=
    fun _ => rfl
  have himported : ∀ item : AliasedImport,
      item.toValue.member "imported" = .ok (.str item.imported) := fun _ => rfl
  have hlocal : ∀ item : AliasedImport,
      item.toValue.member "local" = .ok (.str item.localName) := fun _ => rfl
  -- a named import is left out when it is among those that are renamed
  have hplain : ∀ (names : List String), ∀ item ∈ f.namedImports,
      (do
        let name ← (← item.toValue.member "name").asMember
        return if name.isAmong ((f.renamedNames.foldl addName []).map .str)
          then names.map .str else Value.addTo (names.map .str) name : Except Fault (List Value)) =
      .ok ((if item.name ∉ f.renamedNames then addName names item.name else names).map .str) := by
    intro names item _
    rw [hname]
    show Except.ok (if (Value.str item.name).isAmong _ then _ else _) = _
    rw [Value.isAmong_map_str, Value.addTo_map_str]
    by_cases hrenamed : item.name ∈ f.renamedNames <;> simp [mem_foldl_addName, hrenamed]
  unfold boundByImports
  rw [hdefault, hnamed, hnamespace, haliased]
  have hstart : ([] : List Value) = ([] : List String).map .str := rfl
  rw [hstart, addMembers_map hname]
  simp only [bind, Except.bind]
  rw [addMembers_map hname]
  simp only
  rw [addMembers_map himported]
  simp only
  rw [addMembers_map hlocal]
  simp only
  refine (foldlM_map_ok (List.map Value.str) hplain _).trans ?_
  simp only [Findings.importedNames, List.foldl_append, List.foldl_filter, List.foldl_map,
    decide_eq_true_eq]

/-- One destructuring adds the name that it binds, if it takes from one of the namespaces. -/
theorem followDestructuring_document (spaces names : List String) (taken : Destructuring) :
    followDestructuring (spaces.map .str) (names.map .str) (Findings.destructuringValue taken) =
      .ok ((if taken.source ∈ spaces then addName names taken.boundName else names).map .str) := by
  obtain ⟨property, source, line, localName⟩ := taken
  unfold followDestructuring
  show (if (Value.str source).isAmong (spaces.map .str) then _ else _) = _
  rw [Value.isAmong_map_str]
  by_cases hmem : source ∈ spaces
  · rw [if_pos (decide_eq_true hmem), if_pos hmem, ← Value.addTo_map_str]
    cases localName with
    | none => rfl
    | some name =>
        -- an empty local name counts as none
        by_cases hempty : name = ""
        · subst hempty
          rfl
        · have htruthy : (Value.str name).isTruthy = true := by simp [Value.isTruthy, hempty]
          have hbound : Destructuring.boundName ⟨property, source, line, some name⟩ = name := by
            simp [Destructuring.boundName, Option.filter, hempty]
          show (if (Value.str name).isTruthy then _ else _) = _
          rw [if_pos htruthy, hbound]
          rfl
  · rw [if_neg (by simpa using hmem), if_neg hmem]
    rfl

/-- Following the destructurings adds what they take out of the namespaces. -/
theorem foldlM_followDestructuring (f : Findings) (names : List String) :
    (f.destructurings.map Findings.destructuringValue).foldlM
        (followDestructuring (((f.namespaceImports.map (·.name)).foldl addName []).map .str))
        (names.map .str) =
      .ok ((f.takenNames.foldl addName names).map .str) := by
  refine (foldlM_map_ok (List.map Value.str)
    (fun names taken _ => followDestructuring_document _ names taken) names).trans ?_
  simp only [mem_foldl_addName, List.not_mem_nil, false_or]
  simp only [Findings.takenNames, List.foldl_map, List.foldl_filter, decide_eq_true_eq]

/-- The names bound and the variables kept, as a report holds them. -/
def followedValues (state : List String × Entries String Assignment) : List Value × List Value :=
  (state.1.map .str, state.2.map Findings.assignmentValue)

/-- Following the variables one after the other. -/
theorem foldlM_followVariable (assignments : Entries String Assignment)
    (state : List String × Entries String Assignment) :
    (assignments.map Findings.assignmentValue).foldlM followVariable (followedValues state) =
      .ok (followedValues (assignments.foldl follow state)) := by
  refine foldlM_map_ok followedValues (fun state entry _ => ?_) state
  obtain ⟨names, kept⟩ := state
  -- a variable is followed for the same roots in both forms
  have hany : ((rootNames entry.2.reference).any fun name =>
      (Value.str name).isAmong (names.map .str)) =
        (rootNames entry.2.reference).any fun name => name ∈ names := by
    simp only [Value.isAmong_map_str]
  show (if ((rootNames entry.2.reference).any fun name => (Value.str name).isAmong _) = true then
    _ else _) = _
  rw [hany, follow]
  split
  · show Except.ok (Value.addTo (names.map .str) (.str entry.1), _) = _
    rw [Value.addTo_map_str]
    simp [followedValues]
  · rfl

/-- The name of a rendering and its root, when it has one. -/
theorem renderedName_toValue (item : Rendering) :
    renderedName item.toValue =
      match rootNames item.component with
      | root :: _ => .ok (item.component, root)
      | [] => .error (.missingItem "list index out of range") := rfl

/-- A rendering is kept when its root is bound; without a root the filter fails. -/
theorem keepsRendering_toValue (names : List String) (item : Rendering) :
    (do return (Value.str (← renderedName item.toValue).2).isAmong (names.map .str) :
      Except Fault Bool) =
      if rootNames item.component ≠ [] then .ok (hasRootIn names item.component)
      else .error (.missingItem "list index out of range") := by
  rw [renderedName_toValue, hasRootIn]
  cases rootNames item.component with
  | nil => rfl
  | cons root rest =>
      show Except.ok ((Value.str root).isAmong (names.map .str)) = _
      rw [Value.isAmong_map_str]
      simp

theorem isKeptComponent_str (names rendered : List String) (name : String) :
    isKeptComponent (names.map .str) rendered (.str name) =
      .ok (decide (name ∈ names) ||
        rendered.any fun component => endsWith component ("." ++ name)) := by
  unfold isKeptComponent
  show (if (Value.str name).isAmong (names.map .str) then _ else _) = _
  rw [Value.isAmong_map_str]
  by_cases hmem : name ∈ names
  · simp [hmem, pure, Except.pure]
  · cases rendered <;> simp [hmem, pure, Except.pure]

theorem sortValues_map_str (names : List String) :
    sortValues (names.map .str) = .ok ((sortedNames names).map .str) := by
  unfold sortValues
  simp only [List.filterMap_map, Function.comp_def, List.filterMap_some, List.length_map, if_true]
  rfl

theorem pairwise_sortedNames (names : List String) : (sortedNames names).Pairwise (· ≤ ·) := by
  refine (List.pairwise_mergeSort ?_ ?_ names).imp fun hle => of_decide_eq_true hle
  · intro a b c hab hbc
    exact decide_eq_true (le_trans (of_decide_eq_true hab) (of_decide_eq_true hbc))
  · intro a b
    simpa using le_total a b

/-- Sorting what is kept of sorted names is sorting what is kept. -/
theorem sortedNames_filter_sortedNames (keep : String → Bool) (names : List String) :
    sortedNames ((sortedNames names).filter keep) = sortedNames (names.filter keep) := by
  have hperm : (sortedNames ((sortedNames names).filter keep)).Perm
      (sortedNames (names.filter keep)) :=
    (List.mergeSort_perm _ _).trans
      (((List.mergeSort_perm _ _).filter keep).trans (List.mergeSort_perm _ _).symm)
  exact hperm.eq_of_pairwise (fun _ _ _ _ hab hba => le_antisymm hab hba)
    (pairwise_sortedNames _) (pairwise_sortedNames _)

/-- The members of a group of buckets. -/
def groupMembers (buckets : List (String × List Value)) : List (String × Value) :=
  buckets.map fun bucket => (bucket.1, .list bucket.2)

theorem values_filter {α : Type} (keep : α → Bool) (table : Entries String α) :
    Entries.values (table.filter fun entry => keep entry.2) = table.values.filter keep := by
  unfold Entries.values
  rw [List.filter_map]
  rfl

/-- The imports of a library, bucket by bucket. -/
theorem mapM_importBuckets (f : Findings) :
    (groupMembers f.importBuckets).mapM (fun bucket => do
        return (bucket.1, ← ownedItems (.str library) bucket.2) :
          String × Value → Except Fault (String × List Value)) =
      .ok (f.importsOf library).importBuckets := by
  have himport : ∀ items : List ImportRecord,
      ownedItems (.str library) (.list (items.map ImportRecord.toValue)) =
        .ok ((items.filter fun item => matchesLibrary item.source library).map
          ImportRecord.toValue) := ownedItems_map fun _ => rfl
  have haliased : ∀ items : List AliasedImport,
      ownedItems (.str library) (.list (items.map AliasedImport.toValue)) =
        .ok ((items.filter fun item => matchesLibrary item.source library).map
          AliasedImport.toValue) := ownedItems_map fun _ => rfl
  -- the entries of the filtered table are the filtered entries
  have hvalues : (f.importsOf library).aliasedImports.values =
      f.aliasedImports.values.filter fun item => matchesLibrary item.source library :=
    values_filter (fun item : AliasedImport => matchesLibrary item.source library) _
  unfold groupMembers Findings.importBuckets
  simp only [List.map_cons, List.map_nil, List.mapM_cons, List.mapM_nil, himport, haliased, hvalues]
  rfl

/-- The advanced usage, of which only the loaded modules have a source. -/
theorem mapM_advancedBuckets (f : Findings) :
    (groupMembers f.advancedBuckets).mapM (fun bucket => do
        if bucket.1 = "lazy" || bucket.1 = "dynamic" then
          return (bucket.1, Value.list (← ownedItems (.str library) bucket.2))
        else
          return bucket : String × Value → Except Fault (String × Value)) =
      .ok (groupMembers (f.importsOf library).advancedBuckets) := by
  have hsource : ∀ items : List SourceImport,
      ownedItems (.str library) (.list (items.map Findings.sourceValue)) =
        .ok ((items.filter fun item => matchesLibrary item.source library).map
          Findings.sourceValue) := ownedItems_map fun _ => rfl
  unfold groupMembers Findings.advancedBuckets
  simp only [List.map_cons, List.map_nil, List.mapM_cons, List.mapM_nil, hsource]
  rfl

theorem totalSize_groupMembers (buckets : List (String × List Value)) :
    totalSize (groupMembers buckets) =
      .ok (buckets.foldl (fun total bucket => total + bucket.2.length) 0) :=
  foldlM_map_ok id (fun _ _ _ => rfl) 0

end Parts

/-! ## Where the parts stand in the document -/

section Lookup

variable (f : Findings)

theorem lookupD_imports : f.toValue.lookupD "imports" (.object []) =
    .ok (.object (groupMembers f.importBuckets)) := rfl

theorem lookupD_usage : f.toValue.lookupD "usage" (.object []) =
    .ok (.object (groupMembers f.usageBuckets)) := rfl

theorem lookupD_advanced : f.toValue.lookupD "advanced" (.object []) =
    .ok (.object (groupMembers f.advancedBuckets)) := rfl

theorem lookupD_props : f.toValue.lookupD "props" (.list []) =
    .ok (.list (f.props.map Findings.propsValue)) := rfl

theorem lookupD_jsx : (Value.object (groupMembers f.usageBuckets)).lookupD "jsx" (.list []) =
    .ok (.list (f.renderings.values.map Rendering.toValue)) := rfl

theorem lookupD_variables :
    (Value.object (groupMembers f.usageBuckets)).lookupD "variables" (.list []) =
      .ok (.list (f.assignments.map Findings.assignmentValue)) := rfl

theorem lookupD_destructuring :
    (Value.object (groupMembers f.usageBuckets)).lookupD "destructuring" (.list []) =
      .ok (.list (f.destructurings.map Findings.destructuringValue)) := rfl

end Lookup

section Stages

variable {f : Findings} {library : String}

theorem filterM_renderings
    (hroots : ∀ item ∈ f.renderings.values, Report.rootNames item.component ≠ []) :
    (f.renderings.values.map Rendering.toValue).filterM (fun item => do
        return (Value.str (← Report.renderedName item).2).isAmong
          ((f.followed library).1.map .str)) =
      .ok ((f.renderingsOf library).values.map Rendering.toValue) := by
  have hvalues := values_filter
    (fun item : Rendering => hasRootIn (f.followed library).1 item.component) f.renderings
  rw [Findings.renderingsOf, hvalues]
  refine filterM_map_ok fun item hitem => ?_
  rw [keepsRendering_toValue, if_pos (hroots item hitem)]

theorem filterM_renderings_error (names : List String)
    (hroots : ¬ ∀ item ∈ f.renderings.values, Report.rootNames item.component ≠ []) :
    (f.renderings.values.map Rendering.toValue).filterM (fun item => do
        return (Value.str (← Report.renderedName item).2).isAmong (names.map .str)) =
      .error (.missingItem "list index out of range") := by
  refine filterM_map_error (fun item _ => keepsRendering_toValue names item) ?_
  simpa using hroots

theorem mapM_renderedName
    (hroots : ∀ item ∈ f.renderings.values, Report.rootNames item.component ≠ []) :
    ((f.renderingsOf library).values.map Rendering.toValue).mapM (fun item => do
        return (← Report.renderedName item).1 : Value → Except Fault String) =
      .ok (f.renderedNames library) := by
  refine mapM_map_ok fun item hitem => ?_
  have hmem : item ∈ f.renderings.values := by
    obtain ⟨entry, hentry, rfl⟩ := List.mem_map.mp hitem
    exact List.mem_map_of_mem (List.mem_filter.mp hentry).1
  obtain ⟨root, rest, hroot⟩ := List.exists_cons_of_ne_nil (hroots item hmem)
  rw [renderedName_toValue, hroot]
  rfl

theorem filterM_props (rendered : List String) :
    (f.props.map Findings.propsValue).filterM (fun item => do
        return (← (← item.member "component").asMember).isAmong (rendered.map .str)) =
      .ok ((f.props.filter fun entry => entry.1 ∈ rendered).map Findings.propsValue) := by
  refine filterM_map_ok fun entry _ => ?_
  show Except.ok ((Value.str entry.1).isAmong (rendered.map .str)) = _
  rw [Value.isAmong_map_str]

theorem filterM_components (names : List String) :
    ((sortedNames names).map Value.str).filterM
        (Report.isKeptComponent ((f.followed library).1.map .str) (f.renderedNames library)) =
      .ok (((sortedNames names).filter (f.keepsComponent library)).map .str) :=
  filterM_map_ok fun name _ => isKeptComponent_str _ _ name

/-- All entries of the narrowed findings are counted, bucket by bucket. -/
theorem total_narrowed (f : Findings) (library : String) :
    (f.importsOf library).importBuckets.foldl (fun total bucket => total + bucket.2.length) 0 +
        (f.narrowed library).usageBuckets.foldl (fun total bucket => total + bucket.2.length) 0 +
        (f.importsOf library).advancedBuckets.foldl
          (fun total bucket => total + bucket.2.length) 0 +
        ((f.props.filter fun entry => entry.1 ∈ f.renderedNames library).map
          Findings.propsValue).length =
      (f.narrowed library).total := by
  simp only [Findings.importBuckets, Findings.usageBuckets, Findings.advancedBuckets,
    Findings.total, Findings.narrowed, List.foldl_cons, List.foldl_nil, List.length_map,
    Entries.values]
  omega

end Stages

/-- Narrowing the report of a census to a library gives the report of the narrowed census, unless
something is rendered under a name that has no root. -/
theorem narrow_report (census : Census) (library : String) :
    census.report.narrow library =
      if ∀ item ∈ census.findings.renderings.values, Report.rootNames item.component ≠ [] then
        .ok (census.narrowed library).report
      else .error (.missingItem "list index out of range") := by
  obtain ⟨components, namespaces, mappings, f⟩ := census
  -- the names that the imports bind
  have himports := @mapM_importBuckets library f
  have hbound : Report.boundByImports (fun name =>
      (Entries.get? name (f.importsOf library).importBuckets).getD []) =
        .ok ((f.importsOf library).importedNames.map .str) :=
    boundByImports_eq rfl rfl rfl rfl
  have hspaces : Report.addMembers "name" [] ((Entries.get? "namespace"
      (f.importsOf library).importBuckets).getD []) =
        .ok ((((f.importsOf library).namespaceImports.map (·.name)).foldl addName []).map .str) :=
    addMembers_map (fun _ => rfl) (f.importsOf library).namespaceImports []
  -- the names that destructurings and variables bind
  have htaken : (f.destructurings.map Findings.destructuringValue).foldlM
      (Report.followDestructuring
        ((((f.importsOf library).namespaceImports.map (·.name)).foldl addName []).map .str))
      ((f.importsOf library).importedNames.map .str) =
        .ok ((f.importsOf library).directNames.map .str) :=
    foldlM_followDestructuring (f.importsOf library) (f.importsOf library).importedNames
  have hvariables : (f.assignments.map Findings.assignmentValue).foldlM Report.followVariable
      ((f.importsOf library).directNames.map .str, []) =
        .ok ((f.followed library).1.map .str,
          (f.followed library).2.map Findings.assignmentValue) :=
    foldlM_followVariable f.assignments ((f.importsOf library).directNames, [])
  unfold Report.narrow Report.narrowTo
  refine bind_of_eq_ok (lookupD_imports f) (bind_of_eq_ok (lookupD_usage f)
    (bind_of_eq_ok (lookupD_advanced f) ?_))
  refine bind_of_eq_ok rfl (bind_of_eq_ok himports (bind_of_eq_ok hbound
    (bind_of_eq_ok hspaces ?_)))
  refine bind_of_eq_ok (lookupD_destructuring f) (bind_of_eq_ok rfl (bind_of_eq_ok htaken ?_))
  refine bind_of_eq_ok (lookupD_variables f) (bind_of_eq_ok rfl (bind_of_eq_ok hvariables ?_))
  refine bind_of_eq_ok (lookupD_jsx f) (bind_of_eq_ok rfl ?_)
  -- from here on the names that are rendered are looked at, and they need a root
  by_cases hroots : ∀ item ∈ f.renderings.values, Report.rootNames item.component ≠ []
  · rw [if_pos hroots]
    have hsorted : Report.sortValues (((sortedNames components).filter
        (f.keepsComponent library)).map .str) =
          .ok ((sortedNames (components.filter (f.keepsComponent library))).map .str) := by
      rw [sortValues_map_str, sortedNames_filter_sortedNames]
    refine bind_of_eq_ok (filterM_renderings hroots) (bind_of_eq_ok (mapM_renderedName hroots) ?_)
    refine bind_of_eq_ok rfl (bind_of_eq_ok rfl (bind_of_eq_ok (mapM_advancedBuckets f) ?_))
    refine bind_of_eq_ok (lookupD_props f) (bind_of_eq_ok rfl (bind_of_eq_ok (filterM_props _) ?_))
    refine bind_of_eq_ok (filterM_components components) (bind_of_eq_ok hsorted ?_)
    refine bind_of_eq_ok (totalSize_groupMembers (f.importsOf library).importBuckets)
      (bind_of_eq_ok (totalSize_groupMembers (f.narrowed library).usageBuckets)
        (bind_of_eq_ok (totalSize_groupMembers (f.importsOf library).advancedBuckets) ?_))
    -- what is left is to count the entries of the lists
    have hdefault : ((Entries.get? "default" (f.importsOf library).importBuckets).getD []).length =
        (f.importsOf library).defaultImports.length := List.length_map _
    have hnamed : ((Entries.get? "named" (f.importsOf library).importBuckets).getD []).length =
        (f.importsOf library).namedImports.length := List.length_map _
    have hnamespace : ((Entries.get? "namespace"
        (f.importsOf library).importBuckets).getD []).length =
          (f.importsOf library).namespaceImports.length := List.length_map _
    have hcomponents : ((sortedNames (components.filter (f.keepsComponent library))).map
        Value.str).length = (components.filter (f.keepsComponent library)).length := by
      rw [List.length_map]
      exact List.length_mergeSort _
    simp only [total_narrowed, hdefault, hnamed, hnamespace, hcomponents]
    rfl
  · rw [if_neg hroots]
    exact bind_of_eq_error (filterM_renderings_error _ hroots)

end Usage

end ComponentCensus
