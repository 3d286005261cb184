import ComponentCensus.Proofs.Edits

/-!
# A census only grows

`Within census census'` says that the second census knows at least the names of the first and has
found at least as much: its lists are no shorter, its tables have at least the same keys, and no
component has fewer renderings.

Entries are not compared.  A record may say something else in the larger census, since a name that
is known there may have another meaning, but it is not missing.

## Main results

* `Steps.within` : every run of steps makes a census grow.

## Strategy

* The relation is kept by every change that is made on both sides (`Within.record` and the lemmas
  beside it), also where only the second side meets a condition (`Within.ite`).
* A change that only the second side makes is a step, and a step makes a census grow
  (`Edit.within`, one case for each kind of edit).
-/

namespace ComponentCensus.Usage

open ComponentCensus.Syntax ComponentCensus.Text

/-! ## The relation -/

/-- How often a name is rendered. -/
def Findings.renderingCount (f : Findings) (name : String) : Nat :=
  (f.renderings.get? name).elim 0 (·.count)

/-- The second findings are at least as many: lists are compared by length, tables by their keys,
and renderings also by their counts. -/
structure FindingsWithin (f f' : Findings) : Prop where
  defaultImports : f.defaultImports.length ≤ f'.defaultImports.length
  namedImports : f.namedImports.length ≤ f'.namedImports.length
  namespaceImports : f.namespaceImports.length ≤ f'.namespaceImports.length
  destructurings : f.destructurings.length ≤ f'.destructurings.length
  choices : f.choices.length ≤ f'.choices.length
  arrays : f.arrays.length ≤ f'.arrays.length
  objects : f.objects.length ≤ f'.objects.length
  lookups : f.lookups.length ≤ f'.lookups.length
  contexts : f.contexts.length ≤ f'.contexts.length
  lazyImports : f.lazyImports.length ≤ f'.lazyImports.length
  dynamicImports : f.dynamicImports.length ≤ f'.dynamicImports.length
  wrappings : f.wrappings.length ≤ f'.wrappings.length
  memos : f.memos.length ≤ f'.memos.length
  forwardedRefs : f.forwardedRefs.length ≤ f'.forwardedRefs.length
  portals : f.portals.length ≤ f'.portals.length
  aliasedImports : f.aliasedImports.keys ⊆ f'.aliasedImports.keys
  renderings : f.renderings.keys ⊆ f'.renderings.keys
  props : f.props.keys ⊆ f'.props.keys
  assignments : f.assignments.keys ⊆ f'.assignments.keys
  counts : ∀ name, f.renderingCount name ≤ f'.renderingCount name

/-- The second census knows at least the names of the first and has found at least as much. -/
structure Within (census census' : Census) : Prop where
  components : census.components ⊆ census'.components
  namespaces : census.namespaces ⊆ census'.namespaces
  mappings : census.mappings ⊆ census'.mappings
  findings : FindingsWithin census.findings census'.findings

variable {f f' f'' : Findings} {census census' census'' : Census}

theorem FindingsWithin.refl (f : Findings) : FindingsWithin f f := by
  constructor <;> simp

theorem FindingsWithin.trans (hfirst : FindingsWithin f f') (hsecond : FindingsWithin f' f'') :
    FindingsWithin f f'' where
  defaultImports := hfirst.defaultImports.trans hsecond.defaultImports
  namedImports := hfirst.namedImports.trans hsecond.namedImports
  namespaceImports := hfirst.namespaceImports.trans hsecond.namespaceImports
  destructurings := hfirst.destructurings.trans hsecond.destructurings
  choices := hfirst.choices.trans hsecond.choices
  arrays := hfirst.arrays.trans hsecond.arrays
  objects := hfirst.objects.trans hsecond.objects
  lookups := hfirst.lookups.trans hsecond.lookups
  contexts := hfirst.contexts.trans hsecond.contexts
  lazyImports := hfirst.lazyImports.trans hsecond.lazyImports
  dynamicImports := hfirst.dynamicImports.trans hsecond.dynamicImports
  wrappings := hfirst.wrappings.trans hsecond.wrappings
  memos := hfirst.memos.trans hsecond.memos
  forwardedRefs := hfirst.forwardedRefs.trans hsecond.forwardedRefs
  portals := hfirst.portals.trans hsecond.portals
  aliasedImports := List.Subset.trans hfirst.aliasedImports hsecond.aliasedImports
  renderings := List.Subset.trans hfirst.renderings hsecond.renderings
  props := List.Subset.trans hfirst.props hsecond.props
  assignments := List.Subset.trans hfirst.assignments hsecond.assignments
  counts := fun name => (hfirst.counts name).trans (hsecond.counts name)

theorem subset_addName (names : List String) (name : String) : names ⊆ addName names name :=
  fun _ hother => mem_addName.mpr (Or.inl hother)

theorem addName_subset {names names' : List String} (hnames : names ⊆ names') (name : String) :
    addName names name ⊆ addName names' name := by
  intro other hother
  rcases mem_addName.mp hother with hother | rfl
  · exact mem_addName.mpr (Or.inl (hnames hother))
  · exact mem_addName.mpr (Or.inr rfl)

theorem keys_subset_put {α : Type} (table : Entries String α) (key : String) (value : α) :
    table.keys ⊆ (table.put key value).keys :=
  fun _ hother => Entries.mem_keys_put.mpr (Or.inl hother)

theorem keys_put_subset {α : Type} {table table' : Entries String α}
    (hkeys : table.keys ⊆ table'.keys) (key : String) (value value' : α) :
    (table.put key value).keys ⊆ (table'.put key value').keys := by
  intro other hother
  rcases Entries.mem_keys_put.mp hother with hother | rfl
  · exact Entries.mem_keys_put.mpr (Or.inl (hkeys hother))
  · exact Entries.mem_keys_put.mpr (Or.inr rfl)

/-- One item more on both sides. -/
theorem length_concat_le {α : Type} {items items' : List α} (hitems : items.length ≤ items'.length)
    (item item' : α) : (items ++ [item]).length ≤ (items' ++ [item']).length := by
  simpa using hitems

/-- A rendering more of a name is counted, and no other count changes. -/
theorem renderingCount_addRendering (census : Census) (name other : String)
    (occurrence : Occurrence) (summary : PropsSummary) :
    (census.addRendering name occurrence summary).findings.renderingCount other =
      census.findings.renderingCount other + if other = name then 1 else 0 := by
  unfold Findings.renderingCount
  simp only [Census.addRendering, Census.record_findings]
  by_cases hname : other = name
  · subst hname
    rw [Entries.get?_put_self]
    cases census.findings.renderings.get? other <;> simp [nextRendering]
  · rw [Entries.get?_put_other _ _ hname]
    simp [hname]

namespace Within

theorem refl (census : Census) : Within census census :=
  ⟨List.Subset.refl _, List.Subset.refl _, List.Subset.refl _, FindingsWithin.refl _⟩

theorem trans (hfirst : Within census census') (hsecond : Within census' census'') :
    Within census census'' :=
  ⟨List.Subset.trans hfirst.components hsecond.components,
    List.Subset.trans hfirst.namespaces hsecond.namespaces,
    List.Subset.trans hfirst.mappings hsecond.mappings, hfirst.findings.trans hsecond.findings⟩

/-! ## The same change on both sides -/

section Both

variable (hwithin : Within census census')

include hwithin

theorem addComponent (name : String) :
    Within (census.addComponent name) (census'.addComponent name) :=
  { hwithin with components := addName_subset hwithin.components name }

theorem addComponents (names : List String) :
    Within (census.addComponents names) (census'.addComponents names) := by
  induction names generalizing census census' with
  | nil => exact hwithin
  | cons name rest ih => exact ih (hwithin.addComponent name)

theorem addNamespace (name : String) :
    Within (census.addNamespace name) (census'.addNamespace name) :=
  { hwithin with namespaces := addName_subset hwithin.namespaces name }

theorem addMapping (holder : Option String) :
    Within (census.addMapping holder) (census'.addMapping holder) := by
  cases holder with
  | none => exact hwithin
  | some name => exact { hwithin with mappings := addName_subset hwithin.mappings name }

theorem record {write write' : Findings → Findings}
    (hwrite : FindingsWithin (write census.findings) (write' census'.findings)) :
    Within (census.record write) (census'.record write') :=
  { hwithin with findings := hwrite }

theorem addRendering (name : String) (occurrence occurrence' : Occurrence)
    (summary summary' : PropsSummary) :
    Within (census.addRendering name occurrence summary)
      (census'.addRendering name occurrence' summary') :=
  hwithin.record
    { hwithin.findings with
      renderings := keys_put_subset hwithin.findings.renderings _ _ _
      props := keys_put_subset hwithin.findings.props _ _ _
      counts := fun other => by
        show (census.addRendering name occurrence summary).findings.renderingCount other ≤
          (census'.addRendering name occurrence' summary').findings.renderingCount other
        rw [renderingCount_addRendering, renderingCount_addRendering]
        exact Nat.add_le_add_right (hwithin.findings.counts other) _ }

end Both

/-- A condition that the second census meets whenever the first does keeps the relation, as long as
meeting it only makes a census grow. -/
theorem ite {yes yes' no no' : Census} {met met' : Prop} [Decidable met] [Decidable met']
    (hmet : met → met') (hyes : Within yes yes') (hno : Within no no') (hgrows : Within no' yes') :
    Within (if met then yes else no) (if met' then yes' else no') := by
  by_cases hfirst : met
  · rw [if_pos hfirst, if_pos (hmet hfirst)]
    exact hyes
  · rw [if_neg hfirst]
    split
    · exact hno.trans hgrows
    · exact hno

/-- A fold keeps the relation when every step does. -/
theorem foldl {α : Type} {change change' : Census → α → Census}
    (hchange : ∀ {census census'} (item : α), Within census census' →
      Within (change census item) (change' census' item)) (items : List α)
    (hwithin : Within census census') :
    Within (items.foldl change census) (items.foldl change' census') := by
  induction items generalizing census census' with
  | nil => exact hwithin
  | cons item rest ih => exact ih (hchange item hwithin)

end Within

/-! ## A census only grows -/

theorem Edit.within {next : Census} (hedit : Edit census next) : Within census next := by
  have hcensus := Within.refl census
  have hfindings := FindingsWithin.refl census.findings
  cases hedit with
  | bindDefault source line name =>
      exact
        { hcensus with
          components := subset_addName _ name
          findings := { hfindings with defaultImports := by simp [Census.bindDefault] } }
  | bindNamespace source line name =>
      exact
        { hcensus with
          namespaces := subset_addName _ name
          findings := { hfindings with namespaceImports := by simp [Census.bindNamespace] } }
  | bindNamed source line imported localName =>
      unfold Census.bindNamed
      dsimp only
      split
      · exact
          { hcensus with
            components := subset_addName _ localName
            findings := { hfindings with namedImports := by simp } }
      · exact
          { hcensus with
            components := subset_addName _ localName
            findings :=
              { hfindings with
                namedImports := by simp
                aliasedImports := keys_subset_put _ _ _ } }
  | assign variableName assignment =>
      exact
        { hcensus with
          components := subset_addName _ variableName
          findings := { hfindings with assignments := keys_subset_put _ _ _ } }
  | aliasNamespace => exact { hcensus with namespaces := subset_addName _ _ }
  | noteProperty line binding hspace =>
      exact
        { hcensus with
          components := List.Subset.trans (subset_addName _ _) (subset_addName _ _)
          findings := { hfindings with destructurings := by simp [Census.noteProperty] } }
  | noteContext line context bindings =>
      rw [Census.noteContext, Census.addComponents_eq]
      exact
        { hcensus with
          components := fun _ hother => mem_foldl_addName.mpr (Or.inl hother)
          findings := { hfindings with contexts := by simp } }
  | array array holder hlisted =>
      rw [Census.record_addMapping]
      exact
        { components := by simp
          namespaces := by simp
          mappings := fun name hname => by simp [hname]
          findings := by simpa using { hfindings with arrays := by simp } }
  | object object hnonempty hlisted =>
      rw [Census.record_addMapping]
      exact
        { components := by simp
          namespaces := by simp
          mappings := fun name hname => by simp [hname]
          findings := by simpa using { hfindings with objects := by simp } }
  | lookup => exact { hcensus with findings := { hfindings with lookups := by simp } }
  | choice => exact { hcensus with findings := { hfindings with choices := by simp } }
  | lazyImport => exact { hcensus with findings := { hfindings with lazyImports := by simp } }
  | dynamicImport => exact { hcensus with findings := { hfindings with dynamicImports := by simp } }
  | wrapping => exact { hcensus with findings := { hfindings with wrappings := by simp } }
  | memo => exact { hcensus with findings := { hfindings with memos := by simp } }
  | forwardedRef => exact { hcensus with findings := { hfindings with forwardedRefs := by simp } }
  | portal => exact { hcensus with findings := { hfindings with portals := by simp } }
  | promote name => exact { hcensus with components := subset_addName _ name }

theorem within_addRendering (census : Census) (name : String) (occurrence : Occurrence)
    (summary : PropsSummary) : Within census (census.addRendering name occurrence summary) :=
  { Within.refl census with
    findings :=
      { FindingsWithin.refl census.findings with
        renderings := keys_subset_put _ _ _
        props := keys_subset_put _ _ _
        counts := fun other => by
          rw [renderingCount_addRendering]
          exact Nat.le_add_right .. } }

theorem Step.within {next : Census} (hstep : Step census next) : Within census next := by
  cases hstep with
  | edit hedit => exact hedit.within
  | render name opening hrenders => exact within_addRendering ..

theorem Steps.within {next : Census} (hsteps : Steps census next) : Within census next := by
  induction hsteps with
  | refl => exact Within.refl _
  | tail _ hlast ih => exact ih.trans hlast.within

end ComponentCensus.Usage
