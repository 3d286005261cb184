import ComponentCensus.Proofs.Entries
import ComponentCensus.Proofs.Traversal
import Mathlib.Logic.Relation

/-!
# What one visit can do to a census

The functions that note a node are a dozen, and each decides in its own way whether there is
something to write down.  What they write is of few kinds.  `Edit` lists these kinds, each with
what is known to hold when it is made; the writing of a rendering is kept apart in `Step`, since
only elements are rendered.

`Reachable` collects the censuses that any sequence of visits leads to.  An invariant is settled by
one case for each kind of edit and never looks at a syntax tree.

## Main results

* `Progress.visitSite_steps` : a visit to a site is a run of steps.
* `Progress.visitSite_edits` : it is a run of edits alone when the site is no tag.
* `Reachable.induction_on_steps` : what holds of the empty census and is kept by every step holds
  of all reachable ones.

## Strategy

* Each note is unfolded once, here, and shown to be a run of edits.  The conditions that it has
  checked at that point are what the edit carries along.
* Folds over bindings, clauses and arguments are runs of the runs of their steps (`edits_foldl`),
  where a condition on the census may be kept up along the fold.
-/

namespace ComponentCensus.Usage

open ComponentCensus.Syntax

namespace Census

/-! ## The parts of a changed census -/

section Parts

variable (census : Census) (name : String)

@[simp] theorem record_components (write : Findings → Findings) :
    (census.record write).components = census.components := rfl

@[simp] theorem record_namespaces (write : Findings → Findings) :
    (census.record write).namespaces = census.namespaces := rfl

@[simp] theorem record_mappings (write : Findings → Findings) :
    (census.record write).mappings = census.mappings := rfl

@[simp] theorem record_findings (write : Findings → Findings) :
    (census.record write).findings = write census.findings := rfl

@[simp] theorem addComponent_components :
    (census.addComponent name).components = addName census.components name := rfl

@[simp] theorem addComponent_namespaces :
    (census.addComponent name).namespaces = census.namespaces := rfl

@[simp] theorem addComponent_mappings :
    (census.addComponent name).mappings = census.mappings := rfl

@[simp] theorem addComponent_findings :
    (census.addComponent name).findings = census.findings := rfl

@[simp] theorem addNamespace_components :
    (census.addNamespace name).components = census.components := rfl

@[simp] theorem addNamespace_namespaces :
    (census.addNamespace name).namespaces = addName census.namespaces name := rfl

@[simp] theorem addNamespace_mappings :
    (census.addNamespace name).mappings = census.mappings := rfl

@[simp] theorem addNamespace_findings :
    (census.addNamespace name).findings = census.findings := rfl

@[simp] theorem addMapping_components (holder : Option String) :
    (census.addMapping holder).components = census.components := by
  cases holder <;> rfl

@[simp] theorem addMapping_namespaces (holder : Option String) :
    (census.addMapping holder).namespaces = census.namespaces := by
  cases holder <;> rfl

@[simp] theorem addMapping_findings (holder : Option String) :
    (census.addMapping holder).findings = census.findings := by
  cases holder <;> rfl

@[simp] theorem mem_addMapping_mappings {holder : Option String} :
    name ∈ (census.addMapping holder).mappings ↔ name ∈ census.mappings ∨ holder = some name := by
  cases holder with
  | none => simp [addMapping]
  | some other => simp [addMapping, eq_comm]

/-- A mapping may as well be added before the record is written. -/
theorem record_addMapping (write : Findings → Findings) (holder : Option String) :
    (census.record write).addMapping holder = (census.addMapping holder).record write := by
  cases holder <;> rfl

/-- Adding components one after the other changes nothing but the components. -/
theorem addComponents_eq (names : List String) :
    census.addComponents names =
      { census with components := names.foldl addName census.components } := by
  induction names generalizing census with
  | nil => rfl
  | cons first rest ih => exact ih (census.addComponent first)

@[simp] theorem mem_addComponents_components {names : List String} :
    name ∈ (census.addComponents names).components ↔ name ∈ census.components ∨ name ∈ names := by
  rw [addComponents_eq]
  exact mem_foldl_addName

@[simp] theorem addComponents_namespaces (names : List String) :
    (census.addComponents names).namespaces = census.namespaces := by
  rw [addComponents_eq]

@[simp] theorem addComponents_mappings (names : List String) :
    (census.addComponents names).mappings = census.mappings := by
  rw [addComponents_eq]

@[simp] theorem addComponents_findings (names : List String) :
    (census.addComponents names).findings = census.findings := by
  rw [addComponents_eq]

end Parts

@[simp] theorem hasComponent_iff {census : Census} {name : String} :
    census.hasComponent name = true ↔ name ∈ census.components := by
  simp [hasComponent]

@[simp] theorem hasNamespace_iff {census : Census} {name : String} :
    census.hasNamespace name = true ↔ name ∈ census.namespaces := by
  simp [hasNamespace]

@[simp] theorem hasMapping_iff {census : Census} {name : String} :
    census.hasMapping name = true ↔ name ∈ census.mappings := by
  simp [hasMapping]

end Census

/-! ## Edits and steps -/

/-- One kind of change that the visit to a node other than a tag makes, with what holds when it is
made. -/
inductive Edit : Census → Census → Prop
  | bindDefault (census : Census) (source : String) (line : Nat) (name : String) :
      Edit census (census.bindDefault source line name)
  | bindNamespace (census : Census) (source : String) (line : Nat) (name : String) :
      Edit census (census.bindNamespace source line name)
  | bindNamed (census : Census) (source : String) (line : Nat) (imported localName : String) :
      Edit census (census.bindNamed source line imported localName)
  | assign (census : Census) (variableName : String) (assignment : Assignment) :
      Edit census ((census.record fun f =>
        { f with assignments := f.assignments.put variableName assignment }).addComponent
          variableName)
  | aliasNamespace {census : Census} {variableName : String}
      (hassigned : variableName ∈ census.findings.assignments.keys) :
      Edit census (census.addNamespace variableName)
  | noteProperty {census : Census} {space : String} (line : Nat) (binding : String × String)
      (hspace : space ∈ census.namespaces) :
      Edit census (Census.noteProperty space line census binding)
  | noteContext (census : Census) (line : Nat) (context : Node)
      (bindings : List (String × String)) :
      Edit census (census.noteContext line context bindings)
  | array {census : Census} (array : ArrayMapping) (holder : Option String)
      (hlisted : ∃ name ∈ array.components, name ∈ census.components) :
      Edit census ((census.record fun f => { f with arrays := f.arrays ++ [array] }).addMapping
        holder)
  | object {census : Census} (object : ObjectMapping) (hnonempty : object.entries ≠ [])
      (hlisted : ∀ entry ∈ object.entries, entry.component ∈ census.components) :
      Edit census ((census.record fun f => { f with objects := f.objects ++ [object] }).addMapping
        object.holder)
  | lookup {census : Census} (lookup : MappingLookup)
      (hmapping : lookup.mapping ∈ census.mappings) :
      Edit census (census.record fun f => { f with lookups := f.lookups ++ [lookup] })
  | choice {census : Census} (choice : Choice)
      (hlisted : choice.consequent ∈ census.components ∨ choice.alternate ∈ census.components) :
      Edit census (census.record fun f => { f with choices := f.choices ++ [choice] })
  | lazyImport (census : Census) (lazyImport : SourceImport) :
      Edit census (census.record fun f => { f with lazyImports := f.lazyImports ++ [lazyImport] })
  | dynamicImport (census : Census) (dynamicImport : SourceImport) :
      Edit census (census.record fun f =>
        { f with dynamicImports := f.dynamicImports ++ [dynamicImport] })
  | wrapping {census : Census} (wrapping : Wrapping)
      (hcomponent : wrapping.component ∈ census.components) :
      Edit census (census.record fun f => { f with wrappings := f.wrappings ++ [wrapping] })
  | memo {census : Census} (memo : Memo) (hcomponent : memo.component ∈ census.components) :
      Edit census (census.record fun f => { f with memos := f.memos ++ [memo] })
  | forwardedRef (census : Census) (line : Nat) :
      Edit census (census.record fun f => { f with forwardedRefs := f.forwardedRefs ++ [line] })
  | portal (census : Census) (line : Nat) :
      Edit census (census.record fun f => { f with portals := f.portals ++ [line] })
  | promote (census : Census) (name : String) : Edit census (census.addComponent name)

/-- Edits made one after the other. -/
abbrev Edits : Census → Census → Prop :=
  Relation.ReflTransGen Edit

/-- One change of a census: an edit, or the rendering of an element. -/
inductive Step : Census → Census → Prop
  | edit {census next : Census} (hedit : Edit census next) : Step census next
  | render {census : Census} (name : String) (opening : Site)
      (hrenders : census.renders name = true) :
      Step census (census.addRendering name ⟨opening.node.line, elementContext opening⟩
        (propsOf opening.node))

/-- Changes made one after the other. -/
abbrev Steps : Census → Census → Prop :=
  Relation.ReflTransGen Step

theorem Edits.steps {census next : Census} (hedits : Edits census next) : Steps census next :=
  Relation.ReflTransGen.mono (fun _ _ => Step.edit) _ _ hedits

/-! ## What edits leave alone, and what they only add to -/

/-- Edits leave the ledger and the table of attributes alone. -/
theorem Edit.renderings_eq {census next : Census} (hedit : Edit census next) :
    next.findings.renderings = census.findings.renderings ∧
      next.findings.props = census.findings.props := by
  cases hedit with
  | bindNamed source line imported localName =>
      unfold Census.bindNamed
      dsimp only
      split <;> exact ⟨rfl, rfl⟩
  | noteContext line context bindings => simp [Census.noteContext]
  | array array holder hlisted => simp
  | object object hnonempty hlisted => simp
  | _ => exact ⟨rfl, rfl⟩

theorem Edits.renderings_eq {census next : Census} (hedits : Edits census next) :
    next.findings.renderings = census.findings.renderings := by
  induction hedits with
  | refl => rfl
  | tail _ hlast ih => rw [hlast.renderings_eq.1, ih]

/-- Names are only ever added. -/
theorem Edit.names_subset {census next : Census} (hedit : Edit census next) :
    census.components ⊆ next.components ∧ census.namespaces ⊆ next.namespaces := by
  have hadd : ∀ (names : List String) (name : String), names ⊆ addName names name :=
    fun names name other hother => mem_addName.mpr (Or.inl hother)
  -- only the edits that add names, the others leave both lists as they are
  cases hedit with
  | bindDefault source line name => exact ⟨hadd _ _, List.Subset.refl _⟩
  | bindNamespace source line name => exact ⟨List.Subset.refl _, hadd _ _⟩
  | bindNamed source line imported localName =>
      unfold Census.bindNamed
      dsimp only
      split <;> exact ⟨hadd _ _, List.Subset.refl _⟩
  | assign variableName assignment => exact ⟨hadd _ _, List.Subset.refl _⟩
  | aliasNamespace hassigned => exact ⟨List.Subset.refl _, hadd _ _⟩
  | noteProperty line binding hspace =>
      exact ⟨List.Subset.trans (hadd _ _) (hadd _ _), List.Subset.refl _⟩
  | noteContext line context bindings =>
      refine ⟨fun other hother => ?_, ?_⟩
      · simp [Census.noteContext, hother]
      · simp [Census.noteContext]
  | array array holder hlisted => simp
  | object object hnonempty hlisted => simp
  | promote name => exact ⟨hadd _ _, List.Subset.refl _⟩
  | _ => exact ⟨List.Subset.refl _, List.Subset.refl _⟩

theorem Steps.names_subset {census next : Census} (hsteps : Steps census next) :
    census.components ⊆ next.components ∧ census.namespaces ⊆ next.namespaces := by
  induction hsteps with
  | refl => exact ⟨List.Subset.refl _, List.Subset.refl _⟩
  | tail _ hlast ih =>
      cases hlast with
      | edit hedit =>
          obtain ⟨hcomponents, hnamespaces⟩ := hedit.names_subset
          exact ⟨List.Subset.trans ih.1 hcomponents, List.Subset.trans ih.2 hnamespaces⟩
      | render name opening hrenders => exact ih

/-- A name that renders a component goes on to do so. -/
theorem Steps.renders {census next : Census} (hsteps : Steps census next) {name : String}
    (hrenders : census.renders name = true) : next.renders name = true := by
  obtain ⟨hcomponents, hnamespaces⟩ := hsteps.names_subset
  simp only [Census.renders, Census.knows, Bool.or_eq_true, Bool.and_eq_true,
    Census.hasComponent_iff, Census.hasNamespace_iff] at hrenders ⊢
  rcases hrenders with hname | ⟨hdotted, hroot | hroot⟩
  · exact Or.inl (hcomponents hname)
  · exact Or.inr ⟨hdotted, Or.inl (hcomponents hroot)⟩
  · exact Or.inr ⟨hdotted, Or.inr (hnamespaces hroot)⟩

/-! ## Runs of edits -/

/-- Folding a function that makes edits makes edits, as long as what it relies on is kept. -/
theorem edits_foldl {α : Type} (relies : Census → Prop) {change : Census → α → Census}
    (hchange : ∀ census item, relies census →
      Edits census (change census item) ∧ relies (change census item))
    (items : List α) {census : Census} (hrelies : relies census) :
    Edits census (items.foldl change census) := by
  induction items generalizing census with
  | nil => exact .refl
  | cons item rest ih =>
      obtain ⟨hedits, hkept⟩ := hchange census item hrelies
      exact hedits.trans (ih hkept)

/-- Folding a function that always makes edits makes edits. -/
theorem edits_foldl_of_forall {α : Type} {change : Census → α → Census}
    (hchange : ∀ census item, Edits census (change census item)) (items : List α)
    (census : Census) : Edits census (items.foldl change census) :=
  edits_foldl (fun _ => True) (fun census item _ => ⟨hchange census item, trivial⟩) items trivial

/-! ## Every visit is a run of steps -/

namespace Census

theorem bindSpecifier_edits (source : String) (line : Nat) (census : Census) (specifier : Node) :
    Edits census (bindSpecifier source line census specifier) := by
  unfold bindSpecifier
  split
  · split
    · exact .refl
    · exact .single (.bindNamed ..)
  · exact .refl

theorem bindPart_edits (source : String) (line : Nat) (census : Census) (part : Node) :
    Edits census (bindPart source line census part) := by
  unfold bindPart
  split
  · exact .single (.bindDefault ..)
  · split
    · exact .single (.bindNamespace ..)
    · exact .refl
  · exact edits_foldl_of_forall (bindSpecifier_edits source line) _ _
  · exact .refl

theorem bindClause_edits (source : Option String) (line : Nat) (census : Census) (clause : Node) :
    Edits census (bindClause source line census clause) := by
  unfold bindClause
  split
  · split
    · exact .single (.bindDefault ..)
    · exact .refl
  · exact edits_foldl_of_forall (bindPart_edits _ line) _ _
  · exact .refl

theorem noteImport_edits (census : Census) (statement : Node) :
    Edits census (census.noteImport statement) :=
  edits_foldl_of_forall (bindClause_edits _ statement.line) _ _

theorem noteAlias_edits (census : Census) (line : Nat) (variableName : String) (value : Node) :
    Edits census (census.noteAlias line variableName value) := by
  unfold noteAlias
  split
  · split
    · exact .refl
    · next reference _ =>
      have hassign := Edit.assign census variableName ⟨reference, line⟩
      dsimp only
      split
      · -- the namespace comes after the assignment that it goes back to
        refine (Relation.ReflTransGen.single hassign).tail (.aliasNamespace ?_)
        simp
      · exact .single hassign
  · exact .refl

theorem notePattern_edits (census : Census) (line : Nat) (pattern value : Node) :
    Edits census (census.notePattern line pattern value) := by
  unfold notePattern
  split
  · next space hspace =>
    have hknown : space ∈ census.namespaces := by
      simpa using (Option.filter_eq_some_iff.mp hspace).2
    -- taking a property out of a namespace adds no namespace and removes none
    refine edits_foldl (fun census => space ∈ census.namespaces) ?_ _ hknown
    intro census binding hspace
    exact ⟨.single (.noteProperty line binding hspace), hspace⟩
  · split
    · split
      · exact .single (.noteContext ..)
      · exact .refl
    · exact .refl

theorem noteDeclarator_edits (census : Census) (declarator : Node) :
    Edits census (census.noteDeclarator declarator) := by
  unfold noteDeclarator
  split
  · split
    · split
      · exact noteAlias_edits ..
      · exact notePattern_edits ..
      · exact .refl
    · exact .refl
  · exact .refl

theorem noteDeclaration_edits (census : Census) (declaration : Node) :
    Edits census (census.noteDeclaration declaration) :=
  edits_foldl_of_forall noteDeclarator_edits _ _

theorem noteArray_edits (census : Census) (site : Site) : Edits census (census.noteArray site) := by
  unfold noteArray
  dsimp only
  split
  · next hany =>
    refine .single (.array _ _ ?_)
    obtain ⟨name, hname, hcomponent⟩ := List.any_eq_true.mp hany
    exact ⟨name, hname, by simpa using hcomponent⟩
  · exact .refl

/-- A property of an object leads to a component. -/
theorem component_of_mappedComponent? {census : Census} {property : Node} {entry : MappingEntry}
    (hentry : mappedComponent? census property = some entry) :
    entry.component ∈ census.components := by
  unfold mappedComponent? at hentry
  split at hentry
  · split at hentry
    · split at hentry
      · next hcomponent =>
        cases hentry
        simpa using hcomponent
      · cases hentry
    · cases hentry
  · split at hentry
    · next hcomponent =>
      cases hentry
      simpa using hcomponent
    · cases hentry
  · cases hentry

theorem noteObject_edits (census : Census) (site : Site) :
    Edits census (census.noteObject site) := by
  unfold noteObject
  split
  · exact .refl
  · next entries hne =>
    refine .single (.object ⟨_, _, _⟩ hne fun entry hentry => ?_)
    obtain ⟨property, _, hmapped⟩ := List.mem_filterMap.mp hentry
    exact component_of_mappedComponent? hmapped

theorem noteSubscript_edits (census : Census) (subscript : Node) :
    Edits census (census.noteSubscript subscript) := by
  unfold noteSubscript
  split
  · split
    · next hguard =>
      simp only [Bool.and_eq_true, hasMapping_iff] at hguard
      exact .single (.lookup ⟨_, _, _⟩ hguard.1.1.1)
    · exact .refl
  · exact .refl

theorem noteChoice_edits (census : Census) (choice : Node) :
    Edits census (census.noteChoice choice) := by
  unfold noteChoice
  dsimp only
  split
  · next hguard =>
    refine .single (.choice ⟨_, _, _⟩ ?_)
    -- a branch without a name is noted as the empty text, and only the other one counts
    rcases Bool.or_eq_true_iff.mp hguard with hany | hany
    · obtain ⟨name, hname, hcomponent⟩ := (Option.any_eq_true ..).mp hany
      exact Or.inl (by simpa [hname] using hcomponent)
    · obtain ⟨name, hname, hcomponent⟩ := (Option.any_eq_true ..).mp hany
      exact Or.inr (by simpa [hname] using hcomponent)
  · exact .refl

theorem noteLazy_edits (census : Census) (site : Site) (module : String) :
    Edits census (census.noteLazy site module) := by
  have hrecord := Edit.lazyImport census ⟨module, site.node.line⟩
  unfold noteLazy
  dsimp only
  split
  · split
    · split
      · exact (Relation.ReflTransGen.single hrecord).tail (.promote ..)
      · exact .single hrecord
    · exact .single hrecord
  · exact .single hrecord

theorem noteDynamicImport_edits (census : Census) (call : Node) :
    Edits census (census.noteDynamicImport call) := by
  unfold noteDynamicImport
  split
  · exact .single (.dynamicImport census ⟨_, _⟩)
  · exact .refl

theorem noteWrapping_edits (census : Census) (call : Node) :
    Edits census (census.noteWrapping call) := by
  unfold noteWrapping
  split
  · split
    · split
      · next component hfound =>
        refine .single (.wrapping ⟨_, _, _⟩ ?_)
        simpa using List.find?_some hfound
      · exact .refl
    · exact .refl
  · exact .refl

theorem noteLibraryCall_edits (census : Census) (call : Node) :
    Edits census (census.noteLibraryCall call) := by
  unfold noteLibraryCall
  split
  · split
    · split
      · next hcomponent => exact .single (.memo ⟨_, _⟩ (by simpa using hcomponent))
      · exact .refl
    · exact .refl
  · exact .single (.forwardedRef ..)
  · exact .single (.portal ..)
  · exact .refl

theorem noteMember_edits (census : Census) (member : Node) :
    Edits census (census.noteMember member) := by
  unfold noteMember
  split
  · exact .refl
  · split
    · split
      · exact .single (.promote ..)
      · exact .refl
    · exact .refl

theorem promoteMember_edits (census : Census) (name : String) :
    Edits census (census.promoteMember name) := by
  unfold promoteMember
  dsimp only
  split
  · exact .single (.promote ..)
  · exact .refl

theorem noteElement_steps (census : Census) (opening : Site) :
    Steps census (census.noteElement opening) := by
  unfold noteElement
  split
  · exact .refl
  · next name _ =>
    split
    · next hrenders =>
      -- a member becomes a component only after its rendering is noted
      exact .head (.render name opening hrenders) (promoteMember_edits ..).steps
    · exact .refl

end Census

namespace Progress

theorem visitCall_edits (progress : Progress) (site : Site) :
    Edits progress.census (progress.visitCall site).census := by
  have hlazy : Edits progress.census (progress.visitLazy site).census := by
    unfold visitLazy
    split
    · exact Census.noteLazy_edits ..
    · exact .refl
  unfold visitCall
  split
  · exact .refl
  · exact (((hlazy.trans (Census.noteDynamicImport_edits ..)).trans
      (Census.noteWrapping_edits ..)).trans (Census.noteLibraryCall_edits ..))

/-- A visit to a site that is no tag makes edits only. -/
theorem visitSite_edits (progress : Progress) {site : Site}
    (htag : isTag site.node.kind = false) :
    Edits progress.census (progress.visitSite site).census := by
  unfold visitSite
  split
  · exact Census.noteImport_edits ..
  · exact Census.noteDeclaration_edits ..
  · exact Census.noteDeclaration_edits ..
  · next hkind => simp [hkind, isTag] at htag
  · next hkind => simp [hkind, isTag] at htag
  · exact visitCall_edits ..
  · exact Census.noteArray_edits ..
  · exact Census.noteObject_edits ..
  · exact Census.noteChoice_edits ..
  · exact Census.noteMember_edits ..
  · exact Census.noteMember_edits ..
  · exact Census.noteSubscript_edits ..
  · exact .refl

theorem visitSite_of_isTag (progress : Progress) {site : Site}
    (htag : isTag site.node.kind = true) :
    progress.visitSite site = progress.update (·.noteElement site) := by
  unfold isTag at htag
  split at htag
  · next hkind => simp only [visitSite, hkind]
  · next hkind => simp only [visitSite, hkind]
  · cases htag

/-- A visit to a site makes steps only. -/
theorem visitSite_steps (progress : Progress) (site : Site) :
    Steps progress.census (progress.visitSite site).census := by
  by_cases htag : isTag site.node.kind = true
  · rw [visitSite_of_isTag progress htag]
    exact Census.noteElement_steps ..
  · exact (visitSite_edits progress (Bool.eq_false_iff.mpr htag)).steps

theorem foldl_visitSite_steps (sites : List Site) (progress : Progress) :
    Steps progress.census (sites.foldl visitSite progress).census := by
  induction sites generalizing progress with
  | nil => exact .refl
  | cons site rest ih => exact (visitSite_steps progress site).trans (ih _)

end Progress

/-! ## Reachable censuses -/

/-- The censuses that any sequence of visits, bindings of imports and walks through statements leads
to, on any trees.  A visitor may be fresh or may have visited before, so nothing is said about the
calls that it has consumed. -/
inductive Reachable : Census → Prop
  | empty : Reachable {}
  | visit {census : Census} (hcensus : Reachable census) (consumed : List Nat) (root : Site) :
      Reachable ((Progress.mk census consumed).visit root).census
  | bindImports {census : Census} (hcensus : Reachable census) (consumed : List Nat)
      (root : Site) : Reachable ((Progress.mk census consumed).bindImports root).census
  | walkStatements {census : Census} (hcensus : Reachable census) (consumed : List Nat)
      (root : Site) : Reachable ((Progress.mk census consumed).walkStatements root).census

/-- What holds of the empty census and is kept by the visit to any one site holds of every reachable
census. -/
theorem Reachable.induction_on_sites {invariant : Census → Prop} (hempty : invariant {})
    (hvisit : ∀ progress site, invariant progress.census →
      invariant (Progress.visitSite progress site).census)
    {census : Census} (hcensus : Reachable census) : invariant census := by
  -- all three phases visit the sites of a list in order
  have hrun (sites : List Site) (progress : Progress) (hprogress : invariant progress.census) :
      invariant (sites.foldl Progress.visitSite progress).census := by
    induction sites generalizing progress with
    | nil => exact hprogress
    | cons site rest ih => exact ih _ (hvisit progress site hprogress)
  induction hcensus with
  | empty => exact hempty
  | visit _ consumed root ih =>
      rw [Progress.visit_eq_foldl]
      exact hrun _ ⟨_, consumed⟩ ih
  | bindImports _ consumed root ih =>
      rw [Progress.bindImports_eq_foldl]
      exact hrun _ ⟨_, consumed⟩ ih
  | walkStatements _ consumed root ih =>
      rw [Progress.walkStatements_eq_foldl]
      exact hrun _ ⟨_, consumed⟩ ih

/-- A reachable census is reached from the empty one by steps. -/
theorem Reachable.steps {census : Census} (hcensus : Reachable census) : Steps {} census :=
  hcensus.induction_on_sites .refl fun progress site hsteps =>
    hsteps.trans (Progress.visitSite_steps progress site)

/-- What holds of the empty census and is kept by every step holds of every reachable census. -/
theorem Reachable.induction_on_steps {invariant : Census → Prop} (hempty : invariant {})
    (hstep : ∀ census next, Step census next → invariant census → invariant next)
    {census : Census} (hcensus : Reachable census) : invariant census := by
  have hsteps := hcensus.steps
  clear hcensus
  induction hsteps with
  | refl => exact hempty
  | tail _ hlast ih => exact hstep _ _ hlast ih

end ComponentCensus.Usage
