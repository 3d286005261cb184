import ComponentCensus.Proofs.Descent
import ComponentCensus.Proofs.Growth
import ComponentCensus.Proofs.ImportedNames
import ComponentCensus.Proofs.Writes
import ComponentCensus.Report.Findings

/-!
# Where components come from

A name becomes a component at eleven places of a visit.  `ComesFrom` lists the roles that a name
can have for this: it is bound by an import, assigned, taken out of a namespace or a context, holds
a lazy component, or stands behind a namespace and a dot, in an expression or in a tag.  Namespaces
themselves are not among them.

Which variables hold a lazy component is a matter of looking up from the lazy call, not of looking
down from the variable: `page_not_initialized_lazily` has a tree in which the two differ.

## Main results

* `provenance_of_components` : every component has one of the roles, also if it is the name of a
  namespace, and what stands behind a namespace that is imported at the top is a component.
* `page_not_initialized_lazily` : a component whose variable is not initialized by a lazy call.

## Strategy

* Every component of a census has a role (`Sourced`).  A role is kept by all that is visited later,
  since nothing it rests on is ever taken back (`ComesFrom.kept`), so that a visit has to account
  only for the components it adds (`Sourced.step`), which are none (`Sourced.of_eq`) or one
  (`Sourced.of_addName`) in all but two cases.
* For the other direction, imports are bound before anything else is visited, so that the namespace
  of a member is known when the walk comes upon it (`mem_components_of_member`).
-/

namespace ComponentCensus.Usage

open ComponentCensus.Syntax ComponentCensus.Text

variable {lazily : Site → Prop} {tree : Node} {census next : Census} {site : Site} {name : String}

/-! ## Roles -/

/-- `ComesFrom lazily tree census name` says that a name has one of the roles that make it a
component, where `lazily` tells which declarators hold a lazy component. -/
inductive ComesFrom (lazily : Site → Prop) (tree : Node) (census : Census) : String → Prop
  | imported {site : Site} {name : String} (hsite : site ∈ visitOrder (Site.root tree))
      (hkind : site.node.kind = .importStatement) (hbinds : BindsComponent site.node name) :
      ComesFrom lazily tree census name
  | assigned {name : String} (hname : name ∈ census.findings.assignments.keys) :
      ComesFrom lazily tree census name
  | property {record : Destructuring} (hrecord : record ∈ census.findings.destructurings) :
      ComesFrom lazily tree census record.property
  | localName {record : Destructuring} {name : String}
      (hrecord : record ∈ census.findings.destructurings) (hname : record.localName = some name) :
      ComesFrom lazily tree census name
  | contextValue {record : ContextRead} {name : String}
      (hrecord : record ∈ census.findings.contexts) (hname : name ∈ record.properties) :
      ComesFrom lazily tree census name
  | lazyVariable {site : Site} {name : String} (hsite : site ∈ visitOrder (Site.root tree))
      (hkind : site.node.kind = .variableDeclarator) (hlazily : lazily site)
      (hname : (site.node.child? .name).bind Node.identifierName? = some name) :
      ComesFrom lazily tree census name
  | member {site : Site} {object property : Node} {space : String}
      (hsite : site ∈ visitOrder (Site.root tree)) (hkind : site.node.kind.isMember = true)
      (hparts : memberPair? site.node = some (object, property))
      (hobject : object.identifierName? = some space) (hspace : space ∈ census.namespaces) :
      ComesFrom lazily tree census property.text
  | tag {site : Site} {space member : String} (hsite : site ∈ visitOrder (Site.root tree))
      (hkind : isTag site.node.kind = true)
      (hname : elementName? site.node = some (space ++ "." ++ member))
      (hparts : hasChar '.' space = false ∧ hasChar '.' member = false)
      (hspace : space ∈ census.namespaces) : ComesFrom lazily tree census member

/-- A declarator whose value is a lazy component. -/
def InitializedLazily (declarator : Site) : Prop :=
  ∃ call, declarator.node.field? .value = some call ∧ (lazyImport? call).isSome = true

/-- A declarator in which a visited lazy component stands with nothing but wrappers between. -/
def HoldsLazily (tree : Node) (declarator : Site) : Prop :=
  ∃ call ∈ visitOrder (Site.root tree), call.node.kind = .callExpression ∧
    (lazyImport? call.node).isSome = true ∧ parent? call = some declarator

/-! ## Roles are kept -/

/-- What the roles rest on is still there. -/
structure Kept (census next : Census) : Prop where
  namespaces : census.namespaces ⊆ next.namespaces
  assignments : census.findings.assignments.keys ⊆ next.findings.assignments.keys
  destructurings : census.findings.destructurings ⊆ next.findings.destructurings
  contexts : census.findings.contexts ⊆ next.findings.contexts

theorem Edit.records_subset (hedit : Edit census next) :
    census.findings.destructurings ⊆ next.findings.destructurings ∧
      census.findings.contexts ⊆ next.findings.contexts := by
  cases hedit with
  | bindNamed source line imported localName =>
      unfold Census.bindNamed
      dsimp only
      split <;> exact ⟨List.Subset.refl _, List.Subset.refl _⟩
  | noteProperty line binding hspace =>
      exact ⟨List.subset_append_left _ _, List.Subset.refl _⟩
  | noteContext line context bindings =>
      simp [Census.noteContext]
  | array array holder hlisted => simp
  | object object hnonempty hlisted => simp
  | _ => exact ⟨List.Subset.refl _, List.Subset.refl _⟩

theorem Steps.records_subset (hsteps : Steps census next) :
    census.findings.destructurings ⊆ next.findings.destructurings ∧
      census.findings.contexts ⊆ next.findings.contexts := by
  induction hsteps with
  | refl => exact ⟨List.Subset.refl _, List.Subset.refl _⟩
  | tail _ hlast ih =>
      cases hlast with
      | edit hedit =>
          obtain ⟨hdestructurings, hcontexts⟩ := hedit.records_subset
          exact ⟨List.Subset.trans ih.1 hdestructurings, List.Subset.trans ih.2 hcontexts⟩
      | render name opening hrenders => exact ih

theorem Steps.kept (hsteps : Steps census next) : Kept census next :=
  ⟨hsteps.names_subset.2, hsteps.within.findings.assignments, hsteps.records_subset.1,
    hsteps.records_subset.2⟩

theorem ComesFrom.kept (hfrom : ComesFrom lazily tree census name) (hkept : Kept census next) :
    ComesFrom lazily tree next name := by
  cases hfrom with
  | imported hsite hkind hbinds => exact .imported hsite hkind hbinds
  | assigned hname => exact .assigned (hkept.assignments hname)
  | property hrecord => exact .property (hkept.destructurings hrecord)
  | localName hrecord hname => exact .localName (hkept.destructurings hrecord) hname
  | contextValue hrecord hname => exact .contextValue (hkept.contexts hrecord) hname
  | lazyVariable hsite hkind hlazily hname => exact .lazyVariable hsite hkind hlazily hname
  | member hsite hkind hparts hobject hspace =>
      exact .member hsite hkind hparts hobject (hkept.namespaces hspace)
  | tag hsite hkind hname hparts hspace =>
      exact .tag hsite hkind hname hparts (hkept.namespaces hspace)

/-! ## Names with a dot -/

theorem not_hasChar_beforeFirst (sep : Char) (s : String) :
    hasChar sep (beforeFirst sep s) = false := by
  rw [hasChar, beforeFirst, String.toList_ofList, Bool.eq_false_iff]
  intro hmem
  simpa using List.mem_takeWhile_imp (List.contains_iff_mem.mp hmem)

/-- A text with a dot is what stands before the first dot, the dot, and what stands behind it. -/
theorem beforeFirst_append_afterFirst {s : String} (hdot : hasChar '.' s = true) :
    beforeFirst '.' s ++ "." ++ afterFirst '.' s = s := by
  have hmem : '.' ∈ s.toList := List.contains_iff_mem.mp hdot
  -- there is a dot, so the rest starts with one
  have hnonempty : s.toList.dropWhile (· ≠ '.') ≠ [] := by
    intro hempty
    simpa using List.dropWhile_eq_nil_iff.mp hempty '.' hmem
  have hhead := List.head_dropWhile_not (· ≠ '.') hnonempty
  apply String.toList_inj.mp
  simp only [beforeFirst, afterFirst, String.toList_append, String.toList_ofList]
  conv_rhs => rw [← List.takeWhile_append_dropWhile (p := (· ≠ '.')) (l := s.toList)]
  cases hrest : s.toList.dropWhile (· ≠ '.') with
  | nil => exact absurd hrest hnonempty
  | cons c rest =>
      simp only [hrest, List.head_cons, decide_eq_false_iff_not, not_not] at hhead
      subst hhead
      simp

/-! ## Every component has a role -/

/-- Every component comes from somewhere. -/
def Sourced (lazily : Site → Prop) (tree : Node) (census : Census) : Prop :=
  ∀ name ∈ census.components, ComesFrom lazily tree census name

namespace Sourced

/-- A change has to account for the components that it adds. -/
theorem step (hsourced : Sourced lazily tree census) (hsteps : Steps census next)
    (hnew : ∀ name ∈ next.components, name ∈ census.components ∨ ComesFrom lazily tree next name) :
    Sourced lazily tree next := by
  intro name hname
  rcases hnew name hname with hold | hfrom
  · exact (hsourced name hold).kept hsteps.kept
  · exact hfrom

/-- A change of anything but the components. -/
theorem of_eq (hsourced : Sourced lazily tree census) (hsteps : Steps census next)
    (hcomponents : next.components = census.components) : Sourced lazily tree next :=
  hsourced.step hsteps fun _ hname => Or.inl (hcomponents ▸ hname)

theorem of_written {written : Census} (hsourced : Sourced lazily tree census)
    (hedits : Edits census next) (hwritten : next = written)
    (hcomponents : written.components = census.components) : Sourced lazily tree next :=
  hsourced.of_eq hedits.steps ((congrArg Census.components hwritten).trans hcomponents)

/-- A change that adds one component. -/
theorem of_addName (hsourced : Sourced lazily tree census) (hsteps : Steps census next)
    (hcomponents : next.components = addName census.components name)
    (hfrom : ComesFrom lazily tree next name) : Sourced lazily tree next := by
  refine hsourced.step hsteps fun other hother => ?_
  rw [hcomponents] at hother
  rcases mem_addName.mp hother with hold | rfl
  · exact Or.inl hold
  · exact Or.inr hfrom

/-! ### Import statements -/

section Imports

variable {statement : Node}

theorem bindNamed (hsourced : Sourced lazily tree census) (source : String) (line : Nat)
    (imported : String) (hfrom : ∀ census, ComesFrom lazily tree census name) :
    Sourced lazily tree (census.bindNamed source line imported name) := by
  refine hsourced.of_addName (Edits.steps (.single (.bindNamed ..))) ?_ (hfrom _)
  unfold Census.bindNamed
  dsimp only
  split <;> rfl

theorem bindSpecifier (hsourced : Sourced lazily tree census) (source : String) (line : Nat)
    {specifier : Node}
    (hfrom : ∀ name, specifier.kind = .importSpecifier → specifierLocal? specifier = some name →
      ∀ census, ComesFrom lazily tree census name) :
    Sourced lazily tree (Census.bindSpecifier source line census specifier) := by
  unfold Census.bindSpecifier
  split
  · next hkind =>
    split
    · exact hsourced
    · next imported himported =>
      refine hsourced.bindNamed source line _ (hfrom _ hkind ?_)
      rw [specifierLocal?, himported]
      rfl
  · exact hsourced

/-- A visited import statement accounts for the components that it binds. -/
theorem noteImport (hsourced : Sourced lazily tree census)
    (hfrom : ∀ name, BindsComponent statement name → ∀ census, ComesFrom lazily tree census name) :
    Sourced lazily tree (census.noteImport statement) := by
  -- clauses, parts and specifiers, each with what was bound before it
  refine List.foldlRecOn _ _ hsourced fun census hsourced clause hclause => ?_
  unfold Census.bindClause
  split
  · next hkind =>
    split
    · next required hrequired hsource =>
      refine hsourced.of_addName (Edits.steps (.single (.bindDefault ..))) rfl ?_
      exact hfrom _ (.byRequire hclause hkind hrequired (by rw [importSource?, hsource]; rfl)) _
    · exact hsourced
  · next source hkind hsource =>
    have hnamed : (importSource? statement).isSome = true := by rw [importSource?, hsource]; rfl
    refine List.foldlRecOn _ _ hsourced fun census hsourced part hpart => ?_
    unfold Census.bindPart
    split
    · next hpartKind =>
      refine hsourced.of_addName (Edits.steps (.single (.bindDefault ..))) rfl ?_
      exact hfrom _ (.byDefault hnamed hclause hkind hpart hpartKind) _
    · split
      · exact hsourced.of_eq (Edits.steps (.single (.bindNamespace ..))) rfl
      · exact hsourced
    · next hpartKind =>
      refine List.foldlRecOn _ _ hsourced fun census hsourced specifier hspecifier => ?_
      refine hsourced.bindSpecifier _ _ fun name hspecifierKind hname => ?_
      exact hfrom name (.bySpecifier hnamed hclause hkind hpart hpartKind hspecifier hspecifierKind
        hname)
    · exact hsourced
  · exact hsourced

end Imports

/-! ### Declarations -/

theorem noteAlias (hsourced : Sourced lazily tree census) (line : Nat) (variableName : String)
    (value : Node) : Sourced lazily tree (census.noteAlias line variableName value) := by
  unfold Census.noteAlias
  split
  · split
    · exact hsourced
    · next reference _ =>
      -- the variable is assigned even if it only renames a namespace
      have hassign := Edit.assign census variableName ⟨reference, line⟩
      have hassigned := hsourced.of_addName (Edits.steps (.single hassign)) rfl
        (.assigned (by simp))
      dsimp only
      split
      · refine hassigned.of_eq (Edits.steps (.single (.aliasNamespace ?_))) rfl
        simp
      · exact hassigned
  · exact hsourced

theorem noteProperty (hsourced : Sourced lazily tree census) {space : String} (line : Nat)
    (binding : String × String) (hspace : space ∈ census.namespaces) :
    Sourced lazily tree (Census.noteProperty space line census binding) := by
  have hedit := Edit.noteProperty line binding hspace
  refine hsourced.step (Edits.steps (.single hedit)) fun name hname => ?_
  obtain ⟨property, localName⟩ := binding
  -- the record tells the property, and the local name if that is another one
  have hrecord : ⟨property, space, line, if localName = property then none else some localName⟩ ∈
      (Census.noteProperty space line census (property, localName)).findings.destructurings :=
    List.mem_append_right _ (List.mem_singleton_self _)
  simp only [Census.noteProperty, Census.addComponent_components, Census.record_components,
    mem_addName] at hname
  rcases hname with (hold | rfl) | rfl
  · exact Or.inl hold
  · exact Or.inr (.property hrecord)
  · by_cases hsame : name = property
    · subst hsame
      exact Or.inr (.property hrecord)
    · exact Or.inr (.localName hrecord (if_neg hsame))

theorem noteContext (hsourced : Sourced lazily tree census) (line : Nat) (context : Node)
    (bindings : List (String × String)) :
    Sourced lazily tree (census.noteContext line context bindings) := by
  refine hsourced.step (Edits.steps (.single (.noteContext ..))) fun name hname => ?_
  simp only [Census.noteContext, Census.mem_addComponents_components, Census.record_components]
    at hname
  obtain ⟨record, hrecord, hproperties⟩ :
      ∃ record ∈ (census.noteContext line context bindings).findings.contexts,
        record.properties = bindings.map (·.2) := by
    unfold Census.noteContext
    rw [Census.addComponents_findings]
    exact ⟨_, List.mem_append_right _ (List.mem_singleton_self _), rfl⟩
  exact hname.imp id fun hvalue => .contextValue hrecord (hproperties ▸ hvalue)

theorem notePattern (hsourced : Sourced lazily tree census) (line : Nat) (pattern value : Node) :
    Sourced lazily tree (census.notePattern line pattern value) := by
  unfold Census.notePattern
  split
  · next space hspace =>
    have hknown : space ∈ census.namespaces := by
      simpa using (Option.filter_eq_some_iff.mp hspace).2
    -- the namespace is still one when the next property is taken out of it
    have hboth : ∀ bindings : List (String × String),
        space ∈ (bindings.foldl (Census.noteProperty space line) census).namespaces ∧
          Sourced lazily tree (bindings.foldl (Census.noteProperty space line) census) := by
      intro bindings
      refine List.foldlRecOn (motive := fun census =>
        space ∈ census.namespaces ∧ Sourced lazily tree census) _ _ ⟨hknown, hsourced⟩ ?_
      intro census hcensus binding _
      exact ⟨hcensus.1, hcensus.2.noteProperty line binding hcensus.1⟩
    exact (hboth _).2
  · split
    · split
      · exact hsourced.noteContext _ _ _
      · exact hsourced
    · exact hsourced

theorem noteDeclaration (hsourced : Sourced lazily tree census) (declaration : Node) :
    Sourced lazily tree (census.noteDeclaration declaration) := by
  refine List.foldlRecOn _ _ hsourced fun census hsourced declarator _ => ?_
  unfold Census.noteDeclarator
  split
  · split
    · split
      · exact hsourced.noteAlias _ _ _
      · exact hsourced.notePattern _ _ _
      · exact hsourced
    · exact hsourced
  · exact hsourced

/-! ### Members -/

/-- A visited member accounts for its property. -/
theorem noteMember (hsourced : Sourced lazily tree census)
    (hsite : site ∈ visitOrder (Site.root tree)) (hkind : site.node.kind.isMember = true) :
    Sourced lazily tree (census.noteMember site.node) := by
  have hsteps := (census.noteMember_edits site.node).steps
  rw [Census.noteMember_eq] at hsteps ⊢
  cases hparts : memberPair? site.node with
  | none => exact hsourced
  | some parts =>
      rw [hparts] at hsteps
      obtain ⟨object, property⟩ := parts
      simp only [Option.elim_some, Census.notePropertyOf] at hsteps ⊢
      cases hobject : object.identifierName? with
      | none => exact hsourced
      | some space =>
          simp only [hobject] at hsteps ⊢
          split
          · next hguard =>
            rw [if_pos hguard] at hsteps
            have hspace : space ∈ census.namespaces := by
              simpa using (Bool.and_eq_true_iff.mp hguard).1
            exact hsourced.of_addName hsteps rfl (.member hsite hkind hparts hobject hspace)
          · exact hsourced

/-- A visited tag accounts for the member that it names. -/
theorem noteElement (hsourced : Sourced lazily tree census)
    (hsite : site ∈ visitOrder (Site.root tree)) (hkind : isTag site.node.kind = true) :
    Sourced lazily tree (census.noteElement site) := by
  unfold Census.noteElement
  split
  · exact hsourced
  · next name hname =>
    split
    · next hrenders =>
      -- the rendering adds no component, what follows may add the last part of the name
      have hrendered := hsourced.of_eq (.single (.render name site hrenders)) rfl
      generalize census.addRendering name ⟨site.node.line, elementContext site⟩
        (propsOf site.node) = rendered at hrendered ⊢
      have hsteps := (rendered.promoteMember_edits name).steps
      unfold Census.promoteMember at hsteps ⊢
      dsimp only at hsteps ⊢
      split
      · next hguard =>
        rw [if_pos hguard] at hsteps
        simp only [Bool.and_eq_true, Bool.not_eq_true', Census.hasNamespace_iff] at hguard
        obtain ⟨⟨hdot, hspace⟩, hlast⟩ := hguard
        rw [← beforeFirst_append_afterFirst hdot] at hname
        exact hrendered.of_addName hsteps rfl
          (.tag hsite hkind hname ⟨not_hasChar_beforeFirst _ _, hlast⟩ hspace)
      · exact hrendered
    · exact hsourced

/-! ### Calls -/

/-- A visited lazy component accounts for the variable that holds it. -/
theorem noteLazy (hsourced : Sourced (HoldsLazily tree) tree census)
    (hsite : site ∈ visitOrder (Site.root tree)) (hcall : site.node.kind = .callExpression)
    (hlazy : (lazyImport? site.node).isSome = true) (module : String) :
    Sourced (HoldsLazily tree) tree (census.noteLazy site module) := by
  have hsteps := (census.noteLazy_edits site module).steps
  unfold Census.noteLazy at hsteps ⊢
  -- the node above is that of a visited site, which is the declarator of the role
  rw [container?_eq] at hsteps ⊢
  dsimp only at hsteps ⊢
  cases hparent : parent? site with
  | none => exact hsourced.of_eq (by simpa [hparent] using hsteps) rfl
  | some declarator =>
      simp only [hparent, Option.map_some] at hsteps ⊢
      split
      · next hkind =>
        rw [if_pos hkind] at hsteps
        cases hname : (declarator.node.child? .name).bind Node.identifierName? with
        | none => exact hsourced.of_eq (by simpa [hname] using hsteps) rfl
        | some name =>
            simp only [hname] at hsteps
            have hdeclarator : declarator ∈ visitOrder (Site.root tree) :=
              mem_visitOrder_of_parent? hsite hparent (by rw [hkind]; decide)
            exact hsourced.of_addName hsteps rfl
              (.lazyVariable hdeclarator hkind ⟨site, hsite, hcall, hlazy, hparent⟩ hname)
      · next hkind =>
        rw [if_neg hkind] at hsteps
        exact hsourced.of_eq hsteps rfl

/-- What else is noted about a call leaves the components alone. -/
theorem noteCall (hsourced : Sourced lazily tree census) (call : Node) :
    Sourced lazily tree
      (((census.noteDynamicImport call).noteWrapping call).noteLibraryCall call) := by
  have hdynamic : Sourced lazily tree (census.noteDynamicImport call) := by
    obtain ⟨_, hwritten⟩ := census.noteDynamicImport_written call
    exact hsourced.of_written (census.noteDynamicImport_edits call) hwritten rfl
  generalize census.noteDynamicImport call = loaded at hdynamic ⊢
  have hwrapping : Sourced lazily tree (loaded.noteWrapping call) := by
    obtain ⟨_, hwritten⟩ := loaded.noteWrapping_written call
    exact hdynamic.of_written (loaded.noteWrapping_edits call) hwritten rfl
  generalize loaded.noteWrapping call = wrapped at hwrapping ⊢
  obtain ⟨_, _, _, hwritten⟩ := wrapped.noteLibraryCall_written call
  exact hwrapping.of_written (wrapped.noteLibraryCall_edits call) hwritten rfl

theorem visitCall {progress : Progress} (hsourced : Sourced (HoldsLazily tree) tree progress.census)
    (hsite : site ∈ visitOrder (Site.root tree)) (hcall : site.node.kind = .callExpression) :
    Sourced (HoldsLazily tree) tree (progress.visitCall site).census := by
  -- a lazy call is noted first, whatever the rest of the visit does
  have hlazy : Sourced (HoldsLazily tree) tree (progress.visitLazy site).census := by
    unfold Progress.visitLazy
    split
    · next loading module hloading =>
      exact hsourced.noteLazy hsite hcall (by rw [hloading]; rfl) module
    · exact hsourced
  unfold Progress.visitCall
  split
  · exact hsourced
  · exact hlazy.noteCall site.node

/-- Every visited site accounts for the components that it adds. -/
theorem visitSite {progress : Progress}
    (hsourced : Sourced (HoldsLazily tree) tree progress.census)
    (hsite : site ∈ visitOrder (Site.root tree)) :
    Sourced (HoldsLazily tree) tree (progress.visitSite site).census := by
  have hsteps := progress.visitSite_steps site
  have hvisit := progress.visit_visitSite site
  generalize progress.visitSite site = next at hsteps hvisit ⊢
  cases hvisit with
  | statement hkind =>
      exact hsourced.noteImport fun name hbinds census => .imported hsite hkind hbinds
  | declaration => exact hsourced.noteDeclaration site.node
  | tag hkind => exact hsourced.noteElement hsite hkind
  | call hkind => exact hsourced.visitCall hsite hkind
  | member hkind => exact hsourced.noteMember hsite hkind
  | collection hwritten =>
      obtain ⟨_, _, _, _, _, hwritten⟩ := hwritten
      have hcomponents := congrArg Census.components hwritten
      exact hsourced.of_eq hsteps hcomponents

end Sourced

/-- Every component of a tree has a role in it. -/
theorem sourced_visit (tree : Node) :
    Sourced (HoldsLazily tree) tree (Census.empty.visit tree) := by
  unfold Census.visit
  rw [Progress.visit_eq_foldl]
  refine List.foldlRecOn (motive := fun progress : Progress =>
    Sourced (HoldsLazily tree) tree progress.census) _ _ ?_ ?_
  · intro name hname
    cases hname
  · intro progress hsourced site hsite
    exact hsourced.visitSite hsite

/-! ## Members of namespaces -/

/-- The first phase makes the names of whole modules namespaces. -/
theorem mem_namespaces_bindImports {program statement : Node} {space : String}
    (hstatement : statement ∈ program.namedChildren) (hkind : statement.kind = .importStatement)
    (hbinds : BindsNamespace statement space) (progress : Progress) :
    space ∈ (progress.bindImports (Site.root program)).census.namespaces := by
  have hkeeps : ∀ (census : Census) (other : Node), space ∈ census.namespaces →
      space ∈ (census.noteImport other).namespaces :=
    fun census other => Census.mem_namespaces_of_edits (census.noteImport_edits other)
  exact bindImports_reaches hstatement hkind (Census.mem_noteImport_namespaces hbinds) hkeeps
    progress

/-- A member of a namespace makes its property a component. -/
theorem mem_noteMember_components {member object property : Node} {space : String}
    (hparts : memberPair? member = some (object, property))
    (hobject : object.identifierName? = some space) (hspace : space ∈ census.namespaces)
    (hprivate : property.kind ≠ .privatePropertyIdentifier) :
    property.text ∈ (census.noteMember member).components := by
  rw [Census.noteMember_eq, hparts]
  simp [Census.notePropertyOf, hobject, hspace, hprivate]

theorem visitSite_of_isMember {progress : Progress} (hkind : site.node.kind.isMember = true) :
    progress.visitSite site = progress.update (·.noteMember site.node) := by
  unfold Kind.isMember at hkind
  split at hkind
  · next hmember => simp only [Progress.visitSite, hmember]
  · next hnested => simp only [Progress.visitSite, hnested]
  · cases hkind

/-- Every visited member of an imported namespace is a component in the end. -/
theorem mem_components_of_member {program statement object property : Node} {space : String}
    (hprogram : program.kind = .program) (hstatement : statement ∈ program.namedChildren)
    (hkind : statement.kind = .importStatement) (hbinds : BindsNamespace statement space)
    (hsite : site ∈ visitOrder (Site.root program)) (hmember : site.node.kind.isMember = true)
    (hparts : memberPair? site.node = some (object, property))
    (hobject : object.identifierName? = some space)
    (hprivate : property.kind ≠ .privatePropertyIdentifier) :
    property.text ∈ (Census.empty.visit program).components := by
  have hvisit : (Progress.mk Census.empty []).visit (Site.root program) =
      ((Progress.mk Census.empty []).bindImports (Site.root program)).walkStatements
        (Site.root program) := if_pos hprogram
  -- a member is no import, so it is visited on the walk
  have hlater : site ∈ ((Site.root program).namedChildren.filter fun child =>
      !Progress.isImport child).flatMap visited := by
    rw [visitOrder, if_pos (show (Site.root program).node.kind = .program from hprogram)] at hsite
    refine (List.mem_append.mp hsite).resolve_left fun himport => ?_
    have hstatement : site.node.kind = .importStatement :=
      of_decide_eq_true (List.mem_filter.mp himport).2
    rw [hstatement] at hmember
    cases hmember
  have hknown := mem_namespaces_bindImports hstatement hkind hbinds ⟨Census.empty, []⟩
  unfold Census.visit
  rw [hvisit, Progress.walkStatements_eq_foldl]
  generalize (Progress.mk Census.empty []).bindImports (Site.root program) = bound at hknown ⊢
  -- the namespace is known all along, and so is the component once the member is visited
  obtain ⟨before, after, horder⟩ := List.append_of_mem hlater
  rw [horder, List.foldl_append, List.foldl_cons]
  have hspace := (Progress.foldl_visitSite_steps before bound).names_subset.2 hknown
  generalize before.foldl Progress.visitSite bound = reached at hspace ⊢
  refine (Progress.foldl_visitSite_steps after _).names_subset.1 ?_
  rw [visitSite_of_isMember hmember]
  exact mem_noteMember_components hparts hobject hspace hprivate

/-! ## The account of a program -/

theorem mem_report_components :
    Value.str name ∈ census.report.components ↔ name ∈ census.components := by
  simp [Census.report, sortedNames]

/-- The components of a program, and what a namespace has to do with them: its own name needs a role
like any other, and what stands behind it and a dot is a component. -/
structure Provenance (lazily : Site → Prop) (program : Node) (census : Census) : Prop where
  components : Sourced lazily program census
  spaces : ∀ site ∈ visitOrder (Site.root program), site.node.kind = .importStatement →
    ∀ space, BindsNamespace site.node space → ¬ ComesFrom lazily program census space →
      Value.str space ∉ census.report.components
  members : ∀ statement ∈ program.namedChildren, statement.kind = .importStatement →
    ∀ space, BindsNamespace statement space →
      ∀ site ∈ visitOrder (Site.root program), site.node.kind.isMember = true →
        ∀ object property, memberPair? site.node = some (object, property) →
          object.identifierName? = some space → property.kind ≠ .privatePropertyIdentifier →
            Value.str property.text ∈ census.report.components

/-- **Every component of a program has a role in it.**  The name of a namespace is a component only
if it has such a role as well, and the members of imported namespaces are components. -/
theorem provenance_of_components {program : Node} (hprogram : program.kind = .program) :
    Provenance (HoldsLazily program) program (Census.empty.visit program) := by
  have hsourced := sourced_visit program
  refine ⟨hsourced, ?_, ?_⟩
  · intro _ _ _ space _ hnone hcomponent
    exact hnone (hsourced space (mem_report_components.mp hcomponent))
  · intro _ hstatement hkind _ hbinds _ hsite hmember _ _ hparts hobject hprivate
    exact mem_report_components.mpr (mem_components_of_member hprogram hstatement hkind hbinds hsite
      hmember hparts hobject hprivate)

/-- `<Lib.Item/>` behind an import of all of `Lib`. -/
def itemBehindImport : Node :=
  namedNode 0 1 .program "import * as Lib from \"lib\"; <Lib.Item/>" []
    [starImport 1, itemTag 6 [] 9]

/-- The member becomes a component, and the namespace does not. -/
theorem provenance_of_item :
    itemBehindImport.kind = .program ∧
      Provenance (HoldsLazily itemBehindImport) itemBehindImport
        (Census.empty.visit itemBehindImport) ∧
      (Census.empty.visit itemBehindImport).components = ["Item"] ∧
      (Census.empty.visit itemBehindImport).namespaces = ["Lib"] :=
  ⟨rfl, provenance_of_components rfl, by cbv, by cbv⟩

/-- `const Page = (x lazy(() => import("./p")))`, a source with an error.  Between the parentheses
an error stands first, and a lazy component behind it. -/
def strayPage : Node :=
  ⟨⟨0, .program, 1, "const Page = (x lazy(() => import(\"./p\")))", [], true, false, true⟩,
    [namedNode 1 1 .lexicalDeclaration "const Page = (x lazy(() => import(\"./p\")))" []
      [namedNode 2 1 .variableDeclarator "Page = (x lazy(() => import(\"./p\")))" []
        [namedNode 3 1 .identifier "Page" [.name] [],
         namedNode 4 1 .parenthesizedExpression "(x lazy(() => import(\"./p\")))" [.value]
          [namedNode 5 1 .error "x" [] [namedNode 6 1 .identifier "x" [] []],
           namedNode 7 1 .callExpression "lazy(() => import(\"./p\"))" []
            [namedNode 8 1 .identifier "lazy" [.function] [],
             namedNode 9 1 .arguments "(() => import(\"./p\"))" [.arguments]
              [namedNode 10 1 .arrowFunction "() => import(\"./p\")" []
                [namedNode 11 1 .callExpression "import(\"./p\")" [.body]
                  [namedNode 12 1 .importKeyword "import" [.function] [],
                   namedNode 13 1 .arguments "(\"./p\")" [.arguments]
                    [namedNode 14 1 .stringLiteral "\"./p\"" [] []]]]]]]]]]⟩

/-- A lazy component makes a component of the variable even when it is not the value of the
variable: behind the parentheses the value is the error, and the component has nothing but
parentheses above. -/
theorem page_not_initialized_lazily :
    strayPage.kind = .program ∧ "Page" ∈ (Census.empty.visit strayPage).components ∧
      ¬ ComesFrom InitializedLazily strayPage (Census.empty.visit strayPage) "Page" ∧
      ¬ Provenance InitializedLazily strayPage (Census.empty.visit strayPage) := by
  have hcomponent : "Page" ∈ (Census.empty.visit strayPage).components := by
    have hcomponents : (Census.empty.visit strayPage).components = ["Page"] := by cbv
    exact hcomponents ▸ List.mem_singleton_self _
  have hall : ((visitOrder (Site.root strayPage)).all fun site =>
      site.node.kind ≠ .importStatement && !site.node.kind.isMember && !isTag site.node.kind &&
        (site.node.field? .value).all fun value => !(lazyImport? value).isSome) = true := by cbv
  -- no site of the tree has a kind that one of the other roles asks for
  have hsites : ∀ site ∈ visitOrder (Site.root strayPage), site.node.kind ≠ .importStatement ∧
      site.node.kind.isMember = false ∧ isTag site.node.kind = false ∧
        ¬ InitializedLazily site := by
    intro site hsite
    have hsite := List.all_eq_true.mp hall site hsite
    simp only [Bool.and_eq_true, decide_eq_true_eq, Bool.not_eq_true'] at hsite
    obtain ⟨⟨⟨himport, hmember⟩, htag⟩, hvalue⟩ := hsite
    refine ⟨himport, hmember, htag, ?_⟩
    rintro ⟨call, hcall, hlazy⟩
    rw [hcall, Option.all_some, hlazy] at hvalue
    cases hvalue
  have hassignments : (Census.empty.visit strayPage).findings.assignments.keys = [] := by cbv
  have hdestructurings : (Census.empty.visit strayPage).findings.destructurings = [] := by cbv
  have hcontexts : (Census.empty.visit strayPage).findings.contexts = [] := by cbv
  have hnone : ¬ ComesFrom InitializedLazily strayPage (Census.empty.visit strayPage) "Page" := by
    generalize "Page" = name
    intro hfrom
    cases hfrom with
    | imported hsite hkind hbinds => exact (hsites _ hsite).1 hkind
    | assigned hname => exact List.not_mem_nil (hassignments ▸ hname)
    | property hrecord => exact List.not_mem_nil (hdestructurings ▸ hrecord)
    | localName hrecord hname => exact List.not_mem_nil (hdestructurings ▸ hrecord)
    | contextValue hrecord hname => exact List.not_mem_nil (hcontexts ▸ hrecord)
    | lazyVariable hsite hkind hlazily hname => exact (hsites _ hsite).2.2.2 hlazily
    | member hsite hkind hparts hobject hspace =>
        exact Bool.false_ne_true ((hsites _ hsite).2.1.symm.trans hkind)
    | tag hsite hkind hname hparts hspace =>
        exact Bool.false_ne_true ((hsites _ hsite).2.2.1.symm.trans hkind)
  exact ⟨rfl, hcomponent, hnone, fun hprovenance => hnone (hprovenance.components _ hcomponent)⟩

end ComponentCensus.Usage
