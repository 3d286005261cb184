import ComponentCensus.Proofs.Edits

/-!
# What each visit writes

A visit writes to the ledgers of its own kind and to the known names, and leaves the other ledgers
as they are.  For import statements, declarations, tags and collections this is a relation between
the census before and the one after (`ImportsWritten`, `VariablesWritten`, `ElementsWritten`,
`CollectionsWritten`), since they write to several ledgers; for everything else it is an equation.

## Main results

* `visit_visitSite` : a visit to a site writes in one of six ways (`Visit`).

## Strategy

* Each relation says that the census after is the one before with some of its parts written anew.
  A ledger that a visit does not write is then read off by rewriting, and the functions that note
  things need not be opened again.
* The relations are kept by folds, since they are reflexive and transitive.
* The visit to a site chooses among the notes by the kind of the site.  Which ones it may choose is
  said once, so that a proof about all sites has six cases, one for each way of writing.
-/

namespace ComponentCensus.Usage

open ComponentCensus.Syntax

variable {census next last : Census}

/-! ## Relations between two censuses -/

/-- Only names and the four ledgers of imports were written. -/
def ImportsWritten (census next : Census) : Prop :=
  ∃ components namespaces defaultImports namedImports namespaceImports aliasedImports,
    next =
      { census with
        components, namespaces
        findings :=
          { census.findings with
            defaultImports, namedImports, namespaceImports, aliasedImports } }

/-- Only names and the three ledgers of variables were written. -/
def VariablesWritten (census next : Census) : Prop :=
  ∃ components namespaces assignments destructurings contexts,
    next =
      { census with
        components, namespaces
        findings := { census.findings with assignments, destructurings, contexts } }

/-- Only components, renderings and attributes were written. -/
def ElementsWritten (census next : Census) : Prop :=
  ∃ components renderings props,
    next = { census with components, findings := { census.findings with renderings, props } }

/-- Only collections, choices and the names of mappings were written. -/
def CollectionsWritten (census next : Census) : Prop :=
  ∃ mappings arrays objects lookups choices,
    next =
      { census with
        mappings
        findings := { census.findings with arrays, objects, lookups, choices } }

namespace ImportsWritten

theorem refl (census : Census) : ImportsWritten census census :=
  ⟨_, _, _, _, _, _, rfl⟩

theorem trans (hfirst : ImportsWritten census next) (hsecond : ImportsWritten next last) :
    ImportsWritten census last := by
  obtain ⟨_, _, _, _, _, _, rfl⟩ := hfirst
  obtain ⟨_, _, _, _, _, _, rfl⟩ := hsecond
  exact ⟨_, _, _, _, _, _, rfl⟩

end ImportsWritten

namespace VariablesWritten

theorem refl (census : Census) : VariablesWritten census census :=
  ⟨_, _, _, _, _, rfl⟩

theorem trans (hfirst : VariablesWritten census next) (hsecond : VariablesWritten next last) :
    VariablesWritten census last := by
  obtain ⟨_, _, _, _, _, rfl⟩ := hfirst
  obtain ⟨_, _, _, _, _, rfl⟩ := hsecond
  exact ⟨_, _, _, _, _, rfl⟩

end VariablesWritten

namespace Census

/-! ## Import statements -/

theorem bindNamed_written (census : Census) (source : String) (line : Nat)
    (imported localName : String) :
    ImportsWritten census (census.bindNamed source line imported localName) := by
  unfold bindNamed
  dsimp only
  split <;> exact ⟨_, _, _, _, _, _, rfl⟩

theorem bindSpecifier_written (source : String) (line : Nat) (census : Census)
    (specifier : Node) : ImportsWritten census (bindSpecifier source line census specifier) := by
  unfold bindSpecifier
  split
  · split
    · exact .refl census
    · exact bindNamed_written ..
  · exact .refl census

theorem bindPart_written (source : String) (line : Nat) (census : Census) (part : Node) :
    ImportsWritten census (bindPart source line census part) := by
  unfold bindPart
  split
  · exact ⟨_, _, _, _, _, _, rfl⟩
  · split
    · exact ⟨_, _, _, _, _, _, rfl⟩
    · exact .refl census
  · exact List.foldlRecOn _ _ (.refl census) fun _ hwritten specifier _ =>
      hwritten.trans (bindSpecifier_written source line _ specifier)
  · exact .refl census

theorem bindClause_written (source : Option String) (line : Nat) (census : Census)
    (clause : Node) : ImportsWritten census (bindClause source line census clause) := by
  unfold bindClause
  split
  · split
    · exact ⟨_, _, _, _, _, _, rfl⟩
    · exact .refl census
  · exact List.foldlRecOn _ _ (.refl census) fun _ hwritten part _ =>
      hwritten.trans (bindPart_written _ line _ part)
  · exact .refl census

theorem noteImport_written (census : Census) (statement : Node) :
    ImportsWritten census (census.noteImport statement) :=
  List.foldlRecOn _ _ (.refl census) fun _ hwritten clause _ =>
    hwritten.trans (bindClause_written _ statement.line _ clause)

/-! ## Declarations -/

theorem noteAlias_written (census : Census) (line : Nat) (variableName : String) (value : Node) :
    VariablesWritten census (census.noteAlias line variableName value) := by
  unfold noteAlias
  split
  · split
    · exact .refl census
    · dsimp only
      split <;> exact ⟨_, _, _, _, _, rfl⟩
  · exact .refl census

theorem noteContext_written (census : Census) (line : Nat) (context : Node)
    (bindings : List (String × String)) :
    VariablesWritten census (census.noteContext line context bindings) := by
  unfold noteContext
  dsimp only
  rw [addComponents_eq]
  exact ⟨_, _, _, _, _, rfl⟩

theorem notePattern_written (census : Census) (line : Nat) (pattern value : Node) :
    VariablesWritten census (census.notePattern line pattern value) := by
  unfold notePattern
  split
  · exact List.foldlRecOn _ _ (.refl census) fun _ hwritten _ _ =>
      hwritten.trans ⟨_, _, _, _, _, rfl⟩
  · split
    · split
      · exact noteContext_written ..
      · exact .refl census
    · exact .refl census

theorem noteDeclarator_written (census : Census) (declarator : Node) :
    VariablesWritten census (census.noteDeclarator declarator) := by
  unfold noteDeclarator
  split
  · split
    · split
      · exact noteAlias_written ..
      · exact notePattern_written ..
      · exact .refl census
    · exact .refl census
  · exact .refl census

theorem noteDeclaration_written (census : Census) (declaration : Node) :
    VariablesWritten census (census.noteDeclaration declaration) :=
  List.foldlRecOn _ _ (.refl census) fun _ hwritten declarator _ =>
    hwritten.trans (noteDeclarator_written _ declarator)

/-! ## Elements and members -/

theorem promoteMember_written (census : Census) (name : String) :
    ∃ components, census.promoteMember name = { census with components } := by
  unfold promoteMember
  dsimp only
  split <;> exact ⟨_, rfl⟩

theorem noteElement_written (census : Census) (opening : Site) :
    ElementsWritten census (census.noteElement opening) := by
  unfold noteElement
  split
  · exact ⟨_, _, _, rfl⟩
  · next name _ =>
    split
    · obtain ⟨_, hpromoted⟩ := promoteMember_written (census.addRendering name
        ⟨opening.node.line, elementContext opening⟩ (propsOf opening.node)) name
      rw [hpromoted]
      exact ⟨_, _, _, rfl⟩
    · exact ⟨_, _, _, rfl⟩

theorem noteMember_written (census : Census) (member : Node) :
    ∃ components, census.noteMember member = { census with components } := by
  unfold noteMember
  split
  · exact ⟨_, rfl⟩
  · split
    · split <;> exact ⟨_, rfl⟩
    · exact ⟨_, rfl⟩

/-! ## Collections and choices -/

theorem addMapping_written (census : Census) (holder : Option String) :
    ∃ mappings, census.addMapping holder = { census with mappings } := by
  cases holder <;> exact ⟨_, rfl⟩

theorem noteArray_written (census : Census) (site : Site) :
    ∃ mappings arrays, census.noteArray site =
      { census with mappings, findings := { census.findings with arrays } } := by
  unfold noteArray
  dsimp only
  split
  · rw [record_addMapping]
    obtain ⟨_, hadded⟩ := addMapping_written census (mappingVariable? site)
    rw [hadded]
    exact ⟨_, _, rfl⟩
  · exact ⟨_, _, rfl⟩

theorem noteObject_written (census : Census) (site : Site) :
    ∃ mappings objects, census.noteObject site =
      { census with mappings, findings := { census.findings with objects } } := by
  unfold noteObject
  split
  · exact ⟨_, _, rfl⟩
  · dsimp only
    rw [record_addMapping]
    obtain ⟨_, hadded⟩ := addMapping_written census (mappingVariable? site)
    rw [hadded]
    exact ⟨_, _, rfl⟩

theorem noteSubscript_written (census : Census) (subscript : Node) :
    ∃ lookups, census.noteSubscript subscript =
      { census with findings := { census.findings with lookups } } := by
  unfold noteSubscript
  split
  · split <;> exact ⟨_, rfl⟩
  · exact ⟨_, rfl⟩

theorem noteChoice_written (census : Census) (choice : Node) :
    ∃ choices, census.noteChoice choice =
      { census with findings := { census.findings with choices } } := by
  unfold noteChoice
  dsimp only
  split <;> exact ⟨_, rfl⟩

/-! ## Calls -/

theorem noteLazy_written (census : Census) (site : Site) (module : String) :
    ∃ components, census.noteLazy site module =
      { census with
        components
        findings :=
          { census.findings with
            lazyImports := census.findings.lazyImports ++ [⟨module, site.node.line⟩] } } := by
  unfold noteLazy
  dsimp only
  split
  · split
    · split <;> exact ⟨_, rfl⟩
    · exact ⟨_, rfl⟩
  · exact ⟨_, rfl⟩

theorem noteDynamicImport_written (census : Census) (call : Node) :
    ∃ dynamicImports, census.noteDynamicImport call =
      { census with findings := { census.findings with dynamicImports } } := by
  unfold noteDynamicImport
  split <;> exact ⟨_, rfl⟩

theorem noteWrapping_written (census : Census) (call : Node) :
    ∃ wrappings, census.noteWrapping call =
      { census with findings := { census.findings with wrappings } } := by
  unfold noteWrapping
  split
  · split
    · split <;> exact ⟨_, rfl⟩
    · exact ⟨_, rfl⟩
  · exact ⟨_, rfl⟩

theorem noteLibraryCall_written (census : Census) (call : Node) :
    ∃ memos forwardedRefs portals, census.noteLibraryCall call =
      { census with findings := { census.findings with memos, forwardedRefs, portals } } := by
  unfold noteLibraryCall
  split
  · split
    · split <;> exact ⟨_, _, _, rfl⟩
    · exact ⟨_, _, _, rfl⟩
  · exact ⟨_, _, _, rfl⟩
  · exact ⟨_, _, _, rfl⟩
  · exact ⟨_, _, _, rfl⟩

end Census

/-! ## Sites -/

namespace Progress

/-- What the visit to a site may make of the progress so far. -/
inductive Visit (progress : Progress) (site : Site) : Progress → Prop
  | statement (hkind : site.node.kind = .importStatement) :
      Visit progress site (progress.update (·.noteImport site.node))
  | declaration : Visit progress site (progress.update (·.noteDeclaration site.node))
  | tag (hkind : isTag site.node.kind = true) :
      Visit progress site (progress.update (·.noteElement site))
  | call (hkind : site.node.kind = .callExpression) : Visit progress site (progress.visitCall site)
  | member (hkind : site.node.kind.isMember = true) :
      Visit progress site (progress.update (·.noteMember site.node))
  | collection {change : Census → Census}
      (hwritten : CollectionsWritten progress.census (change progress.census)) :
      Visit progress site (progress.update change)

/-- Every visit is one of these. -/
theorem visit_visitSite (progress : Progress) (site : Site) :
    Visit progress site (progress.visitSite site) := by
  unfold visitSite
  split
  · next hkind => exact .statement hkind
  · exact .declaration
  · exact .declaration
  · next hkind => exact .tag (by rw [hkind]; rfl)
  · next hkind => exact .tag (by rw [hkind]; rfl)
  · next hkind => exact .call hkind
  · obtain ⟨_, _, hwritten⟩ := progress.census.noteArray_written site
    exact .collection ⟨_, _, _, _, _, hwritten⟩
  · obtain ⟨_, _, hwritten⟩ := progress.census.noteObject_written site
    exact .collection ⟨_, _, _, _, _, hwritten⟩
  · obtain ⟨_, hwritten⟩ := progress.census.noteChoice_written site.node
    exact .collection ⟨_, _, _, _, _, hwritten⟩
  · next hkind => exact .member (by rw [hkind]; rfl)
  · next hkind => exact .member (by rw [hkind]; rfl)
  · obtain ⟨_, hwritten⟩ := progress.census.noteSubscript_written site.node
    exact .collection ⟨_, _, _, _, _, hwritten⟩
  · exact @Visit.collection progress site id ⟨_, _, _, _, _, rfl⟩

end Progress

end ComponentCensus.Usage
