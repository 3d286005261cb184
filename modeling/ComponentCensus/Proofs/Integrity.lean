import ComponentCensus.Proofs.Edits

/-!
# Referential integrity of the census

The ledgers of a census refer to each other and to its names by name only.  `Integrity` says which
of these references never dangle: whatever a ledger calls a component is among the components, a
namespace goes back to an import or an assignment, a looked-up mapping is a mapping, and an import
under another name has its entry among the named ones.

## Main results

* `integrity_of_reachable` : no reference dangles in any census that visits lead to.

## Strategy

* Names are only ever added, so an edit keeps what it does not write.
* Each edit is read in the order in which nothing dangles: first the names
  (`Integrity.addComponent`, `Integrity.addNamespace`, `Integrity.addMapping`), then the record
  that refers to them.
* The invariant is settled by one case for each kind of edit (`Integrity.edit`), and what the edit
  carries along is what the record needs.
-/

namespace ComponentCensus.Usage

open ComponentCensus.Syntax

/-- No reference of a ledger dangles. -/
structure Integrity (census : Census) : Prop where
  defaultImport_known : ∀ record ∈ census.findings.defaultImports, record.name ∈ census.components
  alias_known : ∀ name ∈ census.findings.aliasedImports.keys, name ∈ census.components
  assignment_known : ∀ name ∈ census.findings.assignments.keys, name ∈ census.components
  property_known : ∀ taken ∈ census.findings.destructurings, taken.property ∈ census.components
  local_known : ∀ taken ∈ census.findings.destructurings, ∀ name ∈ taken.localName,
    name ∈ census.components
  contextRead_known : ∀ read ∈ census.findings.contexts, ∀ name ∈ read.properties,
    name ∈ census.components
  objectEntry_known : ∀ object ∈ census.findings.objects, ∀ entry ∈ object.entries,
    entry.component ∈ census.components
  wrapping_known : ∀ wrapping ∈ census.findings.wrappings, wrapping.component ∈ census.components
  memo_known : ∀ memo ∈ census.findings.memos, memo.component ∈ census.components
  array_known : ∀ array ∈ census.findings.arrays, ∃ name ∈ array.components,
    name ∈ census.components
  choice_known : ∀ choice ∈ census.findings.choices,
    choice.consequent ∈ census.components ∨ choice.alternate ∈ census.components
  object_nonempty : ∀ object ∈ census.findings.objects, object.entries ≠ []
  source_namespace : ∀ taken ∈ census.findings.destructurings, taken.source ∈ census.namespaces
  namespaceImport_known : ∀ record ∈ census.findings.namespaceImports,
    record.name ∈ census.namespaces
  namespace_origin : ∀ name ∈ census.namespaces,
    (∃ record ∈ census.findings.namespaceImports, record.name = name) ∨
      name ∈ census.findings.assignments.keys
  lookup_mapping : ∀ lookup ∈ census.findings.lookups, lookup.mapping ∈ census.mappings
  holder_mapping : ∀ object ∈ census.findings.objects, ∀ name ∈ object.holder,
    name ∈ census.mappings
  alias_local : ∀ entry ∈ census.findings.aliasedImports, entry.2.localName = entry.1
  alias_renames : ∀ entry ∈ census.findings.aliasedImports, entry.2.imported ≠ entry.2.localName
  alias_imported : ∀ entry ∈ census.findings.aliasedImports,
    ⟨entry.2.imported, entry.2.source, entry.2.line⟩ ∈ census.findings.namedImports

theorem forall_mem_concat {α : Type} {p : α → Prop} {items : List α} {item : α}
    (hitems : ∀ x ∈ items, p x) (hitem : p item) : ∀ x ∈ items ++ [item], p x := by
  intro x hx
  rcases List.mem_append.mp hx with hx | hx
  · exact hitems x hx
  · rw [List.mem_singleton.mp hx]
    exact hitem

namespace Integrity

variable {census : Census}

theorem empty : Integrity {} := by
  constructor <;> simp [Entries.keys]

/-! ## Adding names -/

theorem addComponent (hcensus : Integrity census) (name : String) :
    Integrity (census.addComponent name) := by
  -- a larger list of components has whatever is referred to
  have hgrow : ∀ {other}, other ∈ census.components →
      other ∈ (census.addComponent name).components := fun hother => by simp [hother]
  exact
    { hcensus with
      defaultImport_known := fun record hrecord =>
        hgrow (hcensus.defaultImport_known record hrecord)
      alias_known := fun other hother => hgrow (hcensus.alias_known other hother)
      assignment_known := fun other hother => hgrow (hcensus.assignment_known other hother)
      property_known := fun taken htaken => hgrow (hcensus.property_known taken htaken)
      local_known := fun taken htaken other hother =>
        hgrow (hcensus.local_known taken htaken other hother)
      contextRead_known := fun read hread other hother =>
        hgrow (hcensus.contextRead_known read hread other hother)
      objectEntry_known := fun object hobject entry hentry =>
        hgrow (hcensus.objectEntry_known object hobject entry hentry)
      wrapping_known := fun wrapping hwrapping => hgrow (hcensus.wrapping_known wrapping hwrapping)
      memo_known := fun memo hmemo => hgrow (hcensus.memo_known memo hmemo)
      array_known := fun array harray => by
        obtain ⟨other, hlisted, hother⟩ := hcensus.array_known array harray
        exact ⟨other, hlisted, hgrow hother⟩
      choice_known := fun choice hchoice => (hcensus.choice_known choice hchoice).imp hgrow hgrow }

theorem addComponents (hcensus : Integrity census) (names : List String) :
    Integrity (census.addComponents names) := by
  induction names generalizing census with
  | nil => exact hcensus
  | cons name rest ih => exact ih (hcensus.addComponent name)

/-- A namespace may be added when it goes back to an import or an assignment. -/
theorem addNamespace (hcensus : Integrity census) {name : String}
    (horigin : (∃ record ∈ census.findings.namespaceImports, record.name = name) ∨
      name ∈ census.findings.assignments.keys) : Integrity (census.addNamespace name) := by
  have hgrow : ∀ {other}, other ∈ census.namespaces →
      other ∈ (census.addNamespace name).namespaces := fun hother => by simp [hother]
  exact
    { hcensus with
      source_namespace := fun taken htaken => hgrow (hcensus.source_namespace taken htaken)
      namespaceImport_known := fun record hrecord =>
        hgrow (hcensus.namespaceImport_known record hrecord)
      namespace_origin := fun other hother => by
        rcases mem_addName.mp hother with hother | rfl
        · exact hcensus.namespace_origin other hother
        · exact horigin }

theorem addMapping (hcensus : Integrity census) (holder : Option String) :
    Integrity (census.addMapping holder) := by
  cases holder with
  | none => exact hcensus
  | some name =>
      have hgrow : ∀ {other}, other ∈ census.mappings →
          other ∈ (census.addMapping (some name)).mappings := fun hother => by simp [hother]
      exact
        { hcensus with
          lookup_mapping := fun lookup hlookup => hgrow (hcensus.lookup_mapping lookup hlookup)
          holder_mapping := fun object hobject other hother =>
            hgrow (hcensus.holder_mapping object hobject other hother) }

/-! ## Writing records -/

theorem bindDefault (hcensus : Integrity census) (source : String) (line : Nat) (name : String) :
    Integrity (census.bindDefault source line name) := by
  have hnamed := hcensus.addComponent name
  exact
    { hnamed with
      defaultImport_known :=
        forall_mem_concat hnamed.defaultImport_known (by simp [Census.bindDefault]) }

theorem bindNamespace (hcensus : Integrity census) (source : String) (line : Nat)
    (name : String) : Integrity (census.bindNamespace source line name) := by
  -- the import and the namespace refer to each other, so neither can come first
  have hgrow : ∀ {other}, other ∈ census.namespaces →
      other ∈ (census.bindNamespace source line name).namespaces := fun hother => by
    simp [Census.bindNamespace, hother]
  exact
    { hcensus with
      source_namespace := fun taken htaken => hgrow (hcensus.source_namespace taken htaken)
      namespaceImport_known :=
        forall_mem_concat
          (fun record hrecord => hgrow (hcensus.namespaceImport_known record hrecord))
          (by simp [Census.bindNamespace])
      namespace_origin := by
        intro other hother
        rcases mem_addName.mp hother with hother | rfl
        · rcases hcensus.namespace_origin other hother with ⟨record, hrecord, hname⟩ | hassigned
          · exact Or.inl ⟨record, List.mem_append_left _ hrecord, hname⟩
          · exact Or.inr hassigned
        · refine Or.inl ⟨⟨other, source, line⟩, ?_, rfl⟩
          exact List.mem_append_right _ (List.mem_singleton_self _) }

/-- Listing a named import does not disturb anything. -/
theorem addNamedImport (hcensus : Integrity census) (record : ImportRecord) :
    Integrity (census.record fun f => { f with namedImports := f.namedImports ++ [record] }) :=
  { hcensus with
    alias_imported := fun entry hentry =>
      List.mem_append_left _ (hcensus.alias_imported entry hentry) }

/-- A renamed import may be listed when its local name is a component and the import itself is among
the named ones. -/
theorem addAlias (hcensus : Integrity census) (renamed : AliasedImport)
    (hlocal : renamed.localName ∈ census.components)
    (hrenames : renamed.imported ≠ renamed.localName)
    (himported : ⟨renamed.imported, renamed.source, renamed.line⟩ ∈ census.findings.namedImports) :
    Integrity (census.record fun f =>
      { f with aliasedImports := f.aliasedImports.put renamed.localName renamed }) :=
  { hcensus with
    alias_known := by
      intro other hother
      rcases Entries.mem_keys_put.mp hother with hother | rfl
      · exact hcensus.alias_known other hother
      · exact hlocal
    alias_local := by
      intro entry hentry
      rcases Entries.mem_of_mem_put hentry with rfl | hentry
      · rfl
      · exact hcensus.alias_local entry hentry
    alias_renames := by
      intro entry hentry
      rcases Entries.mem_of_mem_put hentry with rfl | hentry
      · exact hrenames
      · exact hcensus.alias_renames entry hentry
    alias_imported := by
      intro entry hentry
      rcases Entries.mem_of_mem_put hentry with rfl | hentry
      · exact himported
      · exact hcensus.alias_imported entry hentry }

theorem bindNamed (hcensus : Integrity census) (source : String) (line : Nat)
    (imported localName : String) :
    Integrity (census.bindNamed source line imported localName) := by
  have hlisted := (hcensus.addComponent localName).addNamedImport ⟨imported, source, line⟩
  unfold Census.bindNamed
  dsimp only
  split
  · exact hlisted
  · next hrenames =>
    exact hlisted.addAlias ⟨imported, localName, source, line⟩ (by simp) (Ne.symm hrenames)
      (by simp)

theorem assign (hcensus : Integrity census) (variableName : String) (assignment : Assignment) :
    Integrity ((census.record fun f =>
      { f with assignments := f.assignments.put variableName assignment }).addComponent
        variableName) := by
  have hnamed := hcensus.addComponent variableName
  exact
    { hnamed with
      assignment_known := by
        intro other hother
        rcases Entries.mem_keys_put.mp hother with hother | rfl
        · exact hnamed.assignment_known other hother
        · simp
      namespace_origin := by
        intro other hother
        refine (hcensus.namespace_origin other hother).imp_right fun hassigned => ?_
        exact Entries.mem_keys_put.mpr (Or.inl hassigned) }

theorem noteProperty (hcensus : Integrity census) {space : String} (line : Nat)
    (binding : String × String) (hspace : space ∈ census.namespaces) :
    Integrity (Census.noteProperty space line census binding) := by
  obtain ⟨property, localName⟩ := binding
  have hnamed := (hcensus.addComponent property).addComponent localName
  exact
    { hnamed with
      property_known := forall_mem_concat hnamed.property_known (by simp [Census.noteProperty])
      local_known := by
        refine forall_mem_concat hnamed.local_known ?_
        intro other hother
        split at hother
        · cases hother
        · cases hother
          simp [Census.noteProperty]
      source_namespace := forall_mem_concat hnamed.source_namespace hspace }

theorem noteContext (hcensus : Integrity census) (line : Nat) (context : Node)
    (bindings : List (String × String)) :
    Integrity (census.noteContext line context bindings) := by
  have hnamed := hcensus.addComponents (bindings.map (·.2))
  unfold Census.noteContext
  rw [Census.addComponents_eq] at hnamed ⊢
  exact
    { hnamed with
      contextRead_known := by
        refine forall_mem_concat hnamed.contextRead_known ?_
        intro other hother
        exact mem_foldl_addName.mpr (Or.inr hother) }

theorem object (hcensus : Integrity census) (object : ObjectMapping)
    (hnonempty : object.entries ≠ [])
    (hlisted : ∀ entry ∈ object.entries, entry.component ∈ census.components) :
    Integrity ((census.record fun f => { f with objects := f.objects ++ [object] }).addMapping
      object.holder) := by
  have hnamed := hcensus.addMapping object.holder
  rw [Census.record_addMapping]
  exact
    { hnamed with
      objectEntry_known := forall_mem_concat hnamed.objectEntry_known (by simpa using hlisted)
      object_nonempty := forall_mem_concat hnamed.object_nonempty hnonempty
      holder_mapping := forall_mem_concat hnamed.holder_mapping fun other hother => by simp_all }

/-- Every edit keeps integrity. -/
theorem edit {next : Census} (hedit : Edit census next) (hcensus : Integrity census) :
    Integrity next := by
  cases hedit with
  | bindDefault source line name => exact hcensus.bindDefault source line name
  | bindNamespace source line name => exact hcensus.bindNamespace source line name
  | bindNamed source line imported localName =>
      exact hcensus.bindNamed source line imported localName
  | assign variableName assignment => exact hcensus.assign variableName assignment
  | aliasNamespace hassigned => exact hcensus.addNamespace (Or.inr hassigned)
  | noteProperty line binding hspace => exact hcensus.noteProperty line binding hspace
  | noteContext line context bindings => exact hcensus.noteContext line context bindings
  | array array holder hlisted =>
      have hnamed := hcensus.addMapping holder
      rw [Census.record_addMapping]
      exact
        { hnamed with
          array_known := forall_mem_concat hnamed.array_known (by simpa using hlisted) }
  | object object hnonempty hlisted => exact hcensus.object object hnonempty hlisted
  | lookup lookup hmapping =>
      exact { hcensus with lookup_mapping := forall_mem_concat hcensus.lookup_mapping hmapping }
  | choice choice hlisted =>
      exact { hcensus with choice_known := forall_mem_concat hcensus.choice_known hlisted }
  | lazyImport lazyImport => exact { hcensus with }
  | dynamicImport dynamicImport => exact { hcensus with }
  | wrapping wrapping hcomponent =>
      exact { hcensus with wrapping_known := forall_mem_concat hcensus.wrapping_known hcomponent }
  | memo memo hcomponent =>
      exact { hcensus with memo_known := forall_mem_concat hcensus.memo_known hcomponent }
  | forwardedRef line => exact { hcensus with }
  | portal line => exact { hcensus with }
  | promote name => exact hcensus.addComponent name

/-- Every step keeps integrity: a rendering refers to no other ledger. -/
theorem step {next : Census} (hstep : Step census next) (hcensus : Integrity census) :
    Integrity next := by
  cases hstep with
  | edit hedit => exact hcensus.edit hedit
  | render name opening hrenders => exact { hcensus with }

end Integrity

/-- **Referential integrity.**  No reference dangles in a census that visits lead to. -/
theorem integrity_of_reachable {census : Census} (hcensus : Reachable census) :
    Integrity census :=
  hcensus.induction_on_steps Integrity.empty fun _ _ hstep hkept => hkept.step hstep

/-- `import { A as B } from "m"` and `const C = B` below it. -/
def renamedAndAssigned : Node :=
  namedNode 0 1 .program "import { A as B } from \"m\"\nconst C = B" []
    [namedNode 1 1 .importStatement "import { A as B } from \"m\"" []
      [namedNode 2 1 .importClause "{ A as B }" []
        [namedNode 3 1 .namedImports "{ A as B }" []
          [namedNode 4 1 .importSpecifier "A as B" []
            [namedNode 5 1 .identifier "A" [.name] [], namedNode 6 1 .identifier "B" [.alias] []]]],
       namedNode 7 1 .stringLiteral "\"m\"" [.source] []],
     namedNode 8 2 .lexicalDeclaration "const C = B" []
      [namedNode 9 2 .variableDeclarator "C = B" []
        [namedNode 10 2 .identifier "C" [.name] [], namedNode 11 2 .identifier "B" [.value] []]]]

/-- The renamed import and the variable bound to it are components, and the import is listed. -/
theorem integrity_of_renamedAndAssigned :
    Reachable (Census.empty.visit renamedAndAssigned) ∧
      (Census.empty.visit renamedAndAssigned).findings.aliasedImports =
        [("B", ⟨"A", "B", "m", 1⟩)] ∧
      "B" ∈ (Census.empty.visit renamedAndAssigned).components ∧
      ⟨"A", "m", 1⟩ ∈ (Census.empty.visit renamedAndAssigned).findings.namedImports ∧
      "C" ∈ (Census.empty.visit renamedAndAssigned).components := by
  have hreachable : Reachable (Census.empty.visit renamedAndAssigned) := .visit .empty [] _
  have hintegrity := integrity_of_reachable hreachable
  have hrenamed : (Census.empty.visit renamedAndAssigned).findings.aliasedImports =
      [("B", ⟨"A", "B", "m", 1⟩)] := by cbv
  have hassigned : (Census.empty.visit renamedAndAssigned).findings.assignments.keys = ["C"] := by
    cbv
  refine ⟨hreachable, hrenamed, hintegrity.alias_known "B" ?_,
    hintegrity.alias_imported ("B", ⟨"A", "B", "m", 1⟩) ?_, hintegrity.assignment_known "C" ?_⟩
  · simp [hrenamed, Entries.keys]
  · simp [hrenamed]
  · simp [hassigned]

end ComponentCensus.Usage
