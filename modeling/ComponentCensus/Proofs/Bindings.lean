import ComponentCensus.Proofs.AddedImports
import ComponentCensus.Proofs.ImportedNames
import ComponentCensus.Proofs.Writes

/-!
# The bindings behind the ledgers of imports

An import statement binds local names, one specifier after the other.  The census does not keep the
bindings as they are: a named import is listed under the name that its module exports, and a second
table, by local name, tells which of them were renamed.

Here the bindings of a statement are listed as such (`importBindings`).  The ledgers follow from
them, but not the other way round: of two bindings with one local name the table of renamings keeps
the later one only.

## Main results

* `noteImport_eq_foldl` : noting a statement is noting its bindings in order.
* `importLedgers_visit` : the ledgers of a visit are determined by the bindings of all visited
  statements, those at the top of the program first, then those further inside.

## Strategy

* What a binding adds to the four ledgers is told by four readings of it, of which each gives an
  entry or none (`ImportLedgers.add`), so that the ledgers of a list of bindings have a closed form
  (`ImportLedgers.foldl_add`).
* No visit but one to an import statement writes to the ledgers of imports
  (`importLedgers_visitSite`).  Of the other visits only what they write is used, by the cases of
  `Progress.Visit`.
* A census of a program starts with the statements at its top and comes upon the others on its
  walk, so the bindings are those of the top followed by those of the walk.
-/

namespace ComponentCensus.Usage

open ComponentCensus.Syntax

/-! ## Bindings -/

/-- What a local name is bound to: the default export of a module, all of its exports, or one of
them. -/
inductive ImportForm where
  | byDefault
  | byStar
  | byName (imported : String)
deriving DecidableEq, Repr

/-- A local name that a specifier binds. -/
structure ImportBinding where
  form : ImportForm
  localName : String
  source : String
  line : Nat
deriving DecidableEq, Repr

namespace ImportBinding

/-- The name of the export that a specifier between braces binds. -/
def imported? (binding : ImportBinding) : Option String :=
  match binding.form with
  | .byName imported => some imported
  | _ => none

/-- The entry for a default import. -/
def defaultRecord? (binding : ImportBinding) : Option ImportRecord :=
  if binding.form = .byDefault then some ⟨binding.localName, binding.source, binding.line⟩ else none

/-- The entry for all exports of a module. -/
def starRecord? (binding : ImportBinding) : Option ImportRecord :=
  if binding.form = .byStar then some ⟨binding.localName, binding.source, binding.line⟩ else none

/-- The entry for a named import. -/
def namedRecord? (binding : ImportBinding) : Option ImportRecord :=
  binding.imported?.map fun imported => ⟨imported, binding.source, binding.line⟩

/-- The entry for a named import under another name. -/
def renaming? (binding : ImportBinding) : Option AliasedImport :=
  binding.imported?.bind fun imported =>
    if imported = binding.localName then none
    else some ⟨imported, binding.localName, binding.source, binding.line⟩

end ImportBinding

/-- The binding of a specifier between braces. -/
def specifierBinding? (source : String) (line : Nat) (specifier : Node) : Option ImportBinding :=
  if specifier.kind = .importSpecifier then
    (specifier.child? .name).map fun imported =>
      { form := .byName (nameOf imported)
        localName :=
          match specifier.child? .alias with
          | some renamed => renamed.text
          | none => nameOf imported
        source := source
        line := line }
  else
    none

/-- The bindings of one part of an import clause. -/
def partBindings (source : String) (line : Nat) (part : Node) : List ImportBinding :=
  match part.kind with
  | .identifier => [⟨.byDefault, part.text, source, line⟩]
  | .namespaceImport =>
    (part.firstContent?.map fun name => ⟨.byStar, name.text, source, line⟩).toList
  | .namedImports => part.contents.filterMap (specifierBinding? source line)
  | _ => []

/-- The bindings of one clause of an import statement. -/
def clauseBindings (source : Option String) (line : Nat) (clause : Node) : List ImportBinding :=
  match clause.kind, source with
  | .importRequireClause, _ =>
    match clause.firstContent?, importSource? clause with
    | some name, some required => [⟨.byDefault, name.text, required, line⟩]
    | _, _ => []
  | .importClause, some source => clause.contents.flatMap (partBindings source line)
  | _, _ => []

/-- The bindings of an import statement. -/
def importBindings (statement : Node) : List ImportBinding :=
  statement.contents.flatMap (clauseBindings (importSource? statement) statement.line)

namespace Census

/-- Notes a binding. -/
def bindImport (census : Census) (binding : ImportBinding) : Census :=
  match binding.form with
  | .byDefault => census.bindDefault binding.source binding.line binding.localName
  | .byStar => census.bindNamespace binding.source binding.line binding.localName
  | .byName imported => census.bindNamed binding.source binding.line imported binding.localName

theorem bindSpecifier_eq (source : String) (line : Nat) (census : Census) (specifier : Node) :
    bindSpecifier source line census specifier =
      ((specifierBinding? source line specifier).toList).foldl bindImport census := by
  unfold bindSpecifier specifierBinding?
  split
  · cases specifier.child? .name <;> rfl
  · rfl

theorem bindPart_eq (source : String) (line : Nat) (census : Census) (part : Node) :
    bindPart source line census part = (partBindings source line part).foldl bindImport census := by
  unfold bindPart partBindings
  generalize part.kind = kind
  cases kind with
  | identifier => rfl
  | namespaceImport => cases part.firstContent? <;> rfl
  | namedImports =>
      rw [List.foldl_filterMap]
      refine congrArg (fun step => part.contents.foldl step census) ?_
      funext state specifier
      rw [bindSpecifier_eq]
      cases specifierBinding? source line specifier <;> rfl
  | _ => rfl

theorem bindClause_eq (source : Option String) (line : Nat) (census : Census) (clause : Node) :
    bindClause source line census clause =
      (clauseBindings source line clause).foldl bindImport census := by
  -- the parts of a clause bind one after the other, each from the same source
  have hparts : ∀ source, bindPart source line =
      fun state part => (partBindings source line part).foldl bindImport state := by
    intro source
    funext state part
    exact bindPart_eq source line state part
  unfold bindClause clauseBindings
  generalize clause.kind = kind
  cases kind with
  | importRequireClause =>
      unfold importSource?
      cases clause.firstContent? <;> cases (clause.child? .source).bind Node.stringValue? <;> rfl
  | importClause =>
      cases source with
      | none => rfl
      | some source =>
          dsimp only
          rw [List.foldl_flatMap, hparts]
  | _ => rfl

/-- Noting an import statement is noting its bindings one after the other. -/
theorem noteImport_eq_foldl (census : Census) (statement : Node) :
    census.noteImport statement = (importBindings statement).foldl bindImport census := by
  have hclauses : bindClause (importSource? statement) statement.line = fun state clause =>
      (clauseBindings (importSource? statement) statement.line clause).foldl bindImport state := by
    funext state clause
    exact bindClause_eq _ _ state clause
  unfold importBindings
  rw [List.foldl_flatMap, ← hclauses]
  rfl

end Census

/-! ## Ledgers -/

/-- The four ledgers of imports. -/
structure ImportLedgers where
  defaults : List ImportRecord := []
  named : List ImportRecord := []
  spaces : List ImportRecord := []
  renamed : Entries String AliasedImport := []

/-- The ledgers of imports among the findings. -/
def Findings.importLedgers (f : Findings) : ImportLedgers :=
  ⟨f.defaultImports, f.namedImports, f.namespaceImports, f.aliasedImports⟩

/-- Writes a renamed import under its local name. -/
def putRenamed (table : Entries String AliasedImport) (item : AliasedImport) :
    Entries String AliasedImport :=
  table.put item.localName item

namespace ImportLedgers

/-- Writes a binding to the ledgers. -/
def add (ledgers : ImportLedgers) (binding : ImportBinding) : ImportLedgers where
  defaults := ledgers.defaults ++ binding.defaultRecord?.toList
  named := ledgers.named ++ binding.namedRecord?.toList
  spaces := ledgers.spaces ++ binding.starRecord?.toList
  renamed := binding.renaming?.toList.foldl putRenamed ledgers.renamed

/-- What a list of bindings leaves in each ledger. -/
theorem foldl_add (ledgers : ImportLedgers) (bindings : List ImportBinding) :
    bindings.foldl add ledgers =
      { defaults := ledgers.defaults ++ bindings.filterMap (·.defaultRecord?)
        named := ledgers.named ++ bindings.filterMap (·.namedRecord?)
        spaces := ledgers.spaces ++ bindings.filterMap (·.starRecord?)
        renamed := (bindings.filterMap (·.renaming?)).foldl putRenamed ledgers.renamed } := by
  induction bindings generalizing ledgers with
  | nil => simp
  | cons binding rest ih =>
      have hsplit : ∀ {α : Type} (read : ImportBinding → Option α),
          (binding :: rest).filterMap read = (read binding).toList ++ rest.filterMap read := by
        intro α read
        rw [List.filterMap_cons]
        cases read binding <;> rfl
      rw [List.foldl_cons, ih]
      simp only [add, hsplit, List.append_assoc, List.foldl_append]

end ImportLedgers

theorem importLedgers_bindImport (census : Census) (binding : ImportBinding) :
    (census.bindImport binding).findings.importLedgers =
      census.findings.importLedgers.add binding := by
  obtain ⟨form, localName, source, line⟩ := binding
  cases form with
  | byDefault =>
      simp [Census.bindImport, Census.bindDefault, Findings.importLedgers, ImportLedgers.add,
        ImportBinding.defaultRecord?, ImportBinding.starRecord?, ImportBinding.namedRecord?,
        ImportBinding.renaming?, ImportBinding.imported?]
  | byStar =>
      simp [Census.bindImport, Census.bindNamespace, Findings.importLedgers, ImportLedgers.add,
        ImportBinding.defaultRecord?, ImportBinding.starRecord?, ImportBinding.namedRecord?,
        ImportBinding.renaming?, ImportBinding.imported?]
  | byName imported =>
      -- only a renamed import is written to the table of renamings
      by_cases hplain : localName = imported
      · simp [Census.bindImport, Census.bindNamed, Findings.importLedgers, ImportLedgers.add,
          ImportBinding.defaultRecord?, ImportBinding.starRecord?, ImportBinding.namedRecord?,
          ImportBinding.renaming?, ImportBinding.imported?, hplain]
      · have hrenamed : ¬ imported = localName := fun heq => hplain heq.symm
        simp [Census.bindImport, Census.bindNamed, Findings.importLedgers, ImportLedgers.add,
          ImportBinding.defaultRecord?, ImportBinding.starRecord?, ImportBinding.namedRecord?,
          ImportBinding.renaming?, ImportBinding.imported?, hplain, hrenamed, putRenamed]

theorem importLedgers_noteImport (census : Census) (statement : Node) :
    (census.noteImport statement).findings.importLedgers =
      (importBindings statement).foldl ImportLedgers.add census.findings.importLedgers := by
  rw [Census.noteImport_eq_foldl]
  generalize importBindings statement = bindings
  induction bindings generalizing census with
  | nil => rfl
  | cons binding rest ih => rw [List.foldl_cons, ih, importLedgers_bindImport, List.foldl_cons]

/-! ## Visits -/

/-- The bindings that a visit to a site notes. -/
def siteBindings (site : Site) : List ImportBinding :=
  if site.node.kind = .importStatement then importBindings site.node else []

section Visits

variable {progress : Progress} {site : Site}

theorem importLedgers_visitCall :
    (progress.visitCall site).census.findings.importLedgers =
      progress.census.findings.importLedgers := by
  -- a lazy import is noted first, and for it the visit may end there
  have hlazy : (progress.visitLazy site).census.findings.importLedgers =
      progress.census.findings.importLedgers := by
    unfold Progress.visitLazy
    split
    · next module _ =>
      obtain ⟨_, hwritten⟩ := progress.census.noteLazy_written site module
      exact congrArg (·.findings.importLedgers) hwritten
    · rfl
  unfold Progress.visitCall
  split
  · rfl
  · rw [← hlazy]
    generalize (progress.visitLazy site) = lazily
    obtain ⟨_, hdynamic⟩ := lazily.census.noteDynamicImport_written site.node
    obtain ⟨_, hwrapping⟩ :=
      (lazily.census.noteDynamicImport site.node).noteWrapping_written site.node
    obtain ⟨_, _, _, hlibrary⟩ :=
      ((lazily.census.noteDynamicImport site.node).noteWrapping site.node).noteLibraryCall_written
        site.node
    show (((lazily.census.noteDynamicImport site.node).noteWrapping site.node).noteLibraryCall
      site.node).findings.importLedgers = _
    rw [hlibrary, hwrapping, hdynamic]
    rfl

/-- No visit but one to an import statement writes to the ledgers of imports. -/
theorem importLedgers_visitSite :
    (progress.visitSite site).census.findings.importLedgers =
      (siteBindings site).foldl ImportLedgers.add progress.census.findings.importLedgers := by
  unfold siteBindings
  by_cases hstatement : site.node.kind = .importStatement
  · rw [if_pos hstatement]
    simp only [Progress.visitSite, hstatement]
    exact importLedgers_noteImport progress.census site.node
  · rw [if_neg hstatement]
    -- every other kind of visit writes to ledgers of its own
    have hvisit := progress.visit_visitSite site
    generalize progress.visitSite site = next at hvisit ⊢
    cases hvisit with
    | statement hkind => exact absurd hkind hstatement
    | declaration =>
        obtain ⟨_, _, _, _, _, hwritten⟩ := progress.census.noteDeclaration_written site.node
        exact congrArg (·.findings.importLedgers) hwritten
    | tag =>
        obtain ⟨_, _, _, hwritten⟩ := progress.census.noteElement_written site
        exact congrArg (·.findings.importLedgers) hwritten
    | call => exact importLedgers_visitCall
    | member =>
        obtain ⟨_, hwritten⟩ := progress.census.noteMember_written site.node
        exact congrArg (·.findings.importLedgers) hwritten
    | collection hwritten =>
        obtain ⟨_, _, _, _, _, hwritten⟩ := hwritten
        exact congrArg (·.findings.importLedgers) hwritten

theorem importLedgers_foldl_visitSite (sites : List Site) :
    (sites.foldl Progress.visitSite progress).census.findings.importLedgers =
      (sites.flatMap siteBindings).foldl ImportLedgers.add
        progress.census.findings.importLedgers := by
  induction sites generalizing progress with
  | nil => rfl
  | cons site rest ih =>
      rw [List.foldl_cons, ih, importLedgers_visitSite, List.flatMap_cons, List.foldl_append]

end Visits

/-! ## Programs -/

/-- The bindings of the import statements at the top of a program. -/
def topBindings (program : Node) : List ImportBinding :=
  (importsAmong program.children).flatMap importBindings

/-- The bindings of the import statements further inside a program. -/
def nestedBindings (program : Node) : List ImportBinding :=
  (visitedAmong [] (othersAmong program.children)).flatMap siteBindings

/-- The bindings of all import statements that are visited. -/
def bindings (program : Node) : List ImportBinding :=
  topBindings program ++ nestedBindings program

/-- The ledgers of imports hold the bindings of the program. -/
theorem importLedgers_visit {program : Node} (hprogram : program.kind = .program) :
    (Census.empty.visit program).findings.importLedgers =
      (bindings program).foldl ImportLedgers.add {} := by
  have htop : ((importsAmong program.children).foldl Census.noteImport
      Census.empty).findings.importLedgers = (topBindings program).foldl ImportLedgers.add {} := by
    unfold topBindings
    -- for any census to start with, since each statement adds to those before
    have hledgers : ∀ (statements : List Node) (census : Census),
        (statements.foldl Census.noteImport census).findings.importLedgers =
          (statements.flatMap importBindings).foldl ImportLedgers.add
            census.findings.importLedgers := by
      intro statements
      induction statements with
      | nil => exact fun _ => rfl
      | cons statement rest ih =>
          intro census
          rw [List.foldl_cons, ih, importLedgers_noteImport, List.flatMap_cons, List.foldl_append]
    exact hledgers _ _
  rw [visit_program Census.empty hprogram, importLedgers_foldl_visitSite, htop, bindings,
    List.foldl_append]
  rfl

/-! ## Reading the ledgers -/

section Readings

theorem ImportBinding.renaming?_eq_some_iff {binding : ImportBinding} {item : AliasedImport} :
    binding.renaming? = some item ↔
      binding.imported? = some item.imported ∧ item.imported ≠ binding.localName ∧
        item = ⟨item.imported, binding.localName, binding.source, binding.line⟩ := by
  unfold ImportBinding.renaming?
  rw [Option.bind_eq_some_iff]
  constructor
  · rintro ⟨imported, himported, hitem⟩
    split at hitem
    · cases hitem
    · next hne =>
      cases hitem
      exact ⟨himported, hne, rfl⟩
  · rintro ⟨himported, hne, hitem⟩
    exact ⟨item.imported, himported, by rw [if_neg hne, ← hitem]⟩

/-- An entry of the table was there before, or it was written. -/
theorem mem_foldl_putRenamed {items : List AliasedImport} {table : Entries String AliasedImport}
    {entry : String × AliasedImport} (hentry : entry ∈ items.foldl putRenamed table) :
    entry ∈ table ∨ ∃ item ∈ items, entry = (item.localName, item) := by
  induction items generalizing table with
  | nil => exact Or.inl hentry
  | cons item rest ih =>
      rcases ih hentry with hput | ⟨other, hother, heq⟩
      · rcases Entries.mem_of_mem_put hput with rfl | htable
        · exact Or.inr ⟨item, List.mem_cons_self .., rfl⟩
        · exact Or.inl htable
      · exact Or.inr ⟨other, List.mem_cons_of_mem _ hother, heq⟩

theorem mem_keys_foldl_putRenamed {items : List AliasedImport}
    {table : Entries String AliasedImport} {name : String} :
    name ∈ (items.foldl putRenamed table).keys ↔
      name ∈ table.keys ∨ ∃ item ∈ items, item.localName = name := by
  induction items generalizing table with
  | nil => simp
  | cons item rest ih =>
      rw [List.foldl_cons, ih, putRenamed, Entries.mem_keys_put]
      simp only [List.exists_mem_cons_iff]
      tauto

variable {program : Node} (hprogram : program.kind = .program)
include hprogram

theorem defaultImports_visit : (Census.empty.visit program).findings.defaultImports =
    (bindings program).filterMap (·.defaultRecord?) := by
  have hledgers := congrArg ImportLedgers.defaults (importLedgers_visit hprogram)
  rwa [ImportLedgers.foldl_add] at hledgers

theorem namedImports_visit : (Census.empty.visit program).findings.namedImports =
    (bindings program).filterMap (·.namedRecord?) := by
  have hledgers := congrArg ImportLedgers.named (importLedgers_visit hprogram)
  rwa [ImportLedgers.foldl_add] at hledgers

theorem namespaceImports_visit : (Census.empty.visit program).findings.namespaceImports =
    (bindings program).filterMap (·.starRecord?) := by
  have hledgers := congrArg ImportLedgers.spaces (importLedgers_visit hprogram)
  rwa [ImportLedgers.foldl_add] at hledgers

theorem aliasedImports_visit : (Census.empty.visit program).findings.aliasedImports =
    ((bindings program).filterMap (·.renaming?)).foldl putRenamed [] := by
  have hledgers := congrArg ImportLedgers.renamed (importLedgers_visit hprogram)
  rwa [ImportLedgers.foldl_add] at hledgers

/-- Every entry of the table of renamed imports comes from a binding. -/
theorem exists_of_mem_aliasedImports {entry : String × AliasedImport}
    (hentry : entry ∈ (Census.empty.visit program).findings.aliasedImports) :
    ∃ binding ∈ bindings program, binding.renaming? = some entry.2 ∧
      entry.1 = binding.localName := by
  rw [aliasedImports_visit hprogram] at hentry
  obtain ⟨item, hitem, rfl⟩ := (mem_foldl_putRenamed hentry).resolve_left (List.not_mem_nil)
  obtain ⟨binding, hbinding, hrenaming⟩ := List.mem_filterMap.mp hitem
  have hlocal := (ImportBinding.renaming?_eq_some_iff.mp hrenaming).2.2
  exact ⟨binding, hbinding, hrenaming, congrArg (·.localName) hlocal⟩

/-- A renamed import has an entry in the table, though another import may have written it. -/
theorem exists_mem_aliasedImports {binding : ImportBinding} {item : AliasedImport}
    (hbinding : binding ∈ bindings program) (hrenaming : binding.renaming? = some item) :
    ∃ other, (binding.localName, other) ∈ (Census.empty.visit program).findings.aliasedImports := by
  have hlocal := (ImportBinding.renaming?_eq_some_iff.mp hrenaming).2.2
  have hkey : binding.localName ∈ (Census.empty.visit program).findings.aliasedImports.keys := by
    rw [aliasedImports_visit hprogram, mem_keys_foldl_putRenamed]
    exact Or.inr ⟨item, List.mem_filterMap.mpr ⟨binding, hbinding, hrenaming⟩,
      congrArg (·.localName) hlocal⟩
  obtain ⟨⟨name, other⟩, hentry, rfl⟩ := List.mem_map.mp hkey
  exact ⟨other, hentry⟩

/-- If local names are not bound twice, every renamed import has its own entry. -/
theorem mem_aliasedImports (hlocals : ((bindings program).map (·.localName)).Nodup)
    {binding : ImportBinding} {item : AliasedImport} (hbinding : binding ∈ bindings program)
    (hrenaming : binding.renaming? = some item) :
    (binding.localName, item) ∈ (Census.empty.visit program).findings.aliasedImports := by
  obtain ⟨found, hfound⟩ := exists_mem_aliasedImports hprogram hbinding hrenaming
  obtain ⟨other, hother, hrenamed, hlocal⟩ := exists_of_mem_aliasedImports hprogram hfound
  have hsame : binding = other := List.inj_on_of_nodup_map hlocals hbinding hother hlocal
  rw [hsame, hrenamed] at hrenaming
  rw [← Option.some.inj hrenaming]
  exact hfound

end Readings

end ComponentCensus.Usage
