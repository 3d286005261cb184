import ComponentCensus.Proofs.Bindings
import ComponentCensus.Proofs.Counted

/-!
# What narrowing keeps of the imports of a library

A report is narrowed to a library by the names that lead back to it.  The names that imports bind
are read off the ledgers, and the ledgers do not tell everything: they list a named import by the
name of the export, so the names of all exports that the library is also imported under another
name are taken out.

An import that is hidden in this way (`Hidden`) loses its renderings; every other import at the top
of the program keeps them, together with their attributes and with its place among the components.
There are two ways to be hidden.  A plain import is, when the same export is imported under another
name as well; and a renamed one is, when an import further inside that is none of the library has
taken over the entry of its local name.

## Main results

* `renderings_kept_of_import` : an import that is not hidden retains all that is rendered from it,
  and a hidden one nothing if no one else binds its name.
* `rendering_lost_beside_alias` : a hidden import that loses its rendering.

## Strategy

* A name is followed if the imports bind it or if it is a variable that is kept (`mem_followed`),
  and what is rendered from a name that is followed is retained (`retains_of_mem_followed`).
* The ledgers are those of the bindings of the program, so whether imports bind a name is a
  question about bindings (`mem_importedNames_of_told`).
-/

namespace ComponentCensus

/-- The first root name of what an entry of a report renders. -/
def Value.rootName? (item : Value) : Option String :=
  match item.part "component" with
  | .str component => (Report.rootNames component).head?
  | _ => none

/-- Everything that a report says about the renderings of a name is also in another one. -/
structure Report.Retains (report kept : Report) (name : String) : Prop where
  renderings : ∀ item ∈ report.bucket "usage" "jsx", item.rootName? = some name →
    item ∈ kept.bucket "usage" "jsx"
  props : ∀ item ∈ report.props, item.rootName? = some name → item ∈ kept.props
  components : Value.str name ∈ report.components → Value.str name ∈ kept.components

namespace Usage

open ComponentCensus.Syntax

/-! ## Names that are followed -/

/-- Whether a variable is bound to something that mentions one of some names. -/
def mentions (names : List String) (entry : String × Assignment) : Bool :=
  (Report.rootNames entry.2.reference).any fun name => name ∈ names

/-- The variables that lead back to some names, or to variables before them that do. -/
def keptVariables (names : List String) : Entries String Assignment → Entries String Assignment
  | [] => []
  | entry :: rest =>
    if mentions names entry then entry :: keptVariables (addName names entry.1) rest
    else keptVariables names rest

theorem foldl_follow (names : List String) (kept assignments : Entries String Assignment) :
    assignments.foldl follow (names, kept) =
      ((keptVariables names assignments).keys.foldl addName names,
        kept ++ keptVariables names assignments) := by
  -- along the variables, since each may be followed through those before it
  induction assignments generalizing names kept with
  | nil => simp [keptVariables, Entries.keys]
  | cons entry rest ih =>
      rw [List.foldl_cons]
      by_cases hmentions : mentions names entry = true
      · have hfollow : follow (names, kept) entry = (addName names entry.1, kept ++ [entry]) :=
          if_pos hmentions
        rw [hfollow, ih, keptVariables, if_pos hmentions]
        simp [Entries.keys]
      · have hfollow : follow (names, kept) entry = (names, kept) := if_neg hmentions
        rw [hfollow, ih, keptVariables, if_neg hmentions]

section Followed

variable {f : Findings} {library name : String}

theorem followed_eq : f.followed library =
    ((keptVariables (f.importsOf library).directNames f.assignments).keys.foldl addName
        (f.importsOf library).directNames,
      keptVariables (f.importsOf library).directNames f.assignments) := by
  rw [Findings.followed, foldl_follow, List.nil_append]

theorem keptVariables_subset (names : List String) (assignments : Entries String Assignment) :
    (keptVariables names assignments).Sublist assignments := by
  induction assignments generalizing names with
  | nil => exact List.Sublist.refl _
  | cons entry rest ih =>
      rw [keptVariables]
      split
      · exact (ih _).cons_cons entry
      · exact (ih _).cons entry

/-- A name is followed if the imports lead to it, or if it is a variable that is kept. -/
theorem mem_followed : name ∈ (f.followed library).1 ↔
    name ∈ (f.importsOf library).directNames ∨ name ∈ (f.followed library).2.keys := by
  rw [followed_eq]
  exact mem_foldl_addName

theorem mem_directNames :
    name ∈ f.directNames ↔ name ∈ f.importedNames ∨ name ∈ f.takenNames :=
  mem_foldl_addName

theorem mem_importedNames : name ∈ f.importedNames ↔
    name ∈ f.defaultImports.map (·.name) ∨ name ∈ f.namespaceImports.map (·.name) ∨
      name ∈ f.aliasedImports.values.map (·.localName) ∨
      name ∈ f.namedImports.map (·.name) ∧ name ∉ f.renamedNames := by
  simp only [Findings.importedNames, mem_foldl_addName, List.not_mem_nil, false_or,
    List.mem_append, List.mem_filter, decide_eq_true_eq, or_assoc]

end Followed

/-! ## What is rendered from them -/

section Retained

variable {census : Census} {library name : String}

theorem rootName?_toValue (item : Rendering) :
    item.toValue.rootName? = (Report.rootNames item.component).head? := rfl

theorem hasRootIn_iff {names : List String} {component : String} :
    hasRootIn names component = true ↔
      ∃ root ∈ (Report.rootNames component).head?, root ∈ names := by
  simp [hasRootIn, Option.any_eq_true]

/-- What is rendered from a name that is followed is retained. -/
theorem retains_of_mem_followed (hcounted : Counted census)
    (hname : name ∈ (census.findings.followed library).1) :
    census.report.Retains (census.narrowed library).report name where
  renderings := by
    intro item hitem hroot
    rw [bucket_jsx] at hitem ⊢
    obtain ⟨rendering, hrendering, rfl⟩ := List.mem_map.mp hitem
    obtain ⟨entry, hentry, rfl⟩ := List.mem_map.mp hrendering
    have hkept : entry ∈ census.findings.renderingsOf library :=
      List.mem_filter.mpr ⟨hentry, hasRootIn_iff.mpr ⟨name, hroot, hname⟩⟩
    exact List.mem_map_of_mem (List.mem_map_of_mem hkept)
  props := by
    intro item hitem hroot
    rw [props_report] at hitem ⊢
    obtain ⟨entry, hentry, rfl⟩ := List.mem_map.mp hitem
    -- attributes are listed under the names that are rendered, and only those
    have hkey : entry.1 ∈ census.findings.renderings.keys := by
      rw [← hcounted.props_keys]
      exact List.mem_map_of_mem hentry
    have hrendered := (hcounted.mem_renderedNames hkey).mpr (hasRootIn_iff.mpr ⟨name, hroot, hname⟩)
    exact List.mem_map_of_mem (List.mem_filter.mpr ⟨hentry, decide_eq_true hrendered⟩)
  components := by
    intro hcomponent
    have hmem : name ∈ census.components := by
      simpa [Census.report, sortedNames] using hcomponent
    have hkept : name ∈ (census.narrowed library).components := by
      refine List.mem_filter.mpr ⟨hmem, ?_⟩
      rw [Findings.keepsComponent, decide_eq_true hname, Bool.true_or]
    simpa [Census.report, sortedNames] using hkept

/-- Nothing that is rendered from another name is kept. -/
theorem rootName?_of_mem_narrowed {item : Value}
    (hitem : item ∈ (census.narrowed library).report.bucket "usage" "jsx") :
    ∃ root ∈ item.rootName?, root ∈ (census.findings.followed library).1 := by
  rw [bucket_jsx] at hitem
  obtain ⟨rendering, hrendering, rfl⟩ := List.mem_map.mp hitem
  obtain ⟨entry, hentry, rfl⟩ := List.mem_map.mp hrendering
  exact hasRootIn_iff.mp (List.mem_filter.mp hentry).2

end Retained

/-! ## Imports of a library -/

/-- Whether a binding is to a module of a library. -/
def ImportBinding.isFrom (library : String) (binding : ImportBinding) : Bool :=
  Report.matchesLibrary binding.source library

/-- The local names of the imports of one form, as their entries in a ledger tell them. -/
theorem mem_names_of_form {imports : List ImportBinding} {form : ImportForm}
    {records : List ImportRecord} {library name : String}
    (hrecords : records = imports.filterMap fun binding =>
      if binding.form = form then some ⟨binding.localName, binding.source, binding.line⟩
      else none) :
    name ∈ (records.filter fun record => Report.matchesLibrary record.source library).map (·.name) ↔
      ∃ binding ∈ imports, binding.isFrom library = true ∧
        binding.form = form ∧ binding.localName = name := by
  simp only [hrecords, List.mem_map, List.mem_filter, List.mem_filterMap]
  constructor
  · rintro ⟨record, ⟨⟨binding, hbinding, hrecord⟩, hlibrary⟩, rfl⟩
    split at hrecord
    · next hform =>
      cases hrecord
      exact ⟨binding, hbinding, hlibrary, hform, rfl⟩
    · cases hrecord
  · rintro ⟨binding, hbinding, hlibrary, hform, rfl⟩
    exact ⟨_, ⟨⟨binding, hbinding, if_pos hform⟩, hlibrary⟩, rfl⟩

section Imports

variable {program : Node} {library name : String} (hprogram : program.kind = .program)
include hprogram

theorem mem_defaultNames :
    name ∈ ((Census.empty.visit program).findings.importsOf library).defaultImports.map (·.name) ↔
      ∃ binding ∈ bindings program, binding.isFrom library = true ∧
        binding.form = .byDefault ∧ binding.localName = name :=
  mem_names_of_form (defaultImports_visit hprogram)

theorem mem_starNames :
    name ∈ ((Census.empty.visit program).findings.importsOf library).namespaceImports.map (·.name) ↔
      ∃ binding ∈ bindings program, binding.isFrom library = true ∧
        binding.form = .byStar ∧ binding.localName = name :=
  mem_names_of_form (namespaceImports_visit hprogram)

theorem mem_exportNames :
    name ∈ ((Census.empty.visit program).findings.importsOf library).namedImports.map (·.name) ↔
      ∃ binding ∈ bindings program, binding.isFrom library = true ∧
        binding.imported? = some name := by
  show name ∈ (List.filter _ _).map _ ↔ _
  rw [namedImports_visit hprogram]
  simp only [List.mem_map, List.mem_filter, List.mem_filterMap, ImportBinding.namedRecord?,
    Option.map_eq_some_iff]
  constructor
  · rintro ⟨record, ⟨⟨binding, hbinding, imported, himported, rfl⟩, hlibrary⟩, rfl⟩
    exact ⟨binding, hbinding, hlibrary, himported⟩
  · rintro ⟨binding, hbinding, hlibrary, himported⟩
    exact ⟨_, ⟨⟨binding, hbinding, name, himported, rfl⟩, hlibrary⟩, rfl⟩

end Imports

theorem mem_renamedNames {f : Findings} {library name : String} :
    name ∈ (f.importsOf library).renamedNames ↔
      ∃ entry ∈ f.aliasedImports, Report.matchesLibrary entry.2.source library = true ∧
        entry.2.imported = name := by
  simp only [Findings.renamedNames, Findings.importsOf, Entries.values, List.map_map, List.mem_map,
    List.mem_filter, Function.comp_apply, and_assoc]

theorem mem_otherNames {f : Findings} {library name : String} :
    name ∈ (f.importsOf library).aliasedImports.values.map (·.localName) ↔
      ∃ entry ∈ f.aliasedImports, Report.matchesLibrary entry.2.source library = true ∧
        entry.2.localName = name := by
  simp only [Findings.importsOf, Entries.values, List.map_map, List.mem_map, List.mem_filter,
    Function.comp_apply, and_assoc]

/-! ## Hidden imports -/

/-- A binding that the ledgers do not tell: the library is imported under the same name and renamed
elsewhere, or an import further inside has written over the entry of a renamed one. -/
inductive Hidden (program : Node) (library : String) (binding : ImportBinding) : Prop
  | renamedElsewhere {other : ImportBinding} (hplain : binding.imported? = some binding.localName)
      (hother : other ∈ bindings program) (hlibrary : other.isFrom library = true)
      (himported : other.imported? = some binding.localName)
      (hrenamed : other.localName ≠ binding.localName)
  | overwritten {other : ImportBinding} (hrenamed : binding.renaming?.isSome = true)
      (hother : other ∈ nestedBindings program) (hoverwrites : other.renaming?.isSome = true)
      (hlocal : other.localName = binding.localName) (hforeign : other.isFrom library = false)

section Hiding

variable {program : Node} {library : String} {binding : ImportBinding}
  (hprogram : program.kind = .program)
include hprogram

/-- The ledgers tell the local name of an import, unless it is listed by a name that is taken out or
its entry among the renamed ones is lost. -/
theorem mem_importedNames_of_told (hmem : binding ∈ bindings program)
    (hlibrary : binding.isFrom library = true)
    (hplain : binding.imported? = some binding.localName → binding.localName ∉
      ((Census.empty.visit program).findings.importsOf library).renamedNames)
    (hrenamed : ∀ item, binding.renaming? = some item → binding.localName ∈
      ((Census.empty.visit program).findings.importsOf library).aliasedImports.values.map
        (·.localName)) :
    binding.localName ∈
      ((Census.empty.visit program).findings.importsOf library).importedNames := by
  rw [mem_importedNames]
  cases hform : binding.form with
  | byDefault =>
      exact Or.inl ((mem_defaultNames hprogram).mpr ⟨binding, hmem, hlibrary, hform, rfl⟩)
  | byStar =>
      exact Or.inr (Or.inl ((mem_starNames hprogram).mpr ⟨binding, hmem, hlibrary, hform, rfl⟩))
  | byName imported =>
      have himported : binding.imported? = some imported := by
        unfold ImportBinding.imported?
        rw [hform]
      -- a named import is told by the export if it is plain, and else by its renaming
      by_cases hsame : imported = binding.localName
      · rw [hsame] at himported
        exact Or.inr (Or.inr (Or.inr ⟨(mem_exportNames hprogram).mpr
          ⟨binding, hmem, hlibrary, himported⟩, hplain himported⟩))
      · have hrenaming : binding.renaming? =
            some ⟨imported, binding.localName, binding.source, binding.line⟩ :=
          ImportBinding.renaming?_eq_some_iff.mpr ⟨himported, hsame, rfl⟩
        exact Or.inr (Or.inr (Or.inl (hrenamed _ hrenaming)))

/-- An import at the top that is not hidden binds its local name. -/
theorem mem_importedNames_of_not_hidden (hlocals : ((topBindings program).map (·.localName)).Nodup)
    (hbinding : binding ∈ topBindings program) (hlibrary : binding.isFrom library = true)
    (hhidden : ¬ Hidden program library binding) :
    binding.localName ∈
      ((Census.empty.visit program).findings.importsOf library).importedNames := by
  have hmem : binding ∈ bindings program := List.mem_append_left _ hbinding
  refine mem_importedNames_of_told hprogram hmem hlibrary ?_ ?_
  · intro hplain htaken
    -- its export would be taken out only for a renaming, and that would hide it
    obtain ⟨entry, hentry, hsource, hname⟩ := mem_renamedNames.mp htaken
    obtain ⟨other, hother, hrenaming, -⟩ := exists_of_mem_aliasedImports hprogram hentry
    obtain ⟨hexport, hne, hitem⟩ := ImportBinding.renaming?_eq_some_iff.mp hrenaming
    rw [hname] at hexport hne
    rw [hitem] at hsource
    exact hhidden (.renamedElsewhere hplain hother hsource hexport hne.symm)
  · -- the entry is its own, or that of another import of the library
    intro item hrenaming
    obtain ⟨found, hentry⟩ := exists_mem_aliasedImports hprogram hmem hrenaming
    obtain ⟨other, hother, hrenamed, hlocal⟩ := exists_of_mem_aliasedImports hprogram hentry
    obtain ⟨-, -, hitem⟩ := ImportBinding.renaming?_eq_some_iff.mp hrenamed
    have hfrom : other.isFrom library = true := by
      rcases List.mem_append.mp hother with htop | hnested
      · rw [← List.inj_on_of_nodup_map hlocals hbinding htop hlocal]
        exact hlibrary
      · by_contra hforeign
        exact hhidden (.overwritten (by rw [hrenaming]; rfl) hnested (by rw [hrenamed]; rfl)
          hlocal.symm (Bool.eq_false_iff.mpr hforeign))
    refine mem_otherNames.mpr ⟨_, hentry, ?_, ?_⟩
    · rw [hitem]
      exact hfrom
    · rw [hitem]
      exact hlocal.symm

/-- If local names are not bound twice, a hidden import does not bind its local name. -/
theorem not_mem_importedNames_of_hidden (hlocals : ((bindings program).map (·.localName)).Nodup)
    (hbinding : binding ∈ topBindings program) (hhidden : Hidden program library binding) :
    binding.localName ∉
      ((Census.empty.visit program).findings.importsOf library).importedNames := by
  have hmem : binding ∈ bindings program := List.mem_append_left _ hbinding
  -- local names tell the imports apart
  have hsame : ∀ other ∈ bindings program, other.localName = binding.localName → other = binding :=
    fun other hother hlocal => List.inj_on_of_nodup_map hlocals hother hmem hlocal
  cases hhidden with
  | @renamedElsewhere other hplain hother hlibrary himported hrenamed =>
      rw [mem_importedNames]
      rintro (hdefault | hstar | hrenames | ⟨-, hkept⟩)
      · obtain ⟨found, hfound, -, hform, hlocal⟩ := (mem_defaultNames hprogram).mp hdefault
        rw [hsame found hfound hlocal] at hform
        simp [ImportBinding.imported?, hform] at hplain
      · obtain ⟨found, hfound, -, hform, hlocal⟩ := (mem_starNames hprogram).mp hstar
        rw [hsame found hfound hlocal] at hform
        simp [ImportBinding.imported?, hform] at hplain
      · obtain ⟨entry, hentry, -, hname⟩ := mem_otherNames.mp hrenames
        obtain ⟨found, hfound, hrenaming, -⟩ := exists_of_mem_aliasedImports hprogram hentry
        obtain ⟨hexport, hne, hitem⟩ := ImportBinding.renaming?_eq_some_iff.mp hrenaming
        have hlocal : found.localName = binding.localName := by
          rw [← hname, hitem]
        rw [hsame found hfound hlocal, hplain] at hexport
        exact hne (by rw [hlocal, Option.some.inj hexport])
      · -- the renaming is in the ledger, so the export is taken out
        have hrenaming : other.renaming? =
            some ⟨binding.localName, other.localName, other.source, other.line⟩ :=
          ImportBinding.renaming?_eq_some_iff.mpr ⟨himported, hrenamed.symm, rfl⟩
        exact hkept (mem_renamedNames.mpr
          ⟨_, mem_aliasedImports hprogram hlocals hother hrenaming, hlibrary, rfl⟩)
  | @overwritten other hrenamed hother hoverwrites hlocal hforeign =>
      -- a second import with this local name is ruled out altogether
      rw [bindings, List.map_append] at hlocals
      have hdisjoint := List.disjoint_of_nodup_append hlocals (List.mem_map_of_mem hbinding)
      rw [← hlocal] at hdisjoint
      exact absurd (List.mem_map_of_mem hother) hdisjoint

end Hiding

/-! ## Renderings of imports -/

theorem eq_of_narrow_eq_ok {census : Census} {library : String} {kept : Report}
    (hkept : census.report.narrow library = .ok kept) :
    kept = (census.narrowed library).report := by
  rw [narrow_report] at hkept
  split at hkept
  · rw [Except.ok.injEq] at hkept
    exact hkept.symm
  · cases hkept

/-- What is rendered from a name that is not followed is lost. -/
theorem not_mem_of_not_followed {census : Census} {library name : String} {kept : Report}
    {item : Value} (hkept : census.report.narrow library = .ok kept)
    (hroot : item.rootName? = some name) (hname : name ∉ (census.findings.followed library).1) :
    item ∉ kept.bucket "usage" "jsx" := by
  intro hitem
  rw [eq_of_narrow_eq_ok hkept] at hitem
  obtain ⟨root, hfound, hfollowed⟩ := rootName?_of_mem_narrowed hitem
  exact hname (Option.mem_unique hroot hfound ▸ hfollowed)

theorem exists_narrow_iff {census : Census} (hcounted : Counted census) {library : String} :
    (∃ kept, census.report.narrow library = .ok kept) ↔
      ∀ name ∈ census.findings.renderings.keys, Report.rootNames name ≠ [] := by
  have hreport := @Counted.exists_reportFor_iff census hcounted (some library)
  rw [Census.reportFor] at hreport
  rw [hreport]
  simp

theorem counted_visit (program : Node) : Counted (Census.empty.visit program) :=
  .of_reachable (.visit .empty [] (Site.root program))

/-- **Renderings of imports.**  A report is narrowed to a library unless something is rendered under
a name without a root.  If no two imports at the top bind the same name, an import of the library
that is not hidden retains all that is rendered from its local name.  One that is hidden retains
nothing, if its local name is bound by nothing else. -/
theorem renderings_kept_of_import {program : Node} (hprogram : program.kind = .program)
    (hlocals : ((topBindings program).map (·.localName)).Nodup) {library : String}
    {binding : ImportBinding} (hbinding : binding ∈ topBindings program)
    (hlibrary : binding.isFrom library = true) :
    ((∃ kept, (Census.empty.visit program).report.narrow library = .ok kept) ↔
      ∀ name ∈ (Census.empty.visit program).findings.renderings.keys,
        Report.rootNames name ≠ []) ∧
    ∀ kept, (Census.empty.visit program).report.narrow library = .ok kept →
      (¬ Hidden program library binding →
        (Census.empty.visit program).report.Retains kept binding.localName) ∧
      (Hidden program library binding → ((bindings program).map (·.localName)).Nodup →
        binding.localName ∉
          (Census.empty.visit program).findings.destructurings.map (·.boundName) →
        binding.localName ∉ (Census.empty.visit program).findings.assignments.keys →
        ∀ item ∈ kept.bucket "usage" "jsx", item.rootName? ≠ some binding.localName) := by
  refine ⟨exists_narrow_iff (counted_visit program), fun kept hkept => ⟨fun hhidden => ?_, ?_⟩⟩
  · have himported := mem_importedNames_of_not_hidden hprogram hlocals hbinding hlibrary hhidden
    rw [eq_of_narrow_eq_ok hkept]
    exact retains_of_mem_followed (counted_visit program)
      (mem_followed.mpr (Or.inl (mem_directNames.mpr (Or.inl himported))))
  · intro hhidden hall htaken hvariable item hitem hroot
    refine not_mem_of_not_followed hkept hroot (fun hfollowed => ?_) hitem
    -- the name could still be followed as a variable or as one taken out of a namespace
    rcases mem_followed.mp hfollowed with hdirect | hkey
    · rcases mem_directNames.mp hdirect with himported | htakes
      · exact not_mem_importedNames_of_hidden hprogram hall hbinding hhidden himported
      · exact htaken ((List.filter_sublist.map _).subset htakes)
    · rw [followed_eq] at hkey
      exact hvariable (((keptVariables_subset _ _).map _).subset hkey)

/-- `import { A, A as B } from "m"`, then `<A/>`, then `<B/>`. -/
def importedTwice : Node :=
  namedNode 0 1 .program "" []
    [namedNode 1 1 .importStatement "import \x7b A, A as B \x7d from \"m\"" []
      [namedNode 2 1 .importClause "\x7b A, A as B \x7d" []
        [namedNode 3 1 .namedImports "\x7b A, A as B \x7d" []
          [namedNode 4 1 .importSpecifier "A" [] [namedNode 5 1 .identifier "A" [.name] []],
           namedNode 6 1 .importSpecifier "A as B" []
            [namedNode 7 1 .identifier "A" [.name] [], namedNode 8 1 .identifier "B" [.alias] []]]],
       namedNode 9 1 .stringLiteral "\"m\"" [.source] []],
     namedNode 10 2 .jsxSelfClosingElement "<A/>" [] [namedNode 11 2 .identifier "A" [.name] []],
     namedNode 12 3 .jsxSelfClosingElement "<B/>" [] [namedNode 13 3 .identifier "B" [.name] []]]

theorem topBindings_importedTwice : topBindings importedTwice =
    [⟨.byName "A", "A", "m", 1⟩, ⟨.byName "A", "B", "m", 1⟩] := by
  cbv

theorem nestedBindings_importedTwice : nestedBindings importedTwice = [] := by
  cbv

theorem visit_importedTwice : Census.empty.visit importedTwice =
    { components := ["A", "B"]
      findings :=
        { namedImports := [⟨"A", "m", 1⟩, ⟨"A", "m", 1⟩]
          aliasedImports := [("B", ⟨"A", "B", "m", 1⟩)]
          renderings :=
            [("A", ⟨"A", 2, .other, [], {}, 1, [⟨2, .other⟩]⟩),
             ("B", ⟨"B", 3, .other, [], {}, 1, [⟨3, .other⟩]⟩)]
          props := [("A", {}), ("B", {})] } } := by
  cbv

theorem exists_narrow_importedTwice :
    ∃ kept, (Census.empty.visit importedTwice).report.narrow "m" = .ok kept := by
  have hplain : Report.rootNames "A" = ["A"] := by cbv
  have hrenamed : Report.rootNames "B" = ["B"] := by cbv
  rw [exists_narrow_iff (counted_visit importedTwice), visit_importedTwice]
  simp [Entries.keys, hplain, hrenamed]

/-- The import that is renamed retains what is rendered from it, and the plain one retains
nothing. -/
theorem renderings_kept_of_importedTwice :
    ∃ kept, (Census.empty.visit importedTwice).report.narrow "m" = .ok kept ∧
      (Census.empty.visit importedTwice).report.Retains kept "B" ∧
      ∀ item ∈ kept.bucket "usage" "jsx", item.rootName? ≠ some "A" := by
  obtain ⟨kept, hkept⟩ := exists_narrow_importedTwice
  have hlocals : ((topBindings importedTwice).map (·.localName)).Nodup := by
    simp [topBindings_importedTwice]
  have hall : bindings importedTwice = topBindings importedTwice := by
    rw [bindings, nestedBindings_importedTwice, List.append_nil]
  have hplain : ⟨.byName "A", "A", "m", 1⟩ ∈ topBindings importedTwice := by
    simp [topBindings_importedTwice]
  have hrenamed : ⟨.byName "A", "B", "m", 1⟩ ∈ topBindings importedTwice := by
    simp [topBindings_importedTwice]
  refine ⟨kept, hkept, ?_, ?_⟩
  · refine ((renderings_kept_of_import rfl hlocals hrenamed (by cbv)).2 kept hkept).1 ?_
    intro hhidden
    cases hhidden with
    | renamedElsewhere hsame => simp [ImportBinding.imported?] at hsame
    | overwritten _ hother => simp [nestedBindings_importedTwice] at hother
  · have hhidden : Hidden importedTwice "m" ⟨.byName "A", "A", "m", 1⟩ :=
      .renamedElsewhere rfl (hall ▸ hrenamed) (by cbv) rfl (by simp)
    refine ((renderings_kept_of_import rfl hlocals hplain (by cbv)).2 kept hkept).2 hhidden
      (hall ▸ hlocals) ?_ ?_
    · simp [visit_importedTwice]
    · simp [visit_importedTwice, Entries.keys]

/-- A plain import loses what is rendered from it when the library has it renamed as well. -/
theorem rendering_lost_beside_alias :
    importedTwice.kind = .program ∧ ((topBindings importedTwice).map (·.localName)).Nodup ∧
      ⟨.byName "A", "A", "m", 1⟩ ∈ topBindings importedTwice ∧
      Report.matchesLibrary "m" "m" = true ∧
      ∃ kept, (Census.empty.visit importedTwice).report.narrow "m" = .ok kept ∧
        ¬ (Census.empty.visit importedTwice).report.Retains kept "A" := by
  obtain ⟨kept, hkept⟩ := exists_narrow_importedTwice
  refine ⟨rfl, by simp [topBindings_importedTwice], by simp [topBindings_importedTwice], by cbv,
    kept, hkept, fun hretains => ?_⟩
  have hfollows : ((Census.empty.visit importedTwice).findings.followed "m").1 = ["B"] := by
    rw [visit_importedTwice]
    cbv
  have hroot : (Rendering.toValue ⟨"A", 2, .other, [], {}, 1, [⟨2, .other⟩]⟩).rootName? =
      some "A" := by cbv
  have hrendered : Rendering.toValue ⟨"A", 2, .other, [], {}, 1, [⟨2, .other⟩]⟩ ∈
      (Census.empty.visit importedTwice).report.bucket "usage" "jsx" := by
    rw [visit_importedTwice]
    exact List.mem_cons_self ..
  exact not_mem_of_not_followed hkept hroot (by simp [hfollows])
    (hretains.renderings _ hrendered hroot)

end Usage

end ComponentCensus
