import ComponentCensus.Proofs.Specificity
import ComponentCensus.Proofs.Tracing

/-!
# Narrowing keeps nothing foreign

What is kept of a report that is narrowed to a library belongs to the library: imports and loaded
modules by their source, renderings, attributes and variables by a root name that leads back to
what the library is imported as (`Traced`).

Names that lead back may well be names of exports elsewhere.  The ledgers list a renamed import by
the name of its export, and another library may bind that very name.

## Main results

* `narrowed_report_ownedBy` : as long as no local name is bound twice, a narrowed report has
  nothing but what belongs to the library (`Report.OwnedBy`).

## Strategy

* The argument starts with the bindings: every renamed import has an entry of its own that takes
  the name of the export out (`direct_of_mem_directNames`).  From there on each stage of the pass
  adds only names that lead back (`traced_of_mem_followed`).
* Entries that are kept by their source are told by the source in the document itself
  (`isFrom_of_mem_kept`).
-/

namespace ComponentCensus

/-- An entry of a report whose source is a library or one of its subpaths. -/
def Value.IsFrom (library : String) (item : Value) : Prop :=
  ∃ source, item.part "source" = .str source ∧
    (source = library ∨ (library ++ "/").toList <+: source.toList)

/-- The entries of a report that have a source belong to a library, and the others go back to some
names. -/
structure Report.OwnedBy (report : Report) (library : String) (goal : String → Prop) : Prop where
  imports : ∀ name, ∀ item ∈ report.bucket "imports" name, item.IsFrom library
  loaded : ∀ name ∈ ["lazy", "dynamic"], ∀ item ∈ report.bucket "advanced" name,
    item.IsFrom library
  renderings : ∀ item ∈ report.bucket "usage" "jsx", ∃ root ∈ item.rootName?, goal root
  props : ∀ item ∈ report.props, ∃ root ∈ item.rootName?, goal root
  assignments : ∀ item ∈ report.bucket "usage" "variables", ∃ root ∈ item.assignedRoots, goal root

namespace Usage

open ComponentCensus.Syntax

/-! ## Entries with a source -/

section Sources

variable {α : Type} {view : α → Value} {source : α → String} {library : String} {item : Value}

/-- What is kept of a ledger by source is from the library. -/
theorem isFrom_of_mem_kept (hsource : ∀ entry, (view entry).part "source" = .str (source entry))
    {entries : List α} (hitem : item ∈ (entries.filter fun entry =>
      Report.matchesLibrary (source entry) library).map view) : item.IsFrom library := by
  obtain ⟨entry, hentry, rfl⟩ := List.mem_map.mp hitem
  have hmatches := (List.mem_filter.mp hentry).2
  exact ⟨source entry, hsource entry, Report.matchesLibrary_iff.mp hmatches⟩

/-- An entry of a bucket is in a bucket of its group. -/
theorem exists_mem_of_mem_group {buckets : List (String × List Value)} {name : String}
    (hitem : item ∈ ((Value.object (groupMembers buckets)).part name).listed) :
    ∃ bucket ∈ buckets, item ∈ bucket.2 := by
  rw [Value.part] at hitem
  cases hfound : Entries.get? name (groupMembers buckets) with
  | none =>
      rw [hfound] at hitem
      cases hitem
  | some value =>
      rw [hfound] at hitem
      obtain ⟨bucket, hbucket, heq⟩ := List.mem_map.mp (Entries.mem_of_get?_eq_some hfound)
      cases heq
      exact ⟨bucket, hbucket, hitem⟩

theorem isFrom_of_mem_imports {census : Census} {name : String}
    (hitem : item ∈ (census.narrowed library).report.bucket "imports" name) :
    item.IsFrom library := by
  unfold Report.bucket at hitem
  rw [part_imports] at hitem
  obtain ⟨bucket, hbucket, hitem⟩ := exists_mem_of_mem_group hitem
  have hrecord : ∀ record : ImportRecord, record.toValue.part "source" = .str record.source :=
    fun _ => rfl
  have halias : ∀ record : AliasedImport, record.toValue.part "source" = .str record.source :=
    fun _ => rfl
  simp only [Findings.importBuckets, List.mem_cons, List.not_mem_nil, or_false] at hbucket
  rcases hbucket with rfl | rfl | rfl | rfl
  · exact isFrom_of_mem_kept hrecord hitem
  · exact isFrom_of_mem_kept hrecord hitem
  · exact isFrom_of_mem_kept hrecord hitem
  · -- the table is filtered by its entries, the bucket lists its values
    obtain ⟨record, hmem, rfl⟩ := List.mem_map.mp hitem
    obtain ⟨entry, hentry, rfl⟩ := List.mem_map.mp hmem
    have hmatches := (List.mem_filter.mp hentry).2
    exact ⟨entry.2.source, halias entry.2, Report.matchesLibrary_iff.mp hmatches⟩

theorem isFrom_of_mem_loaded {census : Census} {name : String} (hname : name ∈ ["lazy", "dynamic"])
    (hitem : item ∈ (census.narrowed library).report.bucket "advanced" name) :
    item.IsFrom library := by
  have hsource : ∀ record : SourceImport,
      (Findings.sourceValue record).part "source" = .str record.source := fun _ => rfl
  simp only [List.mem_cons, List.not_mem_nil, or_false] at hname
  rcases hname with rfl | rfl
  · exact isFrom_of_mem_kept hsource hitem
  · exact isFrom_of_mem_kept hsource hitem

end Sources

/-! ## Entries with a name -/

/-- Attributes are kept with the rendering of the same name. -/
theorem rootName?_of_mem_props {census : Census} {library : String} {item : Value}
    (hitem : item ∈ (census.narrowed library).report.props) :
    ∃ root ∈ item.rootName?, root ∈ (census.findings.followed library).1 := by
  rw [props_report] at hitem
  obtain ⟨entry, hentry, rfl⟩ := List.mem_map.mp hitem
  have hrendered : entry.1 ∈ census.findings.renderedNames library :=
    of_decide_eq_true (List.mem_filter.mp hentry).2
  obtain ⟨rendering, hrendering, hname⟩ := List.mem_map.mp hrendered
  have hlisted : rendering.toValue ∈ (census.narrowed library).report.bucket "usage" "jsx" := by
    rw [bucket_jsx]
    exact List.mem_map_of_mem hrendering
  obtain ⟨root, hroot, hfollowed⟩ := rootName?_of_mem_narrowed hlisted
  rw [rootName?_toValue, hname] at hroot
  exact ⟨root, hroot, hfollowed⟩

/-- **Nothing foreign is kept.**  If no two imports of a program bind the same name, all that is
left of its report when it is narrowed to a library belongs to the library: imports and loaded
modules have the library or one of its subpaths as their source, and what is rendered, given
attributes or bound to a variable has a root name that leads back to an import of the library. -/
theorem narrowed_report_ownedBy {program : Node} (hprogram : program.kind = .program)
    (hlocals : ((bindings program).map (·.localName)).Nodup) {library : String} {kept : Report}
    (hkept : (Census.empty.visit program).report.narrow library = .ok kept) :
    kept.OwnedBy library (Traced program library) := by
  rw [eq_of_narrow_eq_ok hkept]
  refine ⟨fun _ _ hitem => isFrom_of_mem_imports hitem,
    fun _ hname _ hitem => isFrom_of_mem_loaded hname hitem, fun item hitem => ?_,
    fun item hitem => ?_, fun item hitem => ?_⟩
  · obtain ⟨root, hroot, hfollowed⟩ := rootName?_of_mem_narrowed hitem
    exact ⟨root, hroot, traced_of_mem_followed hprogram hlocals hfollowed⟩
  · obtain ⟨root, hroot, hfollowed⟩ := rootName?_of_mem_props hitem
    exact ⟨root, hroot, traced_of_mem_followed hprogram hlocals hfollowed⟩
  · rw [bucket_variables] at hitem
    obtain ⟨entry, hentry, rfl⟩ := List.mem_map.mp hitem
    exact leadsBack_of_mem_followed hprogram hlocals hentry

/-- `import { A as B } from "m"`, then `import A from "n"`, then `<A/>`, then `<B/>`. -/
def exportBoundElsewhere : Node :=
  namedNode 0 1 .program "" []
    [namedNode 1 1 .importStatement "import \x7b A as B \x7d from \"m\"" []
      [namedNode 2 1 .importClause "\x7b A as B \x7d" []
        [namedNode 3 1 .namedImports "\x7b A as B \x7d" []
          [namedNode 4 1 .importSpecifier "A as B" []
            [namedNode 5 1 .identifier "A" [.name] [], namedNode 6 1 .identifier "B" [.alias] []]]],
       namedNode 7 1 .stringLiteral "\"m\"" [.source] []],
     namedNode 10 2 .importStatement "import A from \"n\"" []
      [namedNode 11 2 .importClause "A" [] [namedNode 12 2 .identifier "A" [] []],
       namedNode 13 2 .stringLiteral "\"n\"" [.source] []],
     namedNode 20 3 .jsxSelfClosingElement "<A/>" [] [namedNode 21 3 .identifier "A" [.name] []],
     namedNode 30 4 .jsxSelfClosingElement "<B/>" [] [namedNode 31 4 .identifier "B" [.name] []]]

theorem bindings_exportBoundElsewhere : bindings exportBoundElsewhere =
    [⟨.byName "A", "B", "m", 1⟩, ⟨.byDefault, "A", "n", 2⟩] := by
  cbv

theorem visit_exportBoundElsewhere : Census.empty.visit exportBoundElsewhere =
    { components := ["B", "A"]
      findings :=
        { defaultImports := [⟨"A", "n", 2⟩]
          namedImports := [⟨"A", "m", 1⟩]
          aliasedImports := [("B", ⟨"A", "B", "m", 1⟩)]
          renderings :=
            [("A", ⟨"A", 3, .other, [], {}, 1, [⟨3, .other⟩]⟩),
             ("B", ⟨"B", 4, .other, [], {}, 1, [⟨4, .other⟩]⟩)]
          props := [("A", {}), ("B", {})] } } := by
  cbv

/-- The library exports `A` and another one binds the name: nothing but `<B/>` is kept. -/
theorem ownedBy_exportBoundElsewhere :
    ∃ kept, (Census.empty.visit exportBoundElsewhere).report.narrow "m" = .ok kept ∧
      kept.OwnedBy "m" (Traced exportBoundElsewhere "m") ∧
      kept.bucket "usage" "jsx" = [Rendering.toValue ⟨"B", 4, .other, [], {}, 1, [⟨4, .other⟩]⟩] := by
  have hrootA : Report.rootNames "A" = ["A"] := by cbv
  have hrootB : Report.rootNames "B" = ["B"] := by cbv
  have hnarrow : ∃ kept, (Census.empty.visit exportBoundElsewhere).report.narrow "m" = .ok kept := by
    rw [exists_narrow_iff (counted_visit exportBoundElsewhere), visit_exportBoundElsewhere]
    simp [Entries.keys, hrootA, hrootB]
  obtain ⟨kept, hkept⟩ := hnarrow
  have hlocals : ((bindings exportBoundElsewhere).map (·.localName)).Nodup := by
    simp [bindings_exportBoundElsewhere]
  refine ⟨kept, hkept, narrowed_report_ownedBy rfl hlocals hkept, ?_⟩
  have hfollowed :
      ((Census.empty.visit exportBoundElsewhere).findings.followed "m").1 = ["B"] := by
    rw [visit_exportBoundElsewhere]
    cbv
  rw [eq_of_narrow_eq_ok hkept, bucket_jsx]
  show ((Findings.renderingsOf _ _).values).map _ = _
  rw [Findings.renderingsOf, hfollowed, visit_exportBoundElsewhere]
  simp [hasRootIn, hrootA, hrootB, Entries.values]

end Usage

end ComponentCensus
