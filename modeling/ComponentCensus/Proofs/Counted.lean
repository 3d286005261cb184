import ComponentCensus.Package.Aggregate
import ComponentCensus.Proofs.AddedImports
import ComponentCensus.Proofs.Narrowing
import ComponentCensus.Proofs.Renderings

/-!
# What the numbers of a report count

A report carries three numbers, and each of them can be read off its lists.  `Balanced` says so, in
terms of the document alone: how it was made does not matter to whoever reads it.

## Main results

* `Counted.balanced` : the report of a counted census is balanced.
* `Counted.of_reportFor`, `Counted.exists_reportFor_iff` : so is the report for a library, and it
  exists exactly if every rendered name has a root.

## Strategy

* `Counted` is what a census needs for its report to be balanced: no component twice, entries of
  renderings that count their own places, and attributes for the rendered names and no others.
* Every census that visits lead to is counted (`Counted.of_reachable`), and narrowing keeps it
  (`Counted.narrowed`): whether a rendering is kept depends on its name alone, and its attributes
  are kept by the same name.
* A narrowed report is the report of a narrowed census (`narrow_report`), so a report is balanced
  whether it was narrowed or not.
-/

namespace ComponentCensus

open ComponentCensus.Number

/-! ## Reading a document -/

namespace Value

/-- A member of an object; null if there is none. -/
def part (name : String) : Value → Value
  | .object members => (Entries.get? name members).getD .null
  | _ => .null

/-- The items of a list. -/
def listed : Value → List Value
  | .list items => items
  | _ => []

/-- The members of an object with their names. -/
def fields : Value → List (String × Value)
  | .object members => members
  | _ => []

end Value

namespace Report

/-- The entries of a bucket. -/
def bucket (report : Report) (group name : String) : List Value :=
  ((report.patterns.part group).part name).listed

/-- All buckets of the three groups: group, name and entries. -/
def buckets (report : Report) : List (String × String × List Value) :=
  ["imports", "usage", "advanced"].flatMap fun group =>
    (report.patterns.part group).fields.map fun bucket => (group, bucket.1, bucket.2.listed)

/-- The list of attributes. -/
def props (report : Report) : List Value :=
  (report.patterns.part "props").listed

/-- The places of all renderings. -/
def occurrences (report : Report) : List Value :=
  (report.bucket "usage" "jsx").flatMap fun item => (item.part "occurrences").listed

/-- The numbers of a report are those of its lists. -/
structure Balanced (report : Report) : Prop where
  buckets : (report.buckets.map fun bucket => (bucket.1, bucket.2.1)) =
    Package.countedPatterns.map fun pattern => (pattern.1, pattern.2.1)
  usagePatterns : report.summary.usagePatterns =
    total (report.buckets.map fun bucket => (bucket.2.2.length : Int)) + report.props.length
  attributes : report.props.map (Value.part "component") =
    (report.bucket "usage" "jsx").map (Value.part "component")
  imports : report.summary.imports =
    (report.bucket "imports" "default").length + (report.bucket "imports" "named").length +
      (report.bucket "imports" "namespace").length
  components : report.summary.components = report.components.length
  increasing : ∃ names : List String, report.components = names.map .str ∧ names.Pairwise (· < ·)

end Report

namespace Usage

/-! ## Censuses with balanced reports -/

/-- No component is listed twice, a rendering counts its places, and attributes are listed for the
rendered names. -/
structure Counted (census : Census) : Prop where
  components : census.components.Nodup
  component_eq : ∀ entry ∈ census.findings.renderings, entry.2.component = entry.1
  count_eq : ∀ entry ∈ census.findings.renderings, entry.2.count = entry.2.occurrences.length
  props_keys : census.findings.props.keys = census.findings.renderings.keys

namespace Counted

variable {census : Census}

theorem of_reachable (hreachable : Reachable census) : Counted census := by
  have hledger : SoundLedger census :=
    hreachable.induction_on_steps ⟨by simp, rfl⟩ fun _ _ hstep hkept => hkept.step hstep
  refine ⟨(Tidy.of_reachable hreachable).components, ?_, ?_, ?_⟩
  · intro entry hentry
    exact (hledger.sound entry hentry).component_eq
  · intro entry hentry
    exact (hledger.sound entry hentry).count_eq
  · rw [hledger.props_eq]
    simp [Entries.keys]

/-- The names of the kept renderings are the rendered names with a root among those bound. -/
theorem mem_renderedNames (hcounted : Counted census) {library name : String}
    (hname : name ∈ census.findings.renderings.keys) :
    name ∈ census.findings.renderedNames library ↔
      hasRootIn (census.findings.followed library).1 name = true := by
  constructor
  · intro hrendered
    obtain ⟨item, hitem, rfl⟩ := List.mem_map.mp hrendered
    obtain ⟨entry, hentry, rfl⟩ := List.mem_map.mp hitem
    exact (List.mem_filter.mp hentry).2
  · intro hroot
    obtain ⟨entry, hentry, rfl⟩ := List.mem_map.mp hname
    have hcomponent := hcounted.component_eq entry hentry
    refine List.mem_map.mpr ⟨entry.2, List.mem_map.mpr ⟨entry, ?_, rfl⟩, hcomponent⟩
    exact List.mem_filter.mpr ⟨hentry, by rw [hcomponent]; exact hroot⟩

theorem narrowed (hcounted : Counted census) (library : String) :
    Counted (census.narrowed library) := by
  have hmem : ∀ entry ∈ (census.narrowed library).findings.renderings,
      entry ∈ census.findings.renderings := fun entry hentry => (List.mem_filter.mp hentry).1
  refine ⟨hcounted.components.filter _, ?_, ?_, ?_⟩
  · intro entry hentry
    exact hcounted.component_eq entry (hmem entry hentry)
  · intro entry hentry
    exact hcounted.count_eq entry (hmem entry hentry)
  · -- both filters look at the name only
    have hprops : (census.narrowed library).findings.props.keys =
        census.findings.props.keys.filter fun name =>
          name ∈ census.findings.renderedNames library := by
      simp [Census.narrowed, Findings.narrowed, Entries.keys, List.filter_map, Function.comp_def]
    have hrenderings : (census.narrowed library).findings.renderings.keys =
        census.findings.renderings.keys.filter
          (hasRootIn (census.findings.followed library).1) := by
      show (census.findings.renderings.filter _).map _ = _
      rw [Entries.keys, List.filter_map]
      refine congrArg (List.map _) (List.filter_congr fun entry hentry => ?_)
      rw [hcounted.component_eq entry hentry]
      rfl
    rw [hprops, hrenderings, hcounted.props_keys]
    refine List.filter_congr fun name hname => ?_
    rw [Bool.eq_iff_iff, decide_eq_true_iff]
    exact hcounted.mem_renderedNames hname

end Counted

/-! ## The document of a census -/

section Document

variable (census : Census)

theorem part_imports : census.report.patterns.part "imports" =
    .object (groupMembers census.findings.importBuckets) := rfl

theorem part_usage : census.report.patterns.part "usage" =
    .object (groupMembers census.findings.usageBuckets) := rfl

theorem part_advanced : census.report.patterns.part "advanced" =
    .object (groupMembers census.findings.advancedBuckets) := rfl

theorem bucket_default : census.report.bucket "imports" "default" =
    census.findings.defaultImports.map ImportRecord.toValue := rfl

theorem bucket_named : census.report.bucket "imports" "named" =
    census.findings.namedImports.map ImportRecord.toValue := rfl

theorem bucket_namespace : census.report.bucket "imports" "namespace" =
    census.findings.namespaceImports.map ImportRecord.toValue := rfl

theorem bucket_jsx : census.report.bucket "usage" "jsx" =
    census.findings.renderings.values.map Rendering.toValue := rfl

theorem buckets_report : census.report.buckets =
    (census.findings.importBuckets.map fun bucket => ("imports", bucket.1, bucket.2)) ++
      ((census.findings.usageBuckets.map fun bucket => ("usage", bucket.1, bucket.2)) ++
        census.findings.advancedBuckets.map fun bucket => ("advanced", bucket.1, bucket.2)) := by
  simp only [Report.buckets, List.flatMap_cons, List.flatMap_nil, part_imports, part_usage,
    part_advanced, Value.fields, groupMembers, List.map_map, Function.comp_def, Value.listed,
    List.append_nil]

theorem props_report : census.report.props = census.findings.props.map Findings.propsValue := rfl

theorem occurrences_report : census.report.occurrences =
    census.findings.renderings.values.flatMap fun item =>
      item.occurrences.map Occurrence.toValue := by
  unfold Report.occurrences
  rw [bucket_jsx, List.flatMap_map]
  rfl

end Document

/-- The report of a counted census is balanced. -/
theorem Counted.balanced {census : Census} (hcounted : Counted census) :
    census.report.Balanced where
  buckets := by
    rw [buckets_report]
    rfl
  usagePatterns := by
    rw [buckets_report, props_report]
    simp only [Census.report, Findings.total, Findings.importBuckets, Findings.usageBuckets,
      Findings.advancedBuckets, Entries.values, List.map_cons, List.map_nil, List.cons_append,
      List.nil_append, total_cons, total_nil, List.length_map]
    omega
  attributes := by
    have hprops : (census.findings.props.map Findings.propsValue).map (Value.part "component") =
        census.findings.props.keys.map .str := by
      rw [Entries.keys, List.map_map, List.map_map]
      rfl
    have hrenderings : (census.findings.renderings.values.map Rendering.toValue).map
        (Value.part "component") = census.findings.renderings.keys.map .str := by
      rw [Entries.keys, Entries.values, List.map_map, List.map_map, List.map_map]
      refine List.map_congr_left fun entry hentry => ?_
      exact congrArg Value.str (hcounted.component_eq entry hentry)
    rw [props_report, bucket_jsx, hprops, hrenderings, hcounted.props_keys]
  imports := by
    rw [bucket_default, bucket_named, bucket_namespace]
    simp only [Census.report, List.length_map]
  components := by
    simp [Census.report, sortedNames]
  increasing := by
    refine ⟨sortedNames census.components, rfl, ?_⟩
    have hnodup : (sortedNames census.components).Nodup :=
      (List.mergeSort_perm _ _).nodup_iff.mpr hcounted.components
    exact (pairwise_sortedNames census.components).imp₂
      (fun _ _ hle hne => lt_of_le_of_ne hle hne) hnodup

/-! ## Reports of a tree -/

/-- The report of a census, narrowed to a library if one is named. -/
def Census.reportFor (census : Census) : Option String → Except Fault Report
  | none => .ok census.report
  | some library => census.report.narrow library

/-- What comes of a report is the report of a counted census. -/
theorem Counted.of_reportFor {census : Census} (hcounted : Counted census) {library : Option String}
    {report : Report} (hreport : census.reportFor library = .ok report) :
    ∃ other : Census, Counted other ∧ report = other.report := by
  cases library with
  | none =>
      rw [Census.reportFor, Except.ok.injEq] at hreport
      exact ⟨census, hcounted, hreport.symm⟩
  | some library =>
      rw [Census.reportFor, narrow_report] at hreport
      split at hreport
      · rw [Except.ok.injEq] at hreport
        exact ⟨census.narrowed library, hcounted.narrowed library, hreport.symm⟩
      · cases hreport

/-- There is a report unless it is narrowed and some rendered name has no root. -/
theorem Counted.exists_reportFor_iff {census : Census} (hcounted : Counted census)
    {library : Option String} :
    (∃ report, census.reportFor library = .ok report) ↔
      (library = none ∨ ∀ name ∈ census.findings.renderings.keys, Report.rootNames name ≠ []) := by
  cases library with
  | none => exact ⟨fun _ => Or.inl rfl, fun _ => ⟨census.report, by rw [Census.reportFor]⟩⟩
  | some library =>
      have hroots : (∀ item ∈ census.findings.renderings.values,
          Report.rootNames item.component ≠ []) ↔
          ∀ name ∈ census.findings.renderings.keys, Report.rootNames name ≠ [] := by
        unfold Entries.values Entries.keys
        rw [List.forall_mem_map, List.forall_mem_map]
        refine forall₂_congr fun entry hentry => ?_
        rw [hcounted.component_eq entry hentry]
      rw [Census.reportFor, narrow_report, ← hroots]
      split
      · next hall => exact ⟨fun _ => Or.inr hall, fun _ => ⟨_, rfl⟩⟩
      · next hsome =>
        refine ⟨?_, ?_⟩
        · rintro ⟨report, hreport⟩
          cases hreport
        · rintro (hnone | hall)
          · cases hnone
          · exact absurd hall hsome

end Usage

end ComponentCensus
