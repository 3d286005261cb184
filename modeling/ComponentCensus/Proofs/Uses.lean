import ComponentCensus.Proofs.Aggregation

/-!
# What many reports say of a component

The renderings of many files are entered one by one into a table by component.  An entry of a file
is read off its report as a `Use`, and the table is then a function of the list of all uses: the
names that are used, for each of them the sum of the counts and the files, and the source that the
first use gives.

The source is looked for when a component is first seen, and never again.  So a component that two
files import from different packages belongs to the package of the first file.

## Main results

* `tabled_of_aggregate` : the components of an aggregate are those of the uses in its reports.
* `total_grouped` : sums over the table are sums over the uses, since a use belongs to one
  component.

## Strategy

* Taking reports together is entering their uses in order (`foldlM_addUse_of_add`).
* One use changes what its own component is known for and nothing else (`Tabled.addUse`), so by
  induction the table says of each component what the uses say (`Tabled.foldlM_addUse`).
-/

namespace ComponentCensus

open ComponentCensus.Number

/-! ## Sums by key -/

section Groups

variable {α : Type}

theorem total_map_indicator {keys : List String} (hkeys : keys.Nodup) (key : String)
    (count : Int) :
    total (keys.map fun other => if other = key then count else 0) =
      if key ∈ keys then count else 0 := by
  induction keys with
  | nil => simp
  | cons first rest ih =>
      obtain ⟨hfresh, hrest⟩ := List.nodup_cons.mp hkeys
      rw [List.map_cons, total_cons, ih hrest]
      by_cases hfirst : first = key
      · subst hfirst
        simp [hfresh]
      · have hne : ¬ key = first := fun heq => hfirst heq.symm
        simp [hfirst, hne]

theorem total_map_zero (items : List α) : total (items.map fun _ => (0 : Int)) = 0 := by
  induction items with
  | nil => rfl
  | cons _ _ ih => simpa using ih

/-- A sum over items is the sum over their keys of the sums over the items of each key. -/
theorem total_grouped {keys : List String} (hkeys : keys.Nodup) (keyOf : α → String)
    (count : α → Int) (keep : String → Bool) {items : List α}
    (hitems : ∀ item ∈ items, keyOf item ∈ keys) :
    total (keys.map fun key =>
        if keep key then total ((items.filter fun item => keyOf item = key).map count) else 0) =
      total ((items.filter fun item => keep (keyOf item)).map count) := by
  induction items with
  | nil => simpa using total_map_zero keys
  | cons item rest ih =>
      obtain ⟨hitem, hrest⟩ := List.forall_mem_cons.mp hitems
      -- the item counts for its own key only
      have hsplit : (fun key => if keep key then
            total (((item :: rest).filter fun item => keyOf item = key).map count) else 0) =
          fun key => (if key = keyOf item then (if keep (keyOf item) then count item else 0) else 0) +
            if keep key then total ((rest.filter fun item => keyOf item = key).map count) else 0 := by
        funext key
        by_cases hkey : keyOf item = key
        · subst hkey
          by_cases hkeep : keep (keyOf item) <;> simp [hkeep]
        · have hne : ¬ key = keyOf item := fun heq => hkey heq.symm
          simp [hkey, hne]
      rw [hsplit, total_map_add, total_map_indicator hkeys, if_pos hitem, ih hrest,
        List.filter_cons]
      by_cases hkeep : keep (keyOf item) <;> simp [hkeep]

end Groups

namespace Package

open ComponentCensus.Syntax ComponentCensus.Usage

/-! ## Uses -/

/-- An entry of the renderings of a file: a component, how often the file renders it, and the
package that the imports of this file give it. -/
structure Use where
  component : String
  count : Int
  file : String
  source : Except Fault String

/-- The entries of the renderings of a file, as its report lists them. -/
def FileResult.uses (packages : List Value) (result : FileResult) : List Use :=
  (result.report.bucket "usage" "jsx").map fun item =>
    { component := (item.part "component").text
      count := (item.part "count").asInt?.getD 0
      file := result.path.text
      source := componentSource (item.part "component").text result.report.patterns packages }

/-- The uses of many files. -/
def usesIn (packages : List Value) (results : List FileResult) : List Use :=
  results.flatMap fun result => result.uses packages

/-- The use that an entry of a census is. -/
def useOf (packages : List Value) (result : FileResult) (item : Rendering) : Use where
  component := item.component
  count := item.count
  file := result.path.text
  source := componentSource item.component result.report.patterns packages

/-- What is known of a component before a use of it is entered. -/
def Use.known (usage : Entries String ComponentUsage) (use : Use) :
    Except Fault ComponentUsage :=
  match usage.get? use.component with
  | some known => .ok known
  | none => use.source.map fun source => { name := use.component, source := source }

/-- Enters a use into the table. -/
def addUse (usage : Entries String ComponentUsage) (use : Use) :
    Except Fault (Entries String ComponentUsage) := do
  let known ← use.known usage
  return usage.put use.component
    { known with
      count := known.count + use.count
      files := addName known.files use.file }

section Entering

variable {packages : List Value} {result : FileResult} {results : List FileResult}
  {census : Census} {usage next : Entries String ComponentUsage} {use : Use}

theorem uses_of_report (hreport : result.report = census.report) :
    result.uses packages = census.findings.renderings.values.map (useOf packages result) := by
  unfold FileResult.uses
  rw [hreport, bucket_jsx, List.map_map]
  unfold useOf
  rw [hreport]
  rfl

theorem addUsage_eq_addUse (item : Rendering) :
    addUsage packages result usage item.toValue = addUse usage (useOf packages result item) := by
  have hknown : knownUsage packages result usage item.component =
      (useOf packages result item).known usage := by
    unfold knownUsage Use.known useOf
    cases usage.get? item.component with
    | some known => rfl
    | none => cases componentSource item.component result.report.patterns packages <;> rfl
  rw [addUsage_toValue, hknown]
  rfl

/-- What a table holds of a component once a use is entered: what it held before, or the source of
the use, and the use added to it. -/
theorem addUse_cases (hnext : addUse usage use = .ok next) :
    ∃ known : ComponentUsage,
      (usage.get? use.component = some known ∨
        usage.get? use.component = none ∧ ∃ source, use.source = .ok source ∧
          known = { name := use.component, source := source }) ∧
      next = usage.put use.component
        { known with
          count := known.count + use.count
          files := addName known.files use.file } := by
  unfold addUse at hnext
  obtain ⟨known, hknown, hnext⟩ := exists_of_bind_eq_ok hnext
  cases hnext
  refine ⟨known, ?_, rfl⟩
  unfold Use.known at hknown
  cases hget : usage.get? use.component with
  | some earlier =>
      rw [hget] at hknown
      cases hknown
      exact Or.inl rfl
  | none =>
      rw [hget] at hknown
      cases hsource : use.source with
      | error fault =>
          rw [hsource] at hknown
          cases hknown
      | ok source =>
          rw [hsource] at hknown
          cases hknown
          exact Or.inr ⟨rfl, source, rfl, rfl⟩

/-- Adding one report enters its uses. -/
theorem foldlM_addUse_of_add (hreport : Reported result.report) {totals after : Totals}
    (hafter : Totals.add packages totals result = .ok after) :
    (result.uses packages).foldlM addUse totals.usage = .ok after.usage := by
  obtain ⟨census, -, hreport⟩ := hreport
  rw [Totals.add_eq hreport, List.foldlM_map] at hafter
  obtain ⟨usage, husage, hafter⟩ := exists_of_bind_eq_ok hafter
  cases hafter
  simp only [addUsage_eq_addUse] at husage
  rw [uses_of_report hreport, List.foldlM_map]
  exact husage

/-- Taking reports together enters the uses of all of them. -/
theorem foldlM_addUse_of_foldlM_add (hresults : ∀ result ∈ results, Reported result.report)
    {start final : Totals} (hfinal : results.foldlM (Totals.add packages) start = .ok final) :
    (usesIn packages results).foldlM addUse start.usage = .ok final.usage := by
  induction results generalizing start with
  | nil =>
      cases hfinal
      rfl
  | cons result rest ih =>
      obtain ⟨hresult, hrest⟩ := List.forall_mem_cons.mp hresults
      obtain ⟨middle, hmiddle, hfinal⟩ := foldlM_cons_eq_ok hfinal
      have hfirst := foldlM_addUse_of_add hresult hmiddle
      rw [usesIn, List.flatMap_cons, List.foldlM_append]
      exact bind_of_eq_ok hfirst (ih hrest hfinal)

end Entering

/-! ## The table of the uses -/

/-- What some uses say of a component. -/
structure Summed (uses : List Use) (name : String) (known : ComponentUsage) : Prop where
  name_eq : known.name = name
  source_eq : (uses.find? fun use => use.component = name).map (·.source) = some (.ok known.source)
  count_eq : known.count =
    total ((uses.filter fun use => use.component = name).map (·.count))
  mem_files : ∀ file, file ∈ known.files ↔ ∃ use ∈ uses, use.component = name ∧ use.file = file

/-- A table that says of each component what some uses say of it. -/
structure Tabled (uses : List Use) (usage : Entries String ComponentUsage) : Prop where
  nodup : usage.keys.Nodup
  mem_keys : ∀ name, name ∈ usage.keys ↔ ∃ use ∈ uses, use.component = name
  summed : ∀ name known, usage.get? name = some known → Summed uses name known

section Tables

variable {uses more : List Use} {use : Use} {usage next final : Entries String ComponentUsage}
  {name : String} {known : ComponentUsage}

theorem Tabled.empty : Tabled [] [] where
  nodup := List.nodup_nil
  mem_keys := by simp [Entries.keys]
  summed := by simp [Entries.get?]

/-- A use of another component changes nothing. -/
theorem Summed.append_other (hknown : Summed uses name known) (hother : use.component ≠ name) :
    Summed (uses ++ [use]) name known where
  name_eq := hknown.name_eq
  source_eq := by
    obtain ⟨first, hfirst, -⟩ := Option.map_eq_some_iff.mp hknown.source_eq
    rw [List.find?_append, hfirst, Option.some_or, ← hfirst]
    exact hknown.source_eq
  count_eq := by simpa [List.filter_append, hother] using hknown.count_eq
  mem_files := by
    intro file
    rw [hknown.mem_files]
    simp [or_and_right, exists_or, hother]

/-- A use of a known component adds its count and its file; the source stays. -/
theorem Summed.append_known (hknown : Summed uses use.component known) :
    Summed (uses ++ [use]) use.component
      { known with
        count := known.count + use.count
        files := addName known.files use.file } where
  name_eq := hknown.name_eq
  source_eq := by
    -- the first use is still the first one, so the source stays
    obtain ⟨first, hfirst, -⟩ := Option.map_eq_some_iff.mp hknown.source_eq
    rw [List.find?_append, hfirst, Option.some_or, ← hfirst]
    exact hknown.source_eq
  count_eq := by simp [List.filter_append, total_append, ← hknown.count_eq]
  mem_files := by
    intro file
    rw [mem_addName, hknown.mem_files]
    simp [or_and_right, exists_or, eq_comm]

/-- The first use of a component gives it its source. -/
theorem Summed.append_first (hfresh : ∀ other ∈ uses, other.component ≠ use.component)
    {source : String} (hsource : use.source = .ok source) :
    Summed (uses ++ [use]) use.component
      { name := use.component, source := source, count := 0 + use.count
        files := addName [] use.file } where
  name_eq := rfl
  source_eq := by
    -- the new use is the first one of its component
    have hnone : uses.find? (fun other => other.component = use.component) = none := by
      simpa using hfresh
    rw [List.find?_append, hnone]
    simp [hsource]
  count_eq := by
    have hnone : uses.filter (fun other => other.component = use.component) = [] := by
      simpa using hfresh
    simp [List.filter_append, hnone]
  mem_files := by
    intro file
    simp only [mem_addName, List.not_mem_nil, false_or, List.mem_append, List.mem_singleton]
    constructor
    · rintro rfl
      exact ⟨use, Or.inr rfl, rfl, rfl⟩
    · rintro ⟨other, hother | rfl, hname, rfl⟩
      · exact absurd hname (hfresh other hother)
      · rfl

/-- Entering a use keeps the table in step with the uses. -/
theorem Tabled.addUse (htable : Tabled uses usage) (hnext : addUse usage use = .ok next) :
    Tabled (uses ++ [use]) next := by
  obtain ⟨known, hknown, rfl⟩ := addUse_cases hnext
  refine ⟨Entries.nodup_keys_put htable.nodup _ _, fun name => ?_, fun name other hother => ?_⟩
  · rw [Entries.mem_keys_put, htable.mem_keys]
    simp [or_and_right, exists_or, eq_comm]
  · -- the entry of the component itself, and then the others
    by_cases hname : name = use.component
    · subst hname
      rw [Entries.get?_put_self, Option.some.injEq] at hother
      subst hother
      rcases hknown with hget | ⟨hget, source, hsource, rfl⟩
      · exact (htable.summed _ _ hget).append_known
      · refine Summed.append_first (fun other hother hsame => ?_) hsource
        obtain ⟨value, hvalue⟩ :=
          Entries.exists_get?_of_mem_keys ((htable.mem_keys _).mpr ⟨other, hother, hsame⟩)
        rw [hget] at hvalue
        cases hvalue
    · rw [Entries.get?_put_other _ _ hname] at hother
      exact (htable.summed _ _ hother).append_other fun heq => hname heq.symm

theorem Tabled.foldlM_addUse (htable : Tabled uses usage)
    (hfinal : more.foldlM Package.addUse usage = .ok final) : Tabled (uses ++ more) final := by
  induction more generalizing uses usage with
  | nil =>
      cases hfinal
      rwa [List.append_nil]
  | cons use rest ih =>
      obtain ⟨middle, hmiddle, hfinal⟩ := foldlM_cons_eq_ok hfinal
      have hlast := ih (htable.addUse hmiddle) hfinal
      rwa [List.append_assoc] at hlast

end Tables

/-- The table of an aggregate says of each component what the uses of its files say. -/
theorem tabled_of_aggregate {results : List FileResult} {versions : Lockfile.Versions}
    (hresults : ∀ result ∈ results, Reported result.report) {whole : Aggregate}
    (hwhole : aggregate results versions = .ok whole) :
    Tabled (usesIn versions.packages.keys results) whole.usage := by
  unfold aggregate at hwhole
  obtain ⟨totals, htotals, hwhole⟩ := exists_of_bind_eq_ok hwhole
  obtain ⟨shares, -, hwhole⟩ := exists_of_bind_eq_ok hwhole
  cases hwhole
  have htabled := Tabled.empty.foldlM_addUse (foldlM_addUse_of_foldlM_add hresults htotals)
  rwa [List.nil_append] at htabled

theorem reported_of_analyzed {results : List FileResult}
    (hresults : ∀ result ∈ results, ∃ (tree : Node) (library : Option String),
      (Census.empty.visit tree).reportFor library = .ok result.report) :
    ∀ result ∈ results, Reported result.report := by
  intro result hresult
  obtain ⟨tree, library, hreport⟩ := hresults result hresult
  exact reported_of_reportFor hreport

/-! ## One name from two packages -/

/-- `import A from` a source, then `<A/>`. -/
def importedFrom (source : String) : Node :=
  namedNode 0 1 .program "" []
    [namedNode 1 1 .importStatement "import A" []
      [namedNode 2 1 .importClause "A" [] [namedNode 3 1 .identifier "A" [] []],
       namedNode 4 1 .stringLiteral ("\"" ++ source ++ "\"") [.source] []],
     namedNode 5 2 .jsxSelfClosingElement "<A/>" [] [namedNode 6 2 .identifier "A" [.name] []]]

/-- A file that imports `A` from a source. -/
def fileFrom (file source : String) : FileResult :=
  ⟨{ parts := [file] }, (Census.empty.visit (importedFrom source)).report, none⟩

/-- Two files that import one name from different packages. -/
def twoFiles : List FileResult :=
  [fileFrom "a" "p", fileFrom "b" "q"]

/-- The packages of the two files. -/
def twoPackages : Lockfile.Versions where
  packages := [(.str "p", "1"), (.str "q", "2")]

theorem areTexts_twoPackages : AreTexts twoPackages.packages.keys := by
  simp [AreTexts, twoPackages, Entries.keys]

theorem reports_twoFiles : ∀ result ∈ twoFiles, ∃ (tree : Node) (library : Option String),
    (Census.empty.visit tree).reportFor library = .ok result.report := by
  rw [twoFiles, List.forall_mem_cons, List.forall_mem_singleton]
  exact ⟨⟨importedFrom "p", none, by rw [Census.reportFor, fileFrom]⟩,
    importedFrom "q", none, by rw [Census.reportFor, fileFrom]⟩

theorem uses_twoFiles : usesIn twoPackages.packages.keys twoFiles =
    [⟨"A", 1, "a", .ok "p"⟩, ⟨"A", 1, "b", .ok "q"⟩] := by
  cbv

end Package

end ComponentCensus
