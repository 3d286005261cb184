import ComponentCensus.Proofs.Uses
import Mathlib.Data.Finset.Lattice.Lemmas

/-!
# The order of the files

Which file comes first decides where a component is said to come from, and nothing else.  The
renderings of a component, its files and the sizes of the buckets are sums and unions over the
files, and where they are listed, ties are broken by names or by the order of the catalog.

For the same reason the numbers of two batches add up to those of both together.

## Main results

* `aggregate_independent_of_order` : rearranged reports have the same aggregate up to the sources
  of components (`Aggregate.SameUpToSources`), and the aggregates of two batches add up
  (`Aggregate.AddsUp`).

## Strategy

* What a table says of a component, its source aside, is a function of the uses of that component
  (`summaryOf`), and it does not change when the uses are rearranged (`summaryOf_perm`).
* Components are listed by count and then by name.  No name is listed twice, so the order leaves no
  choice (`topComponents_eq_of_tabled`).
* The sizes of the buckets are added up entry by entry, and the order of the reports does not
  matter to such sums (`addCounts_right_comm`).
-/

namespace ComponentCensus.Package

open ComponentCensus.Number ComponentCensus.Syntax ComponentCensus.Usage

/-! ## Components -/

/-- What is known of a component apart from its source. -/
def ComponentUsage.unattributed (known : ComponentUsage) : String × Int × Finset String :=
  (known.name, known.count, known.files.toFinset)

/-- The renderings of a component in some uses. -/
def countIn (uses : List Use) (name : String) : Int :=
  total ((uses.filter fun use => use.component = name).map (·.count))

/-- The files of some uses that render a component. -/
def filesIn (uses : List Use) (name : String) : Finset String :=
  ((uses.filter fun use => use.component = name).map (·.file)).toFinset

/-- What some uses say of a component apart from its source. -/
def summaryOf (uses : List Use) (name : String) : String × Int × Finset String :=
  (name, countIn uses name, filesIn uses name)

section Summaries

variable {uses others : List Use} {usage usage' : Entries String ComponentUsage} {name : String}
  {known : ComponentUsage}

theorem Summed.files_eq (hknown : Summed uses name known) :
    known.files.toFinset = filesIn uses name := by
  ext file
  rw [List.mem_toFinset, hknown.mem_files, filesIn, List.mem_toFinset, List.mem_map]
  simp [and_assoc]

theorem Summed.unattributed_eq (hknown : Summed uses name known) :
    known.unattributed = summaryOf uses name := by
  rw [ComponentUsage.unattributed, hknown.name_eq, hknown.count_eq, hknown.files_eq]
  rfl

theorem summaryOf_perm (hperm : uses.Perm others) (name : String) :
    summaryOf uses name = summaryOf others name := by
  have hfilter := hperm.filter fun use => decide (use.component = name)
  unfold summaryOf countIn filesIn
  rw [total_perm (hfilter.map _), List.toFinset_eq_of_perm _ _ (hfilter.map _)]

theorem Tabled.values_unattributed (htable : Tabled uses usage) :
    usage.values.map ComponentUsage.unattributed = usage.keys.map (summaryOf uses) := by
  rw [Entries.values, Entries.keys, List.map_map, List.map_map]
  refine List.map_congr_left fun entry hentry => ?_
  exact (htable.summed _ _ (Entries.get?_of_mem htable.nodup hentry)).unattributed_eq

/-- Tables of the same uses in another order have the same components. -/
theorem Tabled.keys_perm (htable : Tabled uses usage) (htable' : Tabled others usage')
    (hperm : uses.Perm others) : usage.keys.Perm usage'.keys := by
  rw [List.perm_ext_iff_of_nodup htable.nodup htable'.nodup]
  intro name
  rw [htable.mem_keys, htable'.mem_keys]
  exact exists_congr fun use => and_congr_left' hperm.mem_iff

theorem Tabled.filter_eq_nil (htable : Tabled uses usage) (hget : usage.get? name = none) :
    uses.filter (fun use => use.component = name) = [] := by
  rw [List.filter_eq_nil_iff]
  intro use huse hname
  obtain ⟨known, hknown⟩ := Entries.exists_get?_of_mem_keys
    ((htable.mem_keys name).mpr ⟨use, huse, of_decide_eq_true hname⟩)
  rw [hget] at hknown
  cases hknown

end Summaries

namespace Aggregate

/-- The renderings of a component, none if it is not listed. -/
def countFor (whole : Aggregate) (name : String) : Int :=
  ((whole.usage.get? name).map (·.count)).getD 0

/-- The files that render a component. -/
def filesFor (whole : Aggregate) (name : String) : Finset String :=
  ((whole.usage.get? name).map (·.files.toFinset)).getD ∅

theorem countFor_eq {whole : Aggregate} {uses : List Use} (htable : Tabled uses whole.usage)
    (name : String) : whole.countFor name = countIn uses name := by
  unfold countFor
  cases hget : whole.usage.get? name with
  | some known => exact (htable.summed _ _ hget).count_eq
  | none =>
      rw [countIn, htable.filter_eq_nil hget]
      rfl

theorem filesFor_eq {whole : Aggregate} {uses : List Use} (htable : Tabled uses whole.usage)
    (name : String) : whole.filesFor name = filesIn uses name := by
  unfold filesFor
  cases hget : whole.usage.get? name with
  | some known => exact (htable.summed _ _ hget).files_eq
  | none =>
      rw [filesIn, htable.filter_eq_nil hget]
      rfl

end Aggregate

/-! ## The order of the components -/

/-- Components with more renderings stand above others, and those with as many are in the order of
their names. -/
def isAbove (first second : String × Int × Finset String) : Prop :=
  second.2.1 < first.2.1 ∨ first.2.1 = second.2.1 ∧ first.1 ≤ second.1

theorem pairwise_topComponents (whole : Aggregate) :
    (whole.topComponents.map ComponentUsage.unattributed).Pairwise isAbove := by
  rw [List.pairwise_map]
  -- the order is transitive and total, so the sorted list is in it
  refine (List.pairwise_mergeSort ?_ ?_ _).imp ?_
  · intro a b c hab hbc
    simp only [Bool.or_eq_true, Bool.and_eq_true, decide_eq_true_eq] at hab hbc ⊢
    rcases hab with hab | ⟨hab, hnames⟩ <;> rcases hbc with hbc | ⟨hbc, hnames'⟩
    · exact Or.inl (by omega)
    · exact Or.inl (by omega)
    · exact Or.inl (by omega)
    · exact Or.inr ⟨by omega, le_trans hnames hnames'⟩
  · intro a b
    simp only [Bool.or_eq_true, Bool.and_eq_true, decide_eq_true_eq]
    rcases lt_trichotomy a.count b.count with hlt | heq | hgt
    · exact Or.inr (Or.inl hlt)
    · rcases le_total a.name b.name with hle | hle
      · exact Or.inl (Or.inr ⟨heq, hle⟩)
      · exact Or.inr (Or.inr ⟨heq.symm, hle⟩)
    · exact Or.inl (Or.inl hgt)
  · intro a b hab
    simpa [isAbove, ComponentUsage.unattributed] using hab

section Orders

variable {uses others : List Use} {first second : Aggregate}

/-- The components of the same uses in another order are listed in the same order. -/
theorem topComponents_eq_of_tabled (hfirst : Tabled uses first.usage)
    (hsecond : Tabled others second.usage) (hperm : uses.Perm others) :
    first.topComponents.map ComponentUsage.unattributed =
      second.topComponents.map ComponentUsage.unattributed := by
  -- both lists rearrange the summaries of the uses
  have hlisted : (first.topComponents.map ComponentUsage.unattributed).Perm
      (first.usage.keys.map (summaryOf uses)) := by
    rw [← hfirst.values_unattributed]
    exact (List.mergeSort_perm _ _).map _
  have hlisted' : (second.topComponents.map ComponentUsage.unattributed).Perm
      (second.usage.keys.map (summaryOf uses)) := by
    have hsame : second.usage.keys.map (summaryOf uses) =
        second.usage.keys.map (summaryOf others) :=
      List.map_congr_left fun name _ => summaryOf_perm hperm name
    rw [hsame, ← hsecond.values_unattributed]
    exact (List.mergeSort_perm _ _).map _
  refine List.Perm.eq_of_pairwise ?_ (pairwise_topComponents first) (pairwise_topComponents second)
    (hlisted.trans (((hfirst.keys_perm hsecond hperm).map _).trans hlisted'.symm))
  -- two that stand above each other have one name, and a name has one summary
  intro a b ha hb hab hba
  obtain ⟨name, -, rfl⟩ := List.mem_map.mp (hlisted.mem_iff.mp ha)
  obtain ⟨name', -, rfl⟩ := List.mem_map.mp (hlisted'.mem_iff.mp hb)
  have hname : name = name' := by
    rcases hab with hlt | ⟨heq, hle⟩ <;> rcases hba with hlt' | ⟨heq', hle'⟩
    · omega
    · omega
    · omega
    · exact le_antisymm hle hle'
  rw [hname]

theorem sortedNames_eq_of_perm {names names' : List String} (hperm : names.Perm names') :
    sortedNames names = sortedNames names' :=
  ((List.mergeSort_perm _ _).trans (hperm.trans (List.mergeSort_perm _ _).symm)).eq_of_pairwise
    (fun _ _ _ _ hab hba => le_antisymm hab hba) (pairwise_sortedNames _) (pairwise_sortedNames _)

end Orders

/-! ## Patterns -/

section Patterns

variable {packages : List Value} {results : List FileResult} {start final : Totals}
  {versions : Lockfile.Versions} {whole : Aggregate}

theorem zipWith_add_right_comm (xs ys zs : List Nat) :
    List.zipWith (· + ·) (List.zipWith (· + ·) xs ys) zs =
      List.zipWith (· + ·) (List.zipWith (· + ·) xs zs) ys := by
  induction xs generalizing ys zs with
  | nil => rfl
  | cons x xs ih =>
      cases ys with
      | nil => cases zs <;> rfl
      | cons y ys =>
          cases zs with
          | nil => rfl
          | cons z zs => simp [ih, Nat.add_right_comm]

/-- Two lists of sizes may be added in either order. -/
theorem addCounts_right_comm {first second : List Nat} (hfirst : first ≠ []) (hsecond : second ≠ [])
    (counts : List Nat) :
    addCounts (addCounts counts first) second = addCounts (addCounts counts second) first := by
  cases counts with
  | nil =>
      have hcomm : List.zipWith (· + ·) first second = List.zipWith (· + ·) second first := by
        rw [List.zipWith_comm]
        simp only [Nat.add_comm]
      simp [addCounts, hfirst, hsecond, hcomm]
  | cons count counts =>
      -- a sum with a list of sizes is not empty, so it is not taken for the counts of nothing
      have hfull : ∀ {sizes : List Nat}, sizes ≠ [] →
          (List.zipWith (· + ·) (count :: counts) sizes).isEmpty = false := by
        intro sizes hsizes
        cases sizes with
        | nil => exact absurd rfl hsizes
        | cons size sizes => rfl
      simp only [addCounts, List.isEmpty_cons, hfull hfirst, hfull hsecond, Bool.false_eq_true,
        if_false, zipWith_add_right_comm _ first second]

/-- The counts of the catalog after many reports. -/
theorem counts_of_foldlM_add (hresults : ∀ result ∈ results, Reported result.report)
    (hfinal : results.foldlM (Totals.add packages) start = .ok final) :
    final.counts =
      results.foldl (fun counts result => addCounts counts (sizesOf result.report)) start.counts := by
  induction results generalizing start with
  | nil =>
      cases hfinal
      rfl
  | cons result rest ih =>
      obtain ⟨hresult, hrest⟩ := List.forall_mem_cons.mp hresults
      obtain ⟨census, -, hreport⟩ := hresult
      obtain ⟨middle, hmiddle, hfinal⟩ := foldlM_cons_eq_ok hfinal
      rw [Totals.add_eq hreport] at hmiddle
      obtain ⟨usage, -, hmiddle⟩ := exists_of_bind_eq_ok hmiddle
      cases hmiddle
      exact ih hrest hfinal

theorem sizesOf_ne_nil {report : Report} (hreport : Reported report) : sizesOf report ≠ [] := by
  obtain ⟨census, -, rfl⟩ := hreport
  intro hnil
  have hlength := length_sizesOf census
  rw [hnil] at hlength
  cases hlength

theorem countOf_aggregate (hresults : ∀ result ∈ results, Reported result.report)
    (hwhole : aggregate results versions = .ok whole) (type : String) :
    whole.countOf type = total (results.map fun result =>
      tally (· = type) (catalogEntries countedPatterns (sizesOf result.report))) := by
  unfold aggregate at hwhole
  obtain ⟨totals, htotals, hwhole⟩ := exists_of_bind_eq_ok hwhole
  obtain ⟨shares, -, hwhole⟩ := exists_of_bind_eq_ok hwhole
  cases hwhole
  have hadded := Totals.added_of_foldlM_add hresults (Or.inl rfl) htotals
  rw [Aggregate.countOf, tally_patternCounts, hadded.tallies]
  simp [catalogEntries, tally]

theorem patternCounts_eq_of_perm {results' : List FileResult} {whole' : Aggregate}
    (hperm : results.Perm results') (hresults : ∀ result ∈ results, Reported result.report)
    (hwhole : aggregate results versions = .ok whole)
    (hwhole' : aggregate results' versions = .ok whole') :
    whole.patternCounts = whole'.patternCounts := by
  have hresults' : ∀ result ∈ results', Reported result.report :=
    fun result hresult => hresults result (hperm.mem_iff.mpr hresult)
  unfold aggregate at hwhole hwhole'
  obtain ⟨totals, htotals, hwhole⟩ := exists_of_bind_eq_ok hwhole
  obtain ⟨shares, -, hwhole⟩ := exists_of_bind_eq_ok hwhole
  obtain ⟨totals', htotals', hwhole'⟩ := exists_of_bind_eq_ok hwhole'
  obtain ⟨shares', -, hwhole'⟩ := exists_of_bind_eq_ok hwhole'
  cases hwhole
  cases hwhole'
  -- reports may be swapped, so they may be rearranged
  have hcounts : totals.counts = totals'.counts := by
    rw [counts_of_foldlM_add hresults htotals, counts_of_foldlM_add hresults' htotals']
    refine hperm.foldl_eq' (fun result hresult other hother counts => ?_) _
    exact addCounts_right_comm (sizesOf_ne_nil (hresults result hresult))
      (sizesOf_ne_nil (hresults other hother)) counts
  exact congrArg patternCounts hcounts

end Patterns

/-! ## Aggregates -/

namespace Aggregate

/-- Aggregates that differ in the sources of components at most. -/
structure SameUpToSources (first second : Aggregate) : Prop where
  filesAnalyzed : first.filesAnalyzed = second.filesAnalyzed
  imports : first.imports = second.imports
  components : first.usage.length = second.usage.length
  usagePatterns : first.usagePatterns = second.usagePatterns
  patternCounts : first.patternCounts = second.patternCounts
  allComponents : first.allComponents = second.allComponents
  topComponents : first.topComponents.map ComponentUsage.unattributed =
    second.topComponents.map ComponentUsage.unattributed

/-- An aggregate that adds up two others. -/
structure AddsUp (first second both : Aggregate) : Prop where
  components : ∀ name, name ∈ both.usage.keys ↔ name ∈ first.usage.keys ∨ name ∈ second.usage.keys
  count : ∀ name, both.countFor name = first.countFor name + second.countFor name
  files : ∀ name, both.filesFor name = first.filesFor name ∪ second.filesFor name
  patterns : ∀ type, both.countOf type = first.countOf type + second.countOf type

end Aggregate

section Aggregates

variable {results others : List FileResult} {versions : Lockfile.Versions}
  {first second both : Aggregate}

theorem sameUpToSources_of_perm (hperm : results.Perm others)
    (hresults : ∀ result ∈ results, Reported result.report)
    (hfirst : aggregate results versions = .ok first)
    (hsecond : aggregate others versions = .ok second) : first.SameUpToSources second := by
  have hothers : ∀ result ∈ others, Reported result.report :=
    fun result hresult => hresults result (hperm.mem_iff.mpr hresult)
  have htable := tabled_of_aggregate hresults hfirst
  have htable' := tabled_of_aggregate hothers hsecond
  -- the uses are rearranged with their files
  have huses : (usesIn versions.packages.keys results).Perm (usesIn versions.packages.keys others) :=
    hperm.flatMap_right _
  have hkeys := htable.keys_perm htable' huses
  have hpatterns := patternCounts_eq_of_perm hperm hresults hfirst hsecond
  have htop := topComponents_eq_of_tabled htable htable' huses
  have hlength : first.usage.length = second.usage.length := by
    simpa [Entries.keys] using hkeys.length_eq
  have hnames := sortedNames_eq_of_perm hkeys
  unfold aggregate at hfirst hsecond
  obtain ⟨totals, -, hfirst⟩ := exists_of_bind_eq_ok hfirst
  obtain ⟨shares, -, hfirst⟩ := exists_of_bind_eq_ok hfirst
  obtain ⟨totals', -, hsecond⟩ := exists_of_bind_eq_ok hsecond
  obtain ⟨shares', -, hsecond⟩ := exists_of_bind_eq_ok hsecond
  cases hfirst
  cases hsecond
  exact ⟨hperm.length_eq, total_perm (hperm.map _), hlength, total_perm (hperm.map _), hpatterns,
    hnames, htop⟩

theorem addsUp_of_append (hresults : ∀ result ∈ results, Reported result.report)
    (hothers : ∀ result ∈ others, Reported result.report)
    (hfirst : aggregate results versions = .ok first)
    (hsecond : aggregate others versions = .ok second)
    (hboth : aggregate (results ++ others) versions = .ok both) : first.AddsUp second both := by
  have hall : ∀ result ∈ results ++ others, Reported result.report := fun result hresult =>
    (List.mem_append.mp hresult).elim (hresults result) (hothers result)
  have htable := tabled_of_aggregate hresults hfirst
  have htable' := tabled_of_aggregate hothers hsecond
  have htables := tabled_of_aggregate hall hboth
  rw [usesIn, List.flatMap_append, ← usesIn, ← usesIn] at htables
  refine ⟨fun name => ?_, fun name => ?_, fun name => ?_, fun type => ?_⟩
  · rw [htables.mem_keys, htable.mem_keys, htable'.mem_keys]
    simp [or_and_right, exists_or]
  · rw [Aggregate.countFor_eq htables, Aggregate.countFor_eq htable, Aggregate.countFor_eq htable',
      countIn, List.filter_append, List.map_append, total_append]
    rfl
  · rw [Aggregate.filesFor_eq htables, Aggregate.filesFor_eq htable, Aggregate.filesFor_eq htable',
      filesIn, List.filter_append, List.map_append, List.toFinset_append]
    rfl
  · rw [countOf_aggregate hall hboth, countOf_aggregate hresults hfirst,
      countOf_aggregate hothers hsecond, List.map_append, total_append]

end Aggregates

/-- **The order of the files does not matter, but for the sources of components.**  Reports can be
taken together in any order as long as packages are named by texts, and what comes of it is the same
up to the sources.  Two lists of reports taken together have the renderings and patterns of both. -/
theorem aggregate_independent_of_order (versions : Lockfile.Versions) :
    (∀ results others : List FileResult, results.Perm others →
      (∀ result ∈ results, ∃ (tree : Node) (library : Option String),
        (Census.empty.visit tree).reportFor library = .ok result.report) →
      (AreTexts versions.packages.keys →
        ∃ first second, aggregate results versions = .ok first ∧
          aggregate others versions = .ok second) ∧
      ∀ first second, aggregate results versions = .ok first →
        aggregate others versions = .ok second → first.SameUpToSources second) ∧
    ∀ results others : List FileResult,
      (∀ result ∈ results ++ others, ∃ (tree : Node) (library : Option String),
        (Census.empty.visit tree).reportFor library = .ok result.report) →
      (AreTexts versions.packages.keys →
        ∃ first second both, aggregate results versions = .ok first ∧
          aggregate others versions = .ok second ∧
          aggregate (results ++ others) versions = .ok both) ∧
      ∀ first second both, aggregate results versions = .ok first →
        aggregate others versions = .ok second →
        aggregate (results ++ others) versions = .ok both → first.AddsUp second both := by
  refine ⟨fun results others hperm hresults => ⟨fun hpackages => ?_, fun first second => ?_⟩,
    fun results others hresults => ⟨fun hpackages => ?_, fun first second both => ?_⟩⟩
  · obtain ⟨first, hfirst⟩ := exists_aggregate hpackages (reported_of_analyzed hresults)
    obtain ⟨second, hsecond⟩ := exists_aggregate hpackages fun result hresult =>
      reported_of_analyzed hresults result (hperm.mem_iff.mpr hresult)
    exact ⟨first, second, hfirst, hsecond⟩
  · exact sameUpToSources_of_perm hperm (reported_of_analyzed hresults)
  · obtain ⟨hleft, hright⟩ := List.forall_mem_append.mp (reported_of_analyzed hresults)
    obtain ⟨first, hfirst⟩ := exists_aggregate hpackages hleft
    obtain ⟨second, hsecond⟩ := exists_aggregate hpackages hright
    obtain ⟨both, hboth⟩ := exists_aggregate hpackages (reported_of_analyzed hresults)
    exact ⟨first, second, both, hfirst, hsecond, hboth⟩
  · obtain ⟨hleft, hright⟩ := List.forall_mem_append.mp (reported_of_analyzed hresults)
    exact addsUp_of_append hleft hright

/-- With the files in the other order the component has another source; the rest is the same, and it
is what the files have on their own added up. -/
theorem aggregate_independent_of_order_twoFiles :
    ∃ first second left right, aggregate twoFiles twoPackages = .ok first ∧
      aggregate [fileFrom "b" "q", fileFrom "a" "p"] twoPackages = .ok second ∧
      aggregate [fileFrom "a" "p"] twoPackages = .ok left ∧
      aggregate [fileFrom "b" "q"] twoPackages = .ok right ∧
      first.SameUpToSources second ∧ left.AddsUp right first ∧
      first.countFor "A" = 2 ∧ first.filesFor "A" = {"a", "b"} := by
  have hperm : twoFiles.Perm [fileFrom "b" "q", fileFrom "a" "p"] := List.Perm.swap ..
  obtain ⟨hexists, hsame⟩ := (aggregate_independent_of_order twoPackages).1 _ _ hperm reports_twoFiles
  obtain ⟨first, second, hfirst, hsecond⟩ := hexists areTexts_twoPackages
  obtain ⟨hparts, hsum⟩ := (aggregate_independent_of_order twoPackages).2 [fileFrom "a" "p"]
    [fileFrom "b" "q"] reports_twoFiles
  obtain ⟨left, right, both, hleft, hright, hboth⟩ := hparts areTexts_twoPackages
  obtain rfl : first = both := Except.ok.inj (hfirst.symm.trans hboth)
  have htable := tabled_of_aggregate (reported_of_analyzed reports_twoFiles) hfirst
  rw [uses_twoFiles] at htable
  refine ⟨first, second, left, right, hfirst, hsecond, hleft, hright,
    hsame first second hfirst hsecond, hsum left right first hleft hright hboth, ?_, ?_⟩
  · rw [Aggregate.countFor_eq htable]
    cbv
  · rw [Aggregate.filesFor_eq htable]
    rfl

end ComponentCensus.Package
