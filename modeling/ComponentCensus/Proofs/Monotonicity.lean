import ComponentCensus.Proofs.Aggregation
import ComponentCensus.Proofs.Percentages

/-!
# More entries are never simpler

An analysis looks at the sizes of the buckets of the catalog.  When no bucket of a report has more
entries than the same bucket of another report, the other report has all categories of the first,
with counts that are no smaller, and a score, a level and advice that are no less.

Bounds and limits of the classifier are arbitrary throughout.  They need not be in order: if the
bound of a lower level lies above that of a higher one, some levels are never reached, but a higher
score still has no lower level.

## Main results

* `analysis_atMost_of_entries` : of two reports the one with fewer entries has the lesser analysis,
  and both have one if the buckets are not larger than percentages can be computed for.

## Strategy

* A category that does not occur counts like one with no entries, so the score is the sum over the
  whole catalog of weight times size (`score_eq`), and weights are positive.
* The categories found are the part of the catalog with entries (`keys_found`), which only grows.
* The level is found by tests in a fixed order, each of which a lower score passes if a higher one
  does; the order of the bounds does not matter (`Level.rank_ofScore_mono`).
* Only the percentage of an analysis can fail, and only if the score is out of range
  (`exists_analyze`).
-/

namespace ComponentCensus.Complexity

open ComponentCensus.Number

/-! ## Levels -/

/-- The place of a level in the order of complexity. -/
def Level.rank : Level → Nat
  | .simple => 0
  | .moderate => 1
  | .complex => 2
  | .veryComplex => 3
  | .extremelyComplex => 4

/-- A higher score has no lower level, whatever the order of the bounds. -/
theorem Level.rank_ofScore_mono (bounds : Bounds) {low high : Int} (hle : low ≤ high) :
    (Level.ofScore bounds low).rank ≤ (Level.ofScore bounds high).rank := by
  unfold Level.ofScore
  split_ifs <;> simp only [Level.rank] <;> omega

/-! ## Categories of a report -/

/-- The entries of a category in the patterns of a report. -/
def Category.itemsIn (category : Category) (patterns : Value) : List Value :=
  (category.bucketIn patterns).toOption.elim [] Value.listed

/-- The buckets of the catalog are lists; a bucket that is missing is an empty one. -/
def HasLists (patterns : Value) : Prop :=
  ∀ category ∈ catalog, category.bucketIn patterns = .ok (.list (category.itemsIn patterns))

/-- The entry of a category among those found, if it occurs. -/
def Category.entryIn (examples : Int) (patterns : Value) (category : Category) :
    Option (String × Found) :=
  if category.itemsIn patterns = [] then none
  else some (category.name, ⟨(category.itemsIn patterns).length, category.weight,
    Value.takeSigned examples (category.itemsIn patterns)⟩)

/-- The categories found in a report, in the order of the catalog. -/
def foundIn (examples : Int) (patterns : Value) : Entries String Found :=
  catalog.filterMap (Category.entryIn examples patterns)

section Classification

variable {classifier : Classifier} {patterns : Value} {category : Category}

theorem Category.find_eq (hcategory : category.bucketIn patterns =
      .ok (.list (category.itemsIn patterns))) (examples : Int) :
    (category.find examples patterns).map (·.map fun found => (category.name, found)) =
      .ok (category.entryIn examples patterns) := by
  unfold Category.find Category.entryIn
  rw [hcategory]
  cases category.itemsIn patterns <;> rfl

/-- Classifying finds the categories that have entries. -/
theorem classify_eq (hlists : HasLists patterns) :
    classifier.classify patterns = .ok (foundIn classifier.examples patterns) := by
  have hfound : catalog.mapM (fun category => do
        return (← category.find classifier.examples patterns).map fun found =>
          (category.name, found)) =
      .ok (catalog.map (Category.entryIn classifier.examples patterns)) := by
    have hmap := @mapM_map_ok _ _ _ _ (fun category : Category => do
        return (← category.find classifier.examples patterns).map fun found =>
          (category.name, found)) id (Category.entryIn classifier.examples patterns) catalog
      fun category hcategory => Category.find_eq (hlists category hcategory) _
    rwa [List.map_id] at hmap
  unfold Classifier.classify
  refine bind_of_eq_ok hfound ?_
  rw [List.filterMap_map]
  rfl

theorem keys_found (examples : Int) (patterns : Value) :
    (foundIn examples patterns).keys =
      (catalog.filter fun category => category.itemsIn patterns ≠ []).map (·.name) := by
  unfold foundIn Entries.keys
  induction catalog with
  | nil => rfl
  | cons category rest ih =>
      by_cases hempty : category.itemsIn patterns = []
      · simpa [Category.entryIn, hempty] using ih
      · simpa [Category.entryIn, hempty] using ih

theorem nodup_keys_found (examples : Int) (patterns : Value) :
    (foundIn examples patterns).keys.Nodup := by
  have hcatalog : (catalog.map (·.name)).Nodup := by decide
  rw [keys_found]
  exact hcatalog.sublist (List.filter_sublist.map _)

/-- What a category adds to the score. -/
def Category.scoreIn (patterns : Value) (category : Category) : Int :=
  category.weight * (category.itemsIn patterns).length

/-- The score is a sum over the whole catalog. -/
theorem score_eq (examples : Int) (patterns : Value) :
    total ((foundIn examples patterns).values.map fun found => found.weight * found.count) =
      total (catalog.map (Category.scoreIn patterns)) := by
  unfold foundIn Entries.values
  induction catalog with
  | nil => rfl
  | cons category rest ih =>
      by_cases hempty : category.itemsIn patterns = []
      · simpa [Category.entryIn, Category.scoreIn, hempty] using ih
      · simpa [Category.entryIn, Category.scoreIn, hempty] using ih

end Classification

/-! ## Two reports -/

/-- No bucket of the catalog has more entries in some patterns than in others. -/
def NoMoreEntries (fewer more : Value) : Prop :=
  ∀ category ∈ catalog, (category.itemsIn fewer).length ≤ (category.itemsIn more).length

section Comparison

variable {fewer more : Value} {category : Category}

theorem total_map_le {α : Type} {items : List α} {low high : α → Int}
    (hle : ∀ item ∈ items, low item ≤ high item) : total (items.map low) ≤ total (items.map high) := by
  induction items with
  | nil => exact le_rfl
  | cons item rest ih =>
      obtain ⟨hitem, hrest⟩ := List.forall_mem_cons.mp hle
      exact Int.add_le_add hitem (ih hrest)

theorem weight_pos : ∀ category ∈ catalog, 0 < category.weight := by
  decide

theorem itemsIn_ne_nil (hentries : NoMoreEntries fewer more) (hcategory : category ∈ catalog)
    (hfew : category.itemsIn fewer ≠ []) : category.itemsIn more ≠ [] := by
  have hle := hentries category hcategory
  have hpos := List.length_pos_of_ne_nil hfew
  exact List.ne_nil_of_length_pos (by omega)

/-- The categories found in the first report are among those found in the second, in order. -/
theorem keys_found_sublist (hentries : NoMoreEntries fewer more) (examples : Int) :
    (foundIn examples fewer).keys.Sublist (foundIn examples more).keys := by
  rw [keys_found, keys_found]
  refine List.Sublist.map _ ?_
  -- a category with entries in the first report has some in the second
  have hkept : catalog.filter (fun category => category.itemsIn fewer ≠ []) =
      (catalog.filter fun category => category.itemsIn more ≠ []).filter
        fun category => category.itemsIn fewer ≠ [] := by
    rw [List.filter_filter]
    refine List.filter_congr fun category hcategory => ?_
    by_cases hfew : category.itemsIn fewer = []
    · simp [hfew]
    · simp [hfew, itemsIn_ne_nil hentries hcategory hfew]
  rw [hkept]
  exact List.filter_sublist

theorem exists_found_of_found (hentries : NoMoreEntries fewer more) (examples : Int) {name : String}
    {few : Found} (hfew : (foundIn examples fewer).get? name = some few) :
    ∃ many, (foundIn examples more).get? name = some many ∧ few.count ≤ many.count := by
  obtain ⟨category, hcategory, hentry⟩ :=
    List.mem_filterMap.mp (Entries.mem_of_get?_eq_some hfew)
  unfold Category.entryIn at hentry
  split at hentry
  · cases hentry
  · next hsome =>
    cases hentry
    -- the same category is found in the other report, as it has entries there too
    have hmany : category.entryIn examples more = some (category.name,
        ⟨(category.itemsIn more).length, category.weight,
          Value.takeSigned examples (category.itemsIn more)⟩) :=
      if_neg (itemsIn_ne_nil hentries hcategory hsome)
    refine ⟨_, Entries.get?_of_mem (nodup_keys_found examples more)
      (List.mem_filterMap.mpr ⟨category, hcategory, hmany⟩), ?_⟩
    exact Int.ofNat_le.mpr (hentries category hcategory)

theorem score_mono (hentries : NoMoreEntries fewer more) :
    total (catalog.map (Category.scoreIn fewer)) ≤ total (catalog.map (Category.scoreIn more)) := by
  refine total_map_le fun category hcategory => ?_
  exact Int.mul_le_mul_of_nonneg_left (Int.ofNat_le.mpr (hentries category hcategory))
    (Int.le_of_lt (weight_pos category hcategory))

/-- More categories and a higher level call for no less advice. -/
theorem recommendations_sublist {α : Type} {found others : Entries String α} {low high : Level}
    (hkeys : found.keys.Sublist others.keys) (hlevel : low.rank ≤ high.rank) :
    (recommendations found low).Sublist (recommendations others high) := by
  have hlength : found.length ≤ others.length := by simpa [Entries.keys] using hkeys.length_le
  unfold recommendations
  -- the advice of the rules, of the level and of the number of categories, in this order
  refine List.Sublist.append (List.Sublist.append (List.Sublist.map _ ?_) ?_) ?_
  · refine List.monotone_filter_right _ fun rule hrule => ?_
    obtain ⟨name, hname, hfound⟩ := List.any_eq_true.mp hrule
    exact List.any_eq_true.mpr
      ⟨name, hname, Entries.has_iff_mem_keys.mpr (hkeys.subset (Entries.has_iff_mem_keys.mp hfound))⟩
  · by_cases hlow : low = .extremelyComplex
    · have hhigh : high = .extremelyComplex := by
        subst hlow
        cases high <;> simp_all [Level.rank]
      rw [if_pos hlow, if_pos hhigh]
    · rw [if_neg hlow]
      exact List.nil_sublist _
  · by_cases hmany : found.length > 8
    · rw [if_pos hmany, if_pos (by omega)]
    · rw [if_neg hmany]
      exact List.nil_sublist _

end Comparison

/-! ## Analyses -/

/-- An analysis that finds no more than another one. -/
structure Analysis.AtMost (first second : Analysis) : Prop where
  found : ∀ name few, first.found.get? name = some few →
    ∃ many, second.found.get? name = some many ∧ few.count ≤ many.count
  score : first.complexity.score ≤ second.complexity.score
  level : first.complexity.level.rank ≤ second.complexity.level.rank
  recommendations : first.recommendations.Sublist second.recommendations

section Analyses

variable {classifier : Classifier} {report : Report}

/-- An analysis is made of the categories found and their score. -/
theorem analyze_cases (hlists : HasLists report.patterns) {analysis : Analysis}
    (hanalysis : classifier.analyze report = .ok analysis) :
    analysis.found = foundIn classifier.examples report.patterns ∧
      analysis.complexity.score = total (catalog.map (Category.scoreIn report.patterns)) ∧
      analysis.complexity.level =
        Level.ofScore classifier.bounds analysis.complexity.score ∧
      analysis.recommendations =
        recommendations analysis.found analysis.complexity.level := by
  unfold Classifier.analyze at hanalysis
  obtain ⟨found, hfound, hanalysis⟩ := exists_of_bind_eq_ok hanalysis
  obtain rfl := Except.ok.inj ((classify_eq hlists).symm.trans hfound)
  obtain ⟨complexity, hcomplexity, hanalysis⟩ := exists_of_bind_eq_ok hanalysis
  cases hanalysis
  unfold Classifier.score at hcomplexity
  obtain ⟨percentage, -, hcomplexity⟩ := exists_of_bind_eq_ok hcomplexity
  cases hcomplexity
  exact ⟨rfl, score_eq _ _, rfl, rfl⟩

theorem total_scores_le {patterns : Value} {bound : Nat}
    (hbound : ∀ category ∈ catalog, (category.itemsIn patterns).length ≤ bound) :
    0 ≤ total (catalog.map (Category.scoreIn patterns)) ∧
      total (catalog.map (Category.scoreIn patterns)) ≤ 78 * bound := by
  constructor
  · refine total_nonneg fun score hscore => ?_
    obtain ⟨category, hcategory, rfl⟩ := List.mem_map.mp hscore
    exact Int.mul_nonneg (Int.le_of_lt (weight_pos category hcategory)) (Int.natCast_nonneg _)
  · -- the weights of the catalog add up to 78
    have hfull : total (catalog.map fun category => category.weight * bound) = 78 * bound := by
      simp only [catalog, List.map_cons, List.map_nil, total_cons, total_nil]
      omega
    rw [← hfull]
    refine total_map_le fun category hcategory => ?_
    exact Int.mul_le_mul_of_nonneg_left (Int.ofNat_le.mpr (hbound category hcategory))
      (Int.le_of_lt (weight_pos category hcategory))

/-- A report has an analysis unless its buckets are too long to be counted. -/
theorem exists_analyze (hlists : HasLists report.patterns)
    (hbound : ∀ category ∈ catalog, (category.itemsIn report.patterns).length ≤ twoTo 64) :
    ∃ analysis, classifier.analyze report = .ok analysis := by
  obtain ⟨hnonneg, hle⟩ := total_scores_le hbound
  -- so far below the range of numbers that its percentage can be computed
  have hpart : (total (catalog.map (Category.scoreIn report.patterns))).natAbs ≤ twoTo 71 := by
    have hsize : 78 * twoTo 64 ≤ twoTo 71 := by decide
    omega
  have hscore : ∃ complexity,
      classifier.score (foundIn classifier.examples report.patterns) = .ok complexity := by
    obtain ⟨percentage, hpercentage⟩ := Share.exists_wholePercent hpart
      (show 1 ≤ max (total ((foundIn classifier.examples report.patterns).values.map fun found =>
        found.weight * classifier.maxInstances)) 1 from le_max_right _ _) (by decide)
    unfold Classifier.score
    rw [score_eq]
    exact ⟨_, bind_of_eq_ok hpercentage rfl⟩
  obtain ⟨complexity, hscore⟩ := hscore
  exact ⟨_, bind_of_eq_ok (classify_eq hlists) (bind_of_eq_ok hscore rfl)⟩

/-- The reports of censuses have lists for all categories. -/
theorem hasLists_report (census : Usage.Census) : HasLists census.report.patterns := by
  intro category hcategory
  simp only [catalog, List.mem_cons, List.not_mem_nil, or_false] at hcategory
  rcases hcategory with rfl | rfl | rfl | rfl | rfl | rfl | rfl | rfl | rfl | rfl | rfl | rfl |
    rfl | rfl | rfl | rfl <;> rfl

end Analyses

/-- **Complexity grows with the entries.**  A report whose buckets have no more entries than those
of another report has no category that the other lacks, no greater count, no higher score or level,
and no advice that the other is not given too.  Both have an analysis unless their buckets are too
long to be counted. -/
theorem analysis_atMost_of_entries (classifier : Classifier) (fewer more : Report)
    (hfewer : HasLists fewer.patterns) (hmore : HasLists more.patterns)
    (hentries : NoMoreEntries fewer.patterns more.patterns) :
    ((∀ category ∈ catalog, (category.itemsIn more.patterns).length ≤ twoTo 64) →
      ∃ first second, classifier.analyze fewer = .ok first ∧ classifier.analyze more = .ok second) ∧
    ∀ first second, classifier.analyze fewer = .ok first → classifier.analyze more = .ok second →
      first.AtMost second := by
  refine ⟨fun hbound => ?_, fun first second hfirst hsecond => ?_⟩
  · obtain ⟨first, hfirst⟩ := exists_analyze hfewer fun category hcategory =>
      (hentries category hcategory).trans (hbound category hcategory)
    obtain ⟨second, hsecond⟩ := exists_analyze hmore hbound
    exact ⟨first, second, hfirst, hsecond⟩
  · obtain ⟨hfound, hscore, hlevel, hadvice⟩ := analyze_cases hfewer hfirst
    obtain ⟨hfound', hscore', hlevel', hadvice'⟩ := analyze_cases hmore hsecond
    have hscores : first.complexity.score ≤ second.complexity.score := by
      rw [hscore, hscore']
      exact score_mono hentries
    have hlevels : first.complexity.level.rank ≤ second.complexity.level.rank := by
      rw [hlevel, hlevel']
      exact Level.rank_ofScore_mono classifier.bounds hscores
    refine ⟨fun name few hfew => ?_, hscores, hlevels, ?_⟩
    · rw [hfound] at hfew
      rw [hfound']
      exact exists_found_of_found hentries _ hfew
    · rw [hadvice, hadvice']
      refine recommendations_sublist ?_ hlevels
      rw [hfound, hfound']
      exact keys_found_sublist hentries _

/-- Bounds that fall where they should rise. -/
def fallingBounds : Bounds where
  simple := 0
  moderate := -1
  complex := -2
  veryComplex := -3

/-- A classifier with falling bounds that expects no entries and leaves the last example out. -/
def fallingClassifier : Classifier where
  bounds := fallingBounds
  maxInstances := 0
  examples := -1

/-- A census of nothing but a portal. -/
def portalOnly : Usage.Census where
  findings := { portals := [1] }

/-- One portal takes a report from the lowest level to the highest when the bounds fall. -/
theorem analysis_atMost_of_portal :
    ∃ first second, fallingClassifier.analyze Usage.Census.empty.report = .ok first ∧
      fallingClassifier.analyze portalOnly.report = .ok second ∧ first.AtMost second ∧
      first.complexity.level = .simple ∧ second.complexity.level = .extremelyComplex := by
  have hentries : NoMoreEntries Usage.Census.empty.report.patterns portalOnly.report.patterns := by
    unfold NoMoreEntries
    decide
  have hbound : ∀ category ∈ catalog,
      (category.itemsIn portalOnly.report.patterns).length ≤ twoTo 64 := by
    decide
  obtain ⟨hexists, hatMost⟩ := analysis_atMost_of_entries fallingClassifier
    Usage.Census.empty.report portalOnly.report (hasLists_report _) (hasLists_report _) hentries
  obtain ⟨first, second, hfirst, hsecond⟩ := hexists hbound
  obtain ⟨-, hscore, hlevel, -⟩ := analyze_cases (hasLists_report _) hfirst
  obtain ⟨-, hscore', hlevel', -⟩ := analyze_cases (hasLists_report _) hsecond
  refine ⟨first, second, hfirst, hsecond, hatMost first second hfirst hsecond, ?_, ?_⟩
  · rw [hlevel, hscore]
    rfl
  · rw [hlevel', hscore']
    rfl

end ComponentCensus.Complexity
