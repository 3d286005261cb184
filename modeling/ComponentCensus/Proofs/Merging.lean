import ComponentCensus.Proofs.Entries
import ComponentCensus.Usage.Props

/-!
# Merging summaries of attributes

A merge appends the names and the details of one summary to those of another, each unless its key
is present: a name is its own key, and a detail has its name and its type.  Both lists are
collected in the same way, so what happens to them is said once, for any key (`addByKey`).

A summary may repeat a key, since one element may repeat an attribute.  A merge keeps such
repetitions of its first summary and drops those of its second, so which repetitions are left
depends on how merges are nested.

## Main results

* `merge_laws` : merging is associative and idempotent, the empty summary changes nothing from the
  right, a merge starts with what its first summary has, and names, keys and flags do not depend on
  which of the two is merged into the other.

## Strategy

* Merging is associative because an item that the inner merge drops has a key that the outer merge
  has met by then (`foldl_addByKey_foldl_addByKey`).
* Merging a summary with itself adds nothing, since all its keys are present
  (`foldl_addByKey_of_subset`).
-/

namespace ComponentCensus.Usage

/-! ## Items collected by a key -/

section Collecting

variable {α κ : Type} [DecidableEq κ]

/-- Appends an item unless one with its key is present. -/
def addByKey (key : α → κ) (items : List α) (item : α) : List α :=
  if key item ∈ items.map key then items else items ++ [item]

theorem addName_eq_addByKey : addName = addByKey id := by
  funext names name
  simp [addName, addByKey]

theorem addDetail_eq_addByKey : addDetail = addByKey PropDetail.key := by
  funext details detail
  simp [addDetail, addByKey]

variable {key : α → κ} {items others : List α}

theorem addByKey_of_mem {item : α} (hmem : key item ∈ items.map key) :
    addByKey key items item = items :=
  if_pos hmem

theorem mem_keys_addByKey {item : α} {k : κ} :
    k ∈ (addByKey key items item).map key ↔ k ∈ items.map key ∨ k = key item := by
  unfold addByKey
  split
  · next hmem =>
    constructor
    · exact Or.inl
    · rintro (hk | rfl)
      · exact hk
      · exact hmem
  · rw [List.map_append, List.mem_append, List.map_singleton, List.mem_singleton]

/-- The keys that are collected are those of both lists. -/
theorem mem_keys_foldl_addByKey {k : κ} :
    k ∈ (others.foldl (addByKey key) items).map key ↔ k ∈ items.map key ∨ k ∈ others.map key := by
  induction others generalizing items with
  | nil => simp
  | cons other rest ih =>
      rw [List.foldl_cons, ih, mem_keys_addByKey, List.map_cons, List.mem_cons, or_assoc]

/-- What is collected stays in front. -/
theorem prefix_foldl_addByKey (items others : List α) :
    items <+: others.foldl (addByKey key) items := by
  induction others generalizing items with
  | nil => exact List.prefix_refl items
  | cons other rest ih =>
      have hone : items <+: addByKey key items other := by
        unfold addByKey
        split
        · exact List.prefix_refl items
        · exact List.prefix_append items [other]
      exact List.IsPrefix.trans hone (ih _)

/-- Items whose keys are all present change nothing. -/
theorem foldl_addByKey_of_subset (hkeys : others.map key ⊆ items.map key) :
    others.foldl (addByKey key) items = items := by
  induction others with
  | nil => rfl
  | cons other rest ih =>
      obtain ⟨hother, hrest⟩ := List.cons_subset.mp hkeys
      rw [List.foldl_cons, addByKey_of_mem hother, ih hrest]

/-- Collecting is associative, whether or not the lists repeat keys. -/
theorem foldl_addByKey_foldl_addByKey (items others more : List α) :
    more.foldl (addByKey key) (others.foldl (addByKey key) items) =
      (more.foldl (addByKey key) others).foldl (addByKey key) items := by
  induction more using List.reverseRecOn with
  | nil => rfl
  | append_singleton more item ih =>
      simp only [List.foldl_append, List.foldl_cons, List.foldl_nil]
      by_cases hmem : key item ∈ (more.foldl (addByKey key) others).map key
      · -- dropped by the inner merge, so its key reaches the outer one with what is collected there
        have hmet : key item ∈
            (more.foldl (addByKey key) (others.foldl (addByKey key) items)).map key := by
          rw [ih]
          exact mem_keys_foldl_addByKey.mpr (Or.inr hmem)
        rw [addByKey_of_mem hmem, addByKey_of_mem hmet, ih]
      · rw [ih]
        conv_rhs => rw [addByKey, if_neg hmem, List.foldl_append]
        rfl

end Collecting

/-! ## Merging -/

namespace PropsSummary

variable (a b c : PropsSummary)

theorem merge_assoc : (a.merge b).merge c = a.merge (b.merge c) := by
  simp only [merge, addName_eq_addByKey, addDetail_eq_addByKey, foldl_addByKey_foldl_addByKey,
    Bool.or_assoc]

theorem merge_self : a.merge a = a := by
  simp only [merge, addName_eq_addByKey, addDetail_eq_addByKey, Bool.or_self,
    foldl_addByKey_of_subset (List.Subset.refl _)]

theorem merge_empty : a.merge {} = a := by
  simp only [merge, List.foldl_nil, Bool.or_false]

theorem prefix_merge_namedProps : a.namedProps <+: (a.merge b).namedProps := by
  simp only [merge, addName_eq_addByKey]
  exact prefix_foldl_addByKey ..

theorem prefix_merge_details : a.details <+: (a.merge b).details := by
  simp only [merge, addDetail_eq_addByKey]
  exact prefix_foldl_addByKey ..

theorem mem_merge_namedProps {name : String} :
    name ∈ (a.merge b).namedProps ↔ name ∈ a.namedProps ∨ name ∈ b.namedProps :=
  mem_foldl_addName

theorem mem_merge_keys {key : String × String} :
    key ∈ (a.merge b).details.map PropDetail.key ↔
      key ∈ a.details.map PropDetail.key ∨ key ∈ b.details.map PropDetail.key := by
  simp only [merge, addDetail_eq_addByKey]
  exact mem_keys_foldl_addByKey

/-- **Merging.**  Summaries may be merged in any grouping, a summary adds nothing to itself, the
empty summary adds nothing, what a summary lists stays in front, and which of two summaries is
merged into the other makes no difference to the names, the keys and the flags. -/
theorem merge_laws :
    (a.merge b).merge c = a.merge (b.merge c) ∧
      a.merge a = a ∧
      a.merge {} = a ∧
      a.namedProps <+: (a.merge b).namedProps ∧
      a.details <+: (a.merge b).details ∧
      (∀ name, name ∈ (a.merge b).namedProps ↔ name ∈ (b.merge a).namedProps) ∧
      (∀ key, key ∈ (a.merge b).details.map PropDetail.key ↔
        key ∈ (b.merge a).details.map PropDetail.key) ∧
      (a.merge b).hasSpread = (b.merge a).hasSpread ∧
      (a.merge b).hasComplexProps = (b.merge a).hasComplexProps ∧
      (a.merge b).hasEventHandlers = (b.merge a).hasEventHandlers := by
  refine ⟨merge_assoc a b c, merge_self a, merge_empty a, prefix_merge_namedProps a b,
    prefix_merge_details a b, fun name => ?_, fun key => ?_, Bool.or_comm .., Bool.or_comm ..,
    Bool.or_comm ..⟩
  · rw [mem_merge_namedProps, mem_merge_namedProps, or_comm]
  · rw [mem_merge_keys, mem_merge_keys, or_comm]

end PropsSummary

end ComponentCensus.Usage
