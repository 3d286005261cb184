import ComponentCensus.Entries
import ComponentCensus.Names
import Mathlib.Data.List.Induction
import Mathlib.Data.List.Permutation
import Mathlib.Tactic.Common

/-!
# Tables and lists of names

What writing to a table does to its entries and keys, and what adding names one after the other
makes of a list: the names in the order in which they are first seen, each once.

A table is a list of entries, so the order of its keys is part of it.  There are two ways to write
to one.  `put` replaces the entry of a key where it stands and appends a new key; `keep` does
nothing if the key is there.  A key is compared by a test for equality, which for the keys of some
tables is coarser than being equal; where it matters the lemmas ask for no more than is needed.

## Main results

* `addName_eraseDups`, `foldl_addName_eraseDups` : adding names to a list without repetitions.
* `Entries.get?_keepAll`, `Entries.keepAll_keepAll_nil` : of several entries for a key the first
  one counts, and parts of a table may be collected on their own.
* `Entries.keys_put`, `Entries.get?_of_mem` : tables by name have each key once and are read back.
-/

namespace ComponentCensus

/-! ## Lists of names -/

@[simp] theorem mem_addName {names : List String} {name other : String} :
    other ∈ addName names name ↔ other ∈ names ∨ other = name := by
  unfold addName
  split
  · next hmem =>
    constructor
    · exact Or.inl
    · rintro (hother | rfl)
      · exact hother
      · exact hmem
  · simp

theorem mem_foldl_addName {names others : List String} {name : String} :
    name ∈ others.foldl addName names ↔ name ∈ names ∨ name ∈ others := by
  induction others generalizing names with
  | nil => simp
  | cons other others ih => simp [ih, or_assoc]

/-- Adding a name to the names seen so far gives the names seen in one step more. -/
theorem addName_eraseDups (names : List String) (name : String) :
    addName names.eraseDups name = (names ++ [name]).eraseDups := by
  unfold addName
  rw [List.eraseDups_append]
  by_cases hmem : name ∈ names
  · simp [List.removeAll, hmem]
  · simp [List.removeAll, hmem, List.eraseDups_cons]

theorem foldl_addName_eraseDups (names others : List String) :
    others.foldl addName names.eraseDups = (names ++ others).eraseDups := by
  induction others generalizing names with
  | nil => simp
  | cons other others ih =>
      rw [List.foldl_cons, addName_eraseDups, ih]
      simp

theorem nodup_addName {names : List String} (hnames : names.Nodup) (name : String) :
    (addName names name).Nodup := by
  unfold addName
  split
  · exact hnames
  · next hfresh =>
    rw [List.nodup_append]
    refine ⟨hnames, by simp, ?_⟩
    intro other hother another hanother heq
    rw [List.mem_singleton.mp hanother] at heq
    exact hfresh (heq ▸ hother)

theorem nodup_foldl_addName {names : List String} (hnames : names.Nodup) (others : List String) :
    (others.foldl addName names).Nodup := by
  induction others generalizing names with
  | nil => exact hnames
  | cons other rest ih => exact ih (nodup_addName hnames other)

theorem nodup_eraseDups (names : List String) : names.eraseDups.Nodup := by
  induction names using List.reverseRecOn with
  | nil => simp
  | append_singleton names name ih =>
      rw [← addName_eraseDups]
      exact nodup_addName ih name

/-- Names that are added in the order in which they are first seen might as well be added each time
they are seen. -/
theorem foldl_addName_of_eraseDups (names others : List String) :
    others.eraseDups.foldl addName names = others.foldl addName names := by
  induction others using List.reverseRecOn with
  | nil => simp
  | append_singleton others other ih =>
      rw [← addName_eraseDups, List.foldl_append, ← ih]
      simp only [List.foldl_cons, List.foldl_nil]
      rw [addName]
      split
      · next hmem =>
        -- a repeated name was added the first time already
        have hseen : other ∈ others.eraseDups.foldl addName names :=
          mem_foldl_addName.mpr (Or.inr hmem)
        rw [addName, if_pos hseen]
      · rw [List.foldl_append]
        rfl

/-! ## Tables -/

namespace Entries

variable {κ α : Type} [BEq κ]

/-- A write to a table of images is the image of a write. -/
theorem map_put {β : Type} (f : α → β) (key : κ) (value : α) (table : Entries κ α) :
    (table.put key value).map (fun entry => (entry.1, f entry.2)) =
      Entries.put key (f value) (table.map fun entry => (entry.1, f entry.2)) := by
  induction table with
  | nil => rfl
  | cons first rest ih =>
      obtain ⟨k, old⟩ := first
      simp only [put, List.map_cons]
      split
      · rfl
      · rw [List.map_cons, ih]

theorem get?_map_values {β : Type} (f : α → β) (key : κ) (table : Entries κ α) :
    Entries.get? key (table.map fun entry => (entry.1, f entry.2)) = (table.get? key).map f := by
  induction table with
  | nil => rfl
  | cons first rest ih =>
      obtain ⟨k, old⟩ := first
      simp only [List.map_cons, get?]
      split
      · rfl
      · exact ih

theorem get?_append (table others : Entries κ α) (key : κ) :
    Entries.get? key (table ++ others) = (table.get? key).or (others.get? key) := by
  induction table with
  | nil => rfl
  | cons first rest ih =>
      obtain ⟨k, old⟩ := first
      simp only [List.cons_append, get?]
      split
      · rfl
      · exact ih

/-- Steps that keep a pair for some items keep the pairs of all items in order. -/
theorem foldl_eq_keepAll {ι : Type} {step : Entries κ α → ι → Entries κ α}
    {pair? : ι → Option (κ × α)}
    (hstep : ∀ table item, step table item = table.keepAll (pair? item).toList)
    (table : Entries κ α) (items : List ι) :
    items.foldl step table = table.keepAll (items.filterMap pair?) := by
  induction items generalizing table with
  | nil => rfl
  | cons item rest ih =>
      rw [List.foldl_cons, ih, hstep, List.filterMap_cons]
      cases pair? item <;> rfl

section Kept

variable [PartialEquivBEq κ]

theorem get?_congr {key other : κ} (hkey : (key == other) = true) (table : Entries κ α) :
    table.get? key = table.get? other := by
  induction table with
  | nil => rfl
  | cons first rest ih =>
      obtain ⟨k, old⟩ := first
      rw [get?, get?, BEq.congr_right hkey, ih]

theorem get?_keep (table : Entries κ α) (key other : κ) (value : α) :
    (table.keep key value).get? other = (table.get? other).or (Entries.get? other [(key, value)]) := by
  unfold keep
  split
  · next hhas =>
    by_cases hkey : (key == other) = true
    · obtain ⟨old, hold⟩ := Option.isSome_iff_exists.mp hhas
      rw [← get?_congr hkey, hold]
      rfl
    · simp [get?, hkey]
  · exact get?_append table [(key, value)] other

/-- The first value of a key wins. -/
theorem get?_keepAll (table : Entries κ α) (pairs : List (κ × α)) (key : κ) :
    (table.keepAll pairs).get? key = (table.get? key).or (Entries.get? key pairs) := by
  induction pairs generalizing table with
  | nil => exact (Option.or_none ..).symm
  | cons pair pairs ih =>
      calc (table.keepAll (pair :: pairs)).get? key
          = ((table.keep pair.1 pair.2).get? key).or (Entries.get? key pairs) := ih _
        _ = (table.get? key).or ((Entries.get? key [pair]).or (Entries.get? key pairs)) := by
            rw [get?_keep, Option.or_assoc]
        _ = (table.get? key).or (Entries.get? key (pair :: pairs)) := by
            rw [← get?_append, List.singleton_append]

/-- Pairs of which the first of each key is kept might as well be kept all. -/
theorem keepAll_keepAll_nil (table : Entries κ α) (pairs : List (κ × α)) :
    table.keepAll (Entries.keepAll [] pairs) = table.keepAll pairs := by
  have hsnoc (start : Entries κ α) (pairs : List (κ × α)) (pair : κ × α) :
      start.keepAll (pairs ++ [pair]) = (start.keepAll pairs).keep pair.1 pair.2 := by
    rw [keepAll, List.foldl_append]
    rfl
  induction pairs using List.reverseRecOn with
  | nil => rfl
  | append_singleton pairs pair ih =>
      rw [hsnoc, hsnoc, keep]
      split
      · next hhas =>
        -- what the collected part has, the whole table has as well
        have hseen : ((table.keepAll pairs).has pair.1) = true := by
          rw [has, get?_keepAll] at hhas ⊢
          rw [Option.isSome_or]
          exact Bool.or_eq_true_iff.mpr (Or.inr hhas)
        rw [ih, keep, if_pos hseen]
      · rw [hsnoc, ih]

end Kept

variable [LawfulBEq κ]

/-- After a write, an entry is the written one or was there before. -/
theorem mem_of_mem_put {key : κ} {value : α} {table : Entries κ α} {entry : κ × α}
    (hmem : entry ∈ table.put key value) : entry = (key, value) ∨ entry ∈ table := by
  induction table with
  | nil => exact Or.inl (by simpa [put] using hmem)
  | cons first rest ih =>
      obtain ⟨k, old⟩ := first
      rw [put] at hmem
      split at hmem
      · next hk =>
        rcases List.mem_cons.mp hmem with rfl | hrest
        · exact Or.inl (by rw [eq_of_beq hk])
        · exact Or.inr (List.mem_cons_of_mem _ hrest)
      · rcases List.mem_cons.mp hmem with rfl | hrest
        · exact Or.inr (List.mem_cons_self ..)
        · exact (ih hrest).imp_right (List.mem_cons_of_mem _)

@[simp] theorem mem_keys_put {key other : κ} {value : α} {table : Entries κ α} :
    other ∈ (table.put key value).keys ↔ other ∈ table.keys ∨ other = key := by
  induction table with
  | nil => simp [put, keys]
  | cons first rest ih =>
      obtain ⟨k, old⟩ := first
      rw [put]
      split
      · next hk =>
        rw [eq_of_beq hk]
        simp only [keys, List.map_cons, List.mem_cons]
        tauto
      · simp only [keys, List.map_cons, List.mem_cons] at ih ⊢
        rw [ih]
        tauto

theorem mem_of_get?_eq_some {key : κ} {value : α} {table : Entries κ α}
    (hget : table.get? key = some value) : (key, value) ∈ table := by
  induction table with
  | nil => simp [get?] at hget
  | cons first rest ih =>
      obtain ⟨k, old⟩ := first
      rw [get?] at hget
      split at hget
      · next hk =>
        rw [eq_of_beq hk, Option.some.inj hget]
        exact List.mem_cons_self ..
      · exact List.mem_cons_of_mem _ (ih hget)

/-- Writing to a table of names adds its key. -/
theorem keys_put {α : Type} (table : Entries String α) (key : String) (value : α) :
    (table.put key value).keys = addName table.keys key := by
  induction table with
  | nil => rfl
  | cons entry rest ih =>
      obtain ⟨other, old⟩ := entry
      unfold Entries.keys addName at ih ⊢
      by_cases hkey : other = key
      · simp [Entries.put, hkey]
      · have hne : ¬ key = other := fun heq => hkey heq.symm
        simp only [Entries.put, beq_iff_eq, hkey, if_false, List.map_cons, ih, List.mem_cons, hne,
          false_or]
        split <;> rfl

theorem nodup_keys_put {α : Type} {table : Entries String α} (htable : table.keys.Nodup)
    (key : String) (value : α) : (table.put key value).keys.Nodup := by
  rw [keys_put]
  exact nodup_addName htable key

theorem mem_keys_of_get? {α : Type} {table : Entries String α} {key : String} {value : α}
    (hget : table.get? key = some value) : key ∈ table.keys :=
  List.mem_map.mpr ⟨(key, value), mem_of_get?_eq_some hget, rfl⟩

theorem exists_get?_of_mem_keys {α : Type} {table : Entries String α} {key : String}
    (hkey : key ∈ table.keys) : ∃ value, table.get? key = some value := by
  induction table with
  | nil => cases hkey
  | cons entry rest ih =>
      obtain ⟨k, old⟩ := entry
      by_cases hk : k = key
      · exact ⟨old, by simp [get?, hk]⟩
      · obtain ⟨value, hvalue⟩ := ih ((List.mem_cons.mp hkey).resolve_left fun heq => hk heq.symm)
        exact ⟨value, by simpa [get?, hk] using hvalue⟩

theorem has_iff_mem_keys {α : Type} {table : Entries String α} {key : String} :
    table.has key = true ↔ key ∈ table.keys := by
  unfold has
  rw [Option.isSome_iff_exists]
  exact ⟨fun ⟨_, hget⟩ => mem_keys_of_get? hget, exists_get?_of_mem_keys⟩

/-- A table of given keys leads each of them to its value. -/
theorem get?_map_key {α : Type} (keys : List String) (value : String → α) (key : String) :
    Entries.get? key (keys.map fun name => (name, value name)) =
      if key ∈ keys then some (value key) else none := by
  induction keys with
  | nil => rfl
  | cons name rest ih =>
      by_cases hname : name = key
      · simp [get?, hname]
      · have hne : ¬ key = name := fun heq => hname heq.symm
        simp [get?, hname, hne, ih]

/-- In a table without repeated keys, each entry is what its key leads to. -/
theorem get?_of_mem {α : Type} {table : Entries String α} (htable : table.keys.Nodup)
    {entry : String × α} (hentry : entry ∈ table) : table.get? entry.1 = some entry.2 := by
  induction table with
  | nil => cases hentry
  | cons first rest ih =>
      obtain ⟨k, old⟩ := first
      obtain ⟨hfresh, hrest⟩ := List.nodup_cons.mp htable
      rcases List.mem_cons.mp hentry with rfl | hmem
      · simp [get?]
      · have hkey : entry.1 ∈ rest.map (·.1) := List.mem_map_of_mem hmem
        have hne : ¬ k = entry.1 := fun heq => hfresh (heq ▸ hkey)
        simpa [get?, hne] using ih hrest hmem

theorem get?_of_not_mem_keys {α : Type} {table : Entries String α} {key : String}
    (hkey : key ∉ table.keys) : table.get? key = none :=
  Option.eq_none_iff_forall_ne_some.mpr fun _ hget => hkey (mem_keys_of_get? hget)

theorem put_of_not_mem_keys {α : Type} {table : Entries String α} {key : String}
    (hkey : key ∉ table.keys) (value : α) : table.put key value = table ++ [(key, value)] := by
  induction table with
  | nil => rfl
  | cons first rest ih =>
      obtain ⟨k, old⟩ := first
      obtain ⟨hne, hrest⟩ := not_or.mp (mt List.mem_cons.mpr hkey)
      have hk : ¬ k = key := fun heq => hne heq.symm
      simp [put, hk, ih hrest]

/-- Writing what is there changes nothing. -/
theorem put_of_get?_eq_some {α : Type} {table : Entries String α} {key : String} {value : α}
    (hget : table.get? key = some value) : table.put key value = table := by
  induction table with
  | nil => cases hget
  | cons first rest ih =>
      obtain ⟨k, old⟩ := first
      by_cases hk : k = key
      · have hold : old = value := by simpa [get?, hk] using hget
        simp [put, hk, hold]
      · have hrest : Entries.get? key rest = some value := by simpa [get?, hk] using hget
        simp [put, hk, ih hrest]

theorem keys_keep {α : Type} (table : Entries String α) (key : String) (value : α) :
    (table.keep key value).keys = addName table.keys key := by
  unfold keep addName
  by_cases hkey : key ∈ table.keys
  · rw [if_pos (has_iff_mem_keys.mpr hkey), if_pos hkey]
  · rw [if_neg (mt has_iff_mem_keys.mp hkey), if_neg hkey]
    exact List.map_append

theorem nodup_keys_keepAll {α : Type} {table : Entries String α} (htable : table.keys.Nodup)
    (pairs : List (String × α)) : (table.keepAll pairs).keys.Nodup := by
  induction pairs generalizing table with
  | nil => exact htable
  | cons pair pairs ih =>
      apply ih
      rw [keys_keep]
      exact nodup_addName htable pair.1

/-- Tables with the same keys in the same order lead to values that belong together. -/
theorem rel_get? {α β : Type} {related : α → β → Prop} {table : Entries String α}
    {other : Entries String β}
    (htables : List.Forall₂ (fun first second => first.1 = second.1 ∧ related first.2 second.2)
      table other) (key : String) : Option.Rel related (table.get? key) (other.get? key) := by
  induction htables with
  | nil => exact .none
  | @cons first second _ _ hfirst _ ih =>
      obtain ⟨k, value⟩ := first
      obtain ⟨k', value'⟩ := second
      obtain ⟨rfl, hvalue⟩ := hfirst
      by_cases hk : k = key
      · simpa [get?, hk] using hvalue
      · simpa [get?, hk] using ih

/-- Pairs with distinct keys are the table that is made of them. -/
theorem ofPairs_of_nodup {α : Type} {pairs : List (String × α)}
    (hpairs : (Entries.keys pairs).Nodup) : Entries.ofPairs pairs = pairs := by
  induction pairs using List.reverseRecOn with
  | nil => rfl
  | append_singleton pairs pair ih =>
      unfold keys at hpairs
      rw [List.map_append, List.map_singleton] at hpairs
      obtain ⟨hnodup, -, hfresh⟩ := List.nodup_append.mp hpairs
      -- the last key is a new one, so it is appended
      have hput := put_of_not_mem_keys (fun hmem => hfresh pair.1 hmem pair.1 (by simp) rfl) pair.2
      rw [ofPairs, List.foldl_append]
      change Entries.put pair.1 pair.2 (ofPairs pairs) = _
      rw [ih hnodup]
      exact hput

end Entries

end ComponentCensus
