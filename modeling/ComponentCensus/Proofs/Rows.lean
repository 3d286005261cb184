import ComponentCensus.Proofs.Traversal
import ComponentCensus.Syntax.Row
import Mathlib.Data.List.Nodup

/-!
# Every row has a number of its own

A tree is put together from rows, the last row first: a row takes over the trees that belong to it
and joins the trees that belong to an earlier row.  The number of a node is the place of its row.

## Main results

* `nodup_numbers_ofRows?` : no two nodes of a tree that rows describe have the same number.

## Strategy

* The invariant (`Apart`) is about the numbers that belong to each earlier place once the rows from
  a place on are done: they come from later rows, and each belongs to one place only, once.
* A row that joins an owner moves the numbers of its own place to that of the owner, with its
  number in front (`Apart.moveLast`); a row without one only gives them up (`Apart.dropLast`).
* From the last row to the first (`apart_foldr_addRow`) nothing but the root is left.
-/

namespace ComponentCensus.Syntax

open ComponentCensus.Usage (numbers numbersAmong)

variable {start owner : Nat} {lists lists' : Nat → List Nat} {source : Source}

/-- Lists of numbers, one for each place before `start`: no number is smaller than `start`, and none
is listed twice, in one list or in two. -/
structure Apart (start : Nat) (lists : Nat → List Nat) : Prop where
  later : ∀ place < start, ∀ number ∈ lists place, start ≤ number
  nodup : ∀ place < start, (lists place).Nodup
  once : ∀ place < start, ∀ other < start, place ≠ other → (lists place).Disjoint (lists other)

/-- The last list may be left out. -/
theorem Apart.dropLast (happart : Apart (start + 1) lists) : Apart start lists where
  later place hplace number hnumber := by
    have hle := happart.later place (by omega) number hnumber
    omega
  nodup place hplace := happart.nodup place (by omega)
  once place hplace other hother hne := happart.once place (by omega) other (by omega) hne

/-- The last list may join an earlier one, with its own place in front. -/
theorem Apart.moveLast (happart : Apart (start + 1) lists) (howner : owner < start)
    (hjoined : lists' owner = start :: (lists start ++ lists owner))
    (hothers : ∀ place, place ≠ owner → lists' place = lists place) : Apart start lists' := by
  have hfresh : ∀ place < start + 1, start ∉ lists place := by
    intro place hplace hmem
    have hle := happart.later place hplace start hmem
    omega
  have hjoinedOnce : ∀ other < start, other ≠ owner → (lists' owner).Disjoint (lists other) := by
    intro other hother hne
    rw [hjoined, List.disjoint_cons_left, List.disjoint_append_left]
    exact ⟨hfresh other (by omega), happart.once start (by omega) other (by omega) (by omega),
      happart.once owner (by omega) other (by omega) hne.symm⟩
  refine ⟨?_, ?_, ?_⟩
  · intro place hplace number hnumber
    by_cases hself : place = owner
    · rw [hself, hjoined, List.mem_cons, List.mem_append] at hnumber
      rcases hnumber with rfl | hlast | hown
      · exact Nat.le_refl _
      · have hle := happart.later start (by omega) number hlast
        omega
      · have hle := happart.later owner (by omega) number hown
        omega
    · rw [hothers place hself] at hnumber
      have hle := happart.later place (by omega) number hnumber
      omega
  · intro place hplace
    by_cases hself : place = owner
    · rw [hself, hjoined, List.nodup_cons, List.mem_append, List.nodup_append']
      exact ⟨not_or.mpr ⟨hfresh start (by omega), hfresh owner (by omega)⟩,
        happart.nodup start (by omega), happart.nodup owner (by omega),
        happart.once start (by omega) owner (by omega) (by omega)⟩
    · rw [hothers place hself]
      exact happart.nodup place (by omega)
  · intro place hplace other hother hne
    by_cases hself : place = owner
    · rw [hself, hothers other (by omega)]
      exact hjoinedOnce other hother (by omega)
    · rw [hothers place hself]
      by_cases hotherSelf : other = owner
      · rw [hotherSelf]
        exact List.disjoint_comm.mp (hjoinedOnce place hplace hself)
      · rw [hothers other hotherSelf]
        exact happart.once place (by omega) other (by omega) hne

/-- The numbers of the trees that belong to a place. -/
def numbersAt (owned : Array (List Node)) (place : Nat) : List Nat :=
  numbersAmong (owned[place]?.getD [])

theorem numbersAt_addRow_of_ne {row : Row} {place other : Nat} {owned : Array (List Node)}
    (hne : other ≠ owner) :
    numbersAt (addRow source (row, place, some owner) owned) other = numbersAt owned other := by
  simp only [numbersAt, addRow, Array.getElem?_modify, if_neg hne.symm]

theorem numbersAt_addRow_owner {row : Row} {place : Nat} {owned : Array (List Node)}
    (howner : owner < owned.size) :
    numbersAt (addRow source (row, place, some owner) owned) owner =
      place :: (numbersAt owned place ++ numbersAt owned owner) := by
  simp only [numbersAt, addRow, Array.getElem?_modify, if_true, Array.getElem?_eq_getElem howner,
    Option.map_some, Option.getD_some]
  rfl

theorem addRow_of_size_le {row : Row} {place : Nat} {owned : Array (List Node)}
    (howner : owned.size ≤ owner) : addRow source (row, place, some owner) owned = owned := by
  apply Array.ext_getElem?
  intro other
  simp only [addRow, Array.getElem?_modify]
  split
  · next hself => rw [← hself, Array.getElem?_eq_none howner, Option.map_none]
  · rfl

theorem Apart.addRow {row : Row} {owner : Option Nat} {owned : Array (List Node)}
    (happart : Apart (start + 1) (numbersAt owned)) (howner : ∀ place ∈ owner, place < start) :
    Apart start (numbersAt (addRow source (row, start, owner) owned)) := by
  cases owner with
  | none => exact happart.dropLast
  | some owner =>
      by_cases hsize : owner < owned.size
      · exact happart.moveLast (howner owner rfl) (numbersAt_addRow_owner hsize)
          fun _ hne => numbersAt_addRow_of_ne hne
      · rw [addRow_of_size_le (Nat.le_of_not_lt hsize)]
        exact happart.dropLast

/-- Once the rows from a place on are done, the numbers that belong to earlier places are apart. -/
theorem apart_foldr_addRow (source : Source) (size : Nat) (rows : List Row) (start : Nat)
    (nearest : Entries Nat Nat)
    (hnearest : ∀ depth, ∀ place ∈ nearest.get? depth, place < start) :
    Apart start (numbersAt ((withPlaces nearest (rows.zipIdx start)).foldr
      (addRow source) (Array.replicate size []))) := by
  induction rows generalizing start nearest with
  | nil =>
      have hempty : ∀ place, numbersAt (Array.replicate size []) place = [] := by
        intro place
        simp only [numbersAt, Array.getElem?_replicate]
        split
        · rfl
        · rfl
      constructor
      all_goals simp [withPlaces, hempty]
  | cons row rest ih =>
      rw [List.zipIdx_cons, withPlaces, List.foldr_cons]
      refine Apart.addRow (ih (start + 1) _ ?_) ?_
      · intro depth place hplace
        by_cases hself : depth = row.depth
        · rw [hself, Entries.get?_put_self] at hplace
          cases hplace
          omega
        · rw [Entries.get?_put_other _ _ hself] at hplace
          have hlt := hnearest depth place hplace
          omega
      · intro place hplace
        split at hplace
        · cases hplace
        · exact hnearest _ place hplace

/-- Every node of a tree that rows describe has a number of its own. -/
theorem nodup_numbers_ofRows? {rows : List Row} {root : Node}
    (htree : Node.ofRows? source rows = some root) : (numbers root).Nodup := by
  cases rows with
  | nil => cases htree
  | cons row rest =>
      -- no row comes before the first one, so it belongs to none
      have hfirst : withPlaces [] ((row :: rest).zipIdx) =
          (row, 0, none) :: withPlaces [(row.depth, 0)] (rest.zipIdx 1) := by
        simp only [List.zipIdx_cons, withPlaces, Entries.get?, Entries.put, ite_self]
      have hnearest : ∀ depth, ∀ place ∈ Entries.get? depth [(row.depth, 0)], place < 1 := by
        intro depth place hplace
        simp only [Entries.get?] at hplace
        split at hplace
        · cases hplace
          exact Nat.zero_lt_one
        · cases hplace
      have happart := apart_foldr_addRow source (rest.length + 1) rest 1 _ hnearest
      simp only [Node.ofRows?, hfirst, List.foldr_cons, List.head?_cons, Option.map_some] at htree
      cases htree
      refine List.nodup_cons.mpr ⟨?_, happart.nodup 0 Nat.zero_lt_one⟩
      intro hmem
      exact absurd (happart.later 0 Nat.zero_lt_one 0 hmem) (by decide)

end ComponentCensus.Syntax
