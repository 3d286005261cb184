import ComponentCensus.Proofs.Narrowing
import Mathlib.Algebra.Order.Field.Rat
import Mathlib.Algebra.Order.Field.Power
import Mathlib.Order.WithBot
import Mathlib.Tactic.FieldSimp
import Mathlib.Tactic.Positivity
import Mathlib.Tactic.Ring

/-!
# Numbers on a line

Integers, truth values and double-precision numbers are compared exactly, by scaling both sides to
a common power of two.  Here every number gets its place on the rational line with two ends, and
one that is not a number has none (`Value.place?`).

## Main results

* `compareNumbers?_eq` : comparing two numbers is comparing their places.
* `sortValues_sorted` : a list that has been sorted stays as it is when it is sorted again.

## Strategy

* Scaling multiplies both numbers by the same positive unit, which does not change their order
  (`compare_of_scaled`).
* Numbers are then ordered like their places, so that sorting values is sorting by a total preorder
  (`sortValues_eq`); a list of texts is sorted by the order of texts.
* A stable sort leaves a sorted list alone (`mergeSort_rank_mergeSort`, `sortedNames_sortedNames`).
-/

namespace ComponentCensus

open ComponentCensus.Number

/-- The rational line with two ends. -/
abbrev Line : Type := WithBot (WithTop ℚ)

/-- A rational number on the line. -/
def Line.ofRat (q : ℚ) : Line :=
  ((q : WithTop ℚ) : WithBot (WithTop ℚ))

theorem Line.compare_ofRat (p q : ℚ) : compare (Line.ofRat p) (Line.ofRat q) = compare p q := by
  have hmono : StrictMono Line.ofRat :=
    WithBot.coe_strictMono.comp WithTop.coe_strictMono
  rw [← cmp_eq_compare, ← cmp_eq_compare]
  exact hmono.cmp_map_eq p q

namespace Number.Binary64

/-- The rational number that a significand with a sign and an exponent stands for. -/
def rational (negative : Bool) (significand : Nat) (exponent : Int) : ℚ :=
  (if negative then -(significand : ℚ) else significand) * 2 ^ exponent

/-- The place of a number on the line. -/
def place? : Binary64 → Option Line
  | .nan => none
  | .infinite negative => some (if negative then ⊥ else ⊤)
  | .finite negative significand exponent =>
    some (Line.ofRat (rational negative significand exponent))

theorem cast_twoTo (n : Nat) : ((twoTo n : Nat) : ℚ) = 2 ^ (n : Int) := by
  rw [zpow_natCast, twoTo]
  exact_mod_cast rfl

/-- Scaling is multiplication by a power of two. -/
theorem cast_scaledTo {least exponent : Int} (hleast : least ≤ exponent) (negative : Bool)
    (significand : Nat) :
    ((scaledTo least negative significand exponent : Int) : ℚ) =
      rational negative significand exponent * 2 ^ (-least) := by
  have hexponent : ((exponent - least).toNat : Int) = exponent + -least := by omega
  have hpower : ((twoTo (exponent - least).toNat : Nat) : ℚ) = 2 ^ exponent * 2 ^ (-least) := by
    rw [cast_twoTo, hexponent, zpow_add₀ (by norm_num)]
  unfold scaledTo rational
  cases negative with
  | false =>
      simp only [Bool.false_eq_true, if_false]
      push_cast
      rw [hpower, mul_assoc]
  | true =>
      simp only [if_true]
      push_cast
      rw [hpower, neg_mul, neg_mul, mul_assoc]

/-- Integers are ordered like the rational numbers that they are multiples of. -/
theorem compare_of_scaled {i j : Int} {p q unit : ℚ} (hunit : 0 < unit) (hi : (i : ℚ) = p * unit)
    (hj : (j : ℚ) = q * unit) : compare i j = compare p q := by
  rw [← cmp_eq_compare, ← cmp_eq_compare, ← cmp_mul_pos_right hunit p q, ← hi, ← hj]
  exact (Int.cast_strictMono.cmp_map_eq i j).symm

theorem compare?_eq (x y : Binary64) :
    x.compare? y = x.place?.bind fun p => y.place?.map fun q => compare p q := by
  cases x with
  | nan => rfl
  | infinite a =>
      cases y with
      | nan => rfl
      | infinite b => cases a <;> cases b <;> rfl
      | finite b n f => cases a <;> rfl
  | finite a m e =>
      cases y with
      | nan => rfl
      | infinite b => cases b <;> rfl
      | finite b n f =>
          have hfirst := cast_scaledTo (Int.min_le_left e f) a m
          have hsecond := cast_scaledTo (Int.min_le_right e f) b n
          have hunit : (0 : ℚ) < 2 ^ (-(min e f)) := by positivity
          simp only [compare?, place?, Option.bind_some, Option.map_some, Line.compare_ofRat]
          rw [compare_of_scaled hunit hfirst hsecond]

end Number.Binary64

namespace Value

/-- The place of a number or a truth value on the line. -/
def place? : Value → Option Line
  | .bool b => some (Line.ofRat (if b then 1 else 0))
  | .int i => some (Line.ofRat i)
  | .float x => x.place?
  | _ => none

theorem place?_of_asInt? {value : Value} {i : Int} (hvalue : value.asInt? = some i) :
    value.place? = some (Line.ofRat i) := by
  cases value with
  | bool b =>
      cases hvalue
      cases b <;> simp [place?]
  | int j =>
      cases hvalue
      rfl
  | _ => cases hvalue

/-- What has a place is an integer or a double-precision number. -/
theorem cases_of_place? {value : Value} {p : Line} (hvalue : value.place? = some p) :
    (∃ i, value.asInt? = some i) ∨ value.asInt? = none ∧ ∃ x, value = .float x := by
  cases value with
  | bool b => exact Or.inl ⟨_, rfl⟩
  | int i => exact Or.inl ⟨i, rfl⟩
  | float x => exact Or.inr ⟨rfl, x, rfl⟩
  | _ => cases hvalue

theorem compareIntFloat_eq (i : Int) (x : Binary64) :
    compareIntFloat i x = x.place?.map fun p => compare (Line.ofRat i) p := by
  cases x with
  | nan => rfl
  | infinite negative => cases negative <;> rfl
  | finite negative significand exponent =>
      have hscale : ((-(min exponent 0)).toNat : Int) = -(min exponent 0) := by omega
      have hfirst : ((i * twoTo (-(min exponent 0)).toNat : Int) : ℚ) =
          i * 2 ^ (-(min exponent 0)) := by
        push_cast
        rw [Number.Binary64.cast_twoTo, hscale]
      have hsecond := Number.Binary64.cast_scaledTo (Int.min_le_left exponent 0) negative significand
      have hunit : (0 : ℚ) < 2 ^ (-(min exponent 0)) := by positivity
      simp only [compareIntFloat, Number.Binary64.place?, Option.map_some, Line.compare_ofRat]
      rw [Number.Binary64.compare_of_scaled hunit hfirst hsecond]

theorem compare_intCast (i j : Int) : compare i j = compare (Line.ofRat i) (Line.ofRat j) := by
  rw [Line.compare_ofRat]
  exact Number.Binary64.compare_of_scaled one_pos (mul_one _).symm (mul_one _).symm

/-- Comparing two numbers is comparing their places. -/
theorem compareNumbers?_eq (a b : Value) :
    a.compareNumbers? b = a.place?.bind fun p => b.place?.map fun q => compare p q := by
  unfold compareNumbers?
  split
  · next i j _ _ hi hj =>
    rw [place?_of_asInt? hi, place?_of_asInt? hj, compare_intCast]
    rfl
  · next i y _ hi _ =>
    rw [place?_of_asInt? hi, compareIntFloat_eq]
    rfl
  · next j x _ hj =>
    rw [place?_of_asInt? hj, compareIntFloat_eq, Option.map_map]
    show _ = x.place?.bind fun p => some (compare p (Line.ofRat j))
    rw [Option.map_eq_bind]
    refine congrArg x.place?.bind (funext fun p => ?_)
    exact congrArg some (Std.OrientedOrd.eq_swap).symm
  · next x y _ _ =>
    exact Number.Binary64.compare?_eq x y
  · next a b _ _ _ _ hwhole hleft hright hreal =>
    cases ha : a.place? with
    | none => rfl
    | some p =>
        cases hb : b.place? with
        | none => rfl
        | some q =>
            -- two places belong to one of the cases above
            rcases cases_of_place? ha with ⟨i, hi⟩ | ⟨hi, x, hx⟩ <;>
              rcases cases_of_place? hb with ⟨j, hj⟩ | ⟨hj, y, hy⟩
            · exact (hwhole i j hi hj).elim
            · exact (hright i y hi hj hy).elim
            · exact (hleft j x hi hj hx).elim
            · exact (hreal x y hi hj hx hy).elim

/-! ## Sorted values -/

/-- The text of a value that is one. -/
def str? : Value → Option String
  | .str s => some s
  | _ => none

/-- Where a value stands among numbers; what is no number stands at the lower end. -/
def rank (value : Value) : Line :=
  value.place?.getD ⊥

theorem compareNumbers?_self_isSome (value : Value) :
    (value.compareNumbers? value).isSome = value.place?.isSome := by
  rw [compareNumbers?_eq]
  cases value.place? <;> rfl

/-- Of two numbers, the second is not less exactly if its place is not. -/
theorem compareNumbers?_ne_lt {a b : Value} (ha : a.place?.isSome = true)
    (hb : b.place?.isSome = true) :
    (b.compareNumbers? a != some .lt) = decide (a.rank ≤ b.rank) := by
  obtain ⟨p, hp⟩ := Option.isSome_iff_exists.mp ha
  obtain ⟨q, hq⟩ := Option.isSome_iff_exists.mp hb
  rw [compareNumbers?_eq, rank, rank, hp, hq]
  rw [Bool.eq_iff_iff, bne_iff_ne, decide_eq_true_iff]
  simp only [Option.bind_some, Option.map_some, Option.getD_some, ne_eq, Option.some.injEq,
    compare_lt_iff_lt, not_lt]

end Value

open Value in
theorem eq_map_str_of_length_eq {values : List Value}
    (hlength : (values.filterMap str?).length = values.length) :
    values = (values.filterMap str?).map .str := by
  induction values with
  | nil => rfl
  | cons value rest ih =>
      have hle := List.length_filterMap_le str? rest
      cases value with
      | str s =>
          have hrest : (rest.filterMap str?).length = rest.length := by simpa [str?] using hlength
          have hfirst : str? (.str s) = some s := rfl
          rw [List.filterMap_cons_some hfirst, List.map_cons, ← ih hrest]
      | _ =>
          rw [List.filterMap_cons_none rfl, List.length_cons] at hlength
          omega

/-- Numbers that are sorted are sorted by their rank. -/
theorem mergeSort_numbers {values : List Value}
    (hnumbers : ∀ value ∈ values, value.place?.isSome = true) :
    values.mergeSort (fun a b => b.compareNumbers? a != some .lt) =
      values.mergeSort fun a b => decide (a.rank ≤ b.rank) := by
  have hsorted := @List.map_mergeSort _ _ (fun a b : Value => b.compareNumbers? a != some .lt)
    (fun a b => decide (a.rank ≤ b.rank)) id values
    fun a ha b hb => Value.compareNumbers?_ne_lt (hnumbers a ha) (hnumbers b hb)
  simpa using hsorted

theorem mergeSort_rank_mergeSort (values : List Value) :
    (values.mergeSort fun a b => decide (a.rank ≤ b.rank)).mergeSort
        (fun a b => decide (a.rank ≤ b.rank)) =
      values.mergeSort fun a b => decide (a.rank ≤ b.rank) := by
  refine List.mergeSort_of_pairwise (List.pairwise_mergeSort ?_ ?_ values)
  · intro a b c hab hbc
    exact decide_eq_true (le_trans (of_decide_eq_true hab) (of_decide_eq_true hbc))
  · intro a b
    simpa using le_total a.rank b.rank

theorem sortedNames_sortedNames (names : List String) :
    sortedNames (sortedNames names) = sortedNames names := by
  have hsorted := Usage.sortedNames_filter_sortedNames (fun _ => true) names
  simpa using hsorted

namespace Report

/-- Sorting by cases: texts, numbers, or a single value. -/
theorem sortValues_eq (values : List Value) :
    sortValues values =
      if (values.filterMap Value.str?).length = values.length then
        .ok ((sortedNames (values.filterMap Value.str?)).map .str)
      else if values.all fun value => (value.compareNumbers? value).isSome then
        .ok (values.mergeSort fun a b => b.compareNumbers? a != some .lt)
      else if values.length = 1 then .ok values
      else .error (.wrongType "values cannot be compared") := by
  rcases values with _ | ⟨first, _ | ⟨second, rest⟩⟩
  · rfl
  · rfl
  · rfl

/-- Values that have been sorted stay as they are when they are sorted again. -/
theorem sortValues_sorted {values sorted : List Value} (hsorted : sortValues values = .ok sorted) :
    sorted.Perm values ∧ sortValues sorted = .ok sorted := by
  rw [sortValues_eq] at hsorted
  split at hsorted
  · next htexts =>
    cases hsorted
    rw [Usage.sortValues_map_str, sortedNames_sortedNames]
    refine ⟨?_, rfl⟩
    nth_rewrite 2 [eq_map_str_of_length_eq htexts]
    exact (List.mergeSort_perm _ _).map _
  · next htexts =>
    split at hsorted
    · next hnumbers =>
      cases hsorted
      have hplaces : ∀ value ∈ values, value.place?.isSome = true := by
        intro value hvalue
        rw [← Value.compareNumbers?_self_isSome]
        exact List.all_eq_true.mp hnumbers value hvalue
      have hperm := List.mergeSort_perm values fun a b => b.compareNumbers? a != some .lt
      refine ⟨hperm, ?_⟩
      rw [sortValues_eq, (hperm.filterMap _).length_eq, hperm.length_eq, if_neg htexts,
        if_pos (by rw [hperm.all_eq]; exact hnumbers)]
      rw [mergeSort_numbers fun value hvalue => hplaces value (hperm.subset hvalue),
        mergeSort_numbers hplaces, mergeSort_rank_mergeSort]
    · next hnumbers =>
      split at hsorted
      · next hsingle =>
        cases hsorted
        refine ⟨List.Perm.refl _, ?_⟩
        rw [sortValues_eq, if_neg htexts, if_neg hnumbers, if_pos hsingle]
      · cases hsorted

end Report

end ComponentCensus
