import ComponentCensus.Share
import Mathlib.Tactic.Common

/-!
# Percentages that are numbers

A quotient in percent is rounded three times, and each rounding gives an infinite number when it
leaves the range.  `IsBounded` keeps track of how far away the end of the range is: quotients,
products and sums of bounded numbers are bounded as long as the bound stays within the range, so a
part of anything that can be counted has a percentage.

## Main results

* `exists_wholePercent` : a part that is not too large has a whole percentage of any positive
  number.

## Strategy

* A number is bounded by a power of two if it is finite and its significand and exponent leave room
  for that power; rounding a quotient gives such a number (`isBounded_ofRatio`).
* Products and sums are rounded quotients as well, of scaled significands (`IsBounded.mul`,
  `IsBounded.add`).  The bounds need not be sharp and lose some bits with every step.
* A bounded number is finite, and a finite number has a floor (`IsBounded.exists_floor`).
-/

namespace ComponentCensus

namespace Number

theorem twoTo_add (a b : Nat) : twoTo (a + b) = twoTo a * twoTo b :=
  Nat.pow_add 2 a b

theorem twoTo_le {a b : Nat} (hle : a ≤ b) : twoTo a ≤ twoTo b :=
  Nat.pow_le_pow_right (by decide) hle

/-- Rounding does not go beyond a whole bound of the quotient. -/
theorem roundDiv_le {num den bound : Nat} (hden : 0 < den) (hle : num ≤ den * bound) :
    roundDiv num den ≤ bound := by
  have hnear := (roundDiv_near num den hden).1
  by_contra hgt
  have hmul : (bound + 1) * den ≤ roundDiv num den * den :=
    Nat.mul_le_mul_right den (Nat.lt_of_not_le hgt)
  rw [Nat.add_mul, Nat.one_mul, Nat.mul_comm bound den] at hmul
  omega

namespace Binary64

/-- A finite number of at most `2 ^ (54 + top)`. -/
def IsBounded (top : Nat) (x : Binary64) : Prop :=
  ∃ negative significand exponent, x = .finite negative significand exponent ∧
    significand ≤ twoTo 54 ∧ exponent ≤ top

theorem isBounded_zero (negative : Bool) (top : Nat) : (zero negative).IsBounded top :=
  ⟨negative, 0, leastExponent, rfl, Nat.zero_le _, by unfold leastExponent; omega⟩

/-- The exponent of a quotient is near the difference of the logarithms. -/
theorem exponentFor_bounds (num den : Nat) :
    (num.log2 : Int) - den.log2 - 53 ≤ exponentFor num den ∧
      (exponentFor num den ≤ (num.log2 : Int) - den.log2 - 52 ∨
        exponentFor num den = leastExponent) := by
  unfold exponentFor
  dsimp only
  split <;> omega

theorem log2_le_of_le_mul {num den top : Nat} (hnum : num ≠ 0) (hle : num ≤ den * twoTo top) :
    num.log2 ≤ den.log2 + top := by
  have hden : den < twoTo (den.log2 + 1) := Nat.lt_log2_self
  have hlt : num < twoTo (den.log2 + 1 + top) := by
    rw [twoTo_add]
    exact Nat.lt_of_le_of_lt hle (Nat.mul_lt_mul_of_pos_right hden (twoTo_pos top))
  have hlog := (Nat.log2_lt hnum).mpr hlt
  omega

/-- A quotient that is not too large is rounded to a bounded number. -/
theorem isBounded_ofRatio (negative : Bool) {num den top : Nat} (hden : 0 < den)
    (hle : num ≤ den * twoTo top) (htop : top ≤ 900) :
    (ofRatio negative num den).IsBounded top := by
  unfold ofRatio
  split
  · exact isBounded_zero negative top
  · next hnum =>
    obtain ⟨hlow, hhigh⟩ := exponentFor_bounds num den
    have hlog := log2_le_of_le_mul hnum hle
    unfold leastExponent at hhigh
    dsimp only
    generalize exponentFor num den = exponent at hlow hhigh ⊢
    have hrounded : roundDiv (num * twoTo (-exponent).toNat) (den * twoTo exponent.toNat) ≤
        twoTo 54 := by
      refine roundDiv_le (Nat.mul_pos hden (twoTo_pos _)) ?_
      have hbelow : num ≤ twoTo (num.log2 + 1) := Nat.le_of_lt Nat.lt_log2_self
      have habove : twoTo den.log2 ≤ den := Nat.log2_self_le (Nat.pos_iff_ne_zero.mp hden)
      calc num * twoTo (-exponent).toNat
          ≤ twoTo (num.log2 + 1) * twoTo (-exponent).toNat := Nat.mul_le_mul_right _ hbelow
        _ = twoTo (num.log2 + 1 + (-exponent).toNat) := (twoTo_add _ _).symm
        _ ≤ twoTo (den.log2 + exponent.toNat + 54) := twoTo_le (by omega)
        _ = twoTo den.log2 * twoTo exponent.toNat * twoTo 54 := by rw [twoTo_add, twoTo_add]
        _ ≤ den * twoTo exponent.toNat * twoTo 54 :=
            Nat.mul_le_mul_right _ (Nat.mul_le_mul_right _ habove)
    split
    · rw [if_neg (by unfold greatestExponent; omega)]
      exact ⟨negative, twoTo 52, exponent + 1, rfl, twoTo_le (by omega), by omega⟩
    · rw [if_neg (by unfold greatestExponent; omega)]
      exact ⟨negative, _, exponent, rfl, hrounded, by omega⟩

variable {x y : Binary64} {j k : Nat}

theorem IsBounded.mul (hx : x.IsBounded j) (hy : y.IsBounded k) (htop : j + k + 108 ≤ 900) :
    (x.mul y).IsBounded (j + k + 108) := by
  obtain ⟨a, m, e, rfl, hm, he⟩ := hx
  obtain ⟨b, n, f, rfl, hn, hf⟩ := hy
  refine isBounded_ofRatio (a != b) (twoTo_pos _) ?_ htop
  calc m * n * twoTo (e + f).toNat
      ≤ twoTo 54 * twoTo 54 * twoTo (j + k) :=
        Nat.mul_le_mul (Nat.mul_le_mul hm hn) (twoTo_le (by omega))
    _ = twoTo (j + k + 108) := by rw [← twoTo_add, ← twoTo_add, Nat.add_comm]
    _ ≤ twoTo (-(e + f)).toNat * twoTo (j + k + 108) := Nat.le_mul_of_pos_left _ (twoTo_pos _)

theorem natAbs_scaledTo (least : Int) (negative : Bool) (significand : Nat) (exponent : Int) :
    (scaledTo least negative significand exponent).natAbs =
      significand * twoTo (exponent - least).toNat := by
  unfold scaledTo
  dsimp only
  split <;> omega

/-- A bounded number in units of a power of two. -/
theorem scaled_le {significand top : Nat} {exponent least : Int}
    (hsignificand : significand ≤ twoTo 54) (hexponent : exponent ≤ top) (hleast : least ≤ exponent) :
    significand * twoTo (exponent - least).toNat * twoTo least.toNat ≤
      twoTo (-least).toNat * twoTo (top + 54) := by
  calc significand * twoTo (exponent - least).toNat * twoTo least.toNat
      ≤ twoTo 54 * twoTo (exponent - least).toNat * twoTo least.toNat :=
        Nat.mul_le_mul_right _ (Nat.mul_le_mul_right _ hsignificand)
    _ = twoTo (54 + (exponent - least).toNat + least.toNat) := by rw [twoTo_add, twoTo_add]
    _ ≤ twoTo ((-least).toNat + (top + 54)) := twoTo_le (by omega)
    _ = twoTo (-least).toNat * twoTo (top + 54) := twoTo_add _ _

theorem IsBounded.add (hx : x.IsBounded j) (hy : y.IsBounded k) (htop : j + k + 55 ≤ 900) :
    (x.add y).IsBounded (j + k + 55) := by
  obtain ⟨a, m, e, rfl, hm, he⟩ := hx
  obtain ⟨b, n, f, rfl, hn, hf⟩ := hy
  unfold Binary64.add
  dsimp only
  split
  · exact isBounded_zero _ _
  · refine isBounded_ofRatio _ (twoTo_pos _) ?_ htop
    have hfirst := scaled_le hm he (Int.min_le_left e f)
    have hsecond := scaled_le hn hf (Int.min_le_right e f)
    have hsum := Int.natAbs_add_le (scaledTo (min e f) a m e) (scaledTo (min e f) b n f)
    rw [natAbs_scaledTo, natAbs_scaledTo] at hsum
    have hj : twoTo (j + 54) ≤ twoTo (j + k + 54) := twoTo_le (by omega)
    have hk : twoTo (k + 54) ≤ twoTo (j + k + 54) := twoTo_le (by omega)
    calc _ ≤ (m * twoTo (e - min e f).toNat + n * twoTo (f - min e f).toNat) *
            twoTo (min e f).toNat := Nat.mul_le_mul_right _ hsum
      _ ≤ twoTo (-min e f).toNat * twoTo (j + 54) + twoTo (-min e f).toNat * twoTo (k + 54) := by
          rw [Nat.add_mul]
          exact Nat.add_le_add hfirst hsecond
      _ ≤ twoTo (-min e f).toNat * twoTo (j + k + 54) +
            twoTo (-min e f).toNat * twoTo (j + k + 54) :=
          Nat.add_le_add (Nat.mul_le_mul_left _ hj) (Nat.mul_le_mul_left _ hk)
      _ = twoTo (-min e f).toNat * twoTo (j + k + 55) := by
          rw [twoTo_succ (j + k + 54), ← Nat.mul_assoc, Nat.mul_two]

theorem IsBounded.exists_floor (hx : x.IsBounded j) : ∃ i, x.floor? = some i := by
  obtain ⟨a, m, e, rfl, -, -⟩ := hx
  exact ⟨_, rfl⟩

end Binary64

end Number

namespace Share

open ComponentCensus.Number ComponentCensus.Number.Binary64

theorem isBounded_hundred : hundred.IsBounded 0 := by
  have hvalue : hundred = .finite false (100 * twoTo 46) (-46) := by decide
  exact ⟨false, _, _, hvalue, by decide, by omega⟩

theorem isBounded_half : half.IsBounded 0 := by
  have hvalue : half = .finite false (twoTo 52) (-53) := by decide
  exact ⟨false, _, _, hvalue, by decide, by omega⟩

/-- A part of anything that is not far beyond what can be counted has a whole percentage. -/
theorem exists_wholePercent {part whole : Int} {top : Nat} (hpart : part.natAbs ≤ twoTo top)
    (hwhole : 1 ≤ whole) (htop : top ≤ 700) : ∃ percentage, wholePercent part whole = .ok percentage := by
  have hbound : part.natAbs ≤ whole.natAbs * twoTo top :=
    Nat.le_trans hpart (Nat.le_mul_of_pos_left _ (by omega))
  have hquotient := isBounded_ofRatio ((part < 0) != (whole < 0)) (show 0 < whole.natAbs by omega)
    hbound (by omega)
  have hresult := (hquotient.mul isBounded_hundred (by omega)).add isBounded_half (by omega)
  obtain ⟨percentage, hfloor⟩ := hresult.exists_floor
  obtain ⟨negative, significand, exponent, hfinite, -, -⟩ := hquotient
  have hpercent : percent part whole = .ok ((ofRatio ((part < 0) != (whole < 0)) part.natAbs
      whole.natAbs).mul hundred) := by
    unfold percent quotient Quantity.wholeQuotient quotient?
    rw [if_neg (by omega), hfinite]
    rfl
  refine ⟨percentage, ?_⟩
  unfold wholePercent
  rw [hpercent]
  show wholeNumber _ floor? = _
  unfold wholeNumber
  rw [hfloor]

end Share

end ComponentCensus
