import ComponentCensus.Number.Power
import ComponentCensus.Number.Rounding

/-!
# Double-precision numbers

A finite double-precision number is a significand below `2 ^ 53` times a power of two, with a sign.
Operations are exact operations on fractions followed by one rounding, `ofRatio`, so every result
is a statement about natural numbers.
-/

namespace ComponentCensus.Number

/-- A double-precision number; a finite one is `± significand * 2 ^ exponent`. -/
inductive Binary64 where
  | nan
  | infinite (negative : Bool)
  | finite (negative : Bool) (significand : Nat) (exponent : Int)
deriving DecidableEq, Repr, Inhabited

namespace Binary64

/-- The exponent of the smallest positive numbers. -/
def leastExponent : Int := -1074

/-- The largest exponent of a finite number. -/
def greatestExponent : Int := 971

/-- A zero with a sign. -/
def zero (negative : Bool) : Binary64 :=
  .finite negative 0 leastExponent

/-- The exponent at which `num / den` has a significand of 53 bits, or the least exponent. -/
def exponentFor (num den : Nat) : Int :=
  let low : Int := (num.log2 : Int) - den.log2 - 53
  let wide := num * twoTo (-low).toNat / (den * twoTo low.toNat)
  max (if wide < twoTo 53 then low else low + 1) leastExponent

/-- The number nearest to `± num / den`, a half going to the even significand. -/
def ofRatio (negative : Bool) (num den : Nat) : Binary64 :=
  if num = 0 then zero negative
  else
    let exponent := exponentFor num den
    let rounded := roundDiv (num * twoTo (-exponent).toNat) (den * twoTo exponent.toNat)
    let (significand, exponent) :=
      if rounded = twoTo 53 then (twoTo 52, exponent + 1) else (rounded, exponent)
    if exponent > greatestExponent then .infinite negative
    else .finite negative significand exponent

/-- The number nearest to an integer. -/
def ofInt (i : Int) : Binary64 :=
  ofRatio (i < 0) i.natAbs 1

/-- The number nearest to `± digits * 10 ^ exponent`.  Powers far outside the range are not
computed: they give zero or infinity. -/
def ofDecimal (negative : Bool) (digits : Nat) (exponent : Int) : Binary64 :=
  if digits = 0 then zero negative
  else
    let magnitude : Int := exponent + (Nat.toDigits 10 digits).length
    if magnitude > 400 then .infinite negative
    else if magnitude < -400 then zero negative
    else ofRatio negative (digits * tenTo exponent.toNat) (tenTo (-exponent).toNat)

/-- The numerator and the denominator of the magnitude of a finite number. -/
def ratio (significand : Nat) (exponent : Int) : Nat × Nat :=
  (significand * twoTo exponent.toNat, twoTo (-exponent).toNat)

/-- The sign of a number; NaN counts as positive. -/
def isNegative : Binary64 → Bool
  | .nan => false
  | .infinite negative => negative
  | .finite negative _ _ => negative

/-- Whether a number is a zero. -/
def isZero : Binary64 → Bool
  | .finite _ significand _ => significand = 0
  | _ => false

/-- The product of two numbers. -/
def mul : Binary64 → Binary64 → Binary64
  | .nan, _ => .nan
  | _, .nan => .nan
  | .infinite a, y => if y.isZero then .nan else .infinite (a != y.isNegative)
  | x, .infinite b => if x.isZero then .nan else .infinite (x.isNegative != b)
  | .finite a m e, .finite b n f =>
    let (p, q) := ratio (m * n) (e + f)
    ofRatio (a != b) p q

/-- The quotient of two numbers, the divisor not a zero. -/
def div : Binary64 → Binary64 → Binary64
  | .nan, _ => .nan
  | _, .nan => .nan
  | .infinite _, .infinite _ => .nan
  | .infinite a, y => .infinite (a != y.isNegative)
  | x, .infinite b => zero (x.isNegative != b)
  | .finite a m e, .finite b n f =>
    if n = 0 then .nan
    else
      let (p, q) := ratio m (e - f)
      ofRatio (a != b) p (q * n)

/-- A finite number as an integer multiple of a power of two with a smaller exponent. -/
def scaledTo (least : Int) (negative : Bool) (significand : Nat) (exponent : Int) : Int :=
  let magnitude : Int := significand * twoTo (exponent - least).toNat
  if negative then -magnitude else magnitude

/-- The sum of two numbers. -/
def add : Binary64 → Binary64 → Binary64
  | .nan, _ => .nan
  | _, .nan => .nan
  | .infinite a, .infinite b => if a = b then .infinite a else .nan
  | .infinite a, _ => .infinite a
  | _, .infinite b => .infinite b
  | .finite a m e, .finite b n f =>
    let least := min e f
    let total := scaledTo least a m e + scaledTo least b n f
    if total = 0 then zero (a && b)
    else
      let (p, q) := ratio total.natAbs least
      ofRatio (total < 0) p q

/-- The order of two numbers, when they have one. -/
def compare? : Binary64 → Binary64 → Option Ordering
  | .nan, _ => none
  | _, .nan => none
  | .infinite a, .infinite b => some (if a = b then .eq else if a then .lt else .gt)
  | .infinite a, _ => some (if a then .lt else .gt)
  | _, .infinite b => some (if b then .gt else .lt)
  | .finite a m e, .finite b n f =>
    let least := min e f
    some (compare (scaledTo least a m e) (scaledTo least b n f))

/-- The greatest integer that is not above a finite number. -/
def floor? : Binary64 → Option Int
  | .finite negative significand exponent =>
    let (p, q) := ratio significand exponent
    some (Int.fdiv (if negative then -(p : Int) else p) q)
  | _ => none

/-- A finite number without its fraction. -/
def truncate? : Binary64 → Option Int
  | .finite negative significand exponent =>
    let (p, q) := ratio significand exponent
    let magnitude : Int := (p / q : Nat)
    some (if negative then -magnitude else magnitude)
  | _ => none

/-- The quotient of two integers rounded once; `none` when the divisor is zero. -/
def quotient? (a b : Int) : Option Binary64 :=
  if b = 0 then none
  else some (ofRatio ((a < 0) != (b < 0)) a.natAbs b.natAbs)

end Binary64

end ComponentCensus.Number
