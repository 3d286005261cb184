import ComponentCensus.Number.Binary64

/-!
# Decimal text of double-precision numbers

A number is written either with the fewest digits that read back to it, or with a fixed number of
decimal places.  The digits are found by exact arithmetic: the numbers that read back to a given
one form an interval, and the search tries coarse decimal grids before fine ones.
-/

namespace ComponentCensus.Number

/-- The decimal number `digits * 10 ^ exponent`. -/
structure Decimal where
  digits : Nat
  exponent : Int
deriving DecidableEq, Repr

namespace Decimal

/-- Compares `a * 10 ^ i` with `n * 2 ^ j` exactly. -/
def compareScaled (a : Nat) (i : Int) (n : Nat) (j : Int) : Ordering :=
  compare (a * tenTo i.toNat * twoTo (-j).toNat) (n * twoTo j.toNat * tenTo (-i).toNat)

/-- Whether a decimal lies among the numbers that round to `significand * 2 ^ exponent`: from half
way to the neighbour below to half way to the neighbour above, the ends included when the
significand is even.  Below a power of two the neighbours are twice as dense. -/
def readsBack (significand : Nat) (exponent : Int) (d : Decimal) : Bool :=
  let narrow := significand = twoTo 52 && exponent > Binary64.leastExponent
  let low := if narrow then 4 * significand - 1 else 4 * significand - 2
  let high := 4 * significand + 2
  let ends := significand % 2 = 0
  let below := compareScaled d.digits d.exponent low (exponent - 2)
  let above := compareScaled d.digits d.exponent high (exponent - 2)
  (below == .gt || (ends && below == .eq)) && (above == .lt || (ends && above == .eq))

/-- The least power of ten above a positive fraction: an estimate from the binary logarithm,
corrected by exact comparison. -/
def scaleOf (num den : Nat) : Int :=
  let estimate : Int := Int.fdiv (((num.log2 : Int) - den.log2) * 30103) 100000
  let candidates := [estimate - 1, estimate, estimate + 1, estimate + 2]
  (candidates.find? fun k => num * tenTo (-k).toNat < den * tenTo k.toNat).getD (estimate + 2)

/-- The decimal with `count` digits nearest to the given number, if it reads back to it. -/
def nearestOn (significand : Nat) (exponent : Int) (num den : Nat) (scale : Int) (count : Nat) :
    Option Decimal :=
  let grid := scale - count
  let top := num * tenTo (-grid).toNat
  let bottom := den * tenTo grid.toNat
  let down : Decimal := ⟨top / bottom, grid⟩
  let up : Decimal := ⟨top / bottom + 1, grid⟩
  let rest := top % bottom
  match readsBack significand exponent down, readsBack significand exponent up with
  | true, true =>
    if 2 * rest < bottom then some down
    else if bottom < 2 * rest then some up
    else if down.digits % 2 = 0 then some down
    else some up
  | true, false => some down
  | false, true => some up
  | false, false => none

/-- Moves the zeros at the end of the digits into the exponent. -/
def dropZeros : Nat → Decimal → Decimal
  | 0, d => d
  | fuel + 1, d =>
    if d.digits ≠ 0 && d.digits % 10 = 0 then dropZeros fuel ⟨d.digits / 10, d.exponent + 1⟩ else d

/-- The decimal with the fewest digits that reads back to `significand * 2 ^ exponent`, and of
those the nearest one. -/
def shortest (significand : Nat) (exponent : Int) : Decimal :=
  let (num, den) := Binary64.ratio significand exponent
  let scale := scaleOf num den
  let found := (List.range 17).findSome? fun n =>
    nearestOn significand exponent num den scale (n + 1)
  dropZeros 20 (found.getD ⟨num * Nat.pow 5 (-exponent).toNat, min exponent 0⟩)

end Decimal

namespace Binary64

/-- The layout of a decimal: positional when the exponent of the leading digit is between -4 and
15, otherwise with an exponent of at least two digits.  A positional number shows a point. -/
def layout (d : Decimal) : String :=
  let digits := Nat.toDigits 10 d.digits
  let point : Int := d.exponent + digits.length
  let lead := point - 1
  if -4 ≤ lead && lead < 16 then
    if point ≤ 0 then String.ofList ("0.".toList ++ List.replicate (-point).toNat '0' ++ digits)
    else if point ≥ digits.length then
      String.ofList (digits ++ List.replicate (point - digits.length).toNat '0' ++ ".0".toList)
    else String.ofList (digits.take point.toNat ++ '.' :: digits.drop point.toNat)
  else
    let exponentDigits := Nat.toDigits 10 lead.natAbs
    let exponentText := List.replicate (2 - exponentDigits.length) '0' ++ exponentDigits
    let sign := if lead < 0 then '-' else '+'
    let mantissa :=
      match digits with
      | [] => []
      | [digit] => [digit]
      | digit :: rest => digit :: '.' :: rest
    String.ofList (mantissa ++ 'e' :: sign :: exponentText)

/-- The text of a number with the fewest digits that read back to it. -/
def text : Binary64 → String
  | .nan => "nan"
  | .infinite negative => if negative then "-inf" else "inf"
  | .finite negative significand exponent =>
    let sign := if negative then "-" else ""
    if significand = 0 then sign ++ "0.0"
    else sign ++ layout (Decimal.shortest significand exponent)

/-- The exact value of a finite number times `10 ^ places`, rounded to an integer. -/
def scaledRound (places significand : Nat) (exponent : Int) : Nat :=
  let (num, den) := ratio significand exponent
  roundDiv (num * tenTo places) den

/-- The text of a number with a fixed number of decimal places, at least one. -/
def fixed (places : Nat) : Binary64 → String
  | .nan => "nan"
  | .infinite negative => if negative then "-inf" else "inf"
  | .finite negative significand exponent =>
    let digits := Nat.toDigits 10 (scaledRound places significand exponent)
    let padded := List.replicate (places + 1 - digits.length) '0' ++ digits
    let whole := padded.length - places
    let sign := if negative then ['-'] else []
    String.ofList (sign ++ padded.take whole ++ '.' :: padded.drop whole)

/-- The number nearest to the decimal that rounds the exact value to a number of places. -/
def roundPlaces (places : Nat) : Binary64 → Binary64
  | .finite negative significand exponent =>
    if exponent ≥ 0 then .finite negative significand exponent
    else ofRatio negative (scaledRound places significand exponent) (tenTo places)
  | x => x

end Binary64

end ComponentCensus.Number
