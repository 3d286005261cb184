import ComponentCensus.Number.Decimal
import ComponentCensus.Text.Split
import ComponentCensus.Value.Quantity

/-!
# Counts and shares

A count is shown by its digits, unless there are too many of them.  A share is a quotient of counts,
shown as a percentage or as a bar.  Quotients are rounded once, and percentages are computed from
the rounded quotient.
-/

namespace ComponentCensus.Share

open ComponentCensus.Number ComponentCensus.Text

/-- The text of a count. -/
def countText (count : Int) : Except Fault String :=
  if isWritable count then .ok (toString count) else .error .tooLongInteger

/-- The number one half. -/
def half : Binary64 :=
  Binary64.ofRatio false 1 2

/-- The number one hundred. -/
def hundred : Binary64 :=
  Binary64.ofInt 100

/-- The quotient of two counts. -/
def quotient (a b : Int) : Except Fault Binary64 :=
  Quantity.wholeQuotient a b

/-- The quotient of two counts in percent. -/
def percent (a b : Int) : Except Fault Binary64 :=
  (quotient a b).map fun x => x.mul hundred

/-- The integer that a number is turned into, if it is finite. -/
def wholeNumber (x : Binary64) (whole? : Binary64 → Option Int) : Except Fault Int :=
  match x, whole? x with
  | _, some i => .ok i
  | .nan, none => .error .notANumber
  | _, none => .error .infinity

/-- The nearest integer to a quotient in percent, a half going up. -/
def wholePercent (a b : Int) : Except Fault Int := do
  wholeNumber ((← percent a b).add half) Binary64.floor?

/-- A bar of the given length with so many steps filled, if it has as many. -/
def barOfSteps (steps length : Int) : String :=
  let filled := max 0 (min length steps)
  repeated filled.toNat '█' ++ repeated (length - filled).toNat '░'

/-- A bar of the given length for a fraction. -/
def bar (fraction : Binary64) (length : Int) : Except Fault String := do
  let steps ← wholeNumber ((fraction.mul (Binary64.ofInt length)).add half) Binary64.truncate?
  return barOfSteps steps length

/-- The bar of a percentage and a length that may be any values; the length has to be an integer. -/
def barOf (percentage length : Value) : Except Fault String := do
  let fraction ← (← Quantity.ofValue percentage).quotient (.whole 100)
  let length ← Quantity.ofValue length
  let steps ← wholeNumber ((fraction.mul (← length.number)).add half) Binary64.truncate?
  match length with
  | .whole length =>
    let _ ← (Value.int (max 0 (min length steps))).repetitions
    let _ ← (Value.int (length - max 0 (min length steps))).repetitions
    return barOfSteps steps length
  | .real _ => throw (.wrongType "can't multiply sequence by non-int of type 'float'")

/-- A bar of twenty steps for a percentage. -/
def percentBar (percentage : Binary64) : Except Fault String :=
  bar (percentage.div hundred) 20

end ComponentCensus.Share
