import ComponentCensus.Value.Access

/-!
# Quantities

A quantity is an integer or a double-precision number.  Integers are added and multiplied exactly;
as soon as a number that is none takes part, the result is one, and an integer that is beyond every
number cannot take part.
-/

namespace ComponentCensus

open ComponentCensus.Number

/-- An integer or a double-precision number. -/
inductive Quantity where
  | whole (i : Int)
  | real (x : Binary64)
deriving DecidableEq, Repr

namespace Quantity

/-- The quantity that a value is. -/
def ofValue : Value → Except Fault Quantity
  | .bool b => .ok (.whole (if b then 1 else 0))
  | .int i => .ok (.whole i)
  | .float x => .ok (.real x)
  | value => .error (.wrongType s!"unsupported operand type: '{value.typeName}'")

/-- A quantity as a value. -/
def toValue : Quantity → Value
  | .whole i => .int i
  | .real x => .float x

/-- A quantity as a double-precision number. -/
def number : Quantity → Except Fault Binary64
  | .whole i => Value.nearestNumber i
  | .real x => .ok x

/-- The sum of two quantities. -/
def add : Quantity → Quantity → Except Fault Quantity
  | .whole i, .whole j => .ok (.whole (i + j))
  | a, b => do return .real ((← a.number).add (← b.number))

/-- The product of two quantities. -/
def mul : Quantity → Quantity → Except Fault Quantity
  | .whole i, .whole j => .ok (.whole (i * j))
  | a, b => do return .real ((← a.number).mul (← b.number))

/-- The product of two values.  A text or a list is repeated by an integer, and then is no
quantity. -/
def product (a b : Value) : Except Fault Quantity := do
  match a, b with
  | .str _, n | .list _, n | n, .str _ | n, .list _ =>
    let _ ← n.repetitions
    throw (.wrongType s!"unsupported operand types: '{a.typeName}' and '{b.typeName}'")
  | _, _ => (← ofValue a).mul (← ofValue b)

/-- The quotient of two integers. -/
def wholeQuotient (a b : Int) : Except Fault Binary64 :=
  match Binary64.quotient? a b with
  | none => .error (.divisionByZero "division by zero")
  | some (.infinite _) => .error .quotientTooLarge
  | some x => .ok x

/-- The quotient of two quantities. -/
def quotient : Quantity → Quantity → Except Fault Binary64
  | .whole i, .whole j => wholeQuotient i j
  | a, b => do
    let divisor ← b.number
    if divisor.isZero then
      throw (.divisionByZero "float division by zero")
    return (← a.number).div divisor

/-- The sum of products, added up in order. -/
def totalOfProducts : List (Value × Value) → Quantity → Except Fault Quantity
  | [], sum => .ok sum
  | (a, b) :: rest, sum => do
    totalOfProducts rest (← sum.add (← product a b))

/-- A quantity, or one if it is less. -/
def atLeastOne (quantity : Quantity) : Quantity :=
  match quantity.toValue.compareNumbers? (.int 1) with
  | some .lt => .whole 1
  | _ => quantity

end Quantity

namespace Value

/-- The number that a value is shown as with fixed decimal places. -/
def shownNumber : Value → Except Fault Binary64
  | .str _ => .error .unknownFormat
  | value => do (← Quantity.ofValue value).number

/-- The end of a slice that a value names; null names none. -/
def sliceEnd : Value → Except Fault (Option Int)
  | .null => .ok none
  | .bool b => .ok (some (if b then 1 else 0))
  | .int i => .ok (some i)
  | _ => .error (.wrongType
      "slice indices must be integers or None or have an __index__ method")

/-- The least count that reaches a limit; null and what is no number set none. -/
def countReaching : Value → Except Fault (Option Int)
  | .null => .ok none
  | .bool b => .ok (some (if b then 1 else 0))
  | .int i => .ok (some i)
  | .float (.infinite true) => .ok (some 0)
  | .float x =>
    .ok (x.floor?.map fun i => if compareIntFloat i x = some .eq then i else i + 1)
  | value => .error (.wrongType
      s!"'>=' not supported between instances of 'int' and '{value.typeName}'")

end Value

end ComponentCensus
