import ComponentCensus.Fault

/-!
# The order of values

Numbers are compared exactly, whatever their type, texts by their characters, and lists by the first
items that differ.  Values of different kinds have no order.
-/

namespace ComponentCensus.Value

mutual

/-- Whether two values are equal; the order of members has no meaning. -/
def equal : Value → Value → Bool
  | .list xs, .list ys => equalItems xs ys
  | .object xs, .object ys => xs.length = ys.length && equalMembers xs ys
  | a, b => a.same b

/-- Whether the items of two lists are equal. -/
def equalItems : List Value → List Value → Bool
  | [], [] => true
  | x :: xs, y :: ys => equal x y && equalItems xs ys
  | _, _ => false

/-- Whether members are among others. -/
def equalMembers : List (String × Value) → List (String × Value) → Bool
  | [], _ => true
  | (name, x) :: rest, ys =>
    (match Entries.get? name ys with
      | some y => equal x y
      | none => false) && equalMembers rest ys

end

/-- Whether a value is a number or a truth value, which counts as one. -/
def isNumeric : Value → Bool
  | .bool _ => true
  | .int _ => true
  | .float _ => true
  | _ => false

/-- Whether a text or a number is at most another one. -/
def scalarAtMost : Value → Value → Except Fault Bool
  | .str s, .str t => .ok (decide (s ≤ t))
  | a, b =>
    if a.isNumeric && b.isNumeric then
      match a.compareNumbers? b with
      | some .gt => .ok false
      | some _ => .ok true
      | none => .ok false
    else
      .error (.wrongType
        s!"'<=' not supported between instances of '{a.typeName}' and '{b.typeName}'")

mutual

/-- Whether a value is at most another one. -/
def atMost : Value → Value → Except Fault Bool
  | .list xs, .list ys => itemsAtMost xs ys
  | a, b => scalarAtMost a b

/-- Whether the items of a list are at most those of another one. -/
def itemsAtMost : List Value → List Value → Except Fault Bool
  | [], _ => .ok true
  | _ :: _, [] => .ok false
  | x :: xs, y :: ys => if equal x y then itemsAtMost xs ys else atMost x y

end

/-- The label of the first bound that a value does not exceed. -/
def labelWithin {α : Type} (value : Value) (last : α) : List (Value × α) → Except Fault α
  | [] => .ok last
  | (bound, label) :: rest => do
    if ← value.atMost bound then
      return label
    value.labelWithin last rest

end ComponentCensus.Value
