import ComponentCensus.Entries
import ComponentCensus.Number.Decimal
import ComponentCensus.Number.Digits
import ComponentCensus.Text.Quoted
import ComponentCensus.Value.Moment

/-!
# Values

Reports, settings and lockfiles are trees of values: null, truth values, integers, numbers, texts,
lists and objects with ordered members.  Scalars of other kinds, such as dates, are known by their
text.  A value has a truth of its own, a text, and, when it is a
scalar, a notion of sameness in which equal numbers are the same whatever their type.
-/

namespace ComponentCensus

open ComponentCensus.Number ComponentCensus.Text

/-- A value of a data document. -/
inductive Value where
  | null
  | bool (b : Bool)
  | int (i : Int)
  | float (x : Binary64)
  | str (s : String)
  /-- A scalar of another kind, with its text. -/
  | other (text : String)
  | list (items : List Value)
  | object (members : List (String × Value))
deriving Inhabited

namespace Value

/-- The name of a value's type, as error messages give it. -/
def typeName : Value → String
  | .null => "NoneType"
  | .bool _ => "bool"
  | .int _ => "int"
  | .float _ => "float"
  | .str _ => "str"
  | .other text => Moment.typeName text
  | .list _ => "list"
  | .object _ => "dict"

/-- Whether a value counts as true: everything but null, false, zero and what is empty. -/
def isTruthy : Value → Bool
  | .null => false
  | .bool b => b
  | .int i => i ≠ 0
  | .float x => !x.isZero
  | .str s => s ≠ ""
  | .other _ => true
  | .list items => !items.isEmpty
  | .object members => !members.isEmpty

/-- The text of a truth value. -/
def boolText (b : Bool) : String :=
  if b then "True" else "False"

mutual

/-- The text of a value inside another one, where texts are quoted. -/
def quoted : Value → String
  | .null => "None"
  | .bool b => boolText b
  | .int i => toString i
  | .float x => x.text
  | .str s => Quoted.encode s
  | .other text => Moment.quoted text
  | .list items => "[" ++ joinWithComma (quotedItems items) ++ "]"
  | .object members => "\x7b" ++ joinWithComma (quotedMembers members) ++ "\x7d"

/-- The texts of the items of a list. -/
def quotedItems : List Value → List String
  | [] => []
  | item :: rest => item.quoted :: quotedItems rest

/-- The texts of the members of an object. -/
def quotedMembers : List (String × Value) → List String
  | [] => []
  | (key, value) :: rest => (Quoted.encode key ++ ": " ++ value.quoted) :: quotedMembers rest

/-- Texts with a comma and a space between them. -/
def joinWithComma (parts : List String) : String :=
  ", ".intercalate parts

end

/-- The text of a value on its own. -/
def text : Value → String
  | .str s => s
  | .other text => text
  | value => value.quoted

/-- Whether a value is an integer with too many digits to be written. -/
def isLongInteger : Value → Bool
  | .int i => !isWritable i
  | _ => false

/-- Whether a value may be a member of a set: lists and objects may not. -/
def isScalar : Value → Bool
  | .list _ => false
  | .object _ => false
  | _ => true

/-- The integer that a truth value or an integer stands for. -/
def asInt? : Value → Option Int
  | .bool b => some (if b then 1 else 0)
  | .int i => some i
  | _ => none

/-- The exact order of an integer and a number, when they have one. -/
def compareIntFloat (i : Int) : Binary64 → Option Ordering
  | .nan => none
  | .infinite negative => some (if negative then .gt else .lt)
  | .finite negative significand exponent =>
    let least := min exponent 0
    some (compare (i * twoTo (-least).toNat)
      (Binary64.scaledTo least negative significand exponent))

/-- The order of two numeric values, when they have one. -/
def compareNumbers? (a b : Value) : Option Ordering :=
  match a.asInt?, b.asInt?, a, b with
  | some i, some j, _, _ => some (compare i j)
  | some i, none, _, .float y => compareIntFloat i y
  | none, some j, .float x, _ => (compareIntFloat j x).map Ordering.swap
  | none, none, .float x, .float y => x.compare? y
  | _, _, _, _ => none

/-- Whether two scalars are the same: equal texts, equal numbers of any type, or both null. -/
def same : Value → Value → Bool
  | .null, .null => true
  | .str s, .str t => s = t
  | .other s, .other t => s = t
  | a, b => a.compareNumbers? b == some .eq

instance : BEq Value := ⟨same⟩

/-- Whether a scalar is among the given ones. -/
def isAmong (value : Value) (values : List Value) : Bool :=
  values.any (same · value)

/-- Adds a scalar to a set of scalars. -/
def addTo (values : List Value) (value : Value) : List Value :=
  if value.isAmong values then values else values ++ [value]

end Value

end ComponentCensus
