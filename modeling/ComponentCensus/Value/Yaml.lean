import ComponentCensus.Fault
import ComponentCensus.Text.Split

/-!
# YAML values

A YAML document is a tree like other values, with more kinds of them: bytes, sets, and the pairs
that ordered mappings are lists of.  The keys of mappings and the members of sets may be any scalar.

Every value has a text, but it takes room to build it.  That fails for a value that has an integer
with too many digits anywhere inside (`hasLongInteger`), or that is nested too deeply (`levels`).
-/

namespace ComponentCensus

open ComponentCensus.Text

/-- A value of a YAML document. -/
inductive Yaml where
  | scalar (value : Value)
  | bytes (values : List UInt8)
  | sequence (items : List Yaml)
  | pair (first second : Yaml)
  | set (members : List Value)
  | mapping (members : List (Value × Yaml))
deriving Inhabited

namespace Yaml

/-- The name of a value's type, as error messages give it. -/
def typeName : Yaml → String
  | .scalar value => value.typeName
  | .bytes _ => "bytes"
  | .sequence _ => "list"
  | .pair .. => "tuple"
  | .set _ => "set"
  | .mapping _ => "dict"

/-- Whether a value counts as true. -/
def isTruthy : Yaml → Bool
  | .scalar value => value.isTruthy
  | .bytes values => !values.isEmpty
  | .sequence items => !items.isEmpty
  | .pair .. => true
  | .set members => !members.isEmpty
  | .mapping members => !members.isEmpty

/-! ## Texts -/

/-- How one byte is written between the given quotes. -/
def byteText (quote : Char) (byte : UInt8) : List Char :=
  if byte.toNat < 0x7F then Quoted.encodeChar quote (Char.ofNat byte.toNat)
  else '\\' :: 'x' :: Quoted.hex 2 byte.toNat

/-- The text of bytes. -/
def bytesText (values : List UInt8) : String :=
  let quote := Quoted.quoteFor (values.map fun byte => Char.ofNat byte.toNat)
  String.ofList ('b' :: quote :: values.flatMap (byteText quote) ++ [quote])

/-- The text of a set. -/
def setText (members : List Value) : String :=
  if members.isEmpty then "set()"
  else "\x7b" ++ joinWith ", " (members.map Value.quoted) ++ "\x7d"

mutual

/-- The text of a value inside another one. -/
def quoted : Yaml → String
  | .scalar value => value.quoted
  | .bytes values => bytesText values
  | .sequence items => "[" ++ joinWith ", " (quotedItems items) ++ "]"
  | .pair first second => "(" ++ first.quoted ++ ", " ++ second.quoted ++ ")"
  | .set members => setText members
  | .mapping members => "\x7b" ++ joinWith ", " (quotedMembers members) ++ "\x7d"

/-- The texts of the items of a sequence. -/
def quotedItems : List Yaml → List String
  | [] => []
  | item :: rest => item.quoted :: quotedItems rest

/-- The texts of the members of a mapping. -/
def quotedMembers : List (Value × Yaml) → List String
  | [] => []
  | (key, value) :: rest => (key.quoted ++ ": " ++ value.quoted) :: quotedMembers rest

end

/-- The text of a value on its own. -/
def text : Yaml → String
  | .scalar value => value.text
  | value => value.quoted

mutual

/-- Whether there is an integer inside a value that has too many digits to be written. -/
def hasLongInteger : Yaml → Bool
  | .scalar value => value.isLongInteger
  | .bytes _ => false
  | .sequence items => itemsHaveLongInteger items
  | .pair first second => first.hasLongInteger || second.hasLongInteger
  | .set members => members.any Value.isLongInteger
  | .mapping members => membersHaveLongInteger members

/-- Whether there is such an integer inside one of several values. -/
def itemsHaveLongInteger : List Yaml → Bool
  | [] => false
  | item :: rest => item.hasLongInteger || itemsHaveLongInteger rest

/-- Whether there is such an integer among the keys or inside the values of a mapping. -/
def membersHaveLongInteger : List (Value × Yaml) → Bool
  | [] => false
  | (key, value) :: rest =>
    key.isLongInteger || value.hasLongInteger || membersHaveLongInteger rest

end

mutual

/-- How many values are nested in each other, this one included. -/
def levels : Yaml → Nat
  | .scalar _ => 1
  | .bytes _ => 1
  | .sequence items => levelsOfItems items + 1
  | .pair first second => max first.levels second.levels + 1
  | .set members => if members.isEmpty then 1 else 3
  | .mapping members => levelsOfMembers members + 1

/-- The levels of the most deeply nested one of several values. -/
def levelsOfItems : List Yaml → Nat
  | [] => 0
  | item :: rest => max item.levels (levelsOfItems rest)

/-- The levels of the most deeply nested value of a mapping. -/
def levelsOfMembers : List (Value × Yaml) → Nat
  | [] => 0
  | (_, value) :: rest => max value.levels (levelsOfMembers rest)

end

/-! ## Access -/

/-- The value of a member that may be absent. -/
def lookup? (name : String) : Yaml → Except Fault (Option Yaml)
  | .mapping members => .ok (Entries.get? (.str name) members)
  | value => .error (.unsupportedAccess value.typeName "get")

/-- The members of a mapping. -/
def members : Yaml → Except Fault (List (Value × Yaml))
  | .mapping members => .ok members
  | value => .error (.unsupportedAccess value.typeName "items")

/-- What a loop over a value runs through: items, members, keys, characters or bytes. -/
def items : Yaml → Except Fault (List Yaml)
  | .scalar (.str s) => .ok (s.toList.map fun c => .scalar (.str (String.singleton c)))
  | .bytes values => .ok (values.map fun byte => .scalar (.int byte.toNat))
  | .sequence items => .ok items
  | .pair first second => .ok [first, second]
  | .set members => .ok (members.map .scalar)
  | .mapping members => .ok (members.map fun member => .scalar member.1)
  | value => .error (.wrongType s!"'{value.typeName}' object is not iterable")

/-- The value, or an empty mapping for a value that counts as false. -/
def orEmpty (value : Yaml) : Yaml :=
  if value.isTruthy then value else .mapping []

end Yaml

end ComponentCensus
