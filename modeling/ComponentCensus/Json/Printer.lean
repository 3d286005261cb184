import ComponentCensus.Value.Basic

/-!
# JSON text of values

JSON text uses ASCII characters only: a character beyond ASCII is written with its 16-bit units.
Without an indentation a value stands on one line, with a space after commas and colons; with one,
each item and each member has a line of its own.
-/

namespace ComponentCensus.Json

open ComponentCensus.Text ComponentCensus.Number

/-- The four hexadecimal digits of a 16-bit unit, after its escape mark. -/
def unitText (n : Nat) : List Char :=
  '\\' :: 'u' :: Quoted.hex 4 n

/-- How one character is written between double quotes. -/
def charText (c : Char) : List Char :=
  if c = '"' then ['\\', '"']
  else if c = '\\' then ['\\', '\\']
  else if c = '\n' then ['\\', 'n']
  else if c = '\r' then ['\\', 'r']
  else if c = '\t' then ['\\', 't']
  else if c = '\x0c' then ['\\', 'f']
  else if c = '\x08' then ['\\', 'b']
  else if 0x20 ≤ c.toNat && c.toNat < 0x7F then [c]
  else if c.toNat < 0x10000 then unitText c.toNat
  else
    let n := c.toNat - 0x10000
    unitText (0xD800 + n / 0x400) ++ unitText (0xDC00 + n % 0x400)

/-- A text between double quotes. -/
def stringText (s : String) : List Char :=
  '"' :: s.toList.flatMap charText ++ ['"']

/-- A number in JSON text; the values that are no numbers have names. -/
def floatText : Binary64 → List Char
  | .nan => "NaN".toList
  | .infinite negative => if negative then "-Infinity".toList else "Infinity".toList
  | x => x.text.toList

/-- How the parts of a value are set apart: on one line, or on lines of their own that start with an
indentation for each level. -/
inductive Layout where
  | oneLine
  | lines (indentation : List Char)
deriving DecidableEq, Repr

/-- The layout with a number of spaces for each level. -/
def Layout.indented (width : Nat) : Layout :=
  .lines (List.replicate width ' ')

/-- The indentation of a number of levels. -/
def indentations (indentation : List Char) : Nat → List Char
  | 0 => []
  | depth + 1 => indentation ++ indentations indentation depth

/-- What stands before an item at the given depth. -/
def Layout.lead : Layout → Nat → List Char
  | .oneLine, _ => []
  | .lines indentation, depth => '\n' :: indentations indentation depth

/-- What stands between two items at the given depth. -/
def Layout.between : Layout → Nat → List Char
  | .oneLine, _ => [',', ' ']
  | .lines indentation, depth => ',' :: Layout.lead (.lines indentation) depth

mutual

/-- The text of a value that stands at the given depth. -/
def valueText (layout : Layout) (depth : Nat) : Value → List Char
  | .null => "null".toList
  | .bool b => if b then "true".toList else "false".toList
  | .int i => (toString i).toList
  | .float x => floatText x
  | .str s => stringText s
  | .other text => stringText text
  | .list [] => ['[', ']']
  | .list (item :: rest) =>
    '[' :: layout.lead (depth + 1) ++ valueText layout (depth + 1) item ++
      itemsText layout (depth + 1) rest ++ layout.lead depth ++ [']']
  | .object [] => ['\x7b', '\x7d']
  | .object ((key, value) :: rest) =>
    '\x7b' :: layout.lead (depth + 1) ++ stringText key ++ [':', ' '] ++
      valueText layout (depth + 1) value ++ membersText layout (depth + 1) rest ++
      layout.lead depth ++ ['\x7d']

/-- The text of the items after the first one. -/
def itemsText (layout : Layout) (depth : Nat) : List Value → List Char
  | [] => []
  | item :: rest =>
    layout.between depth ++ valueText layout depth item ++ itemsText layout depth rest

/-- The text of the members after the first one. -/
def membersText (layout : Layout) (depth : Nat) : List (String × Value) → List Char
  | [] => []
  | (key, value) :: rest =>
    layout.between depth ++ stringText key ++ [':', ' '] ++ valueText layout depth value ++
      membersText layout depth rest

end

/-- The JSON text of a value. -/
def print (layout : Layout) (value : Value) : String :=
  String.ofList (valueText layout 0 value)

end ComponentCensus.Json
