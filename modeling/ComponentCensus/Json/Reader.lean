import ComponentCensus.Number.Digits
import ComponentCensus.Value.Basic

/-!
# Reading JSON text

The reader follows the grammar of JSON with two liberties: the names of the values that are no
numbers are accepted, and of members with the same name the last value is kept at the place of the
first.  A failed reading tells what was expected and how many characters were left, from which the
line, the column and the position are found.  Where the length of integers or the number of brackets
that are open at once is limited, what goes beyond the limit ends the reading (`Limits`).

Every step of the reader takes at least one character for two units of fuel, so twice the length
of the text is always enough.
-/

namespace ComponentCensus.Json

open ComponentCensus.Number

/-- What is wrong with a JSON text. -/
inductive Complaint where
  | expectingValue
  | expectingName
  | expectingColon
  | expectingComma
  | extraData
  | unterminated
  | controlCharacter
  | badEscape
  | badUnit
  | byteOrderMark
  | tooManyDigits (count : Nat)
  /-- A list or an object is nested too deeply. -/
  | tooDeep (kind : String)
deriving DecidableEq, Repr

/-- The wording of a complaint. -/
def Complaint.text : Complaint → String
  | .expectingValue => "Expecting value"
  | .expectingName => "Expecting property name enclosed in double quotes"
  | .expectingColon => "Expecting ':' delimiter"
  | .expectingComma => "Expecting ',' delimiter"
  | .extraData => "Extra data"
  | .unterminated => "Unterminated string starting at"
  | .controlCharacter => "Invalid control character at"
  | .badEscape => "Invalid \\escape"
  | .badUnit => "Invalid \\uXXXX escape"
  | .byteOrderMark => "Unexpected UTF-8 BOM (decode using utf-8-sig)"
  | .tooManyDigits count => tooManyDigitsText count
  | .tooDeep kind =>
    s!"maximum recursion depth exceeded while decoding a JSON {kind} from a unicode string"

/-- A complaint with the number of characters that were left at its place. -/
structure Stop where
  complaint : Complaint
  left : Nat
deriving DecidableEq, Repr

/-- A complaint with the position of its place in the text. -/
structure Problem where
  complaint : Complaint
  line : Nat
  column : Nat
  position : Nat
deriving DecidableEq, Repr

/-- The description of what is wrong and where. -/
def Problem.message (p : Problem) : String :=
  match p.complaint with
  | .tooManyDigits _ | .tooDeep _ => p.complaint.text
  | _ => s!"{p.complaint.text}: line {p.line} column {p.column} (char {p.position})"

/-- The place of a stop in its text. -/
def Stop.locate (text : List Char) (stop : Stop) : Problem :=
  let before := text.take (text.length - stop.left)
  let lastLine := before.reverse.takeWhile (· ≠ '\n')
  ⟨stop.complaint, before.count '\n' + 1, lastLine.length + 1, before.length⟩

/-- How far a reader goes. -/
structure Limits where
  /-- The greatest number of digits of an integer, if there is one. -/
  digits : Option Nat := none
  /-- The greatest number of brackets that are open at once, if there is one. -/
  brackets : Option Nat := none
deriving DecidableEq, Repr

/-- The limits behind one more opening bracket, unless that is one too many. -/
def Limits.inside? (limits : Limits) : Option Limits :=
  match limits.brackets with
  | none => some limits
  | some 0 => none
  | some (count + 1) => some { limits with brackets := some count }

/-- What a reader gives: a result with the rest of the text, or where it stopped. -/
abbrev Parsed (α : Type) := Except Stop (α × List Char)

/-- Whether a character is blank in JSON text. -/
def isSpace (c : Char) : Bool :=
  c = ' ' || c = '\t' || c = '\n' || c = '\r'

/-- The text after its leading blanks. -/
def skipSpace (cs : List Char) : List Char :=
  cs.dropWhile isSpace

/-- The value of a hexadecimal digit. -/
def hexValue? (c : Char) : Option Nat :=
  if '0' ≤ c && c ≤ '9' then some (c.toNat - '0'.toNat)
  else if 'a' ≤ c && c ≤ 'f' then some (c.toNat - 'a'.toNat + 10)
  else if 'A' ≤ c && c ≤ 'F' then some (c.toNat - 'A'.toNat + 10)
  else none

/-- The 16-bit unit spelled by four hexadecimal digits. -/
def unit? (a b c d : Char) : Option Nat := do
  return ((← hexValue? a) * 16 + (← hexValue? b)) * 256 + (← hexValue? c) * 16 + (← hexValue? d)

/-- Whether a 16-bit unit is the first half of a pair. -/
def isHighHalf (n : Nat) : Bool :=
  0xD800 ≤ n && n < 0xDC00

/-- Whether a 16-bit unit is the second half of a pair. -/
def isLowHalf (n : Nat) : Bool :=
  0xDC00 ≤ n && n < 0xE000

/-- The character of a unit that stands alone; half of a pair spells none. -/
def loneUnit (n : Nat) : Char :=
  if isHighHalf n || isLowHalf n then '�' else Char.ofNat n

/-- The character spelled by two halves. -/
def pairedUnits (high low : Nat) : Char :=
  Char.ofNat (0x10000 + (high - 0xD800) * 0x400 + (low - 0xDC00))

/-- The character that a one-letter escape stands for. -/
def escaped? : Char → Option Char
  | '"' => some '"'
  | '\\' => some '\\'
  | '/' => some '/'
  | 'b' => some '\x08'
  | 'f' => some '\x0c'
  | 'n' => some '\n'
  | 'r' => some '\r'
  | 't' => some '\t'
  | _ => none

/-- Puts a character in front of a text that is read further. -/
def prepend (c : Char) (rest : Parsed (List Char)) : Parsed (List Char) :=
  rest.map fun (cs, after) => (c :: cs, after)

/-- Reads a text up to its closing quote.  `start` is what was left at the opening quote. -/
def readString (start : List Char) : List Char → Parsed (List Char)
  | [] => .error ⟨.unterminated, start.length⟩
  | '"' :: rest => .ok ([], rest)
  | '\\' :: 'u' :: a :: b :: c :: d :: '\\' :: 'u' :: e :: f :: g :: h :: last :: rest =>
    match unit? a b c d with
    | none => .error ⟨.badUnit, rest.length + 12⟩
    | some high =>
      if isHighHalf high then
        match unit? e f g h with
        | none => .error ⟨.badUnit, rest.length + 6⟩
        | some low =>
          if isLowHalf low then prepend (pairedUnits high low) (readString start (last :: rest))
          else
            prepend (loneUnit high)
              (readString start ('\\' :: 'u' :: e :: f :: g :: h :: last :: rest))
      else
        prepend (loneUnit high)
          (readString start ('\\' :: 'u' :: e :: f :: g :: h :: last :: rest))
  | '\\' :: 'u' :: a :: b :: c :: d :: last :: rest =>
    match unit? a b c d with
    | none => .error ⟨.badUnit, rest.length + 6⟩
    | some n => prepend (loneUnit n) (readString start (last :: rest))
  | '\\' :: 'u' :: rest => .error ⟨.badUnit, rest.length + 1⟩
  | ['\\'] => .error ⟨.unterminated, start.length⟩
  | '\\' :: c :: rest =>
    match escaped? c with
    | some d => prepend d (readString start rest)
    | none => .error ⟨.badEscape, rest.length + 2⟩
  | c :: rest =>
    if c.toNat ≤ 0x1F then .error ⟨.controlCharacter, rest.length + 1⟩
    else prepend c (readString start rest)

/-- Whether a character is one of the ten ASCII digits. -/
def isAsciiDigit (c : Char) : Bool :=
  '0' ≤ c && c ≤ '9'

/-- The number spelled by ASCII digits. -/
def digitsValue (cs : List Char) : Nat :=
  cs.foldl (fun n c => n * 10 + (c.toNat - '0'.toNat)) 0

/-- The digits before the point, and the rest.  A leading zero stands alone. -/
def wholePart? : List Char → Option (List Char × List Char)
  | [] => none
  | c :: rest =>
    if c = '0' then some ([c], rest)
    else if isAsciiDigit c then
      some (c :: rest.takeWhile isAsciiDigit, rest.dropWhile isAsciiDigit)
    else none

/-- The digits after a point, and the rest; without a digit the point is not read. -/
def fractionPart (cs : List Char) : List Char × List Char :=
  match cs with
  | '.' :: rest =>
    let digits := rest.takeWhile isAsciiDigit
    if digits.isEmpty then ([], cs) else (digits, rest.dropWhile isAsciiDigit)
  | _ => ([], cs)

/-- The exponent, if there is one, and the rest. -/
def exponentPart (cs : List Char) : Option Int × List Char :=
  match cs with
  | [] => (none, cs)
  | mark :: rest =>
    if mark = 'e' || mark = 'E' then
      let (negative, unsigned) :=
        match rest with
        | '-' :: after => (true, after)
        | '+' :: after => (false, after)
        | after => (false, after)
      let digits := unsigned.takeWhile isAsciiDigit
      if digits.isEmpty then (none, cs)
      else
        let magnitude : Int := digitsValue digits
        (some (if negative then -magnitude else magnitude), unsigned.dropWhile isAsciiDigit)
    else (none, cs)

/-- Whether a text starts with a minus sign, and what stands behind the sign. -/
def splitSign (cs : List Char) : Bool × List Char :=
  match cs with
  | '-' :: rest => (true, rest)
  | _ => (false, cs)

/-- Reads a number. -/
def readNumber (cs : List Char) : Option (Value × List Char) :=
  let (negative, unsigned) := splitSign cs
  match wholePart? unsigned with
  | none => none
  | some (whole, afterWhole) =>
    let (fraction, afterFraction) := fractionPart afterWhole
    let (exponent, rest) := exponentPart afterFraction
    if fraction.isEmpty && exponent.isNone then
      let magnitude : Int := digitsValue whole
      some (.int (if negative then -magnitude else magnitude), rest)
    else
      let x := Binary64.ofDecimal negative (digitsValue (whole ++ fraction))
        (exponent.getD 0 - fraction.length)
      some (.float x, rest)

/-- The names that stand for values. -/
def names : List (List Char × Value) :=
  [("null".toList, .null), ("true".toList, .bool true), ("false".toList, .bool false),
   ("NaN".toList, .float .nan), ("Infinity".toList, .float (.infinite false)),
   ("-Infinity".toList, .float (.infinite true))]

/-- Reads a value that is spelled by a name. -/
def readName (cs : List Char) : Option (Value × List Char) :=
  names.findSome? fun (name, value) =>
    if name.isPrefixOf cs then some (value, cs.drop name.length) else none

/-- The number of digits of the integer that a text starts with. -/
def integerLength (cs : List Char) : Nat :=
  ((wholePart? (splitSign cs).2).map fun part => part.1.length).getD 0

/-- Whether the integer that a text starts with is longer than a limit. -/
def exceeds (limit : Option Nat) (cs : List Char) : Bool :=
  limit.any (· < integerLength cs)

/-- Reads a value that is a name or a number.  The limit is that of the digits of integers. -/
def readScalar (limit : Option Nat) (cs : List Char) : Parsed Value :=
  match readName cs with
  | some found => .ok found
  | none =>
    match readNumber cs with
    | some (.int i, rest) =>
      if exceeds limit cs then .error ⟨.tooManyDigits (integerLength cs), cs.length⟩
      else .ok (.int i, rest)
    | some found => .ok found
    | none => .error ⟨.expectingValue, cs.length⟩

mutual

/-- Reads a value at the start of the text. -/
def readValue (limits : Limits) : Nat → List Char → Parsed Value
  | 0, cs => .error ⟨.expectingValue, cs.length⟩
  | fuel + 1, cs =>
    match cs with
    | '"' :: rest => (readString cs rest).map fun (s, after) => (.str (String.ofList s), after)
    | '[' :: rest =>
      match limits.inside? with
      | none => .error ⟨.tooDeep "array", cs.length⟩
      | some inside =>
        match skipSpace rest with
        | ']' :: after => .ok (.list [], after)
        | items => (readItems inside fuel items).map fun (values, after) => (.list values, after)
    | '\x7b' :: rest =>
      match limits.inside? with
      | none => .error ⟨.tooDeep "object", cs.length⟩
      | some inside =>
        match skipSpace rest with
        | '\x7d' :: after => .ok (.object [], after)
        | members =>
          (readMembers inside fuel members).map fun (pairs, after) =>
            (.object (Entries.ofPairs pairs), after)
    | _ => readScalar limits.digits cs

/-- Reads the items of a list from the start of an item to the closing bracket. -/
def readItems (limits : Limits) : Nat → List Char → Parsed (List Value)
  | 0, cs => .error ⟨.expectingValue, cs.length⟩
  | fuel + 1, cs =>
    match readValue limits fuel cs with
    | .error stop => .error stop
    | .ok (value, rest) =>
      match skipSpace rest with
      | ']' :: after => .ok ([value], after)
      | ',' :: after =>
        (readItems limits fuel (skipSpace after)).map fun (values, last) => (value :: values, last)
      | after => .error ⟨.expectingComma, after.length⟩

/-- Reads the members of an object from the start of a name to the closing brace. -/
def readMembers (limits : Limits) : Nat → List Char → Parsed (List (String × Value))
  | 0, cs => .error ⟨.expectingName, cs.length⟩
  | fuel + 1, cs =>
    match cs with
    | '"' :: rest =>
      match readString cs rest with
      | .error stop => .error stop
      | .ok (name, afterName) =>
        match skipSpace afterName with
        | ':' :: afterColon =>
          match readValue limits fuel (skipSpace afterColon) with
          | .error stop => .error stop
          | .ok (value, afterValue) =>
            let member := (String.ofList name, value)
            match skipSpace afterValue with
            | '\x7d' :: after => .ok ([member], after)
            | ',' :: after =>
              (readMembers limits fuel (skipSpace after)).map fun (members, last) =>
                (member :: members, last)
            | after => .error ⟨.expectingComma, after.length⟩
        | after => .error ⟨.expectingColon, after.length⟩
    | _ => .error ⟨.expectingName, cs.length⟩

end

/-- Reads a text that holds one value and nothing else but blanks. -/
def readAll (limits : Limits) (cs : List Char) : Except Stop Value :=
  if cs.head? = some '\uFEFF' then .error ⟨.byteOrderMark, cs.length⟩
  else
    match readValue limits (2 * cs.length + 2) (skipSpace cs) with
    | .error stop => .error stop
    | .ok (value, rest) =>
      match skipSpace rest with
      | [] => .ok value
      | after => .error ⟨.extraData, after.length⟩

/-- The value of a JSON text within limits, or what is wrong with it and where. -/
def parseWithin (limits : Limits) (s : String) : Except Problem Value :=
  (readAll limits s.toList).mapError (Stop.locate s.toList)

/-- The value of a JSON text, or what is wrong with it and where. -/
def parse (s : String) : Except Problem Value :=
  parseWithin {} s

end ComponentCensus.Json
