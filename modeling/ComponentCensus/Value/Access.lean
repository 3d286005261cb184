import ComponentCensus.Fault
import ComponentCensus.Text.Blank
import ComponentCensus.Text.Digit

/-!
# Access to values of unknown shape

Loaded documents may have any shape.  Each access says which shapes it takes and with which fault
it refuses the others: looking up a member, listing members or items, counting, and conversion to
numbers.
-/

namespace ComponentCensus.Value

open ComponentCensus.Text ComponentCensus.Number

/-- The value of a member that may be absent. -/
def lookup? (name : String) : Value → Except Fault (Option Value)
  | .object members => .ok (Entries.get? name members)
  | value => .error (.unsupportedAccess value.typeName "get")

/-- The value of a member, or a default when it is absent. -/
def lookupD (name : String) (value default : Value) : Except Fault Value :=
  (value.lookup? name).map (·.getD default)

/-- The members of an object. -/
def members : Value → Except Fault (List (String × Value))
  | .object members => .ok members
  | value => .error (.unsupportedAccess value.typeName "items")

/-- The value of a member that has to be there. -/
def member (name : String) : Value → Except Fault Value
  | .object members =>
    match Entries.get? name members with
    | some value => .ok value
    | none => .error (.missingMember name)
  | .list _ => .error (.wrongType "list indices must be integers or slices, not str")
  | .str _ => .error (.wrongType "string indices must be integers, not 'str'")
  | value => .error (.wrongType s!"'{value.typeName}' object is not subscriptable")

/-- The items of a list, the characters of a text or the member names of an object. -/
def items : Value → Except Fault (List Value)
  | .list items => .ok items
  | .str s => .ok (s.toList.map fun c => .str (String.singleton c))
  | .object members => .ok (members.map fun m => .str m.1)
  | value => .error (.wrongType s!"'{value.typeName}' object is not iterable")

/-- The parts of an item that stands for an entry of a table. -/
def entryParts : Value → Except Fault (List Value)
  | .list items => .ok items
  | .str s => .ok (s.toList.map fun c => .str (String.singleton c))
  | .object members => .ok (members.map fun m => .str m.1)
  | _ => .error (.wrongType "cannot convert dictionary update sequence element to a sequence")

/-- The entry that an item with the given index stands for. -/
def entryOf (item : Value) (index : Nat) : Except Fault (Value × Value) := do
  match ← item.entryParts with
  | [key, value] =>
    if key.isScalar then
      return (key, value)
    throw (.wrongType s!"unhashable type: '{key.typeName}'")
  | parts => throw (.notAPair index parts.length)

/-- The entries of a table: the members of an object, or the items of a list of pairs. -/
def entries : Value → Except Fault (List (Value × Value))
  | .object members => .ok (members.map fun member => (.str member.1, member.2))
  | value => do (← value.items).zipIdx.mapM fun item => item.1.entryOf item.2

/-- The number of items, characters or members. -/
def size : Value → Except Fault Nat
  | .list items => .ok items.length
  | .str s => .ok s.length
  | .object members => .ok members.length
  | value => .error (.wrongType s!"object of type '{value.typeName}' has no len()")

/-- The text that a value is, for an operation on texts. -/
def asText (operation : String) : Value → Except Fault String
  | .str s => .ok s
  | value => .error (.unsupportedAccess value.typeName operation)

/-- A scalar, for membership in a set. -/
def asMember (value : Value) : Except Fault Value :=
  if value.isScalar then .ok value
  else .error (.wrongType s!"unhashable type: '{value.typeName}'")

/-- The first part of a list of the given length; a negative length counts from the end. -/
def takeSigned {α : Type} (n : Int) (xs : List α) : List α :=
  if n < 0 then xs.take (xs.length - n.natAbs) else xs.take n.toNat

/-- The first items of a list or the first characters of a text. -/
def firstItems (n : Int) : Value → Except Fault (List Value)
  | .list items => .ok (takeSigned n items)
  | .str s => .ok ((takeSigned n s.toList).map fun c => .str (String.singleton c))
  | .object _ => .error (.wrongType "unhashable type: 'slice'")
  | value => .error (.wrongType s!"'{value.typeName}' object is not subscriptable")

/-- Whether a character may stand around the spelling of a number: every blank but the separators
among the control characters. -/
def isAroundNumber (c : Char) : Bool :=
  isBlank c && !(0x1C ≤ c.toNat && c.toNat ≤ 0x1F)

/-- The number spelled by digits of any script, with single underscores between digits only. -/
def digitRun? : List Char → Option Nat
  | [] => none
  | c :: rest => do
    let first ← digitValue? c
    go first rest
where
  /-- Continues a number whose last character was a digit. -/
  go (n : Nat) : List Char → Option Nat
    | [] => some n
    | ['_'] => none
    | '_' :: c :: rest => do
      let digit ← digitValue? c
      go (n * 10 + digit) rest
    | c :: rest => do
      let digit ← digitValue? c
      go (n * 10 + digit) rest

/-- Whether a character may belong to the digits of an integer. -/
def isNumeral (c : Char) : Bool :=
  c = '_' || isDigit c

/-- Whether underscores stand between digits only. -/
def isWellSpaced (run : List Char) : Bool :=
  (splitOn '_' run).all fun digits => !digits.isEmpty

/-- The natural number that characters of a text spell.  An integer that is too long is refused even
if something else follows it. -/
def readNatural (text : String) (cs : List Char) : Except Fault Nat :=
  let run := cs.takeWhile isNumeral
  let digits := run.filterMap digitValue?
  if !isWellSpaced run then .error (.badInteger text)
  else if digitLimit < digits.length then .error (.tooManyDigits digits.length)
  else if run.length < cs.length then .error (.badInteger text)
  else .ok (digits.foldl (fun n digit => n * 10 + digit) 0)

/-- The integer spelled by a text: blanks around it and a sign are allowed. -/
def readInteger (text : String) : Except Fault Int :=
  match trimBoth isAroundNumber text.toList with
  | '-' :: rest => (readNatural text rest).map fun n => -(n : Int)
  | '+' :: rest => (readNatural text rest).map fun n => (n : Int)
  | rest => (readNatural text rest).map fun n => (n : Int)

/-- The integer that a value converts to. -/
def toInteger : Value → Except Fault Int
  | .bool b => .ok (if b then 1 else 0)
  | .int i => .ok i
  | .float x =>
    match x, x.truncate? with
    | _, some i => .ok i
    | .nan, none => .error .notANumber
    | _, none => .error .infinity
  | .str s => readInteger s
  | value =>
    .error (.wrongType ("int() argument must be a string, a bytes-like object or a real number, " ++
      s!"not '{value.typeName}'"))

/-- The digits of a decimal, with single underscores between digits only. -/
def decimalDigits? (cs : List Char) : Option (List Nat) :=
  match cs with
  | [] => some []
  | c :: rest => do
    let first ← digitValue? c
    go [first] rest
where
  /-- Continues digits, kept in reverse, whose last character was a digit. -/
  go (digits : List Nat) : List Char → Option (List Nat)
    | [] => some digits.reverse
    | ['_'] => none
    | '_' :: c :: rest => do
      let digit ← digitValue? c
      go (digit :: digits) rest
    | c :: rest => do
      let digit ← digitValue? c
      go (digit :: digits) rest

/-- The decimal spelled by a text without a sign: digits around a point, and an exponent. -/
def unsignedNumber? (negative : Bool) (cs : List Char) : Option Binary64 := do
  let lowered := cs.map Char.toLower
  if lowered = "inf".toList || lowered = "infinity".toList then return .infinite negative
  if lowered = "nan".toList then return .nan
  let mantissa := cs.takeWhile fun c => c ≠ 'e' && c ≠ 'E'
  let whole ← decimalDigits? (mantissa.takeWhile (· ≠ '.'))
  let fraction ← decimalDigits? ((mantissa.dropWhile (· ≠ '.')).drop 1)
  if whole.isEmpty && fraction.isEmpty then none
  let exponent ←
    match cs.dropWhile fun c => c ≠ 'e' && c ≠ 'E' with
    | [] => some 0
    | _ :: '-' :: rest => (digitRun? rest).map fun n => -(n : Int)
    | _ :: '+' :: rest => (digitRun? rest).map fun n => (n : Int)
    | _ :: rest => (digitRun? rest).map fun n => (n : Int)
  let digits := (whole ++ fraction).foldl (fun n d => n * 10 + d) 0
  return Binary64.ofDecimal negative digits (exponent - fraction.length)

/-- The number spelled by a text: blanks around it and a sign are allowed. -/
def parseNumber? (s : String) : Option Binary64 :=
  match trimBoth isAroundNumber s.toList with
  | '-' :: rest => unsignedNumber? true rest
  | '+' :: rest => unsignedNumber? false rest
  | rest => unsignedNumber? false rest

/-- The number nearest to an integer. -/
def nearestNumber (i : Int) : Except Fault Binary64 :=
  match Binary64.ofInt i with
  | .infinite _ => .error .integerTooLarge
  | x => .ok x

/-- The number that a value converts to. -/
def toNumber : Value → Except Fault Binary64
  | .bool b => .ok (Binary64.ofInt (if b then 1 else 0))
  | .int i => nearestNumber i
  | .float x => .ok x
  | .str s =>
    match parseNumber? s with
    | some x => .ok x
    | none => .error (.badNumber s)
  | value =>
    .error (.wrongType ("float() argument must be a string or a real number, " ++
      s!"not '{value.typeName}'"))

/-- How often a text or a list is repeated that is multiplied by a value; a negative number leaves
nothing of it. -/
def repetitions (value : Value) : Except Fault Nat :=
  match value.asInt? with
  | some i =>
    if i < -(twoTo 63 : Int) ∨ (twoTo 63 : Int) ≤ i then .error .tooManyRepeats
    else if (twoTo 32 : Int) ≤ i then .error .outOfMemory
    else .ok i.toNat
  | none =>
    .error (.wrongType s!"can't multiply sequence by non-int of type '{value.typeName}'")

end ComponentCensus.Value
