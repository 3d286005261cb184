import ComponentCensus.Number.Digits
import ComponentCensus.Text.Blank
import ComponentCensus.Text.Split

/-!
# Integers on a command line

An integer on a command line is written with ASCII digits.  Its plain form is a minus sign or none,
and digits without a zero in front.  Other forms are brought into the plain one: blanks around it, a
plus sign, zeros behind the sign, a fraction of zeros and single underscores are left out.
-/

namespace ComponentCensus.Command

open ComponentCensus.Number ComponentCensus.Text

/-- Whether a character is one of the ten ASCII digits. -/
def isPlainDigit (c : Char) : Bool :=
  '0' ≤ c && c ≤ '9'

/-- The number that digits without a zero in front spell. -/
def plainNatural? (cs : List Char) : Option Nat :=
  let isShort := cs.length ≤ digitLimit
  let isLed := cs.head? ≠ some '0' || cs.length = 1
  if !cs.isEmpty && cs.all isPlainDigit && isLed && isShort then
    some (cs.foldl (fun n c => n * 10 + (c.toNat - '0'.toNat)) 0)
  else
    none

/-- The integer that a plain form spells. -/
def plainInteger? : List Char → Option Int
  | '-' :: rest => (plainNatural? rest).map fun n => -(n : Int)
  | cs => (plainNatural? cs).map fun n => (n : Int)

/-- Whether a minus sign stands in front of a text, and the text behind its sign. -/
def signed : List Char → Bool × List Char
  | '-' :: rest => (true, rest)
  | '+' :: rest => (false, rest)
  | cs => (false, cs)

/-- The rest of a text behind zeros and underscores; `last` is the character before it.  One zero
stays in front of a fraction and where nothing else follows. -/
def withoutZeros? (last : Char) : List Char → Option (List Char)
  | [] => some [last]
  | c :: rest =>
    if c = '0' || c = '_' then withoutZeros? c rest
    else if c = '.' then some (last :: c :: rest)
    else if isPlainDigit c then some (c :: rest)
    else none

/-- A text without zeros in front; it has to start with a digit. -/
def unpadded? : List Char → Option (List Char)
  | [] => none
  | c :: rest =>
    if c = '0' then withoutZeros? c rest
    else if isPlainDigit c then some (c :: rest)
    else none

/-- A text without a fraction that consists of zeros.  A point with nothing behind it is no
fraction. -/
def withoutZeroFraction (cs : List Char) : List Char :=
  match cs.dropWhile (· ≠ '.') with
  | [] | [_] => cs
  | _ :: fraction => if fraction.all (· = '0') then cs.takeWhile (· ≠ '.') else cs

/-- A text without its underscores, if they stand alone and not at an end. -/
def withoutUnderscores (cs : List Char) : List Char :=
  if (splitOn '_' cs).any List.isEmpty then cs else cs.filter (· ≠ '_')

/-- Whether a character is a blank that may stand around an integer. -/
def isOuterBlank (c : Char) : Bool :=
  isBlank c && !(0x1C ≤ c.toNat && c.toNat ≤ 0x1F)

/-- The integer that an argument spells. -/
def integerOf? (argument : String) : Option Int :=
  let cs := argument.toList
  match plainInteger? cs with
  | some i => some i
  | none => do
    let (isNegative, unsigned) := signed (trimBoth isOuterBlank cs)
    let digits ← unpadded? unsigned
    let n ← plainNatural? (withoutUnderscores (withoutZeroFraction digits))
    return if isNegative then -(n : Int) else n

end ComponentCensus.Command
