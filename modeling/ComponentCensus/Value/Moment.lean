import ComponentCensus.Text.Split

/-!
# Dates and times

Documents may hold dates and times, which are known by their text.  The layout of the text tells a
date, a time of day and a date with a time apart.  Inside another value a date or a time is written
as the call that makes it.
-/

namespace ComponentCensus.Moment

open ComponentCensus.Text

/-- The numbers in a text: its stretches of ASCII digits. -/
def numbersIn (cs : List Char) : List Nat :=
  (splitOn ' ' (cs.map fun c => if '0' ≤ c && c ≤ '9' then c else ' ')).filterMap fun digits =>
    if digits.isEmpty then none
    else some (digits.foldl (fun n c => n * 10 + (c.toNat - '0'.toNat)) 0)

/-- Whether a text starts with a date. -/
def startsWithDate (cs : List Char) : Bool :=
  cs[4]? = some '-' && cs[7]? = some '-'

/-- The name of the type that a text belongs to. -/
def typeName (text : String) : String :=
  let cs := text.toList
  if startsWithDate cs then
    if cs.length = 10 then "datetime.date" else "datetime.datetime"
  else if cs[2]? = some ':' then "datetime.time"
  else if startsWith text "b" then "bytes"
  else if startsWith text "(" then "tuple"
  else "set"

/-- A list without one zero at its end. -/
def dropZero (parts : List Nat) : List Nat :=
  if parts.getLast? = some 0 then parts.dropLast else parts

/-- The offset from universal time at the end of a text, in seconds, with its sign. -/
def offset? (cs : List Char) : Option (Bool × Nat) :=
  let isSign (c : Char) := c = '+' || c = '-'
  match cs.dropWhile fun c => !isSign c with
  | [] => none
  | sign :: rest =>
    match numbersIn rest with
    | hours :: minutes :: _ => some (sign = '-', hours * 3600 + minutes * 60)
    | _ => none

/-- How an offset is written. -/
def offsetQuoted : Bool × Nat → String
  | (_, 0) => "tzinfo=datetime.timezone.utc"
  | (false, seconds) =>
    s!"tzinfo=datetime.timezone(datetime.timedelta(seconds={seconds}))"
  | (true, seconds) =>
    let rest := 86400 - seconds
    s!"tzinfo=datetime.timezone(datetime.timedelta(days=-1, seconds={rest}))"

/-- The numbers of a time: hours, minutes, seconds and millionths, zeros at the end left out. -/
def timeParts (cs : List Char) : List Nat :=
  let clock := cs.takeWhile fun c => c ≠ '+' && c ≠ '-'
  match numbersIn clock with
  | [hours, minutes, seconds] => [hours, minutes] ++ dropZero [seconds]
  | [hours, minutes, seconds, millionths] => [hours, minutes, seconds, millionths]
  | parts => parts

/-- A call with arguments. -/
def call (name : String) (arguments : List String) : String :=
  s!"{name}(" ++ joinWith ", " arguments ++ ")"

/-- How a date or a time is written inside another value. -/
def quoted (text : String) : String :=
  let cs := text.toList
  match typeName text with
  | "datetime.date" => call "datetime.date" ((numbersIn cs).map toString)
  | "datetime.time" =>
    call "datetime.time" ((timeParts cs).map toString ++ ((offset? cs).map offsetQuoted).toList)
  | "datetime.datetime" =>
    let time := cs.drop 11
    call "datetime.datetime"
      ((numbersIn (cs.take 10) ++ timeParts time).map toString ++
        ((offset? time).map offsetQuoted).toList)
  | _ => text

end ComponentCensus.Moment
