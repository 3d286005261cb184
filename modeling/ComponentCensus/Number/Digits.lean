import ComponentCensus.Number.Power

/-!
# The length of integers

Integers are read from texts and written to texts with a limited number of digits, because both take
time that grows faster than the length.
-/

namespace ComponentCensus.Number

/-- The greatest number of digits of an integer that is read or written. -/
def digitLimit : Nat := 4300

/-- The wording for a spelling with too many digits. -/
def tooManyDigitsText (count : Nat) : String :=
  s!"Exceeds the limit ({digitLimit} digits) for integer string conversion: value has {count} " ++
    "digits; use sys.set_int_max_str_digits() to increase the limit"

/-- The wording for an integer with too many digits. -/
def tooLongText : String :=
  s!"Exceeds the limit ({digitLimit} digits) for integer string conversion; " ++
    "use sys.set_int_max_str_digits() to increase the limit"

/-- Whether an integer has few enough digits to be written. -/
def isWritable (i : Int) : Bool :=
  i.natAbs < tenTo digitLimit

end ComponentCensus.Number
