/-!
# UTF-8

Bytes are read as UTF-8 in two ways.  A strict reading stops at the first defect and tells where
it lies; a lenient reading puts one replacement character in place of each defect.  A defect is
the longest beginning of a character that the bytes spell before they go wrong, so the two
readings agree on where the next character starts.
-/

namespace ComponentCensus.Text.Utf8

/-- Why bytes do not spell a character. -/
inductive Defect where
  | badStart
  | badContinuation
  | unexpectedEnd
deriving DecidableEq, Repr

/-- The reason given for a defect. -/
def Defect.reason : Defect → String
  | .badStart => "invalid start byte"
  | .badContinuation => "invalid continuation byte"
  | .unexpectedEnd => "unexpected end of data"

/-- What the next bytes spell: a character or a defect, with the number of bytes it takes. -/
inductive Reading where
  | char (c : Char) (size : Nat)
  | bad (defect : Defect) (size : Nat)

/-- Whether a byte continues a character. -/
def isContinuation (b : Nat) : Bool :=
  0x80 ≤ b && b < 0xC0

/-- Whether a byte may stand second after the given first byte.  The first bytes at the ends of
their groups leave only part of the continuation bytes: the others would spell a character in more
bytes than needed, a surrogate, or a number beyond the last code point. -/
def mayFollow (first second : Nat) : Bool :=
  isContinuation second &&
    !(first = 0xE0 && second < 0xA0) && !(first = 0xED && second ≥ 0xA0) &&
    !(first = 0xF0 && second < 0x90) && !(first = 0xF4 && second ≥ 0x90)

/-- The number of bytes of a character by its first byte; zero for a byte that starts none. -/
def lengthOf (first : Nat) : Nat :=
  if first < 0x80 then 1
  else if first < 0xC2 then 0
  else if first < 0xE0 then 2
  else if first < 0xF0 then 3
  else if first < 0xF5 then 4
  else 0

/-- Reads the character or the defect at the start of non-empty bytes. -/
def read (first : Nat) (rest : List Nat) : Reading :=
  match lengthOf first, rest with
  | 1, _ => .char (Char.ofNat first) 1
  | 0, _ => .bad .badStart 1
  | _, [] => .bad .unexpectedEnd 1
  | size, second :: others =>
    if !mayFollow first second then .bad .badContinuation 1
    else if size = 2 then .char (Char.ofNat ((first - 0xC0) * 64 + (second - 0x80))) 2
    else
      match others with
      | [] => .bad .unexpectedEnd 2
      | third :: last =>
        if !isContinuation third then .bad .badContinuation 2
        else if size = 3 then
          .char (Char.ofNat ((first - 0xE0) * 4096 + (second - 0x80) * 64 + (third - 0x80))) 3
        else
          match last with
          | [] => .bad .unexpectedEnd 3
          | fourth :: _ =>
            if !isContinuation fourth then .bad .badContinuation 3
            else
              .char (Char.ofNat ((first - 0xF0) * 262144 + (second - 0x80) * 4096 +
                (third - 0x80) * 64 + (fourth - 0x80))) 4

/-- The lenient reading of bytes, after passing over some that are already read. -/
def lenientFrom : Nat → List Nat → List Char
  | _, [] => []
  | skip + 1, _ :: rest => lenientFrom skip rest
  | 0, b :: rest =>
    match read b rest with
    | .char c size => c :: lenientFrom (size - 1) rest
    | .bad _ size => '�' :: lenientFrom (size - 1) rest

/-- The characters that bytes spell, with a replacement character for each defect. -/
def lenient (bytes : List Nat) : List Char :=
  lenientFrom 0 bytes

/-- Where a strict reading stopped: the defect, the position of its first byte, the bytes it
takes, and that first byte. -/
structure Problem where
  defect : Defect
  position : Nat
  size : Nat
  byte : Nat
deriving DecidableEq, Repr

/-- The two hexadecimal digits of a byte. -/
def hexByte (b : Nat) : String :=
  let digits := Nat.toDigits 16 b
  String.ofList (List.replicate (2 - digits.length) '0' ++ digits)

/-- The description of the place where a strict reading stopped. -/
def Problem.message (p : Problem) : String :=
  if p.size = 1 then
    s!"'utf-8' codec can't decode byte 0x{hexByte p.byte} in position {p.position}: " ++
      p.defect.reason
  else
    s!"'utf-8' codec can't decode bytes in position {p.position}-{p.position + p.size - 1}: " ++
      p.defect.reason

/-- The strict reading of the bytes from a position on, after passing over some that are already
read. -/
def strictFrom : Nat → Nat → List Nat → Except Problem (List Char)
  | _, _, [] => .ok []
  | position, skip + 1, _ :: rest => strictFrom (position + 1) skip rest
  | position, 0, b :: rest =>
    match read b rest with
    | .char c size => (strictFrom (position + 1) (size - 1) rest).map (c :: ·)
    | .bad defect size => .error ⟨defect, position, size, b⟩

/-- The characters that bytes spell, or the first defect. -/
def strict (bytes : List Nat) : Except Problem (List Char) :=
  strictFrom 0 0 bytes

/-- The bytes of a text. -/
def bytesOf (s : String) : List Nat :=
  s.toUTF8.toList.map (·.toNat)

end ComponentCensus.Text.Utf8
