import ComponentCensus.Text.Range

/-!
# Blank characters

Blanks are the space characters of every script together with the control characters that move
the writing position.  Stripping removes blanks at both ends of a text; splitting at blanks keeps
the stretches between them.
-/

namespace ComponentCensus.Text

/-- The ranges of blank characters. -/
def blankRanges : List (Nat × Nat) :=
  [(0x9, 0xD), (0x1C, 0x20), (0x85, 0x85), (0xA0, 0xA0), (0x1680, 0x1680), (0x2000, 0x200A),
   (0x2028, 0x2029), (0x202F, 0x202F), (0x205F, 0x205F), (0x3000, 0x3000)]

/-- Whether a character is blank. -/
def isBlank (c : Char) : Bool :=
  inRanges blankRanges c

/-- Removes from both ends the characters of a class. -/
def trimBoth (drop : Char → Bool) (cs : List Char) : List Char :=
  (((cs.dropWhile drop).reverse).dropWhile drop).reverse

/-- Removes from the end the characters of a class. -/
def trimEnd (drop : Char → Bool) (cs : List Char) : List Char :=
  ((cs.reverse).dropWhile drop).reverse

/-- Removes the blanks at both ends of a text. -/
def strip (s : String) : String :=
  String.ofList (trimBoth isBlank s.toList)

/-- The text without any of its blanks. -/
def withoutBlanks (s : String) : String :=
  String.ofList (s.toList.filter fun c => !isBlank c)

end ComponentCensus.Text
