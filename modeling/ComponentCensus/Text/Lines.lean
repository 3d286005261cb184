import ComponentCensus.Text.Range

/-!
# Lines

Files are read with one kind of line end: a carriage return, alone or before a line feed, becomes
a line feed.  Lockfile lines may also end at the other vertical movements and separators.
-/

namespace ComponentCensus.Text

/-- The text with every line end written as a single line feed. -/
def unifyLineEnds : List Char → List Char
  | [] => []
  | '\r' :: '\n' :: rest => '\n' :: unifyLineEnds rest
  | c :: rest => (if c = '\r' then '\n' else c) :: unifyLineEnds rest

/-- The ranges of characters that end a line. -/
def lineEndRanges : List (Nat × Nat) :=
  [(0xA, 0xD), (0x1C, 0x1E), (0x85, 0x85), (0x2028, 0x2029)]

/-- Whether a character ends a line. -/
def isLineEnd (c : Char) : Bool :=
  inRanges lineEndRanges c

/-- The lines of a text that follow what has been read of the current line.  The second argument
tells whether the current line has been started. -/
def linesFrom : List Char → Bool → List Char → List (List Char)
  | current, started, [] => if started then [current.reverse] else []
  | current, _, '\r' :: '\n' :: rest => current.reverse :: linesFrom [] false rest
  | current, _, c :: rest =>
    if isLineEnd c then current.reverse :: linesFrom [] false rest
    else linesFrom (c :: current) true rest

/-- The lines of a text, without their ends; a line end at the very end opens no further line. -/
def lines (cs : List Char) : List (List Char) :=
  linesFrom [] false cs

end ComponentCensus.Text
