import ComponentCensus.Text.Split

/-!
# Wildcards

A wildcard pattern is a text with stars for any stretch of characters, question marks for any one
character, and sets of characters in brackets.  A bracket that is not closed stands for itself.
Between two characters of a set a hyphen makes a range, unless the range would be empty.
-/

namespace ComponentCensus.Files

open ComponentCensus.Text

/-- A piece of a wildcard pattern. -/
inductive Piece where
  /-- Any stretch of characters. -/
  | star
  /-- Any one character. -/
  | any
  /-- One character itself. -/
  | char (c : Char)
  /-- One character that is in the set, or that is not.  Between two chunks lies a range from the
  last character of the first to the first character of the second. -/
  | set (negated : Bool) (chunks : List (List Char))
deriving DecidableEq, Repr

namespace Wildcard

/-- Whether a character lies in one of the ranges between chunks. -/
def inChunkRanges (c : Char) : List (List Char) → Bool
  | first :: second :: rest =>
    (match first.getLast?, second.head? with
      | some low, some high => decide (low ≤ c) && decide (c ≤ high)
      | _, _ => false) || inChunkRanges c (second :: rest)
  | _ => false

/-- Whether a piece other than a star accepts a character. -/
def accepts : Piece → Char → Bool
  | .star, _ => false
  | .any, _ => true
  | .char c, d => c = d
  | .set negated chunks, c => negated != (chunks.any (·.contains c) || inChunkRanges c chunks)

/-- Whether a text matches the pieces of a pattern. -/
def accepted (pieces : List Piece) (cs : List Char) : Bool :=
  match pieces, cs with
  | [], [] => true
  | [], _ :: _ => false
  | .star :: rest, [] => accepted rest []
  | .star :: rest, c :: more => accepted rest (c :: more) || accepted (.star :: rest) more
  | _ :: _, [] => false
  | piece :: rest, c :: more => accepts piece c && accepted rest more
termination_by pieces.length + cs.length

/-- The chunks of a set: they are set apart by hyphens that have a character on both sides.  The
current chunk is kept in reverse, and so many characters of it cannot be followed by a range. -/
def chunksFrom (current : List Char) (guarded : Nat) : List Char → List (List Char)
  | [] => [current.reverse]
  | c :: rest =>
    if c = '-' && guarded = 0 then current.reverse :: chunksFrom [] 2 rest
    else chunksFrom (c :: current) (guarded - 1) rest

/-- Chunks whose last one is not empty: a hyphen at the very end is a character. -/
def closeChunks (chunks : List (List Char)) : List (List Char) :=
  match chunks.reverse with
  | [] :: last :: rest => ((last ++ ['-']) :: rest).reverse
  | _ => chunks

/-- Joins a chunk to those behind it when the range between them is empty. -/
def dropEmptyRange (chunk : List Char) : List (List Char) → List (List Char)
  | [] => [chunk]
  | next :: rest =>
    match chunk.getLast?, next.head? with
    | some low, some high =>
      if high < low then (chunk.dropLast ++ next.drop 1) :: rest else chunk :: next :: rest
    | _, _ => chunk :: next :: rest

/-- The piece that the text between brackets stands for.  Behind an exclamation mark that stands
alone in its chunk a hyphen is a character of the set. -/
def setPiece (inner : List Char) : Piece :=
  let guarded := if inner.head? = some '!' then 2 else 1
  let chunks := (closeChunks (chunksFrom [] guarded inner)).foldr dropEmptyRange []
  match chunks with
  | [['!']] => .any
  | ['!'] :: next :: rest => .set true (('-' :: next) :: rest)
  | ('!' :: chunk) :: rest => .set true (chunk :: rest)
  | chunks => .set false chunks

/-- The text between brackets and the rest behind them, given what follows the opening one.  A
closing bracket that comes first, or first after an exclamation mark, is a character of the set. -/
def bracket? (cs : List Char) : Option (List Char × List Char) :=
  let start := if cs.head? = some '!' then 1 else 0
  let start := if (cs.drop start).head? = some ']' then start + 1 else start
  let body := (cs.drop start).takeWhile (· ≠ ']')
  match (cs.drop start).dropWhile (· ≠ ']') with
  | [] => none
  | _ :: rest => some (cs.take start ++ body, rest)

/-- The pieces of a pattern. -/
def piecesFrom : Nat → List Char → List Piece
  | 0, _ => []
  | _ + 1, [] => []
  | fuel + 1, c :: rest =>
    if c = '*' then .star :: piecesFrom fuel rest
    else if c = '?' then .any :: piecesFrom fuel rest
    else if c = '[' then
      match bracket? rest with
      | some (inner, after) => setPiece inner :: piecesFrom fuel after
      | none => .char '[' :: piecesFrom fuel rest
    else .char c :: piecesFrom fuel rest

/-- Whether a text matches a pattern. -/
def matches? (pattern text : String) : Bool :=
  accepted (piecesFrom pattern.length pattern.toList) text.toList

/-- Whether a text has a character with a special meaning in it. -/
def isPattern (s : String) : Bool :=
  hasChar '*' s || hasChar '?' s || hasChar '[' s

end Wildcard

end ComponentCensus.Files
