/-!
# Cutting texts apart

Texts are cut at a character, at its first occurrence, or at an occurrence of another text.
Cutting at a character loses nothing: joining the pieces with the character gives the text back
(`join_splitOn`).
-/

namespace ComponentCensus.Text

/-- The pieces of a text between the occurrences of a character; never an empty list. -/
def splitOn (sep : Char) : List Char → List (List Char)
  | [] => [[]]
  | c :: rest =>
    if c = sep then
      [] :: splitOn sep rest
    else
      match splitOn sep rest with
      | [] => [[c]]
      | piece :: pieces => (c :: piece) :: pieces

/-- Pieces written one after the other with a character between them. -/
def join (sep : Char) : List (List Char) → List Char
  | [] => []
  | [piece] => piece
  | piece :: pieces => piece ++ sep :: join sep pieces

theorem splitOn_ne_nil (sep : Char) (cs : List Char) : splitOn sep cs ≠ [] := by
  cases cs with
  | nil => simp [splitOn]
  | cons c rest =>
    rw [splitOn]
    split
    · simp
    · split <;> simp

theorem join_splitOn (sep : Char) (cs : List Char) : join sep (splitOn sep cs) = cs := by
  induction cs with
  | nil => rfl
  | cons c rest ih =>
    have hrest := splitOn_ne_nil sep rest
    rw [splitOn]
    split
    · next hsep =>
      obtain ⟨piece, pieces, hpieces⟩ := List.exists_cons_of_ne_nil hrest
      rw [hpieces] at ih ⊢
      simp [join, ih, hsep]
    · split
      · next hnil => exact absurd hnil hrest
      · next piece pieces hpieces =>
        rw [hpieces] at ih
        cases pieces with
        | nil => simpa [join] using ih
        | cons next others => simpa [join] using ih

/-- The pieces of a text between the occurrences of a character. -/
def pieces (sep : Char) (s : String) : List String :=
  (splitOn sep s.toList).map String.ofList

/-- The part of a text before the first occurrence of a character, or the whole text. -/
def beforeFirst (sep : Char) (s : String) : String :=
  String.ofList (s.toList.takeWhile (· ≠ sep))

/-- The part of a text after the first occurrence of a character, or nothing. -/
def afterFirst (sep : Char) (s : String) : String :=
  String.ofList ((s.toList.dropWhile (· ≠ sep)).drop 1)

/-- Whether a text has a character. -/
def hasChar (c : Char) (s : String) : Bool :=
  s.toList.contains c

/-- Whether `s` starts with `start`. -/
def startsWith (s start : String) : Bool :=
  start.toList.isPrefixOf s.toList

/-- Whether `s` ends with `ending`. -/
def endsWith (s ending : String) : Bool :=
  ending.toList.isSuffixOf s.toList

/-- What follows the first occurrence of `part` in a text, when it occurs. -/
def afterOccurrence? (part : List Char) : List Char → Option (List Char)
  | [] => if part.isEmpty then some [] else none
  | c :: rest =>
    if part.isPrefixOf (c :: rest) then some ((c :: rest).drop part.length)
    else afterOccurrence? part rest

/-- Whether `part` occurs in a text. -/
def occursIn (part s : String) : Bool :=
  (afterOccurrence? part.toList s.toList).isSome

/-- The text with every occurrence of two equal characters in a row, taken from the left, written
as one. -/
def collapsePairs (c : Char) : List Char → List Char
  | [] => []
  | [d] => [d]
  | d :: e :: rest => if d = c && e = c then c :: collapsePairs c rest else d :: collapsePairs c (e :: rest)

/-- Texts written one after the other with a separator between them. -/
def joinWith (sep : String) (parts : List String) : String :=
  sep.intercalate parts

/-- A text repeated a number of times. -/
def repeated (n : Nat) (c : Char) : String :=
  String.ofList (List.replicate n c)

/-- A text filled up with spaces on the right to a width counted in characters. -/
def padRight (width : Nat) (s : String) : String :=
  s ++ repeated (width - s.length) ' '

end ComponentCensus.Text
