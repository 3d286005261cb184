import ComponentCensus.Entries
import ComponentCensus.Syntax.Node
import ComponentCensus.Text.Split
import ComponentCensus.Text.Utf8

/-!
# Trees from rows

A parser hands over a tree as rows in document order.  Each row gives the depth of a node, the name
of its kind, the bytes of the source that it spans, its fields and its marks.  A row belongs to the
nearest row before it whose depth is one less.
-/

namespace ComponentCensus.Syntax

open ComponentCensus.Text

/-- One node of a tree as a parser hands it over. -/
structure Row where
  depth : Nat
  kind : String
  start : Nat
  stop : Nat
  /-- Field names with commas between them. -/
  fields : String
  /-- Letters: `a` for an anonymous node, `m` for a missing one, `e` for a broken tree. -/
  marks : String
deriving Repr, DecidableEq

/-- A source text as bytes, with the number of line feeds before each place, the end included. -/
structure Source where
  bytes : ByteArray
  feedsBefore : Array Nat

/-- The source of a text. -/
def Source.ofText (s : String) : Source :=
  let bytes := s.toUTF8
  ⟨bytes, bytes.foldl
    (fun feeds byte => feeds.push (feeds.back?.getD 0 + if byte = 10 then 1 else 0)) #[0]⟩

/-- The text between two places of a source; a place behind the end counts as the end. -/
def Source.slice (source : Source) (start stop : Nat) : String :=
  let place (n : Nat) := min n source.bytes.size
  String.ofList
    (Utf8.lenient ((source.bytes.extract (place start) (place stop)).toList.map (·.toNat)))

/-- The line of a place of a source, counted from one. -/
def Source.lineAt (source : Source) (place : Nat) : Nat :=
  source.feedsBefore[place]?.getD (source.feedsBefore.back?.getD 0) + 1

/-- The label that a row describes. -/
def Row.label (source : Source) (number : Nat) (row : Row) : Label where
  number := number
  kind := Kind.ofName row.kind
  line := source.lineAt row.start
  text := source.slice row.start row.stop
  fields := (pieces ',' row.fields).filterMap Field.ofName?
  named := !hasChar 'a' row.marks
  missing := hasChar 'm' row.marks
  broken := hasChar 'e' row.marks

/-- Each row with its own place and the place of the row it belongs to, given the place of the
nearest row before it of each depth. -/
def withPlaces (nearest : Entries Nat Nat) : List (Row × Nat) → List (Row × Nat × Option Nat)
  | [] => []
  | (row, place) :: rest =>
    let owner := if row.depth = 0 then none else nearest.get? (row.depth - 1)
    (row, place, owner) :: withPlaces (nearest.put row.depth place) rest

/-- Adds a row to the trees that belong to each earlier place, in document order.  The trees that
belong to the row become its children. -/
def addRow (source : Source) (row : Row × Nat × Option Nat) (owned : Array (List Node)) :
    Array (List Node) :=
  match row.2.2 with
  | some owner =>
    let node := ⟨row.1.label source row.2.1, owned[row.2.1]?.getD []⟩
    owned.modify owner (node :: ·)
  | none => owned

/-- The tree that rows describe. -/
def Node.ofRows? (source : Source) (rows : List Row) : Option Node :=
  let owned := (withPlaces [] rows.zipIdx).foldr (addRow source) (Array.replicate rows.length [])
  rows.head?.map fun row => ⟨row.label source 0, owned[0]?.getD []⟩

end ComponentCensus.Syntax
