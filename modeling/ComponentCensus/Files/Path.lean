import ComponentCensus.Text.Split

/-!
# Paths

A path is absolute or relative and consists of parts without slashes.  Empty parts and single dots
are dropped when a path is read; double dots are kept.
-/

namespace ComponentCensus.Files

open ComponentCensus.Text

/-- A path with slashes between its parts. -/
structure Path where
  /-- The slashes in front: none, one, or exactly two. -/
  anchor : String := ""
  parts : List String := []
deriving DecidableEq, Repr, Inhabited

namespace Path

/-- The slashes in front of a text. -/
def anchorOf (s : String) : String :=
  match s.toList.takeWhile (· = '/') with
  | [] => ""
  | [_, _] => "//"
  | _ => "/"

/-- Reads a path. -/
def ofText (s : String) : Path where
  anchor := anchorOf s
  parts := (pieces '/' s).filter fun part => part ≠ "" && part ≠ "."

/-- The text of a path; the empty path is a dot. -/
def text (path : Path) : String :=
  if path.anchor = "" && path.parts.isEmpty then "."
  else path.anchor ++ joinWith "/" path.parts

/-- Whether a path starts at the root of the file tree. -/
def isAbsolute (path : Path) : Bool :=
  path.anchor ≠ ""

/-- A path seen from another one. -/
def append (base path : Path) : Path :=
  if path.isAbsolute then path else { base with parts := base.parts ++ path.parts }

/-- A path with one more part. -/
def child (base : Path) (part : String) : Path :=
  { base with parts := base.parts ++ [part] }

/-- The last part of a path. -/
def name (path : Path) : String :=
  path.parts.getLast?.getD ""

/-- The directory of a path. -/
def parent (path : Path) : Path :=
  { path with parts := path.parts.dropLast }

/-- The ending of a name from its last dot on, if there is text on both sides of the dot. -/
def suffixOf (name : String) : String :=
  let reversed := name.toList.reverse
  let ending := reversed.takeWhile (· ≠ '.')
  let front := (reversed.dropWhile (· ≠ '.')).drop 1
  if ending.isEmpty || front.isEmpty then "" else String.ofList ('.' :: ending.reverse)

/-- The ending of the last part. -/
def suffix (path : Path) : String :=
  suffixOf path.name

/-- The parts of a path, the slashes in front being a part of their own. -/
def allParts (path : Path) : List String :=
  if path.anchor = "" then path.parts else path.anchor :: path.parts

/-- Whether parts come before others or are the same: the first difference decides, and what is
shorter comes first. -/
def partsLe : List String → List String → Bool
  | [], _ => true
  | _ :: _, [] => false
  | a :: as, b :: bs => if a = b then partsLe as bs else decide (a < b)

/-- Paths are ordered by their parts. -/
def le (a b : Path) : Bool :=
  partsLe a.allParts b.allParts

/-- A path as seen from a directory above it. -/
def relativeTo? (path base : Path) : Option Path :=
  if path.anchor = base.anchor && base.parts.isPrefixOf path.parts then
    some { parts := path.parts.drop base.parts.length }
  else
    none

/-- The directories above a relative path, the nearest first; the last one is the empty path. -/
def directories (path : Path) : List Path :=
  ((List.range path.parts.length).map fun n => { path with parts := path.parts.take n }).reverse

end Path

end ComponentCensus.Files
