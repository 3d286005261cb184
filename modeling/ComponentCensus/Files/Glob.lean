import ComponentCensus.Files.Tree
import ComponentCensus.Files.Wildcard

/-!
# File patterns

A file pattern is matched part by part against a file tree.  Two stars stand for any number of
directories; other parts are wildcards or names.  A slash at the end asks for directories.
-/

namespace ComponentCensus.Files

open ComponentCensus.Text

/-- One part of a file pattern. -/
inductive Selector where
  /-- Any number of directories. -/
  | directories
  /-- A name that matches a wildcard. -/
  | wildcard (pattern : String)
  /-- A name. -/
  | exact (name : String)
deriving DecidableEq, Repr

/-- A file pattern; `directoriesOnly` stands for a slash at its end. -/
structure Glob where
  selectors : List Selector
  directoriesOnly : Bool
deriving DecidableEq, Repr

namespace Glob

/-- Reads one part of a pattern. -/
def selectorOf (part : String) : Except Fault Selector :=
  if part = "**" then .ok .directories
  else if occursIn "**" part then .error .gluedStars
  else if Wildcard.isPattern part then .ok (.wildcard part)
  else .ok (.exact part)

/-- Reads a file pattern. -/
def ofText (s : String) : Except Fault Glob := do
  let path := Path.ofText s
  if s = "" then
    throw (.emptyPattern (.str s))
  if path.isAbsolute then
    throw .absolutePattern
  match path.parts, endsWith s "/" with
  | [], false => throw (.missingItem "tuple index out of range")
  | [], true => throw (.unsupportedAccess "_TerminatingSelector" "select_from")
  | parts, slash => return ⟨← parts.mapM selectorOf, slash⟩

/-- The text of a pattern that may be any value. -/
def patternText : Value → Except Fault String
  | .str s => .ok s
  | value =>
    if value.isTruthy then .error (.wrongType s!"'{value.typeName}' object is not a pattern")
    else .error (.emptyPattern value)

/-- All directories of a tree at a place or below it. -/
def directoriesFrom (tree : Tree) (place : List String) : List (List String) :=
  let above (path : List String) : List (List String) :=
    (List.range (path.length + 1)).map fun n => path.take n
  let all := tree.directories.flatMap above ++ tree.files.flatMap fun file => above file.1.dropLast
  (place :: all.filter fun directory => place.isPrefixOf directory).eraseDups

/-- The paths of all directories at a path or below it. -/
def directoryPaths (tree : Tree) (path : Path) : List Path :=
  match tree.locate path with
  | .ok place =>
    (directoriesFrom tree place).map fun directory =>
      { path with parts := path.parts ++ directory.drop place.length }
  | .error _ => []

/-- The names in the directory at a path. -/
def namesAt (tree : Tree) (path : Path) : List String :=
  match tree.locate path with
  | .ok place => tree.namesIn place
  | .error _ => []

/-- The paths that selectors lead to from a directory.  All but the last have to be directories. -/
def select (tree : Tree) (directoriesOnly : Bool) :
    List Selector → Path → Except Fault (List Path)
  | [], path => .ok [path]
  | .exact name :: rest, path => do
    let next := path.child name
    let found ←
      if rest.isEmpty && !directoriesOnly then tree.askExists next else tree.askDirectory next
    if found then select tree directoriesOnly rest next else return []
  | .wildcard pattern :: rest, path => do
    let names := (namesAt tree path).filter fun name =>
      Wildcard.matches? pattern name &&
        ((rest.isEmpty && !directoriesOnly) || tree.isDirectory (path.child name))
    return (← names.mapM fun name => select tree directoriesOnly rest (path.child name)).flatten
  | .directories :: rest, path => do
    return (← (directoryPaths tree path).mapM (select tree directoriesOnly rest)).flatten.eraseDups

/-- The paths that a pattern matches below a directory. -/
def run (glob : Glob) (tree : Tree) (root : Path) : Except Fault (List Path) := do
  if ← tree.askDirectory root then
    select tree glob.directoriesOnly glob.selectors root
  else
    return []

end Glob

end ComponentCensus.Files
