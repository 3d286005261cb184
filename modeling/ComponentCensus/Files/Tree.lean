import ComponentCensus.Fault
import ComponentCensus.Files.Path
import ComponentCensus.Text.Lines

/-!
# File trees

A file tree holds files under absolute paths, and directories that may be empty.  Every path above a
file or a directory is a directory.  Looking something up goes part by part, so that a path through
a file leads nowhere.  Names and paths are limited in length, and no path holds the null character.
-/

namespace ComponentCensus.Files

open ComponentCensus.Text

/-- A file tree: files with their bytes, and directories of their own. -/
structure Tree where
  files : List (List String × ByteArray) := []
  directories : List (List String) := []
  /-- The directory from which relative paths are seen. -/
  working : List String := []
deriving Inhabited

/-- What stands at a place of a tree. -/
inductive Entry where
  | directory
  | file (bytes : ByteArray)

/-- Why nothing stands at a path. -/
inductive Absence where
  | missing
  | throughFile
  /-- A name or the whole path is too long. -/
  | tooLong
  /-- The path holds the null character. -/
  | unnamable
deriving DecidableEq, Repr

/-- The fault of reading at a path where nothing stands. -/
def Absence.fault (path : Path) : Absence → Fault
  | .missing => .missingFile path.text
  | .throughFile => .notDirectory path.text
  | .tooLong => .nameTooLong path.text
  | .unnamable => .nullInPath

/-- The greatest number of bytes of a name. -/
def nameLimit : Nat := 255

/-- The number of bytes that a path may not reach. -/
def pathLimit : Nat := 4096

namespace Tree

/-- Whether a place is a directory. -/
def isDirectoryAt (tree : Tree) (place : List String) : Bool :=
  place.isEmpty || place == tree.working ||
    tree.directories.any (fun directory => place.isPrefixOf directory) ||
    tree.files.any fun file => place.isPrefixOf file.1 && file.1 != place

/-- The bytes of the file at a place. -/
def fileAt? (tree : Tree) (place : List String) : Option ByteArray :=
  (tree.files.find? fun file => file.1 = place).map (·.2)

/-- Goes from a directory along the parts of a path. -/
def follow (tree : Tree) (place : List String) : List String → Except Absence (List String)
  | [] => .ok place
  | part :: rest =>
    if tree.isDirectoryAt place then
      if nameLimit < part.utf8ByteSize then .error .tooLong
      else tree.follow (if part = ".." then place.dropLast else place ++ [part]) rest
    else if (tree.fileAt? place).isSome then
      .error .throughFile
    else
      .error .missing

/-- The place that a path names, whether or not something stands there. -/
def locate (tree : Tree) (path : Path) : Except Absence (List String) :=
  if hasChar '\x00' path.text then .error .unnamable
  else if pathLimit ≤ path.text.utf8ByteSize then .error .tooLong
  else tree.follow (if path.isAbsolute then [] else tree.working) path.parts

/-- What a path leads to. -/
def lookup (tree : Tree) (path : Path) : Except Absence Entry :=
  match tree.locate path with
  | .error absence => .error absence
  | .ok place =>
    match tree.fileAt? place with
    | some bytes => .ok (.file bytes)
    | none => if tree.isDirectoryAt place then .ok .directory else .error .missing

/-- Whether something stands at a path. -/
def exists? (tree : Tree) (path : Path) : Bool :=
  match tree.lookup path with
  | .ok _ => true
  | .error _ => false

/-- Whether a path leads to a directory. -/
def isDirectory (tree : Tree) (path : Path) : Bool :=
  match tree.lookup path with
  | .ok .directory => true
  | _ => false

/-- Whether a path leads to a file. -/
def isFile (tree : Tree) (path : Path) : Bool :=
  match tree.lookup path with
  | .ok (.file _) => true
  | _ => false

/-- The answer to a question about a path; a path that is too long has none. -/
def question (tree : Tree) (path : Path) (answer : Bool) : Except Fault Bool :=
  match tree.lookup path with
  | .error .tooLong => .error (.nameTooLong path.text)
  | _ => .ok answer

/-- Whether something stands at a path, if the path can be looked at. -/
def askExists (tree : Tree) (path : Path) : Except Fault Bool :=
  tree.question path (tree.exists? path)

/-- Whether a path leads to a directory, if it can be looked at. -/
def askDirectory (tree : Tree) (path : Path) : Except Fault Bool :=
  tree.question path (tree.isDirectory path)

/-- Whether a path leads to a file, if it can be looked at. -/
def askFile (tree : Tree) (path : Path) : Except Fault Bool :=
  tree.question path (tree.isFile path)

/-- The bytes of the file at a path. -/
def readBytes (tree : Tree) (path : Path) : Except Fault ByteArray :=
  match tree.lookup path with
  | .ok (.file bytes) => .ok bytes
  | .ok .directory => .error (.isDirectory path.text)
  | .error absence => .error (absence.fault path)

/-- The text of bytes, with one kind of line end. -/
def decode (bytes : ByteArray) : Except Utf8.Problem String :=
  (Utf8.strict (bytes.toList.map (·.toNat))).map fun cs => String.ofList (unifyLineEnds cs)

/-- The text of the file at a path. -/
def readText (tree : Tree) (path : Path) : Except Fault String := do
  let bytes ← tree.readBytes path
  (decode bytes).mapError .undecodable

/-- The names in a directory. -/
def namesIn (tree : Tree) (place : List String) : List String :=
  let below (path : List String) : Option String :=
    if place.isPrefixOf path then (path.drop place.length).head? else none
  (tree.directories.filterMap below ++ tree.files.filterMap fun file => below file.1).eraseDups

/-- Puts a file at a place. -/
def putFile (tree : Tree) (place : List String) (bytes : ByteArray) : Tree :=
  { tree with files := Entries.put place bytes tree.files }

/-- Puts a directory at a place. -/
def putDirectory (tree : Tree) (place : List String) : Tree :=
  { tree with directories := tree.directories ++ [place] }

/-- Removes the file at a place. -/
def removeFile (tree : Tree) (place : List String) : Tree :=
  { tree with files := tree.files.filter fun file => file.1 ≠ place }

/-- Removes what stands at a place and below it. -/
def removeBelow (tree : Tree) (place : List String) : Tree :=
  { tree with
    files := tree.files.filter fun file => !place.isPrefixOf file.1
    directories := tree.directories.filter fun directory => !place.isPrefixOf directory }

/-- Makes a directory in a directory that is there, unless there is a directory already. -/
def makeDirectory (tree : Tree) (path : Path) : Except Fault Tree :=
  match tree.lookup path, tree.locate path with
  | .ok .directory, _ => .ok tree
  | .ok (.file _), _ => .error (.fileExists path.text)
  | .error .missing, .ok place => .ok (tree.putDirectory place)
  | .error absence, _ => .error (absence.fault path)

/-- Makes a directory and at most so many directories above it that are missing. -/
def makeDirectoriesAbove (tree : Tree) (path : Path) : Nat → Except Fault Tree
  | 0 => tree.makeDirectory path
  | above + 1 =>
    match tree.locate path with
    | .error .missing => do
      (← tree.makeDirectoriesAbove path.parent above).makeDirectory path
    | _ => tree.makeDirectory path

/-- Makes a directory and the directories above it that are missing. -/
def makeDirectories (tree : Tree) (path : Path) : Except Fault Tree :=
  tree.makeDirectoriesAbove path path.parts.length

/-- Writes a text to the file at a path, in a directory that is made if need be. -/
def writeText (tree : Tree) (path : Path) (text : String) : Except Fault Tree := do
  let tree ← tree.makeDirectories path.parent
  match tree.lookup path, tree.locate path with
  | .ok .directory, _ => throw (.isDirectory path.text)
  | _, .ok place => return tree.putFile place text.toUTF8
  | _, .error absence => throw (absence.fault path)

/-- The parts of an absolute path, one double dot leading one part up. -/
def collapseParts (place : List String) : List String → List String
  | [] => place
  | part :: rest => collapseParts (if part = ".." then place.dropLast else place ++ [part]) rest

/-- The absolute form of a path, without double dots. -/
def resolve (tree : Tree) (path : Path) : Path where
  anchor := "/"
  parts := collapseParts (if path.isAbsolute then [] else tree.working) path.parts

end Tree

end ComponentCensus.Files
