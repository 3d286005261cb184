import ComponentCensus.Json.Reader
import ComponentCensus.Text.Split
import ComponentCensus.Value.Access

/-!
# Lockfiles of npm

Newer lockfiles have a flat map from install paths to packages, in which an install that is not
nested in another package wins over nested copies.  Older ones have a tree of dependencies, in which
the first occurrence in document order wins.
-/

namespace ComponentCensus.Lockfile.Npm

open ComponentCensus.Text

/-- The directory that packages are installed in. -/
def installDirectory : String := "node_modules/"

/-- The rests of a text after each occurrence of a part, in order. -/
def restsAfter (part : List Char) (fuel : Nat) (cs : List Char) : List (List Char) :=
  match fuel with
  | 0 => []
  | fuel + 1 =>
    match afterOccurrence? part cs with
    | some rest => rest :: restsAfter part fuel rest
    | none => []

/-- The names after each install directory of a path; the last one is the package itself. -/
def installs (path : String) : List (List Char) :=
  restsAfter installDirectory.toList path.length path.toList

/-- The version that a package entry has, if any. -/
def versionOf? : Value → Option String
  | .object info => (Entries.get? "version" info).map Value.text
  | _ => none

/-- Versions of installs that are nested and of those that are not. -/
structure Installed where
  hoisted : Entries String String := []
  nested : Entries String String := []

/-- Adds an entry of the flat map. -/
def Installed.add (installed : Installed) (entry : String × Value) : Installed :=
  match versionOf? entry.2, installs entry.1 with
  | some version, [name] =>
    { installed with hoisted := installed.hoisted.keep (String.ofList name) version }
  | some version, names =>
    match names.getLast? with
    | some name =>
      { installed with nested := installed.nested.keep (String.ofList name) version }
    | none => installed
  | none, _ => installed

/-- The versions of the flat map. -/
def flatVersions (packages : List (String × Value)) : Entries String String :=
  let installed := packages.foldl Installed.add {}
  installed.hoisted.keepAll installed.nested

mutual

/-- The versions of a tree of dependencies. -/
def treeVersions : Value → Except Fault (Entries String String)
  | .object members => memberVersions [] members
  | value => .error (.unsupportedAccess value.typeName "items")

/-- The versions of dependencies, added to those known before. -/
def memberVersions (versions : Entries String String) :
    List (String × Value) → Except Fault (Entries String String)
  | [] => .ok versions
  | (name, .object info) :: rest => do
    let versions :=
      match versionOf? (.object info) with
      | some version => Entries.keep name version versions
      | none => versions
    let nested ← nestedVersions info
    memberVersions (Entries.keepAll versions nested) rest
  | _ :: rest => memberVersions versions rest

/-- The versions of the dependencies of a package. -/
def nestedVersions : List (String × Value) → Except Fault (Entries String String)
  | [] => .ok []
  | (name, value) :: rest =>
    if name = "dependencies" then treeVersions value else nestedVersions rest

end

/-- The versions of a lockfile document. -/
def versions (document : Value) : Except Fault (Entries String String) := do
  match ← document.lookup? "packages" with
  | some (.object packages) => return flatVersions packages
  | _ => treeVersions (← document.lookupD "dependencies" (.object []))

end ComponentCensus.Lockfile.Npm
