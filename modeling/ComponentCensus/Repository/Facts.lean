import ComponentCensus.Files.Tree
import ComponentCensus.Value.Access

/-!
# Facts about a cloned repository

The name and the version of the package in a repository, and how many source files of each ending it
holds.
-/

namespace ComponentCensus.Repository

open ComponentCensus.Files

/-- Facts about a repository. -/
structure Facts where
  packageName : Value := .null
  packageVersion : Value := .null
  /-- Numbers of files under their endings. -/
  fileTypes : Entries String Nat := []

/-- The endings of the files that are counted. -/
def countedEndings : List String :=
  [".js", ".jsx", ".ts", ".tsx"]

/-- Directories whose files are not counted. -/
def uncountedDirectories : List String :=
  ["node_modules", ".git"]

/-- The endings of the counted files below a place. -/
def endingsBelow (tree : Tree) (place : List String) : List String :=
  (tree.files.filter fun file =>
    place.isPrefixOf file.1 && file.1.all fun part => !uncountedDirectories.contains part).map
      (fun file => Path.suffixOf (file.1.getLast?.getD "")) |>.filter fun ending =>
        countedEndings.contains ending

/-- How often each text occurs. -/
def countTexts (texts : List String) : Entries String Nat :=
  texts.foldl (fun counts text => counts.put text ((counts.get? text).getD 0 + 1)) []

/-- Name and version in the package file of a repository, whose brackets are limited in number; a
file that cannot be opened or is not JSON gives neither. -/
def packageFacts (brackets : Nat) (tree : Tree) (repository : Path) :
    Except Fault (Value × Value) :=
  match tree.readText (repository.child "package.json") with
  | .error (.undecodable problem) => .error (.undecodable problem)
  | .error _ => .ok (.null, .null)
  | .ok content =>
    match Json.loadWithin (some brackets) content with
    | .error (.malformedJson _) => .ok (.null, .null)
    | .error fault => .error fault
    | .ok package => do
      return ((← package.lookup? "name").getD .null, (← package.lookup? "version").getD .null)

/-- The facts about a repository. -/
def facts (brackets : Nat) (tree : Tree) (repository : Path) : Except Fault Facts := do
  let (name, version) ← packageFacts brackets tree repository
  let endings :=
    match tree.locate repository with
    | .ok place => endingsBelow tree place
    | .error _ => []
  return ⟨name, version, countTexts endings⟩

end ComponentCensus.Repository
