import ComponentCensus.Files.Tree
import ComponentCensus.Text.Blank
import ComponentCensus.Text.Word

/-!
# Repository references

A repository on GitHub is named by its owner and its name.  A reference to it is a web address, an
address for secure shells, or the two names with a slash between them.  Owner and name consist of
word characters, dots and hyphens.
-/

namespace ComponentCensus.Repository

open ComponentCensus.Files ComponentCensus.Text

/-- A repository. -/
structure Reference where
  owner : String
  name : String
deriving DecidableEq, Repr, Inhabited

/-- A character of an owner or a name. -/
def isNameChar (c : Char) : Bool :=
  isWord c || c = '.' || c = '-'

/-- Whether characters form an owner or a name. -/
def isName (cs : List Char) : Bool :=
  !cs.isEmpty && cs.all isNameChar

/-- The name that stands before the first ending that leaves one. -/
def nameBefore? (endings : List String) (cs : List Char) : Option (List Char) :=
  endings.findSome? fun ending =>
    let name := cs.take (cs.length - ending.length)
    if ending.toList.isSuffixOf cs && isName name then some name else none

/-- Reads an owner, a slash and a name before one of several endings. -/
def ofPair? (endings : List String) (cs : List Char) : Option Reference :=
  match cs.takeWhile (· ≠ '/'), cs.dropWhile (· ≠ '/') with
  | owner, '/' :: rest =>
    if isName owner then
      (nameBefore? endings rest).map fun name => ⟨String.ofList owner, String.ofList name⟩
    else
      none
  | _, _ => none

/-- The forms of references: how they start, and the endings that do not belong to the name, the
longer ones first. -/
def forms : List (String × List String) :=
  [("https://github.com/", [".git/", ".git", "/", ""]),
   ("http://github.com/", [".git/", ".git", "/", ""]),
   ("git@github.com:", [".git", ""]),
   ("", [""])]

namespace Reference

/-- Reads a reference that has no blanks around it. -/
def ofTrimmed? (text : String) : Option Reference :=
  forms.findSome? fun form =>
    if startsWith text form.1 then ofPair? form.2 (text.toList.drop form.1.length) else none

/-- Reads a reference. -/
def ofText (text : String) : Except Fault Reference :=
  match ofTrimmed? (strip text) with
  | some reference => .ok reference
  | none => .error (.badRepository (strip text) "not a GitHub repository reference")

/-- Owner and name with a slash between them. -/
def shorthand (reference : Reference) : String :=
  s!"{reference.owner}/{reference.name}"

/-- The address to clone from. -/
def cloneUrl (reference : Reference) : String :=
  s!"https://github.com/{reference.owner}/{reference.name}.git"

/-- The name of the directory of a clone. -/
def directoryName (reference : Reference) : String :=
  s!"{reference.owner}__{reference.name}"

end Reference

/-- The text of a value that is one. -/
def referenceText? : Value → Option String
  | .str text => some text
  | _ => none

/-- The references in a document: a list of texts, or the member `repositories` of an object. -/
def listedReferences? : Value → Option (List String)
  | .list items => items.mapM referenceText?
  | .object members =>
    match Entries.get? "repositories" members with
    | none => some []
    | some (.list items) => items.mapM referenceText?
    | some _ => none
  | _ => none

/-- The references in a file, whose brackets are limited in number. -/
def readReferences (brackets : Nat) (tree : Tree) (file : Path) : Except Fault (List String) := do
  let unreadable (detail : String) : Fault :=
    .badRepository file.text s!"cannot read repository list: {detail}"
  let content ←
    match tree.readText file with
    | .ok content => pure content
    | .error (.undecodable problem) => throw (.undecodable problem)
    | .error .nullInPath => throw .nullInPath
    | .error fault => throw (unreadable fault.message)
  match Json.loadWithin (some brackets) content with
  | .error (.malformedJson problem) => throw (unreadable problem.message)
  | .error fault => throw fault
  | .ok document =>
    match listedReferences? document with
    | some references => return references
    | none => throw (.badRepository file.text "expected a list of repository references")

end ComponentCensus.Repository
