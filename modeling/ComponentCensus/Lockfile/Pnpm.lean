import ComponentCensus.Lockfile.Versions
import ComponentCensus.Text.Digit
import ComponentCensus.Value.Yaml

/-!
# Lockfiles of pnpm

Direct dependencies of the root project come first, then those of the document, then the keys of the
packages section, and the first version of a name wins.  Versions may carry a suffix that names the
peers they were resolved with.
-/

namespace ComponentCensus.Lockfile.Pnpm

open ComponentCensus.Text

/-- A text without a line feed at its very end, and that line feed. -/
def splitFinalFeed (cs : List Char) : List Char × List Char :=
  match cs.getLast? with
  | some '\n' => (cs.dropLast, ['\n'])
  | _ => (cs, [])

/-- Whether a character starts a peer suffix. -/
def startsPeers (c : Char) : Bool :=
  c = '(' || c = '_'

/-- A text without the peer suffix of its last line. -/
def withoutPeers (cs : List Char) : List Char :=
  let (body, feed) := splitFinalFeed cs
  match (splitOn '\n' body).reverse with
  | [] => feed
  | last :: above =>
    join '\n' ((last.takeWhile fun c => !startsPeers c) :: above).reverse ++ feed

/-- A version without its peer suffix. -/
def cleanVersion (version : String) : String :=
  String.ofList (withoutPeers version.toList)

/-- What follows three numbers with dots between them, if a text starts with them. -/
def afterNumbers? (cs : List Char) : Option (List Char) :=
  let afterNumber (cs : List Char) : Option (List Char) :=
    if cs.head?.any isDigit then some (cs.dropWhile isDigit) else none
  let afterDot : List Char → Option (List Char)
    | '.' :: rest => some rest
    | _ => none
  do afterNumber (← afterDot (← afterNumber (← afterDot (← afterNumber cs))))

/-- Whether a text is a version of three numbers on one line, and the version itself. -/
def versionText? (cs : List Char) : Option (List Char) :=
  let (body, _) := splitFinalFeed cs
  if (afterNumbers? body).isSome && !body.contains '\n' then some body else none

/-- Splits a key at the first slash with a version behind it, given the name so far in reverse. -/
def splitAtSlash (name : List Char) : List Char → Option (String × String)
  | [] => none
  | c :: rest =>
    if c = '\n' then none
    else if c = '/' && !name.isEmpty then
      match versionText? rest with
      | some version => some (String.ofList name.reverse, String.ofList version)
      | none => splitAtSlash (c :: name) rest
    else
      splitAtSlash (c :: name) rest

/-- The name and the version that a key of the packages section stands for. -/
def splitKey (key : String) : Option (String × String) :=
  let cs := withoutPeers (key.toList.dropWhile (· = '/'))
  match cs with
  | [] => none
  | first :: rest =>
    if rest.contains '@' then
      some (String.ofList (first :: rest.takeWhile (· ≠ '@')),
        String.ofList ((rest.dropWhile (· ≠ '@')).drop 1))
    else
      splitAtSlash [] cs

/-- The version that the information on a dependency gives, usable or not. -/
def givenVersion? : Yaml → Option Yaml
  | .mapping members => Entries.get? (.str "version") members
  | other => some other

/-- The version of a dependency that is turned into a text: one that is given and not null. -/
def writtenVersion? (info : Yaml) : Option Yaml :=
  match givenVersion? info with
  | some (.scalar .null) => none
  | given => given

/-- The version that a dependency has, if it is usable. -/
def dependencyVersion? (info : Yaml) : Option String :=
  match writtenVersion? info with
  | none => none
  | some version =>
    if startsWith version.text "link:" then none else some (cleanVersion version.text)

/-- Adds a direct dependency. -/
def addDependency (packages : Packages) (entry : Value × Yaml) : Packages :=
  match dependencyVersion? entry.2 with
  | some version => packages.keep entry.1 version
  | none => packages

/-- The groups of dependencies of a section, the preferred ones first. -/
def groups : List String :=
  ["dependencies", "devDependencies", "optionalDependencies"]

section Reading

variable {σ : Type} (onGroup : σ → List (Value × Yaml) → Except Fault σ)
  (onKeys : σ → List Yaml → Except Fault σ)

/-- Reads a group of dependencies of a section. -/
def readGroup (part : Yaml) (state : σ) (group : String) : Except Fault σ := do
  let found := (← part.lookup? group).getD (.mapping [])
  onGroup state (← found.orEmpty.members)

/-- Reads the groups of dependencies of a section. -/
def readSection (state : σ) (part : Yaml) : Except Fault σ :=
  groups.foldlM (readGroup onGroup part) state

/-- Reads the parts of a lockfile document one after the other: the dependencies of the root
project, those of the document, and the packages section. -/
def readDocument (state : σ) (document : Yaml) : Except Fault σ := do
  let document := document.orEmpty
  let importers := (← document.lookup? "importers").getD (.mapping [])
  let root := (← importers.lookup? ".").getD (.mapping [])
  let state ← readSection onGroup state root
  let state ← readSection onGroup state document
  let listed := ((← document.lookup? "packages").getD (.mapping [])).orEmpty
  onKeys state (← listed.items)

end Reading

/-- Adds a key of the packages section. -/
def addKey (packages : Packages) (key : String) : Packages :=
  match splitKey key with
  | some (name, version) => packages.keep (.str name) version
  | none => packages

/-- The versions of a lockfile document. -/
def versions (document : Yaml) : Except Fault Packages :=
  readDocument (fun packages members => .ok (members.foldl addDependency packages))
    (fun packages keys => .ok ((keys.map Yaml.text).foldl addKey packages)) [] document

/-- Checks the values whose texts a lockfile document is read from. -/
def checkTexts (check : Yaml → Except Fault Unit) (document : Yaml) : Except Fault Unit :=
  readDocument (fun _ members => (members.filterMap fun entry => writtenVersion? entry.2).forM check)
    (fun _ keys => keys.forM check) () document

end ComponentCensus.Lockfile.Pnpm
