import ComponentCensus.Text.Blank
import ComponentCensus.Text.Lines
import ComponentCensus.Text.Split
import ComponentCensus.Value.Yaml

/-!
# Lockfiles of yarn

A lockfile lists entries under descriptors, each a package name with a range behind an `@`.  The
classic format has a header line for each entry and an indented version line.  The newer format is
YAML and has a metadata entry.  In both, the first entry of a name gives its version.
-/

namespace ComponentCensus.Lockfile.Yarn

open ComponentCensus.Text

/-- A text up to the first `@` that does not start it. -/
def beforeRange : List Char → List Char
  | [] => []
  | c :: rest => c :: rest.takeWhile (· ≠ '@')

/-- The package name of a descriptor. -/
def packageName (descriptor : List Char) : String :=
  String.ofList (beforeRange (trimBoth (· = '"') (trimBoth isBlank descriptor)))

/-- The package names of descriptors with commas between them. -/
def packageNames (descriptors : List Char) : List String :=
  (splitOn ',' descriptors).map packageName

/-- Gives a version to names that have none yet. -/
def keepVersion (version : String) (versions : Entries String String) (names : List String) :
    Entries String String :=
  versions.keepAll (names.map fun name => (name, version))

/-- The descriptors of a header line: it is not indented and ends with a colon. -/
def headerOf? (line : List Char) : Option (List Char) :=
  let trimmed := trimEnd isBlank line
  if (line.head?.any fun c => !isBlank c) && trimmed.getLast? = some ':' then
    some trimmed.dropLast
  else
    none

/-- Characters of a version. -/
def isVersionChar (c : Char) : Bool :=
  c ≠ '"' && !isBlank c

/-- A text without a character at its start, if that is the one given. -/
def dropOptional (c : Char) : List Char → List Char
  | [] => []
  | first :: rest => if first = c then rest else first :: rest

/-- The version of a version line, after the word that starts it. -/
def versionAfterWord? (cs : List Char) : Option String :=
  let afterColon := dropOptional ':' cs
  let value := dropOptional '"' (afterColon.dropWhile isBlank)
  let version := value.takeWhile isVersionChar
  let rest := dropOptional '"' (value.dropWhile isVersionChar)
  if (afterColon.head?.any isBlank) && !version.isEmpty && rest.all isBlank then
    some (String.ofList version)
  else
    none

/-- The version of a version line: it is indented by exactly two spaces. -/
def versionOf? (line : List Char) : Option String :=
  match line with
  | ' ' :: ' ' :: ' ' :: _ => none
  | ' ' :: ' ' :: rest =>
    match rest.dropWhile isBlank with
    | 'v' :: 'e' :: 'r' :: 's' :: 'i' :: 'o' :: 'n' :: after => versionAfterWord? after
    | _ => none
  | _ => none

/-- Whether a line says nothing: it is blank or a comment. -/
def isSilent (line : List Char) : Bool :=
  line.all isBlank || line.head? = some '#'

/-- The names that wait for a version, and the versions found. -/
structure Progress where
  names : List String := []
  versions : Entries String String := []

/-- Reads one line of the classic format. -/
def Progress.readLine (progress : Progress) (line : List Char) : Progress :=
  if isSilent line then progress
  else
    match headerOf? line with
    | some descriptors => { progress with names := packageNames descriptors }
    | none =>
      match versionOf? line with
      | some version => ⟨[], keepVersion version progress.versions progress.names⟩
      | none => progress

/-- The versions of a lockfile in the classic format. -/
def classicVersions (content : String) : Entries String String :=
  ((lines content.toList).foldl Progress.readLine {}).versions

/-- Adds an entry of the newer format. -/
def addEntry (versions : Entries String String) (entry : Value × Yaml) : Entries String String :=
  match entry.2 with
  | .mapping info =>
    match Entries.get? (Value.str "version") info with
    | some version =>
      if entry.1 == Value.str "__metadata" then versions
      else keepVersion version.text versions (packageNames entry.1.text.toList)
    | none => versions
  | _ => versions

/-- The values whose texts an entry of the newer format is read from: its key and its version. -/
def writtenOf (entry : Value × Yaml) : List Yaml :=
  match entry.2 with
  | .mapping info =>
    match Entries.get? (Value.str "version") info with
    | some version =>
      if entry.1 == Value.str "__metadata" then [] else [.scalar entry.1, version]
    | none => []
  | _ => []

/-- Checks the values whose texts a document of the newer format is read from. -/
def checkTexts (check : Yaml → Except Fault Unit) (document : Yaml) : Except Fault Unit := do
  ((← document.orEmpty.members).flatMap writtenOf).forM check

/-- The versions of a lockfile in the newer format. -/
def mappedVersions (document : Yaml) : Except Fault (Entries String String) := do
  return (← document.orEmpty.members).foldl addEntry []

/-- Whether a lockfile is in the newer format. -/
def isMapped (content : String) : Bool :=
  occursIn "__metadata:" content

end ComponentCensus.Lockfile.Yarn
