import ComponentCensus.Files.Tree
import ComponentCensus.Lockfile.Npm
import ComponentCensus.Lockfile.Pnpm
import ComponentCensus.Lockfile.Yarn
import ComponentCensus.Scan.Readers

/-!
# Loading the lockfile of a project

A project has the lockfile of its preferred package manager.  A lockfile that cannot be read or does
not follow its format gives no versions.

The versions of YAML documents are texts of their values, which have to be built first.  What cannot
be built is a fault, so the values are checked before the versions are taken from them.
-/

namespace ComponentCensus.Lockfile

open ComponentCensus.Files ComponentCensus.Scan

/-- Whether a fault comes from the file tree. -/
def isFileFault : Fault → Bool
  | .missingFile _ | .isDirectory _ | .notDirectory _ | .nameTooLong _ => true
  | _ => false

/-- The fault of reading a lockfile: trouble with the file itself is a bad lockfile. -/
def fileFault (action : String) (path : Path) (fault : Fault) : Fault :=
  if isFileFault fault then .badLockfile action path.text fault.message else fault

/-- Versions under names that are texts. -/
def namedPackages (versions : Entries String String) : Packages :=
  versions.map fun entry => (.str entry.1, entry.2)

/-- The YAML document of a lockfile. -/
def yamlDocument (readers : Readers) (path : Path) (content : String) : Except Fault Yaml :=
  match readers.yaml content with
  | .ok document => .ok document
  | .error .malformed => .error (.badLockfile "parsing" path.text "malformed document")
  | .error (.other kind) => .error (.foreign kind)

/-- The packages that the text of a yarn lockfile lists, in either of its formats. -/
def yarnPackages (readers : Readers) (path : Path) (content : String) : Except Fault Packages := do
  if Yarn.isMapped content then
    return namedPackages (← Yarn.mappedVersions (← yamlDocument readers path content))
  return namedPackages (Yarn.classicVersions content)

/-- Checks the values whose texts a yarn lockfile is read from. -/
def checkYarn (readers : Readers) (path : Path) (content : String) : Except Fault Unit := do
  if Yarn.isMapped content then
    Yarn.checkTexts readers.checkText (← yamlDocument readers path content)

/-- The packages that the text of an npm lockfile lists. -/
def npmPackages (readers : Readers) (path : Path) (content : String) : Except Fault Packages := do
  match Json.loadWithin (some readers.brackets) content with
  | .ok document => return namedPackages (← Npm.versions document)
  | .error (.malformedJson problem) => throw (.badLockfile "parsing" path.text problem.message)
  | .error fault => throw fault

/-- The packages that the text of a pnpm lockfile lists. -/
def pnpmPackages (readers : Readers) (path : Path) (content : String) : Except Fault Packages := do
  let document ← yamlDocument readers path content
  Pnpm.checkTexts readers.checkText document
  Pnpm.versions document

/-- The packages that the text of a lockfile lists. -/
def interpret (readers : Readers) (path : Path) (content : String) :
    Manager → Except Fault Packages
  | .npm => npmPackages readers path content
  | .yarn => do
    checkYarn readers path content
    yarnPackages readers path content
  | .pnpm => pnpmPackages readers path content

/-- What is said to be done when the lockfile of a package manager is opened. -/
def openingOf : Manager → String
  | .npm => "parsing"
  | .yarn => "reading"
  | .pnpm => "parsing"

/-- The packages of a lockfile. -/
def parse (readers : Readers) (tree : Tree) (manager : Manager) (path : Path) :
    Except Fault Packages := do
  if !(← tree.askExists path) then
    throw (.missingLockfile path.text)
  let content ← (tree.readText path).mapError (fileFault (openingOf manager) path)
  interpret readers path content manager

/-- The first of some lockfiles that exists, if those before it can be looked at. -/
def firstExisting (tree : Tree) : List (Manager × Path) → Except Fault (Option (Manager × Path))
  | [] => .ok none
  | lockfile :: rest => do
    if ← tree.askExists lockfile.2 then
      return some lockfile
    firstExisting tree rest

/-- The lockfile of a project. -/
def find? (tree : Tree) (project : Path) : Except Fault (Option (Manager × Path)) :=
  firstExisting tree (Manager.all.map fun manager => (manager, project.child manager.fileName))

/-- The package versions of a project. -/
def load (readers : Readers) (tree : Tree) (project : Path) : Except Fault Versions := do
  match ← find? tree project with
  | none => return {}
  | some (manager, path) =>
    match parse readers tree manager path with
    | .ok packages => return ⟨some (manager, path), packages⟩
    | .error (.badLockfile ..) => return ⟨some (manager, path), []⟩
    | .error fault => throw fault

end ComponentCensus.Lockfile
