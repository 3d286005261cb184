import ComponentCensus.Files.Path
import ComponentCensus.Value.Access

/-!
# Package versions

The versions of the installed packages, as a lockfile gives them.  A name that is no package of its
own is looked up under its base package: the first two parts of a scoped name, the first part of any
other.
-/

namespace ComponentCensus.Lockfile

open ComponentCensus.Files ComponentCensus.Text

/-- The package managers that write lockfiles. -/
inductive Manager where
  | npm
  | yarn
  | pnpm
deriving DecidableEq, Repr

namespace Manager

/-- The name of a package manager. -/
def name : Manager → String
  | .npm => "npm"
  | .yarn => "yarn"
  | .pnpm => "pnpm"

/-- The name of the lockfile of a package manager. -/
def fileName : Manager → String
  | .npm => "package-lock.json"
  | .yarn => "yarn.lock"
  | .pnpm => "pnpm-lock.yaml"

/-- All package managers, the preferred ones first. -/
def all : List Manager :=
  [.npm, .yarn, .pnpm]

/-- The package manager that a file belongs to. -/
def ofPath? (path : Path) : Option Manager :=
  all.find? fun manager => manager.fileName = path.name

end Manager

/-- Versions of packages in the order of a lockfile.  Names are texts, but a lockfile may hold keys
of other kinds. -/
abbrev Packages := Entries Value String

/-- The package versions of a project. -/
structure Versions where
  /-- The lockfile they come from, if there is one. -/
  lockfile : Option (Manager × Path) := none
  packages : Packages := []
deriving Inhabited

/-- The base package of a name. -/
def basePackage (package : String) : String :=
  if startsWith package "@" then joinWith "/" ((pieces '/' package).take 2)
  else beforeFirst '/' package

/-- What stands under a package or its base package. -/
def lookup? {α : Type} (packages : Entries Value α) (package : String) : Option α :=
  match packages.get? (.str package) with
  | some found => some found
  | none => packages.get? (.str (basePackage package))

/-- What stands under a package whose name may be any value. -/
def lookupValue {α : Type} (packages : Entries Value α) (package : Value) :
    Except Fault (Option α) := do
  match packages.get? (← package.asMember) with
  | some found => return some found
  | none => return lookup? packages (← package.asText "split")

/-- The version of a package or of its base package. -/
def Versions.versionOf? (versions : Versions) (package : String) : Option String :=
  lookup? versions.packages package

end ComponentCensus.Lockfile
