import ComponentCensus.Files.Glob
import ComponentCensus.Settings.Basic
import ComponentCensus.Text.Case

/-!
# Finding source files

The source files of a project are the files that match a pattern, have one of the endings of sources
and are not excluded.  An exclusion is a wildcard for the path from the project root; without its
trailing stars it also excludes directories.
-/

namespace ComponentCensus.Files

open ComponentCensus.Text

/-- Which files of a project are sources. -/
structure Discovery where
  root : Path
  /-- Patterns of files that are left out. -/
  exclusions : List Value
  /-- Endings of sources, in lower case. -/
  endings : List String

/-- The endings in lower case. -/
def lowerEndings (endings : List Value) : Except Fault (List String) :=
  endings.mapM fun ending => do return lower (← ending.asText "lower")

/-- The discovery that settings ask for, unless exclusions or endings are given. -/
def Discovery.ofSettings (settings : Settings) (root : Path)
    (exclusions endings : Option (List Value)) : Except Fault Discovery := do
  let exclusions ←
    match exclusions with
    | some exclusions => pure exclusions
    | none => settings.exclusions
  let endings ←
    match endings with
    | some endings => pure endings
    | none => settings.extensions
  return ⟨root, exclusions, ← lowerEndings endings⟩

/-- A pattern with single stars for double ones. -/
def singleStars (pattern : String) : String :=
  String.ofList (collapsePairs '*' pattern.toList)

/-- The wildcards that an exclusion stands for: two stars and a slash in front also match at the
project root. -/
def exclusionWildcards (pattern : String) : List String :=
  singleStars pattern ::
    (if startsWith pattern "**/" then [singleStars (String.ofList (pattern.toList.drop 3))] else [])

/-- A wildcard without slashes and stars at its end. -/
def directoryWildcard (pattern : String) : String :=
  String.ofList (trimEnd (fun c => c = '/' || c = '*') pattern.toList)

/-- Whether a path matches an exclusion, itself or through a directory above it. -/
def isExcludedBy (pattern : String) (relative : Path) : Bool :=
  (exclusionWildcards pattern).any fun wildcard =>
    Wildcard.matches? wildcard relative.text ||
      relative.directories.any fun directory =>
        Wildcard.matches? (directoryWildcard wildcard) directory.text

/-- Whether a path matches one of several exclusions. -/
def isExcludedByAny (relative : Path) : List Value → Except Fault Bool
  | [] => .ok false
  | pattern :: rest => do
    if isExcludedBy (← pattern.asText "replace") relative then
      return true
    isExcludedByAny relative rest

namespace Discovery

/-- Whether a file is left out; files outside the project never are. -/
def isExcluded (discovery : Discovery) (file : Path) : Except Fault Bool :=
  match file.relativeTo? discovery.root with
  | none => .ok false
  | some relative => isExcludedByAny relative discovery.exclusions

/-- Whether a path is a file with one of the endings of sources. -/
def isSource (discovery : Discovery) (tree : Tree) (path : Path) : Bool :=
  tree.isFile path && decide (lower path.suffix ∈ discovery.endings)

/-- Collects sources up to a limit, which is tested after each file. -/
def collect (discovery : Discovery) (limit : Option Int) (found : List Path) :
    List Path → Except Fault (List Path)
  | [] => .ok found
  | path :: rest => do
    if ← discovery.isExcluded path then
      discovery.collect limit found rest
    else
      let found := found ++ [path]
      if limit.any (· ≤ (found.length : Int)) then
        return found
      discovery.collect limit found rest

/-- The source files that match a pattern, in the order of their paths. -/
def find (discovery : Discovery) (tree : Tree) (pattern : String) (limit : Option Int) :
    Except Fault (List Path) := do
  let glob ← Glob.ofText pattern
  let paths := (← glob.run tree discovery.root).mergeSort Path.le
  discovery.collect limit [] (paths.filter (discovery.isSource tree))

end Discovery

end ComponentCensus.Files
