import ComponentCensus.Complexity.Analysis
import ComponentCensus.Lockfile.Versions
import ComponentCensus.Names
import ComponentCensus.Number.Total
import ComponentCensus.Package.Attribution

/-!
# Many reports taken together

The reports of many files are summed up by component, by pattern and by package.  A component keeps
the source that the first file gives it.  Packages share the renderings of the components that they
provide; components without a known source have no part in it.
-/

namespace ComponentCensus.Package

open ComponentCensus.Files ComponentCensus.Number

/-- The report of one file, with its analysis if there is one. -/
structure FileResult where
  path : Path
  report : Report
  analysis : Option Complexity.Analysis := none

/-- A file that could not be analyzed. -/
structure FileError where
  file : String
  error : String
deriving DecidableEq, Repr

/-- The renderings of a component in all files. -/
structure ComponentUsage where
  name : String
  source : String
  count : Int := 0
  /-- The files that render it, each of them once. -/
  files : List String := []
deriving DecidableEq, Repr

/-- The renderings of the components of a package. -/
structure PackageShare where
  name : String
  version : String
  componentCount : Nat := 0
  usageCount : Int := 0
  percentage : Binary64 := Binary64.zero false
  components : List String := []

/-- The number of entries of a pattern in all files. -/
structure PatternCount where
  type : String
  displayName : String
  count : Nat
deriving DecidableEq, Repr

/-- The patterns that are counted: group, bucket and display name. -/
def countedPatterns : List (String × String × String) :=
  [("imports", "default", "Default Imports"),
   ("imports", "named", "Named Imports"),
   ("imports", "namespace", "Namespace Imports"),
   ("imports", "aliased", "Aliased Imports"),
   ("usage", "jsx", "JSX Usage"),
   ("usage", "variables", "Variable Assignments"),
   ("usage", "destructuring", "Destructuring"),
   ("usage", "conditional", "Conditional Usage"),
   ("usage", "arrays", "Array Mappings"),
   ("usage", "objects", "Object Mappings"),
   ("usage", "dynamicMappings", "Dynamic Mappings"),
   ("usage", "context", "Context Usage"),
   ("advanced", "lazy", "Lazy Loading"),
   ("advanced", "dynamic", "Dynamic Imports"),
   ("advanced", "hoc", "Higher-Order Components"),
   ("advanced", "memo", "Memoized Components"),
   ("advanced", "forwardRef", "Forward Refs"),
   ("advanced", "portal", "Portal Usage")]

/-- Many reports taken together. -/
structure Aggregate where
  filesAnalyzed : Nat
  imports : Int
  usagePatterns : Int
  patternCounts : List PatternCount
  usage : Entries String ComponentUsage
  packages : List PackageShare
  results : List FileResult

/-- The sums over the files so far. -/
structure Totals where
  usage : Entries String ComponentUsage := []
  counts : List Nat := []

/-- Adds one entry of the renderings of a file. -/
def addUsage (packages : List Value) (result : FileResult)
    (usage : Entries String ComponentUsage) (item : Value) :
    Except Fault (Entries String ComponentUsage) := do
  match ← (← item.member "component").asMember with
  | .str name =>
    let known ←
      match usage.get? name with
      | some known => pure known
      | none =>
        let source ← componentSource name result.report.patterns packages
        pure { name := name, source := source }
    let count ← (← item.lookupD "count" (.int 1)).toInteger
    return usage.put name
      { known with
        count := known.count + count
        files := addName known.files result.path.text }
  | value => throw (.wrongType s!"argument of type '{value.typeName}' is not iterable")

/-- The sizes of the counted patterns of a report. -/
def patternSizes (patterns : Value) : Except Fault (List Nat) :=
  countedPatterns.mapM fun pattern => do
    (← (← patterns.lookupD pattern.1 (.object [])).lookupD pattern.2.1 (.list [])).size

/-- Adds two lists of counts; the counts of nothing are an empty list. -/
def addCounts (counts sizes : List Nat) : List Nat :=
  if counts.isEmpty then sizes else List.zipWith (· + ·) counts sizes

/-- Adds the report of one file. -/
def Totals.add (packages : List Value) (totals : Totals) (result : FileResult) :
    Except Fault Totals := do
  let patterns := result.report.patterns
  let jsx ← (← (← patterns.lookupD "usage" (.object [])).lookupD "jsx" (.list [])).items
  let usage ← jsx.foldlM (addUsage packages result) totals.usage
  return ⟨usage, addCounts totals.counts (← patternSizes patterns)⟩

/-- The counts of all patterns, the most frequent first. -/
def patternCounts (counts : List Nat) : List PatternCount :=
  (List.zipWith
    (fun pattern count => ⟨pattern.1 ++ "." ++ pattern.2.1, pattern.2.2, count⟩)
    countedPatterns counts).mergeSort fun a b => decide (b.count ≤ a.count)

/-- Adds a component to its package. -/
def addToPackage (versions : Lockfile.Versions) (packages : Entries String PackageShare)
    (usage : ComponentUsage) : Entries String PackageShare :=
  if usage.source = unknownPackage then packages
  else
    let version := ((versions.versionOf? usage.source).filter (· ≠ "")).getD unknownPackage
    let known := (packages.get? usage.source).getD { name := usage.source, version := version }
    packages.put usage.source
      { known with
        componentCount := known.componentCount + 1
        usageCount := known.usageCount + usage.count
        components := known.components ++ [usage.name] }

/-- The shares of the packages, the most used first. -/
def distribution (usage : Entries String ComponentUsage) (versions : Lockfile.Versions) :
    Except Fault (List PackageShare) := do
  let packages : List PackageShare :=
    Entries.values (usage.values.foldl (addToPackage versions) [])
  let sum := total (packages.map (·.usageCount))
  let shares ← packages.mapM fun package => do
    if sum = 0 then
      return package
    return { package with percentage := ← Share.percent package.usageCount sum }
  return shares.mergeSort fun a b => decide (b.usageCount ≤ a.usageCount)

/-- Takes the reports of many files together. -/
def aggregate (results : List FileResult) (versions : Lockfile.Versions) :
    Except Fault Aggregate := do
  let totals ← results.foldlM (Totals.add versions.packages.keys) {}
  return {
    filesAnalyzed := results.length
    imports := total (results.map (·.report.summary.imports))
    usagePatterns := total (results.map (·.report.summary.usagePatterns))
    patternCounts := patternCounts totals.counts
    usage := totals.usage
    packages := ← distribution totals.usage versions
    results := results }

namespace Aggregate

/-- Components in descending order of renderings, then by name. -/
def topComponents (aggregate : Aggregate) : List ComponentUsage :=
  aggregate.usage.values.mergeSort fun a b =>
    decide (b.count < a.count) || (a.count = b.count && decide (a.name ≤ b.name))

/-- The names of all components in ascending order. -/
def allComponents (aggregate : Aggregate) : List String :=
  sortedNames aggregate.usage.keys

/-- The document of the renderings of a component. -/
def componentValue (usage : ComponentUsage) : Value :=
  .object
    [("name", .str usage.name), ("source", .str usage.source), ("count", .int usage.count),
     ("files", .list ((sortedNames usage.files).map .str))]

/-- The document of the share of a package; percentages have two places. -/
def packageValue (package : PackageShare) : Value :=
  .object
    [("packageName", .str package.name), ("version", .str package.version),
     ("componentCount", .int package.componentCount), ("usageCount", .int package.usageCount),
     ("percentage", .float (package.percentage.roundPlaces 2)),
     ("components", .list (package.components.map .str))]

/-- The document of the count of a pattern. -/
def patternValue (pattern : PatternCount) : Value :=
  .object
    [("patternType", .str pattern.type), ("displayName", .str pattern.displayName),
     ("count", .int pattern.count)]

/-- The document of the report of a file. -/
def fileValue (result : FileResult) : Value :=
  .object
    ([("file", .str result.path.text), ("report", result.report.toValue)] ++
      (match result.analysis with
      | some analysis => [("analysis", analysis.toValue)]
      | none => []))

/-- The members of the document of an aggregate, with the reports of the files if asked for. -/
def toMembers (includeFiles : Bool) (aggregate : Aggregate) : List (String × Value) :=
  [("summary", .object
      [("filesAnalyzed", .int aggregate.filesAnalyzed), ("totalImports", .int aggregate.imports),
       ("totalComponents", .int aggregate.usage.length),
       ("totalUsagePatterns", .int aggregate.usagePatterns)]),
   ("components", .list (aggregate.topComponents.map componentValue)),
   ("packages", .list (aggregate.packages.map packageValue)),
   ("patterns", .list (aggregate.patternCounts.map patternValue))] ++
  (if includeFiles then [("files", .list (aggregate.results.map fileValue))] else [])

end Aggregate

end ComponentCensus.Package
