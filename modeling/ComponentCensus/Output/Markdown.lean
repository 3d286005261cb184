import ComponentCensus.Console.Section

/-!
# Markdown reports

A report for people to read: totals, packages, components, patterns, complexity and failed files,
each under a heading of its own.  Parts that have nothing to show are left out.
-/

namespace ComponentCensus.Output

open ComponentCensus.Package ComponentCensus.Text

/-- The title of a report. -/
def titleLine (library : String) : String :=
  if library = "" then "# 🧩 Component Usage Report\n"
  else s!"# 🧩 Component Usage Report: {library}\n"

/-- The lines of the totals. -/
def summaryLines (aggregate : Aggregate) : Except Fault (List String) := do
  let files := aggregate.filesAnalyzed
  let imports ← Share.countText aggregate.imports
  let components := aggregate.usage.length
  let patterns ← Share.countText aggregate.usagePatterns
  return [s!"**Files Analyzed:** {files}\n", "## 📊 Summary\n", "| Metric | Value |",
   "|--------|-------|", s!"| Imports | {imports} |", s!"| Components | {components} |",
   s!"| Usage patterns | {patterns} |", ""]

/-- The lines under a heading, unless there are none. -/
def headed (heading rows : List String) : List String :=
  if rows.isEmpty then [] else heading ++ rows ++ [""]

/-- The row of a package. -/
def packageRow (package : PackageShare) : Except Fault String := do
  let count := package.componentCount
  let uses ← Share.countText package.usageCount
  let share := package.percentage.fixed 1
  return s!"| {package.name} | {package.version} | {count} | {uses} | {share}% |"

/-- The row of a component. -/
def componentRow (usage : ComponentUsage) : Except Fault String := do
  let count ← Share.countText usage.count
  let files := usage.files.length
  return s!"| `{usage.name}` | {usage.source} | {count} | {files} |"

/-- The line of a pattern. -/
def patternLine (pattern : PatternCount) : String :=
  s!"- **{pattern.displayName}:** {pattern.count}"

/-- The row of the complexity of a file, if it was analyzed. -/
def complexityRow? (result : FileResult) : Option String :=
  result.analysis.map fun analysis =>
    let complexity := analysis.complexity
    let level := complexity.level
    s!"| {result.path.text} | {level.icon} {level.name} | {complexity.score} |"

/-- The line of a file that could not be analyzed. -/
def errorLine (error : FileError) : String :=
  s!"- `{error.file}`: {error.error}"

/-- The Markdown report of an aggregate. -/
def markdown (aggregate : Aggregate) (library : String) (errors : List FileError) :
    Except Fault String := do
  let summary ← summaryLines aggregate
  let packages ← aggregate.packages.mapM packageRow
  let components ← aggregate.topComponents.mapM componentRow
  return joinWith "\n"
    ([titleLine library] ++ summary ++
      headed
        ["## 📦 Packages\n", "| Package | Version | Components | Uses | Share |",
         "|---------|---------|------------|------|-------|"]
        packages ++
      headed
        ["## 🧩 Components\n", "| Component | Package | Uses | Files |",
         "|-----------|---------|------|-------|"]
        components ++
      headed ["## 🔍 Patterns\n"]
        ((Console.occurringPatterns aggregate).map patternLine) ++
      headed ["## 📈 Complexity\n", "| File | Level | Score |", "|------|-------|-------|"]
        (aggregate.results.filterMap complexityRow?) ++
      headed ["## ⚠️ Errors\n"] (errors.map errorLine))

end ComponentCensus.Output
