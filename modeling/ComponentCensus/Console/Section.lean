import ComponentCensus.Console.Event
import ComponentCensus.Package.Comparison

/-!
# Sections of a console report

Each section shows one side of an aggregate: totals, components, packages, patterns, files, failed
files, the analysis of a file, or a comparison of libraries.  Components, packages and patterns are
shown as a table or as a chart of bars.
-/

namespace ComponentCensus.Console

open ComponentCensus.Complexity ComponentCensus.Number ComponentCensus.Package
open ComponentCensus.Text

/-- How a section is shown. -/
inductive View where
  | table
  | chart
deriving DecidableEq, Repr

/-- The line of a chart: a name in a column, a bar and a label. -/
def chartLine (width : Nat) (name bar label : String) : Event :=
  say s!"  {padRight width name} {bar} {label}"

/-- The length of the longest name. -/
def widthOf (names : List String) : Nat :=
  (names.map String.length).foldl max 0

/-- The totals, with the time taken if it is known. -/
def summarySection (aggregate : Aggregate) (elapsed : Option Binary64) :
    Except Fault (List Event) := do
  let files := aggregate.filesAnalyzed
  let imports ← Share.countText aggregate.imports
  let components := aggregate.usage.length
  let patterns ← Share.countText aggregate.usagePatterns
  let time :=
    match elapsed with
    | some seconds => [(s!" | {seconds.fixed 2}s", some "dim")]
    | none => []
  return [.print
    [.panel
      (.styled
        ([("📊 Summary: ", some "bold"), (s!"{files} files | ", none), (s!"{imports} imports | ", none),
          (s!"{components} components | ", none), (s!"{patterns} usage patterns", none)] ++ time))
      none "blue"]
    none]

/-- The components that are rendered most, all of them without a limit. -/
def componentsSection (aggregate : Aggregate) (view : View) (limit : Option Int) :
    Except Fault (List Event) := do
  let all := aggregate.topComponents
  let top := limit.elim all fun limit => Value.takeSigned limit all
  match top, view with
  | [], _ => return [say "[yellow]No component usage found[/yellow]"]
  | highest :: _, .chart =>
    let width := widthOf (top.map (·.name))
    let lines ← top.mapM fun usage => do
      let bar ← Share.percentBar (← Share.percent usage.count highest.count)
      return chartLine width usage.name bar (← Share.countText usage.count)
    return say "\n[bold]🧩 Top Components[/bold]" :: lines
  | _, .table =>
    let rows ← top.mapM fun usage => do
      return [usage.name, usage.source, ← Share.countText usage.count,
        toString usage.files.length, intensity usage.count]
    return [showTable "🧩 Top Components"
      [⟨"Component", "bold", .left⟩, ⟨"Package", "", .left⟩, ⟨"Uses", "", .right⟩,
       ⟨"Files", "", .right⟩, ⟨"Intensity", "", .center⟩] rows]

/-- A percentage with one place. -/
def percentText (percentage : Binary64) : String :=
  percentage.fixed 1 ++ "%"

/-- The shares of the packages. -/
def packagesSection (aggregate : Aggregate) (view : View) : Except Fault (List Event) := do
  match aggregate.packages, view with
  | [], _ => return [say "[yellow]No packages resolved (is there a lockfile?)[/yellow]"]
  | packages, .chart =>
    let width := widthOf (packages.map (·.name))
    let lines ← packages.mapM fun package => do
      let bar ← Share.percentBar package.percentage
      return chartLine width package.name bar (percentText package.percentage)
    return say "\n[bold]📦 Package Distribution[/bold]" :: lines
  | packages, .table =>
    let rows ← packages.mapM fun package => do
      return [package.name, package.version, toString package.componentCount,
        ← Share.countText package.usageCount, percentText package.percentage]
    return [showTable "📦 Package Distribution"
      [⟨"Package", "bold", .left⟩, ⟨"Version", "", .center⟩, ⟨"Components", "", .right⟩,
       ⟨"Uses", "", .right⟩, ⟨"Share", "", .right⟩] rows]

/-- The patterns that occur. -/
def occurringPatterns (aggregate : Aggregate) : List PatternCount :=
  aggregate.patternCounts.filter (0 < ·.count)

/-- The counts of the patterns. -/
def patternsSection (aggregate : Aggregate) (view : View) : Except Fault (List Event) := do
  let counts := occurringPatterns aggregate
  let sum := total (counts.map fun pattern => (pattern.count : Int))
  match counts, view with
  | [], _ => return [say "[yellow]No usage patterns found[/yellow]"]
  | _, .chart =>
    let width := widthOf (counts.map (·.displayName))
    let lines ← counts.mapM fun pattern => do
      let bar ← Share.percentBar (← Share.percent pattern.count sum)
      return chartLine width pattern.displayName bar (toString pattern.count)
    return say "\n[bold]🔍 Usage Patterns[/bold]" :: lines
  | _, .table =>
    let rows ← counts.mapM fun pattern => do
      return [pattern.displayName, toString pattern.count,
        percentText (← Share.percent pattern.count sum)]
    return [showTable "🔍 Usage Patterns"
      [⟨"Pattern", "bold", .left⟩, ⟨"Count", "", .right⟩, ⟨"Share", "", .right⟩] rows]

/-- The complexity of a file in one cell. -/
def complexityCell : Option Analysis → String
  | none => "-"
  | some analysis =>
    let level := analysis.complexity.level
    let score := analysis.complexity.score
    s!"{level.icon} {level.name} ({score})"

/-- The numbers of each file. -/
def detailsSection (aggregate : Aggregate) : Event :=
  showTable "📄 Files"
    [⟨"File", "bold", .left⟩, ⟨"Imports", "", .right⟩, ⟨"Components", "", .right⟩,
     ⟨"Patterns", "", .right⟩, ⟨"Complexity", "", .center⟩]
    (aggregate.results.map fun result =>
      [result.path.text, toString result.report.summary.imports,
       toString result.report.summary.components, toString result.report.summary.usagePatterns,
       complexityCell result.analysis])

/-- The files that could not be analyzed. -/
def errorsSection (errors : List FileError) : List Event :=
  match errors with
  | [] => []
  | _ =>
    let count := errors.length
    say s!"\n[bold red]⚠️  {count} file(s) could not be analyzed:[/bold red]" ::
      errors.map fun error => sayIn "dim" s!"  • {error.file}: {error.error}"

/-- The row of a category that was found. -/
def foundRow (entry : String × Found) : Except Fault (List Item) :=
  match catalog.find? fun category => category.name = entry.1 with
  | none => .error (.missingMember entry.1)
  | some category =>
    let weight := entry.2.weight
    .ok
      [.markup entry.1, .markup s!"{weightIcon weight} {weight}", .markup (toString entry.2.count),
       .markup category.description, .styled [(category.sample, none)]]

/-- The categories that were found. -/
def foundSection (found : Entries String Found) : Except Fault (List Event) := do
  match found with
  | [] => return []
  | _ =>
    return [.print
      [.table "Patterns Found"
        [⟨"Pattern", "bold", .left⟩, ⟨"Weight", "", .center⟩, ⟨"Count", "", .right⟩,
         ⟨"Description", "dim", .left⟩, ⟨"Example", "green", .left⟩]
        (← found.mapM foundRow)]
      none]

/-- The lines of a piece of advice. -/
def adviceLines (advice : Recommendation) : List Event :=
  let style := if advice.priority = "High" then "red" else "yellow"
  [say s!"  • [{style}]{advice.type} ({advice.priority})[/{style}]: {advice.message}",
   sayIn "dim" s!"    {advice.action}"]

/-- The analysis of one file. -/
def analysisSection (label : String) (report : Report) (analysis : Analysis) :
    Except Fault (List Event) := do
  let complexity := analysis.complexity
  let level := complexity.level
  let color := level.color
  let components := report.summary.components
  let coverage ← Complexity.coverage analysis.found
  let score ← Share.countText complexity.score
  let greatest ← Share.countText complexity.maxPossible
  let body :=
    s!"[{color}]{level.icon} {level.name}[/{color}]\n" ++
    s!"Score: {score}/{greatest} ({complexity.percentage}%)\n" ++
    s!"Components: {components} | Pattern coverage: {coverage}%"
  let found ← foundSection analysis.found
  let advice :=
    match analysis.recommendations with
    | [] => []
    | all => say "\n[bold]💡 Recommendations:[/bold]" :: all.flatMap adviceLines
  return [say s!"\n[bold]🎯 Component usage analysis: {label}[/bold]",
    .print [.panel (.markup body) (some "Complexity") color] none] ++ found ++ advice ++ [say ""]

/-- Libraries in the order of their rank. -/
def comparisonSection (comparisons : List Comparison) : Except Fault (List Event) := do
  let rows ← comparisons.zipIdx.mapM fun entry => do
    return [toString (entry.2 + 1), entry.1.library, toString entry.1.uniqueComponents,
      ← Share.countText entry.1.imports, ← Share.countText entry.1.usagePatterns,
      toString entry.1.filesWithUsage]
  return [showTable "🏆 Library Comparison"
    [⟨"Rank", "", .right⟩, ⟨"Library", "bold", .left⟩, ⟨"Components", "", .right⟩,
     ⟨"Imports", "", .right⟩, ⟨"Patterns", "", .right⟩, ⟨"Files", "", .right⟩] rows]

end ComponentCensus.Console
