import ComponentCensus.Command.Action
import ComponentCensus.Command.Line
import ComponentCensus.Lockfile.Load
import ComponentCensus.Output.Markdown
import ComponentCensus.Scan.Batch

/-!
# Commands on a project

A summary on the console, a detailed report, a look at one file and a comparison of libraries.
-/

namespace ComponentCensus.Command

open ComponentCensus.Complexity ComponentCensus.Console ComponentCensus.Files
open ComponentCensus.Number ComponentCensus.Package ComponentCensus.Scan

/-- What came of the files of a project. -/
structure Survey where
  batch : Batch
  aggregate : Aggregate
  versions : Lockfile.Versions

/-- The exclusions of the settings and further ones. -/
def exclusionsWith (settings : Settings) (ignore : List String) : Except Fault (List Value) := do
  return (← settings.exclusions) ++ ignore.map .str

/-- A number that is given and not zero. -/
def nonzero? : Option Int → Option Int
  | some 0 => none
  | n => n

/-- Finds, analyzes and aggregates the files of a project. -/
def survey (selection : Selection) (complexity showProgress : Bool) : Action Survey := do
  let settings ← Action.settings
  let exclusions ← Action.take (exclusionsWith settings selection.ignore)
  let classifier ←
    if complexity then some <$> Action.take (Classifier.ofSettings settings) else pure none
  let mapper ←
    Action.take (Mapper.ofSettings settings selection.project (some exclusions) none classifier)
  let limit ←
    match nonzero? selection.maxFiles with
    | some n => pure (some n)
    | none => Action.take settings.maxFiles
  let jobs ←
    match nonzero? selection.jobs with
    | some n => pure n
    | none => Action.take settings.jobs
  if showProgress then
    Action.emit (.progress "[green]Analyzing source files...")
  let readers := (← read).readers
  let tree ← Action.tree
  let batch ←
    Action.take
      (mapper.scan readers tree selection.pattern (optionalText selection.library) { jobs } limit)
  let versions ← Action.take (Lockfile.load readers tree selection.project)
  return ⟨batch, ← Action.take (aggregate batch.results versions), versions⟩

/-- The lockfile of a survey. -/
def lockfileValue (versions : Lockfile.Versions) : Value :=
  .object
    [("type", optionalText (versions.lockfile.map (·.1.name))),
     ("path", optionalText (versions.lockfile.map (·.2.text)))]

/-- A file that could not be analyzed, as a value. -/
def errorValue (error : FileError) : Value :=
  .object [("file", .str error.file), ("error", .str error.error)]

/-- The data of a survey. -/
def Survey.toMembers (survey : Survey) (summaryOnly : Bool) : List (String × Value) :=
  survey.aggregate.toMembers (!summaryOnly) ++
    [("lockfile", lockfileValue survey.versions),
     ("errors", .list (survey.batch.errors.map errorValue))]

/-- The time that a summary shows. -/
def noTime : Binary64 := .zero false

/-- A section in a view, if it is shown. -/
def shownSection (view : Option View) (events : View → Except Fault (List Event)) : Action Unit :=
  match view with
  | some view => Action.showSection (events view)
  | none => return

/-- The selection with its project directory in absolute form. -/
def resolved (selection : Selection) : Action Selection := do
  return { selection with project := (← Action.tree).resolve selection.project }

/-- Fails unless a project is a directory. -/
def requireProject (project : Path) : Action Unit := do
  if !(← Action.take ((← Action.tree).askDirectory project)) then
    Action.fail s!"[red]Error: Project path not found: {project.text}[/red]"

/-- What is printed when a project has no sources. -/
def noSources : String := "\n[yellow]ℹ️  No source files found[/yellow]"

/-- A summary of a project. -/
def runScan (options : ScanOptions) : Action Unit := do
  let selection ← resolved options.selection
  requireProject selection.project
  Action.guarded (fun _ => true) "Error during scan" do
    Action.print s!"\n[bold cyan]🔍 Scanning {selection.project.text}[/bold cyan]"
    let survey ← survey selection options.details true
    if survey.batch.filesAnalyzed = 0 then
      Action.print noSources
      throw (.exit 0)
    if let some (_, lockfile) := survey.versions.lockfile then
      Action.print s!"[dim]Versions from {lockfile.name}[/dim]"
    Action.emit (.opened options.color)
    if options.summary then
      Action.showSection (summarySection survey.aggregate (some noTime))
    shownSection options.packages (packagesSection survey.aggregate)
    shownSection options.components fun view => componentsSection survey.aggregate view (some 20)
    shownSection options.patterns (patternsSection survey.aggregate)
    if options.details then
      Action.emit (detailsSection survey.aggregate)
    Action.emitAll (errorsSection survey.batch.errors)

/-- The sections of a detailed report on the console. -/
def showAnalysis (options : AnalyzeOptions) (survey : Survey) : Action Unit := do
  Action.emit (.opened options.color)
  Action.showSection (summarySection survey.aggregate (some noTime))
  if !options.summaryOnly then
    Action.showSection (packagesSection survey.aggregate .table)
    Action.showSection (componentsSection survey.aggregate .table (some 20))
    Action.showSection (patternsSection survey.aggregate .table)
    if options.complexity then
      Action.emit (detailsSection survey.aggregate)
  Action.emitAll (errorsSection survey.batch.errors)

/-- The file of a detailed report: one is made up when the report also goes to the console. -/
def reportFile (options : AnalyzeOptions) (stamp : String) : Option Path :=
  match options.output, options.destination with
  | none, .both => some (Path.ofText s!"analysis-{stamp}.json")
  | output, _ => output

/-- Saves or prints the document of a detailed report. -/
def deliverDocument (options : AnalyzeOptions) (survey : Survey) : Action Unit := do
  let circumstances ← read
  let directory ← Action.take ((← Action.settings).outputDirectory circumstances.homes)
  let document :=
    Output.document (.str "analyze") circumstances.time
      (.object
        [("library", optionalText options.selection.library),
         ("pattern", .str options.selection.pattern),
         ("complexity", .bool options.complexity)])
      (survey.toMembers options.summaryOnly)
  match reportFile options circumstances.stamp with
  | none => Action.emit (.document document)
  | some file =>
    let path ← Action.saveDocument directory file document
    if options.destination = .both then
      Action.print s!"[green]✅ Report saved to: {path.text}[/green]"

/-- A detailed report on a project. -/
def runAnalyze (options : AnalyzeOptions) : Action Unit := do
  let selection ← resolved options.selection
  requireProject selection.project
  let onConsole := options.destination ≠ .json
  let library := selection.library.getD ""
  Action.guarded (fun _ => true) "Error during analysis" do
    if onConsole then
      let target := if library = "" then "" else s!" for {library}"
      Action.print s!"\n[bold cyan]🔍 Analyzing {selection.project.text}{target}[/bold cyan]"
    let survey ← survey selection options.complexity onConsole
    if survey.batch.filesAnalyzed = 0 then
      if onConsole then
        Action.print noSources
      throw (.exit 0)
    if onConsole then
      showAnalysis options survey
    if options.destination ≠ .console then
      deliverDocument options survey
    if let some file := options.markdown then
      let text ← Action.take (Output.markdown survey.aggregate library survey.batch.errors)
      Action.writeFile file text
      if onConsole then
        Action.print s!"[green]✅ Markdown report saved to: {file.text}[/green]"

/-- The faults of the sources, lockfiles, repositories and settings under study. -/
def isOwnFault : Fault → Bool
  | .brokenSyntax .. | .undecodableSource .. | .badLockfile .. | .badRepository ..
  | .badSetting .. => true
  | _ => false

/-- A look at one file. -/
def runInspect (options : InspectOptions) : Action Unit := do
  if !(← Action.take ((← Action.tree).askFile options.file)) then
    Action.fail s!"[red]Error: File not found: {options.file.text}[/red]"
  Action.guarded isOwnFault "Error" do
    let readers := (← read).readers
    let report ←
      Action.take
        (analyzeFile readers (← Action.tree) (!options.lenient) (optionalText options.library)
          options.file)
    let classifier ← Action.take (Classifier.ofSettings (← Action.settings))
    let analysis ← Action.take (classifier.analyze report)
    Action.emit (.opened true)
    Action.showSection (analysisSection options.file.name report analysis)
    Action.saveReport "inspect" options.output [("library", optionalText options.library)]
      [("file", .str options.file.text), ("report", report.toValue),
       ("analysis", analysis.toValue)]
      ""

/-- A row of the ranking of libraries. -/
def rankingValue (comparison : Comparison) : Value :=
  .object
    [("library", .str comparison.library),
     ("uniqueComponents", .int comparison.uniqueComponents),
     ("totalImports", .int comparison.imports),
     ("totalUsagePatterns", .int comparison.usagePatterns),
     ("filesWithUsage", .int comparison.filesWithUsage)]

/-- The results of each library; a library that is named twice counts once. -/
def resultsByLibrary (mapper : Mapper) (files : List Path) (libraries : List String) :
    Action (Entries String (List FileResult)) := do
  let settings ← Action.settings
  let readers := (← read).readers
  let tree ← Action.tree
  let results ← libraries.mapM fun library => do
    let jobs ← Action.take settings.jobs
    let batch ← Action.take (mapper.analyze readers tree (.str library) files { jobs })
    return (library, batch.results)
  return Entries.ofPairs results

/-- A comparison of libraries. -/
def runCompare (options : CompareOptions) : Action Unit := do
  let project := (← Action.tree).resolve options.project
  if options.libraries.length < 2 then
    Action.fail "[red]Error: compare needs at least two --library options[/red]"
  Action.guarded (fun _ => true) "Error during comparison" do
    let settings ← Action.settings
    let exclusions ← Action.take (exclusionsWith settings options.ignore)
    let mapper ← Action.take (Mapper.ofSettings settings project (some exclusions) none none)
    let limit ← Action.take settings.maxFiles
    let files ← Action.take (mapper.discovery.find (← Action.tree) options.pattern limit)
    if files.isEmpty then
      Action.print noSources
      throw (.exit 0)
    let results ← resultsByLibrary mapper files options.libraries
    let comparisons ← Action.take (compareLibraries results)
    Action.emit (.opened true)
    Action.showSection (comparisonSection comparisons)
    Action.saveReport "compare" options.output
      [("libraries", .list (options.libraries.map .str)), ("pattern", .str options.pattern)]
      [("ranking", .list (comparisons.map rankingValue))]
      ""

end ComponentCensus.Command
