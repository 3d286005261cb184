import ComponentCensus.Command.Project
import ComponentCensus.Repository.Facts

/-!
# The command on repositories

Repositories are cloned into a directory of their own and analyzed one after the other.  The
directory is removed in the end, unless it is to be kept.
-/

namespace ComponentCensus.Command

open ComponentCensus.Console ComponentCensus.Repository

/-- The references on the command line, and those in a file. -/
def allReferences (options : RepositoryOptions) : Action (List String) :=
  match options.referencesFile with
  | none => return options.references
  | some file => do
    let listed ← Action.take (readReferences (← Action.brackets) (← Action.tree) file)
    return options.references ++ listed

/-- Makes the directory for clones. -/
def makeWorkDirectory : Action Unit := do
  Action.setTree ((← Action.tree).putDirectory (← read).work.parts)

/-- Says that the directory for clones is kept, or removes it. -/
def leaveWorkDirectory (keep : Bool) : Action Unit := do
  let work := (← read).work
  if (← Action.tree).isDirectory work then
    if keep then
      Action.print s!"[dim]Repositories kept in {work.text}[/dim]"
    else
      Action.setTree ((← Action.tree).removeBelow work.parts)

/-- The branch to clone: that of the options, else that of the settings. -/
def branchFor (options : RepositoryOptions) (settings : Settings) : Value :=
  match options.branch with
  | none | some "" => settings.get "github.branch" .null
  | some branch => .str branch

/-- Clones repositories. -/
def cloneReferences (options : RepositoryOptions) (references : List String) : Action Clones := do
  let circumstances ← read
  let settings ← Action.settings
  let fetcher ←
    Action.take (Fetcher.ofSettings settings "" "" circumstances.token (options.depth.map .int) none)
  Action.print s!"\n[bold cyan]📥 Cloning {references.length} repositories[/bold cyan]"
  let session ← get
  let (clones, outside) :=
    fetcher.cloneAll references circumstances.work (branchFor options settings) session.outside
  set { session with outside }
  Action.take clones

/-- The facts about a clone, as a value. -/
def repositoryValue (clone : Clone) (facts : Facts) : Value :=
  .object
    [("name", .str clone.reference.shorthand), ("branch", .str clone.branch),
     ("packageName", facts.packageName), ("packageVersion", facts.packageVersion),
     ("fileTypes", .object (facts.fileTypes.map fun entry => (entry.1, .int entry.2)))]

/-- Analyzes a clone, and returns its data. -/
def surveyClone (options : RepositoryOptions) (clone : Clone) : Action Value := do
  Action.print
    s!"\n[bold]📦 {clone.reference.shorthand}[/bold] [dim]({clone.branch})[/dim]"
  let survey ← survey ⟨clone.path, options.pattern, [], options.library, none, none⟩
    options.complexity true
  Action.showSection (summarySection survey.aggregate (some noTime))
  Action.showSection (packagesSection survey.aggregate .table)
  Action.showSection (componentsSection survey.aggregate .table (some 10))
  Action.emitAll (errorsSection survey.batch.errors)
  let facts ← Action.take (facts (← Action.brackets) (← Action.tree) clone.path)
  return .object
    (survey.toMembers (!options.complexity) ++ [("repository", repositoryValue clone facts)])

/-- Analyzes repositories. -/
def surveyRepositories (options : RepositoryOptions) : Action Unit := do
  let references ← allReferences options
  if references.isEmpty then
    Action.fail "[red]Error: No repositories given[/red]"
  makeWorkDirectory
  let clones ← cloneReferences options references
  for (url, error) in clones.errors do
    Action.print s!"[red]✗ {url}: {error}[/red]"
  if clones.cloned.isEmpty then
    Action.fail "[red]Error: No repositories could be cloned[/red]"
  Action.emit (.opened true)
  let documents ← clones.cloned.mapM (surveyClone options)
  Action.saveReport "github" options.output
    [("library", optionalText options.library), ("branch", optionalText options.branch),
     ("pattern", .str options.pattern)]
    [("repositories", .list documents),
     ("failed", .object (clones.errors.map fun entry => (entry.1, .str entry.2)))]
    "\n"

/-- An analysis of repositories. -/
def runRepositories (options : RepositoryOptions) : Action Unit := do
  tryCatch
    (Action.guarded (fun _ => true) "Error during GitHub analysis" (surveyRepositories options))
    fun halt => do
      leaveWorkDirectory options.keep
      throw halt
  leaveWorkDirectory options.keep

end ComponentCensus.Command
