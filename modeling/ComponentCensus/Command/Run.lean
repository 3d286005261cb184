import ComponentCensus.Command.Repositories
import ComponentCensus.Settings.Load

/-!
# Running a command line

The outcome of a command line is an exit code, the session in the end, and the fault that no command
turned into a message, if there is one.
-/

namespace ComponentCensus.Command

open ComponentCensus.Repository

/-- The lines about the version. -/
def versionLines : List String :=
  ["[bold]hermex[/bold] v0.1.0",
   "\n[dim]Features:[/dim]",
   "  • Import, JSX and props analysis with tree-sitter",
   "  • Aliases, mappings, lazy loading and HOC detection",
   "  • Complexity scoring and recommendations",
   "  • npm, yarn and pnpm lockfile versions"]

/-- Runs the command that is asked for. -/
def Request.run : Request → Action Unit
  | .scan options => runScan options
  | .analyze options => runAnalyze options
  | .inspect options => runInspect options
  | .compare options => runCompare options
  | .github options => runRepositories options
  | .version => versionLines.forM Action.print

/-- The exit code of a refusal. -/
def Refusal.code : Refusal → Nat
  | .misuse => 2
  | .help => 0

/-- Goes on with what was read, or exits. -/
def accept {α : Type} : Except Refusal α → Action α
  | .ok result => pure result
  | .error refusal => throw (.exit refusal.code)

/-- Loads the settings of a command line. -/
def loadSettings (file : Option Files.Path) : Action Unit := do
  let tree ← Action.tree
  if let some file := file then
    if !(← Action.take (tree.askExists file)) then
      Action.fail s!"[red]Error: Config file not found: {file.text}[/red]"
  let settings ← Action.take (Settings.obtain (← read).readers tree none file)
  modify fun session => { session with settings }

/-- Reads and runs a command line. -/
def runLine (arguments : List String) : Action Unit := do
  let line ← accept (Line.read arguments)
  loadSettings line.settingsFile
  (← accept (Request.read line.command line.arguments)).run

/-- The outcome of a command line. -/
structure Outcome where
  code : Nat
  /-- The fault that ended the command, if none of its own messages did. -/
  escaped : Option Fault
  session : Session

/-- Runs a command line. -/
def run (circumstances : Circumstances) (outside : Outside) (arguments : List String) : Outcome :=
  match ((runLine arguments).run circumstances).run { outside } with
  | .ok _ session => ⟨0, none, session⟩
  | .error (.exit code) session => ⟨code, none, session⟩
  | .error (.fault fault) session => ⟨1, some fault, session⟩

end ComponentCensus.Command
