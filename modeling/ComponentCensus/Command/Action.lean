import ComponentCensus.Console.Event
import ComponentCensus.Output.Document
import ComponentCensus.Repository.Fetch
import ComponentCensus.Scan.Readers
import ComponentCensus.Settings.Basic

/-!
# Actions

A command is an action: it reads its circumstances, changes its session and may halt, with an exit
code of its own choice or by a fault.  A session holds what lies outside, the settings in force and
the events on the console so far.
-/

namespace ComponentCensus.Command

open ComponentCensus.Console ComponentCensus.Files ComponentCensus.Repository ComponentCensus.Scan

/-- What a command finds and does not change. -/
structure Circumstances where
  readers : Readers
  /-- The token in the environment. -/
  token : String := ""
  /-- The time that documents are stamped with. -/
  time : String
  /-- The time as it stands in file names. -/
  stamp : String
  /-- The directory for clones. -/
  work : Path
  /-- The home directories that are known. -/
  homes : Homes := {}

/-- What a command changes. -/
structure Session where
  outside : Outside
  settings : Settings := {}
  events : List Event := []

/-- Why a command ends early. -/
inductive Halt where
  | exit (code : Nat)
  | fault (fault : Fault)

/-- A step of a command. -/
abbrev Action := ReaderT Circumstances (EStateM Halt Session)

namespace Action

/-- Does something on the console. -/
def emit (event : Event) : Action Unit :=
  modify fun session => { session with events := session.events ++ [event] }

/-- Does several things on the console. -/
def emitAll (events : List Event) : Action Unit :=
  modify fun session => { session with events := session.events ++ events }

/-- Prints a text with markup. -/
def print (text : String) : Action Unit :=
  emit (say text)

/-- Goes on with a result, or halts by its fault. -/
def take {α : Type} : Except Fault α → Action α
  | .ok result => pure result
  | .error fault => throw (.fault fault)

/-- Does the events of a section, or halts by its fault. -/
def showSection (events : Except Fault (List Event)) : Action Unit := do
  emitAll (← take events)

/-- Prints a text and exits with a failure. -/
def fail {α : Type} (text : String) : Action α := do
  print text
  throw (.exit 1)

/-- Turns some faults of an action into a message and a failure. -/
def guarded (isCaught : Fault → Bool) (label : String) (body : Action Unit) : Action Unit :=
  tryCatch body fun halt =>
    match halt with
    | .fault fault =>
      if isCaught fault then fail s!"\n[red]{label}: {fault.message}[/red]" else throw halt
    | .exit _ => throw halt

/-- The file tree. -/
def tree : Action Tree := do
  return (← get).outside.tree

/-- How many brackets of a JSON text may be open at once. -/
def brackets : Action Nat := do
  return (← get).outside.brackets

/-- Changes the file tree. -/
def setTree (tree : Tree) : Action Unit :=
  modify fun session => { session with outside := { session.outside with tree } }

/-- The settings in force. -/
def settings : Action Settings := do
  return (← get).settings

/-- Writes a text to a file. -/
def writeFile (path : Path) (text : String) : Action Unit := do
  setTree (← take ((← tree).writeText path text))

/-- Saves a document below the output directory, and returns where. -/
def saveDocument (directory file : Path) (document : Value) : Action Path := do
  let path := Output.outputPath directory file
  writeFile path (Output.documentText document)
  return path

/-- Saves a report and says where. -/
def saveReport (command : String) (file : Option Path) (options data : List (String × Value))
    (lead : String) : Action Unit :=
  match file with
  | none => return
  | some file => do
    let directory ← take ((← settings).outputDirectory (← read).homes)
    let document := Output.document (.str command) (← read).time (.object options) data
    let path ← saveDocument directory file document
    print s!"{lead}[green]✅ Report saved to: {path.text}[/green]"

end Action

/-- Text or nothing as a value. -/
def optionalText : Option String → Value
  | some text => .str text
  | none => .null

end ComponentCensus.Command
