import ComponentCensus.Command.Run
import ComponentCensus.Console.Plain
import ComponentCensus.Repository.Recorded

/-!
# The command line

The first line of standard input is a snapshot of the working directory in JSON, with recorded
replies if repositories are to be analyzed.  The command named by the arguments runs on it; what it
shows is printed, and then each file that it wrote, under its path.
-/

namespace ComponentCensus

open ComponentCensus.Files ComponentCensus.Repository ComponentCensus.Scan ComponentCensus.Text

/-- The directory in which a snapshot stands. -/
def snapshotPlace : List String := ["project"]

/-- A text of a snapshot, or a default. -/
def snapshotText (value : Value) (name default : String) : String :=
  ((Snapshot.member? value name).map Snapshot.textOf).getD default

/-- The home directories that a snapshot names. -/
def snapshotHomes (value : Value) : Homes :=
  match Snapshot.member? value "homes" with
  | some (.object members) => ⟨members.map fun member => (member.1, Snapshot.textOf member.2)⟩
  | _ => {}

/-- Runs a command line on a snapshot. -/
def runOn (value : Value) (arguments : List String) : Command.Outcome :=
  let snapshot := Snapshot.ofValue value
  Command.run
    { readers := snapshot.readers
      token := snapshotText value "token" ""
      time := snapshotText value "time" "unknown"
      stamp := snapshotText value "stamp" "report"
      work := Path.ofText "/clones"
      homes := snapshotHomes value }
    (Outside.ofValue (snapshot.tree snapshotPlace) value) arguments

/-- The files that a command wrote. -/
def writtenFiles (before after : Tree) : List (String × String) :=
  after.files.filterMap fun file =>
    if (before.fileAt? file.1).isNone then
      (Tree.decode file.2).toOption.map fun text => (joinWith "/" (file.1.drop 1), text)
    else
      none

/-- What a command shows, and what it wrote. -/
def outcomeLines (before : Tree) (outcome : Command.Outcome) : List String :=
  outcome.session.events.filterMap Console.Event.plain? ++
    (outcome.escaped.map Fault.message).toList ++
      (writtenFiles before outcome.session.outside.tree).flatMap fun file => [file.1, file.2]

end ComponentCensus

/-- Runs the command line on the snapshot on standard input. -/
def main (arguments : List String) : IO UInt32 := do
  let line ← (← IO.getStdin).getLine
  match ComponentCensus.Json.parse line with
  | .error problem =>
    IO.eprintln problem.message
    return 2
  | .ok value =>
    let outcome := ComponentCensus.runOn value arguments
    let before := (ComponentCensus.Scan.Snapshot.ofValue value).tree ComponentCensus.snapshotPlace
    for text in ComponentCensus.outcomeLines before outcome do
      IO.println text
    return outcome.code.toUInt32
