import ComponentCensus.Files.Tree
import ComponentCensus.Scan.Readers
import ComponentCensus.Settings.Basic

/-!
# Loading settings

Settings come from a file that is named, or else from the settings file of the working directory.
A file that is missing, cannot be opened or does not follow the format leaves the defaults.
-/

namespace ComponentCensus.Settings

open ComponentCensus.Files ComponentCensus.Scan

/-- The settings file of a working directory. -/
def fileName : String := ".hermex.toml"

/-- The settings that a file gives. -/
def ofFile (readers : Readers) (tree : Tree) (file : Path) : Except Fault Settings :=
  match tree.readText file with
  | .error (.nameTooLong path) => .error (.nameTooLong path)
  | .error (.undecodable problem) => .error (.undecodable problem)
  | .error _ => .ok {}
  | .ok content =>
    match readers.toml content with
    | .ok members => .ok (withFile members)
    | .error .malformed => .ok {}
    | .error (.other kind) => .error (.foreign kind)

/-- The settings of the working directory. -/
def ofWorkingDirectory (readers : Readers) (tree : Tree) : Except Fault Settings :=
  ofFile readers tree (Path.ofText fileName)

/-- The settings in force: those of a named file, else those loaded before, else those of the
working directory. -/
def obtain (readers : Readers) (tree : Tree) (loaded : Option Settings) (file : Option Path) :
    Except Fault Settings :=
  match file, loaded with
  | some file, _ => ofFile readers tree file
  | none, some settings => .ok settings
  | none, none => ofWorkingDirectory readers tree

end ComponentCensus.Settings
