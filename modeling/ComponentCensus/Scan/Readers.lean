import ComponentCensus.Scan.Source
import ComponentCensus.Value.Yaml

/-!
# Readers of foreign formats

Syntax trees, YAML and TOML documents are read by programs of their own.  A reader turns a text into
what it stands for, or fails.  Values that are nested are read from a text and written to one level
by level, and how many levels there is room for depends on the machine, so that is told along with
the readers.
-/

namespace ComponentCensus.Scan

open ComponentCensus.Syntax

/-- How a reader may fail. -/
inductive ReadFailure where
  /-- The text does not follow the format. -/
  | malformed
  /-- The reader fails in a way of its own. -/
  | other (kind : String)
deriving DecidableEq, Repr

/-- The readers of foreign formats. -/
structure Readers where
  tree : Grammar → String → Node
  yaml : String → Except ReadFailure Yaml
  toml : String → Except ReadFailure (List (String × Value))
  /-- How many brackets of a JSON text may be open at once. -/
  brackets : Nat
  /-- Whether a value is nested too deeply for its text to be built. -/
  tooDeep : Yaml → Bool
deriving Inhabited

/-- Checks that the text of a value can be built. -/
def Readers.checkText (readers : Readers) (value : Yaml) : Except Fault Unit :=
  if value.hasLongInteger then .error .tooLongInteger
  else if readers.tooDeep value then
    .error (.nestedTooDeeply "maximum recursion depth exceeded while getting the repr of an object")
  else .ok ()

end ComponentCensus.Scan
