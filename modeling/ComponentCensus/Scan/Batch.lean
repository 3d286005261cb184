import ComponentCensus.Files.Discovery
import ComponentCensus.Package.Aggregate
import ComponentCensus.Scan.Pool
import ComponentCensus.Scan.Readers

/-!
# Many files

Each file is read and analyzed on its own, so that a file that fails does not disturb the others.
Reports and failures keep the order of the files.
-/

namespace ComponentCensus.Scan

open ComponentCensus.Complexity ComponentCensus.Files ComponentCensus.Package

/-- The report of a file. -/
def analyzeFile (readers : Readers) (tree : Tree) (strict : Bool) (library : Value) (path : Path) :
    Except Fault Report := do
  let options := Options.forFile path strict
  let code ←
    match tree.readText path with
    | .error (.undecodable problem) => throw (.undecodableSource path.text problem)
    | .error fault => throw fault
    | .ok code => pure code
  analyzeSource options path.text library (readers.tree options.grammar code)

/-- How the files of a project are analyzed. -/
structure Mapper where
  discovery : Discovery
  strict : Bool
  classifier : Option Classifier := none

/-- What came of a batch of files. -/
structure Batch where
  results : List FileResult := []
  errors : List FileError := []

namespace Batch

/-- The number of files that were looked at. -/
def filesAnalyzed (batch : Batch) : Nat :=
  batch.results.length + batch.errors.length

end Batch

namespace Mapper

/-- The mapper that settings ask for, unless exclusions or strictness are given. -/
def ofSettings (settings : Settings) (root : Path) (exclusions : Option (List Value))
    (strict : Option Bool) (classifier : Option Classifier) : Except Fault Mapper := do
  let discovery ← Discovery.ofSettings settings root exclusions none
  return ⟨discovery, strict.getD settings.strict, classifier⟩

/-- A path as it is shown: from the project root where that is possible. -/
def displayPath (mapper : Mapper) (path : Path) : String :=
  ((path.relativeTo? mapper.discovery.root).getD path).text

/-- The result of one file, or the reason why it has none. -/
def outcome (mapper : Mapper) (readers : Readers) (tree : Tree) (library : Value) (path : Path) :
    Except Fault (FileResult ⊕ FileError) :=
  match analyzeFile readers tree mapper.strict library path with
  | .error fault => .ok (.inr ⟨mapper.displayPath path, fault.message⟩)
  | .ok report => do
    let analysis ← mapper.classifier.mapM fun classifier => classifier.analyze report
    return .inl ⟨path, report, analysis⟩

/-- Analyzes files, several at a time if there are workers for it. -/
def analyze (mapper : Mapper) (readers : Readers) (tree : Tree) (library : Value)
    (files : List Path) (workers : Workers := {}) : Except Fault Batch := do
  let outcomes ← workers.mapM (mapper.outcome readers tree library) files
  return {
    results := outcomes.filterMap fun outcome => outcome.getLeft?
    errors := outcomes.filterMap fun outcome => outcome.getRight? }

/-- Finds and analyzes the files of a project. -/
def scan (mapper : Mapper) (readers : Readers) (tree : Tree) (pattern : String)
    (library : Value) (workers : Workers := {}) (limit : Option Int) : Except Fault Batch := do
  mapper.analyze readers tree library (← mapper.discovery.find tree pattern limit) workers

end Mapper

end ComponentCensus.Scan
