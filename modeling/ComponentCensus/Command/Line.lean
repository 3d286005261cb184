import ComponentCensus.Command.Given
import ComponentCensus.Command.Integer
import ComponentCensus.Console.Section
import ComponentCensus.Files.Path

/-!
# Commands

A command line names a settings file or none, a command, and the arguments of the command.  Reading
it goes in two steps, because the settings file is looked at before the arguments of the command.
-/

namespace ComponentCensus.Command

open ComponentCensus.Console ComponentCensus.Files

/-- Which files of a project are analyzed, and for which library. -/
structure Selection where
  project : Path
  pattern : String
  ignore : List String
  library : Option String
  maxFiles : Option Int
  jobs : Option Int

/-- Options of a summary of a project. -/
structure ScanOptions where
  selection : Selection
  components : Option View
  packages : Option View
  patterns : Option View
  details : Bool
  summary : Bool
  color : Bool

/-- Where a detailed report goes. -/
inductive Destination where
  | console
  | json
  | both
deriving DecidableEq, Repr

/-- Options of a detailed report. -/
structure AnalyzeOptions where
  selection : Selection
  output : Option Path
  destination : Destination
  complexity : Bool
  summaryOnly : Bool
  markdown : Option Path
  color : Bool

/-- Options of a look at one file. -/
structure InspectOptions where
  file : Path
  library : Option String
  output : Option Path
  lenient : Bool

/-- Options of a comparison of libraries. -/
structure CompareOptions where
  libraries : List String
  project : Path
  pattern : String
  ignore : List String
  output : Option Path

/-- Options of an analysis of repositories. -/
structure RepositoryOptions where
  references : List String
  referencesFile : Option Path
  library : Option String
  branch : Option String
  depth : Option Int
  pattern : String
  complexity : Bool
  keep : Bool
  output : Option Path

/-- A request for a command with its options. -/
inductive Request where
  | scan (options : ScanOptions)
  | analyze (options : AnalyzeOptions)
  | inspect (options : InspectOptions)
  | compare (options : CompareOptions)
  | github (options : RepositoryOptions)
  | version

/-- The names of the commands. -/
def commandNames : List String :=
  ["scan", "analyze", "inspect", "compare", "github", "version"]

/-- The option that every command has. -/
def helpOption : Known := ⟨"--help", none, false⟩

/-- The options of each command. -/
def knownOptions : String → List Known
  | "scan" =>
    [⟨"--project", some 'p', true⟩, ⟨"--pattern", none, true⟩, ⟨"--ignore", none, true⟩,
     ⟨"--library", some 'l', true⟩, ⟨"--components", none, true⟩, ⟨"--packages", none, true⟩,
     ⟨"--patterns", none, true⟩, ⟨"--details", none, false⟩, ⟨"--summary", none, false⟩,
     ⟨"--no-summary", none, false⟩, ⟨"--max-files", none, true⟩, ⟨"--jobs", some 'j', true⟩,
     ⟨"--verbose", some 'v', false⟩, ⟨"--no-color", none, false⟩, helpOption]
  | "analyze" =>
    [⟨"--project", some 'p', true⟩, ⟨"--library", some 'l', true⟩, ⟨"--pattern", none, true⟩,
     ⟨"--output", some 'o', true⟩, ⟨"--format", some 'f', true⟩, ⟨"--complexity", none, false⟩,
     ⟨"--ignore", none, true⟩, ⟨"--max-files", none, true⟩, ⟨"--summary-only", none, false⟩,
     ⟨"--markdown", none, true⟩, ⟨"--jobs", some 'j', true⟩, ⟨"--verbose", some 'v', false⟩,
     ⟨"--no-color", none, false⟩, helpOption]
  | "inspect" =>
    [⟨"--library", some 'l', true⟩, ⟨"--output", some 'o', true⟩, ⟨"--lenient", none, false⟩,
     ⟨"--verbose", some 'v', false⟩, helpOption]
  | "compare" =>
    [⟨"--library", some 'l', true⟩, ⟨"--project", some 'p', true⟩, ⟨"--pattern", none, true⟩,
     ⟨"--ignore", none, true⟩, ⟨"--output", some 'o', true⟩, ⟨"--verbose", some 'v', false⟩,
     helpOption]
  | "github" =>
    [⟨"--repos-file", none, true⟩, ⟨"--library", some 'l', true⟩, ⟨"--branch", some 'b', true⟩,
     ⟨"--depth", none, true⟩, ⟨"--pattern", none, true⟩, ⟨"--complexity", none, false⟩,
     ⟨"--keep-repos", none, false⟩, ⟨"--output", some 'o', true⟩, ⟨"--verbose", some 'v', false⟩,
     helpOption]
  | _ => [helpOption]

/-- A command line after its first step. -/
structure Line where
  settingsFile : Option Path
  command : String
  arguments : List String

/-- The path that an argument names; it may not hold the null character. -/
def readPath (argument : String) : Except Refusal Path :=
  if Text.hasChar '\x00' argument then .error .misuse else .ok (Path.ofText argument)

/-- The integer that an argument spells. -/
def readInteger (argument : String) : Except Refusal Int :=
  match integerOf? argument with
  | some i => .ok i
  | none => .error .misuse

namespace Given

/-- The last path given for an option. -/
def path? (given : Given) (name : String) : Except Refusal (Option Path) :=
  (given.value? name).mapM readPath

/-- The last integer given for an option. -/
def integer? (given : Given) (name : String) : Except Refusal (Option Int) :=
  (given.value? name).mapM readInteger

/-- The last view given for an option. -/
def view (given : Given) (name : String) (default : Option View) :
    Except Refusal (Option View) :=
  match given.value? name with
  | none => .ok default
  | some "table" => .ok (some .table)
  | some "chart" => .ok (some .chart)
  | some "none" => .ok none
  | some _ => .error .misuse

/-- The last destination given. -/
def destination (given : Given) : Except Refusal Destination :=
  match given.value? "--format" with
  | none | some "console" => .ok .console
  | some "json" => .ok .json
  | some "both" => .ok .both
  | some _ => .error .misuse

/-- The project directory; without one it is the working directory. -/
def project (given : Given) : Except Refusal Path := do
  return (← given.path? "--project").getD {}

/-- The pattern of files; without one it is that of all files. -/
def pattern (given : Given) : String :=
  (given.value? "--pattern").getD "**/*"

/-- Whether the last of two opposite options is the first one; without any it is. -/
def isOn (given : Given) (on off : String) : Bool :=
  match (given.options.filter fun option => option.1 = on || option.1 = off).getLast? with
  | some option => option.1 = on
  | none => true

/-- The selection of files. -/
def selection (given : Given) : Except Refusal Selection := do
  return {
    project := ← given.project
    pattern := given.pattern
    ignore := given.values "--ignore"
    library := given.value? "--library"
    maxFiles := ← given.integer? "--max-files"
    jobs := ← given.integer? "--jobs" }

/-- Refuses arguments that are no options. -/
def noArguments (given : Given) : Except Refusal Unit :=
  if given.arguments.isEmpty then .ok () else .error .misuse

end Given

/-- The options of a summary. -/
def readScan (given : Given) : Except Refusal ScanOptions := do
  given.noArguments
  return {
    selection := ← given.selection
    components := ← given.view "--components" (some .table)
    packages := ← given.view "--packages" (some .table)
    patterns := ← given.view "--patterns" none
    details := given.has "--details"
    summary := given.isOn "--summary" "--no-summary"
    color := !given.has "--no-color" }

/-- The options of a detailed report. -/
def readAnalyze (given : Given) : Except Refusal AnalyzeOptions := do
  given.noArguments
  return {
    selection := ← given.selection
    output := ← given.path? "--output"
    destination := ← given.destination
    complexity := given.has "--complexity"
    summaryOnly := given.has "--summary-only"
    markdown := ← given.path? "--markdown"
    color := !given.has "--no-color" }

/-- The options of a look at one file. -/
def readInspect (given : Given) : Except Refusal InspectOptions := do
  match given.arguments with
  | [file] =>
    return {
      file := ← readPath file
      library := given.value? "--library"
      output := ← given.path? "--output"
      lenient := given.has "--lenient" }
  | _ => throw .misuse

/-- The options of a comparison. -/
def readCompare (given : Given) : Except Refusal CompareOptions := do
  given.noArguments
  if !given.has "--library" then
    throw .misuse
  return {
    libraries := given.values "--library"
    project := ← given.project
    pattern := given.pattern
    ignore := given.values "--ignore"
    output := ← given.path? "--output" }

/-- The options of an analysis of repositories. -/
def readRepositories (given : Given) : Except Refusal RepositoryOptions := do
  return {
    references := given.arguments
    referencesFile := ← given.path? "--repos-file"
    library := given.value? "--library"
    branch := given.value? "--branch"
    depth := ← given.integer? "--depth"
    pattern := given.pattern
    complexity := given.has "--complexity"
    keep := given.has "--keep-repos"
    output := ← given.path? "--output" }

/-- Reads the arguments of a command. -/
def Request.read (name : String) (arguments : List String) : Except Refusal Request := do
  let given ← readArguments (knownOptions name) true arguments
  if given.has "--help" then
    throw .help
  match name with
  | "scan" => .scan <$> readScan given
  | "analyze" => .analyze <$> readAnalyze given
  | "inspect" => .inspect <$> readInspect given
  | "compare" => .compare <$> readCompare given
  | "github" => .github <$> readRepositories given
  | _ => do
    given.noArguments
    return .version

/-- The options in front of the command. -/
def leadingOptions : List Known :=
  [⟨"--config", some 'c', true⟩, helpOption]

/-- Reads options in front of the command and what follows them. -/
def readLeading (arguments : List String) : Except Refusal Given := do
  let given ← readArguments leadingOptions false arguments
  if given.has "--help" then
    throw .help
  return given

/-- The first step of reading a command line.  Where an option stands in the place of the command,
as it may behind two hyphens, help that is asked for there is given. -/
def Line.read (arguments : List String) : Except Refusal Line := do
  let given ← readLeading arguments
  let settingsFile ← given.path? "--config"
  match given.arguments with
  | [] => throw .misuse
  | command :: rest =>
    if !commandNames.contains command then
      let _ ← readLeading (command :: rest)
      throw .misuse
    return ⟨settingsFile, command, rest⟩

end ComponentCensus.Command
