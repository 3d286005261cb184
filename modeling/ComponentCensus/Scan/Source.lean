import ComponentCensus.Files.Path
import ComponentCensus.Report.Findings
import ComponentCensus.Report.LibraryFilter
import ComponentCensus.Syntax.Error
import ComponentCensus.Text.Case
import ComponentCensus.Usage.Walk

/-!
# Sources

A source is read with one of two grammars.  Plain scripts may contain elements, so they are always
read with the grammar that knows elements.  A strict reading refuses sources with syntax errors;
otherwise the partial tree counts.
-/

namespace ComponentCensus.Scan

open ComponentCensus.Files ComponentCensus.Syntax ComponentCensus.Usage

/-- The grammars that sources are read with. -/
inductive Grammar where
  | tsx
  | typescript
deriving DecidableEq, Repr

/-- The name of a grammar. -/
def Grammar.name : Grammar → String
  | .tsx => "tsx"
  | .typescript => "typescript"

/-- The languages of sources. -/
inductive Language where
  | typescript
  | ecmascript
deriving DecidableEq, Repr

namespace Language

/-- The name of a language. -/
def name : Language → String
  | .typescript => "typescript"
  | .ecmascript => "ecmascript"

/-- The language of a name. -/
def ofName : Value → Except Fault Language
  | .str "typescript" => .ok .typescript
  | .str "ecmascript" => .ok .ecmascript
  | other => .error (.unsupportedSyntax other)

end Language

/-- How a source is read. -/
structure Options where
  language : Language := .typescript
  elements : Bool := true
  strict : Bool := true
deriving DecidableEq, Repr

namespace Options

/-- The grammar that a source is read with. -/
def grammar (options : Options) : Grammar :=
  if options.language = .ecmascript || options.elements then .tsx else .typescript

/-- The options that the ending of a file calls for. -/
def forFile (path : Path) (strict : Bool) : Options :=
  let ending := Text.lower path.suffix
  if ending ∈ [".js", ".jsx", ".mjs", ".cjs"] then ⟨.ecmascript, ending = ".jsx", strict⟩
  else ⟨.typescript, ending ≠ ".ts", strict⟩

end Options

/-- Accepts a tree, unless the reading is strict and the tree has an error. -/
def acceptTree (options : Options) (place : String) (tree : Node) : Except Fault Node :=
  if tree.hasError && options.strict then
    .error (.brokenSyntax place tree.firstErrorLine?)
  else
    .ok tree

/-- A report narrowed to a library, if one is named. -/
def narrowTo (library : Value) (report : Report) : Except Fault Report :=
  if library.isTruthy then report.narrowTo library else .ok report

/-- The report of a tree. -/
def analyzeTree (library : Value) (tree : Node) : Except Fault Report :=
  narrowTo library (Census.empty.visit tree).report

/-- The report of a source that was read as a tree. -/
def analyzeSource (options : Options) (place : String) (library : Value) (tree : Node) :
    Except Fault Report := do
  analyzeTree library (← acceptTree options place tree)

end ComponentCensus.Scan
