import ComponentCensus.Json.Printer
import ComponentCensus.Value.Access

/-!
# Reports

The report of a file has a summary in numbers, the findings as a document, and the components.  A
report is written as a document and can be loaded again from one.  Documents that are loaded may
lack parts and may hold values of any shape.
-/

namespace ComponentCensus

/-- The numbers of a report. -/
structure Summary where
  imports : Int
  components : Int
  usagePatterns : Int
deriving DecidableEq, Repr, Inhabited

/-- The usage report of a file. -/
structure Report where
  summary : Summary
  patterns : Value
  components : List Value
deriving Inhabited

/-- The layout that a value asks for: null for one line, a text for itself at each level, and an
integer for so many spaces. -/
def Json.Layout.ofValue : Value → Except Fault Json.Layout
  | .null => .ok .oneLine
  | .str text => .ok (.lines text.toList)
  | width => return .indented (← width.repetitions)

namespace Report

/-- The document of a summary. -/
def summaryValue (summary : Summary) : Value :=
  .object
    [("totalImports", .int summary.imports), ("totalComponents", .int summary.components),
     ("totalUsagePatterns", .int summary.usagePatterns)]

/-- The document of a report. -/
def toValue (report : Report) : Value :=
  .object
    [("summary", summaryValue report.summary), ("patterns", report.patterns),
     ("components", .list report.components)]

/-- The text of a report. -/
def text (layout : Json.Layout) (report : Report) : String :=
  Json.print layout report.toValue

/-- Loads a report; parts that are missing are empty, and counts are converted to integers. -/
def ofValue (document : Value) : Except Fault Report := do
  let summary ← document.lookupD "summary" (.object [])
  let imports ← (← summary.lookupD "totalImports" (.int 0)).toInteger
  let components ← (← summary.lookupD "totalComponents" (.int 0)).toInteger
  let usagePatterns ← (← summary.lookupD "totalUsagePatterns" (.int 0)).toInteger
  let patterns ← document.lookupD "patterns" (.object [])
  let names ← (← document.lookupD "components" (.list [])).items
  return ⟨⟨imports, components, usagePatterns⟩, patterns, names⟩

end Report

end ComponentCensus
