import ComponentCensus.Package.Aggregate

/-!
# Libraries side by side

Libraries are ranked by the number of different components that their reports name.
-/

namespace ComponentCensus.Package

/-- What the reports of a library add up to. -/
structure Comparison where
  library : String
  uniqueComponents : Nat
  imports : Int
  usagePatterns : Int
  filesWithUsage : Nat
deriving DecidableEq, Repr

/-- Sums up the reports of a library. -/
def compareOne (library : String) (results : List FileResult) : Except Fault Comparison := do
  let components ← (results.flatMap (·.report.components)).foldlM
    (fun known component => do return Value.addTo known (← component.asMember)) []
  return {
    library := library
    uniqueComponents := components.length
    imports := Number.total (results.map (·.report.summary.imports))
    usagePatterns := Number.total (results.map (·.report.summary.usagePatterns))
    filesWithUsage := (results.filter (·.report.summary.imports > 0)).length }

/-- Ranks libraries by different components, then by name. -/
def compareLibraries (libraries : Entries String (List FileResult)) :
    Except Fault (List Comparison) := do
  let comparisons ← libraries.mapM fun entry => compareOne entry.1 entry.2
  return comparisons.mergeSort fun a b =>
    decide (b.uniqueComponents < a.uniqueComponents) ||
      (a.uniqueComponents = b.uniqueComponents && decide (a.library ≤ b.library))

end ComponentCensus.Package
