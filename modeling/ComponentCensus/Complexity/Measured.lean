import ComponentCensus.Complexity.Analysis
import ComponentCensus.Value.Order
import ComponentCensus.Value.Quantity

/-!
# Levels and scores of values

Scores, weights, counts and bounds that come from outside may be any values.  They are compared and
summed up like the integers of an analysis, as far as their kinds allow it.
-/

namespace ComponentCensus.Complexity

/-- The bound of a level in a table, the last entry of a name counting, or its default. -/
def boundIn (table : List (Value × Value)) (name : String) (default : Int) : Value :=
  (Entries.get? (Value.str name) table.reverse).getD (.int default)

/-- The level of a score within bounds that a table gives. -/
def Level.ofValue (table : List (Value × Value)) (score : Value) : Except Fault Level :=
  score.labelWithin .extremelyComplex
    [(boundIn table "simple" 10, .simple), (boundIn table "moderate" 30, .moderate),
     (boundIn table "complex" 60, .complex), (boundIn table "very_complex" 100, .veryComplex)]

/-- The level of a score; a value that counts as false gives no bounds. -/
def Level.ofValues (thresholds score : Value) : Except Fault Level := do
  Level.ofValue (← if thresholds.isTruthy then thresholds.entries else pure []) score

/-- The mark of a weight that may be any value. -/
def weightIconOf (weight : Value) : Except Fault String :=
  weight.labelWithin heaviestMark (weightMarks.map fun step => (.int step.1, step.2))

/-- The label of a number of renderings that may be any value. -/
def intensityOf (count : Value) : Except Fault String :=
  count.labelWithin strongestLabel (intensityLabels.map fun step => (.int step.1, step.2))

/-- A weight and a count that may be any values. -/
structure Measured where
  count : Value
  weight : Value

/-- A score of quantities. -/
structure MeasuredScore where
  score : Quantity
  maxPossible : Quantity
  percentage : Int
  level : Level

/-- The bounds of a classifier as a table. -/
def Bounds.toTable (bounds : Bounds) : List (Value × Value) :=
  [(.str "simple", .int bounds.simple), (.str "moderate", .int bounds.moderate),
   (.str "complex", .int bounds.complex), (.str "very_complex", .int bounds.veryComplex)]

/-- The score of measured categories. -/
def Classifier.measure (classifier : Classifier) (found : List Measured) :
    Except Fault MeasuredScore := do
  let score ← Quantity.totalOfProducts (found.map fun f => (f.weight, f.count)) (.whole 0)
  let maxPossible ← Quantity.totalOfProducts
    (found.map fun f => (f.weight, .int classifier.maxInstances)) (.whole 0)
  let share ← score.quotient maxPossible.atLeastOne
  let percentage ←
    Share.wholeNumber ((share.mul Share.hundred).add Share.half) Number.Binary64.floor?
  let level ← Level.ofValue classifier.bounds.toTable score.toValue
  return ⟨score, maxPossible, percentage, level⟩

/-- The document of a score of quantities. -/
def MeasuredScore.toValue (score : MeasuredScore) : Value :=
  .object
    [("score", score.score.toValue), ("maxPossible", score.maxPossible.toValue),
     ("percentage", .int score.percentage), ("level", .str score.level.name)]

end ComponentCensus.Complexity
