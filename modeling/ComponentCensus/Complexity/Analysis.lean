import ComponentCensus.Complexity.Catalog
import ComponentCensus.Complexity.Level
import ComponentCensus.Number.Total
import ComponentCensus.Report.Basic
import ComponentCensus.Settings.Basic
import ComponentCensus.Share
import ComponentCensus.Value.Serialized

/-!
# The analysis of a report

The categories of the catalog that occur in a report are weighted and summed up to a score.  The
score has a level, and the categories call for recommendations.
-/

namespace ComponentCensus.Complexity

/-- The entries of one category in a report. -/
structure Found where
  count : Int
  weight : Int
  examples : List Value := []

/-- How a report is classified. -/
structure Classifier where
  bounds : Bounds := {}
  maxInstances : Int := 10
  examples : Int := 3
deriving Repr

/-- The classifier that settings ask for. -/
def Classifier.ofSettings (settings : Settings) : Except Fault Classifier := do
  let thresholds ← settings.thresholds
  let maxInstances ← settings.maxInstances
  let examples ← settings.examples
  return ⟨Bounds.ofTable thresholds, maxInstances, examples⟩

/-- The bucket of a category in the patterns of a report. -/
def Category.bucketIn (category : Category) (patterns : Value) : Except Fault Value := do
  (← patterns.lookupD category.group (.object [])).lookupD category.bucket (.list [])

/-- What a report has of one category, if it has any of it. -/
def Category.find (category : Category) (examples : Int) (patterns : Value) :
    Except Fault (Option Found) := do
  let bucket ← category.bucketIn patterns
  if bucket.isTruthy then
    let count ← bucket.size
    return some ⟨count, category.weight, ← bucket.firstItems examples⟩
  else
    return none

/-- The categories that occur in a report, in catalog order. -/
def Classifier.classify (classifier : Classifier) (patterns : Value) :
    Except Fault (Entries String Found) := do
  let found ← catalog.mapM fun category => do
    return (← category.find classifier.examples patterns).map fun found => (category.name, found)
  return found.filterMap id

/-- A weighted score. -/
structure Score where
  score : Int
  maxPossible : Int
  percentage : Int
  level : Level
deriving DecidableEq, Repr

/-- The score of the categories found: weight times count, compared with what it would be if every
category had its full count. -/
def Classifier.score (classifier : Classifier) (found : Entries String Found) :
    Except Fault Score := do
  let score := Number.total (found.values.map fun f => f.weight * f.count)
  let maxPossible :=
    Number.total (found.values.map fun f => f.weight * classifier.maxInstances)
  let percentage ← Share.wholePercent score (max maxPossible 1)
  return ⟨score, maxPossible, percentage, Level.ofScore classifier.bounds score⟩

/-- A piece of advice. -/
structure Recommendation where
  type : String
  priority : String
  message : String
  action : String
deriving DecidableEq, Repr

/-- Advice that is given when one of some categories occurs. -/
def triggeredAdvice : List (List String × Recommendation) :=
  [(["Dynamic Import", "Portal Usage"],
    ⟨"Performance", "High", "Consider code splitting strategies for dynamic imports",
     "Implement lazy loading boundaries"⟩),
   (["Object Mapping", "Array Mapping"],
    ⟨"Maintainability", "Medium", "Component mappings can be hard to track",
     "Consider using TypeScript for better type safety"⟩)]

/-- Advice for the highest level. -/
def levelAdvice : Recommendation :=
  ⟨"Architecture", "High", "High complexity detected in component usage",
   "Consider refactoring to simpler patterns"⟩

/-- Advice for many different categories. -/
def varietyAdvice : Recommendation :=
  ⟨"Consistency", "Medium", "Many different usage patterns found",
   "Standardize on 2-3 primary patterns"⟩

/-- The advice for the categories found and their level. -/
def recommendations {α : Type} (found : Entries String α) (level : Level) : List Recommendation :=
  (triggeredAdvice.filter fun rule => rule.1.any fun name => found.has name).map (·.2) ++
  (if level = .extremelyComplex then [levelAdvice] else []) ++
  (if found.length > 8 then [varietyAdvice] else [])

/-- The share of the catalog that was found, in percent. -/
def coverage {α : Type} (found : Entries String α) : Except Fault Int :=
  Share.wholePercent found.length catalog.length

/-- The analysis of a report. -/
structure Analysis where
  found : Entries String Found
  complexity : Score
  recommendations : List Recommendation

/-- Analyzes a report. -/
def Classifier.analyze (classifier : Classifier) (report : Report) : Except Fault Analysis := do
  let found ← classifier.classify report.patterns
  let complexity ← classifier.score found
  return ⟨found, complexity, Complexity.recommendations found complexity.level⟩

/-- The document of the entries of a category. -/
def Found.toValue (found : Found) : Value :=
  Value.serialized (.object
    [("count", .int found.count), ("complexity", .int found.weight),
     ("examples", .list found.examples)])

/-- The document of a score. -/
def Score.toValue (score : Score) : Value :=
  .object
    [("score", .int score.score), ("maxPossible", .int score.maxPossible),
     ("percentage", .int score.percentage), ("level", .str score.level.name)]

/-- The document of a piece of advice. -/
def Recommendation.toValue (advice : Recommendation) : Value :=
  .object
    [("type", .str advice.type), ("priority", .str advice.priority),
     ("message", .str advice.message), ("action", .str advice.action)]

/-- The document of an analysis. -/
def Analysis.toValue (analysis : Analysis) : Value :=
  .object
    [("foundPatterns", .object (analysis.found.map fun entry => (entry.1, entry.2.toValue))),
     ("complexity", analysis.complexity.toValue),
     ("recommendations", .list (analysis.recommendations.map Recommendation.toValue))]

end ComponentCensus.Complexity
