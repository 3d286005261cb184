import ComponentCensus.Entries

/-!
# Complexity levels

A level is an interval of scores.  The bounds are inclusive and tested in ascending order of the
levels, so that the first bound that a score does not exceed decides.
-/

namespace ComponentCensus.Complexity

/-- How complex the usage of components is. -/
inductive Level where
  | simple
  | moderate
  | complex
  | veryComplex
  | extremelyComplex
deriving DecidableEq, Repr

/-- The greatest scores of the levels but the last. -/
structure Bounds where
  simple : Int := 10
  moderate : Int := 30
  complex : Int := 60
  veryComplex : Int := 100
deriving DecidableEq, Repr

/-- The bounds that a table gives; what it does not name keeps its default. -/
def Bounds.ofTable (table : Entries String Int) : Bounds where
  simple := (table.get? "simple").getD 10
  moderate := (table.get? "moderate").getD 30
  complex := (table.get? "complex").getD 60
  veryComplex := (table.get? "very_complex").getD 100

namespace Level

/-- The level of a score. -/
def ofScore (bounds : Bounds) (score : Int) : Level :=
  if score ≤ bounds.simple then .simple
  else if score ≤ bounds.moderate then .moderate
  else if score ≤ bounds.complex then .complex
  else if score ≤ bounds.veryComplex then .veryComplex
  else .extremelyComplex

/-- The name of a level. -/
def name : Level → String
  | .simple => "Simple"
  | .moderate => "Moderate"
  | .complex => "Complex"
  | .veryComplex => "Very Complex"
  | .extremelyComplex => "Extremely Complex"

/-- The mark of a level. -/
def icon : Level → String
  | .simple => "🟢"
  | .moderate => "🟡"
  | .complex => "🟠"
  | .veryComplex => "🔴"
  | .extremelyComplex => "🚨"

/-- The color of a level on the console. -/
def color : Level → String
  | .simple => "green"
  | .moderate => "blue"
  | .complex => "yellow"
  | .veryComplex => "red"
  | .extremelyComplex => "bold red"

end Level

end ComponentCensus.Complexity
