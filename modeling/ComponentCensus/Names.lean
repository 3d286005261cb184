/-!
# Lists of names

Names are collected without repetition, in the order in which they turn up, and sorted for reports.
-/

namespace ComponentCensus

/-- Appends a name unless it is present. -/
def addName (names : List String) (name : String) : List String :=
  if name ∈ names then names else names ++ [name]

/-- Names in ascending order. -/
def sortedNames (names : List String) : List String :=
  names.mergeSort fun a b => decide (a ≤ b)

end ComponentCensus
