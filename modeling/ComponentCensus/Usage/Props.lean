import ComponentCensus.Names

/-!
# What the attributes of an element say

A props summary lists the attributes of one rendering of a component, or of several renderings
merged.  Merging keeps names and details in the order in which they were first seen and joins the
flags, so that one spread anywhere marks the whole component.
-/

namespace ComponentCensus.Usage

/-- One attribute of an element. -/
structure PropDetail where
  name : String
  /-- The sort of value that is passed. -/
  type : String
  isEventHandler : Bool := false
  isComplex : Bool := false
  isSpread : Bool := false
  warning : Option String := none
deriving DecidableEq, Repr

/-- Details with the same key describe the same attribute. -/
def PropDetail.key (detail : PropDetail) : String × String :=
  (detail.name, detail.type)

/-- A summary of attributes. -/
structure PropsSummary where
  namedProps : List String := []
  hasSpread : Bool := false
  hasComplexProps : Bool := false
  hasEventHandlers : Bool := false
  details : List PropDetail := []
deriving DecidableEq, Repr, Inhabited

/-- Appends a detail unless one with its key is present. -/
def addDetail (details : List PropDetail) (detail : PropDetail) : List PropDetail :=
  if detail.key ∈ details.map PropDetail.key then details else details ++ [detail]

namespace PropsSummary

/-- The summary of the attributes of both. -/
def merge (a b : PropsSummary) : PropsSummary where
  namedProps := b.namedProps.foldl addName a.namedProps
  hasSpread := a.hasSpread || b.hasSpread
  hasComplexProps := a.hasComplexProps || b.hasComplexProps
  hasEventHandlers := a.hasEventHandlers || b.hasEventHandlers
  details := b.details.foldl addDetail a.details

/-- Adds an attribute with a name; a repeated name is listed once, each of its details is kept. -/
def addProp (summary : PropsSummary) (detail : PropDetail) : PropsSummary where
  namedProps := addName summary.namedProps detail.name
  hasSpread := summary.hasSpread
  hasComplexProps := summary.hasComplexProps || detail.isComplex
  hasEventHandlers := summary.hasEventHandlers || detail.isEventHandler
  details := summary.details ++ [detail]

/-- The detail of spread attributes, whose names are not known. -/
def spreadDetail : PropDetail where
  name := "..."
  type := "spread"
  isComplex := true
  isSpread := true
  warning := some "Spread props cannot be statically analyzed"

/-- Adds spread attributes. -/
def addSpread (summary : PropsSummary) : PropsSummary :=
  { summary with
    hasSpread := true
    hasComplexProps := true
    details := summary.details ++ [spreadDetail] }

end PropsSummary

end ComponentCensus.Usage
