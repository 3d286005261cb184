import ComponentCensus.Report.Basic
import ComponentCensus.Usage.Census

/-!
# The report of a census

The findings are laid out in three groups of buckets and a list of attribute summaries.  A record
becomes an object; what a record does not have is left out.
-/

namespace ComponentCensus.Usage

/-- A document member for a value that may be absent. -/
def optionalMember (name : String) : Option String → List (String × Value)
  | some value => [(name, .str value)]
  | none => []

/-- A line number as a value. -/
def lineValue (line : Nat) : Value :=
  .int line

/-- Texts as a list. -/
def textsValue (texts : List String) : Value :=
  .list (texts.map .str)

namespace ImportRecord

/-- The document of an import. -/
def toValue (item : ImportRecord) : Value :=
  .object [("name", .str item.name), ("source", .str item.source), ("line", lineValue item.line)]

end ImportRecord

namespace AliasedImport

/-- The document of an import under another name. -/
def toValue (item : AliasedImport) : Value :=
  .object
    [("imported", .str item.imported), ("local", .str item.localName), ("source", .str item.source),
     ("line", lineValue item.line)]

end AliasedImport

namespace PropDetail

/-- The document of an attribute. -/
def toValue (detail : PropDetail) : Value :=
  .object
    ([("name", .str detail.name), ("type", .str detail.type),
      ("isEventHandler", .bool detail.isEventHandler), ("isComplex", .bool detail.isComplex),
      ("isSpread", .bool detail.isSpread)] ++ optionalMember "warning" detail.warning)

end PropDetail

namespace PropsSummary

/-- The document of a summary of attributes. -/
def toValue (summary : PropsSummary) : Value :=
  .object
    [("namedProps", textsValue summary.namedProps), ("hasSpread", .bool summary.hasSpread),
     ("hasComplexProps", .bool summary.hasComplexProps),
     ("hasEventHandlers", .bool summary.hasEventHandlers),
     ("propDetails", .list (summary.details.map PropDetail.toValue))]

end PropsSummary

namespace Occurrence

/-- The document of a place where a component is rendered. -/
def toValue (item : Occurrence) : Value :=
  .object [("line", lineValue item.line), ("context", .str item.context.name)]

end Occurrence

namespace Rendering

/-- The document of the renderings of a component. -/
def toValue (item : Rendering) : Value :=
  .object
    [("component", .str item.component), ("line", lineValue item.line),
     ("context", .str item.context.name), ("props", textsValue item.props),
     ("propsAnalysis", item.summary.toValue), ("count", .int item.count),
     ("occurrences", .list (item.occurrences.map Occurrence.toValue))]

end Rendering

namespace Findings

/-- The document of a variable bound to a reference. -/
def assignmentValue (item : String × Assignment) : Value :=
  .object
    [("variable", .str item.1), ("assignment", .str item.2.reference),
     ("line", lineValue item.2.line)]

/-- The document of a property taken out of a namespace. -/
def destructuringValue (item : Destructuring) : Value :=
  .object
    ([("property", .str item.property), ("source", .str item.source),
      ("line", lineValue item.line)] ++ optionalMember "local" item.localName)

/-- The document of a conditional expression. -/
def choiceValue (item : Choice) : Value :=
  .object
    [("consequent", .str item.consequent), ("alternate", .str item.alternate),
     ("line", lineValue item.line)]

/-- The document of an array. -/
def arrayValue (item : ArrayMapping) : Value :=
  .object [("components", textsValue item.components), ("line", lineValue item.line)]

/-- The document of an object's key. -/
def mappedValue (item : MappingEntry) : Value :=
  .object [("key", .str item.key), ("component", .str item.component)]

/-- The document of an object. -/
def objectValue (item : ObjectMapping) : Value :=
  .object
    ([("mappings", .list (item.entries.map mappedValue)), ("line", lineValue item.line)] ++
      optionalMember "variable" item.holder)

/-- The document of a look-up by a computed key. -/
def lookupValue (item : MappingLookup) : Value :=
  .object [("mapping", .str item.mapping), ("key", .str item.key), ("line", lineValue item.line)]

/-- The document of values taken out of a context. -/
def contextValue (item : ContextRead) : Value :=
  .object
    [("context", .str item.context), ("properties", textsValue item.properties),
     ("line", lineValue item.line)]

/-- The document of a module loaded when it is needed. -/
def sourceValue (item : SourceImport) : Value :=
  .object [("source", .str item.source), ("line", lineValue item.line)]

/-- The document of a call that takes a component. -/
def wrappingValue (item : Wrapping) : Value :=
  .object
    [("function", .str item.function), ("component", .str item.component),
     ("line", lineValue item.line)]

/-- The document of a memoized component. -/
def memoValue (item : Memo) : Value :=
  .object [("component", .str item.component), ("line", lineValue item.line)]

/-- The document of a place. -/
def placeValue (line : Nat) : Value :=
  .object [("line", lineValue line)]

/-- The document of the attributes of a component. -/
def propsValue (item : String × PropsSummary) : Value :=
  .object [("component", .str item.1), ("analysis", item.2.toValue)]

/-- The buckets of imports. -/
def importBuckets (f : Findings) : List (String × List Value) :=
  [("default", f.defaultImports.map ImportRecord.toValue),
   ("named", f.namedImports.map ImportRecord.toValue),
   ("namespace", f.namespaceImports.map ImportRecord.toValue),
   ("aliased", f.aliasedImports.values.map AliasedImport.toValue)]

/-- The buckets of usage. -/
def usageBuckets (f : Findings) : List (String × List Value) :=
  [("jsx", f.renderings.values.map Rendering.toValue),
   ("variables", f.assignments.map assignmentValue),
   ("destructuring", f.destructurings.map destructuringValue),
   ("conditional", f.choices.map choiceValue),
   ("arrays", f.arrays.map arrayValue),
   ("objects", f.objects.map objectValue),
   ("dynamicMappings", f.lookups.map lookupValue),
   ("context", f.contexts.map contextValue)]

/-- The buckets of advanced usage. -/
def advancedBuckets (f : Findings) : List (String × List Value) :=
  [("lazy", f.lazyImports.map sourceValue),
   ("dynamic", f.dynamicImports.map sourceValue),
   ("hoc", f.wrappings.map wrappingValue),
   ("memo", f.memos.map memoValue),
   ("forwardRef", f.forwardedRefs.map placeValue),
   ("portal", f.portals.map placeValue)]

/-- A group of buckets as an object. -/
def groupValue (buckets : List (String × List Value)) : Value :=
  .object (buckets.map fun bucket => (bucket.1, .list bucket.2))

/-- The document of all findings. -/
def toValue (f : Findings) : Value :=
  .object
    [("imports", groupValue f.importBuckets), ("usage", groupValue f.usageBuckets),
     ("advanced", groupValue f.advancedBuckets), ("props", .list (f.props.map propsValue))]

end Findings

namespace Census

/-- The report of a census. -/
def report (census : Census) : Report where
  summary :=
    { imports := census.findings.defaultImports.length + census.findings.namedImports.length +
        census.findings.namespaceImports.length
      components := census.components.length
      usagePatterns := census.findings.total }
  patterns := census.findings.toValue
  components := (sortedNames census.components).map .str

end Census

end ComponentCensus.Usage
