import ComponentCensus.Syntax.Site
import ComponentCensus.Usage.Import

/-!
# Collections and choices

Arrays and objects that hold components are mappings when a variable holds them.  A component may be
taken from a mapping by a computed key, or chosen by a conditional expression.
-/

namespace ComponentCensus.Usage

open ComponentCensus.Syntax

/-- The variable that a collection initializes, if any. -/
def mappingVariable? (site : Site) : Option String :=
  match site.container? with
  | some container =>
    if container.kind = .variableDeclarator then
      match container.field? .value with
      | some value =>
        if value.number = site.node.number then
          (container.child? .name).bind Node.identifierName?
        else
          none
      | none => none
    else
      none
  | none => none

/-- The text of the key of an object's property. -/
def propertyKey : Option Node → String
  | none => "[computed]"
  | some key => if key.kind = .computedPropertyName then "[computed]" else nameOf key

/-- The component that one property of an object leads to. -/
def mappedComponent? (census : Census) (property : Node) : Option MappingEntry :=
  match property.kind with
  | .pair =>
    match (property.child? .value).bind Node.identifierName? with
    | some component =>
      if census.hasComponent component then some ⟨propertyKey (property.child? .key), component⟩
      else none
    | none => none
  | .shorthandPropertyIdentifier =>
    if census.hasComponent property.text then some ⟨property.text, property.text⟩ else none
  | _ => none

namespace Census

/-- Notes an array with at least one component. -/
def noteArray (census : Census) (site : Site) : Census :=
  let names := site.node.contents.filterMap Node.identifierName?
  if names.any census.hasComponent then
    (census.record fun f => { f with arrays := f.arrays ++ [⟨names, site.node.line⟩] }).addMapping
      (mappingVariable? site)
  else
    census

/-- Notes an object with at least one component. -/
def noteObject (census : Census) (site : Site) : Census :=
  match site.node.contents.filterMap (mappedComponent? census) with
  | [] => census
  | entries =>
    let holder := mappingVariable? site
    (census.record fun f =>
      { f with objects := f.objects ++ [⟨entries, site.node.line, holder⟩] }).addMapping holder

/-- Notes a component that a computed key takes from a mapping. -/
def noteSubscript (census : Census) (subscript : Node) : Census :=
  match (subscript.child? .object).bind Node.identifierName?, subscript.field? .index with
  | some mapping, some index =>
    if census.hasMapping mapping && index.kind ≠ .stringLiteral && index.kind ≠ .numberLiteral &&
        index.stringValue?.isNone then
      census.record fun f =>
        { f with lookups := f.lookups ++ [⟨mapping, index.text, subscript.line⟩] }
    else
      census
  | _, _ => census

/-- Notes a conditional expression with a component in one of its branches. -/
def noteChoice (census : Census) (choice : Node) : Census :=
  let consequent := (choice.child? .consequence).bind Node.identifierName?
  let alternate := (choice.child? .alternative).bind Node.identifierName?
  if consequent.any census.hasComponent || alternate.any census.hasComponent then
    census.record fun f =>
      { f with choices := f.choices ++ [⟨consequent.getD "", alternate.getD "", choice.line⟩] }
  else
    census

end Census

end ComponentCensus.Usage
