import ComponentCensus.Syntax.Site
import ComponentCensus.Text.Blank
import ComponentCensus.Text.Split
import ComponentCensus.Usage.Census

/-!
# Rendered elements

An element renders a component when its name, or the part before the first dot, is known.  All
renderings of one name are kept together: the first one fixes line and context, and each later one
adds its place and its attributes.
-/

namespace ComponentCensus.Usage

open ComponentCensus.Syntax ComponentCensus.Text

/-- The name of an opening or self-closing element. -/
def elementName? (opening : Node) : Option String :=
  match opening.child? .name with
  | none => none
  | some name =>
    if name.kind.isMember then name.dottedName?
    else
      let text := withoutBlanks name.text
      if text = "" then none else some text

/-- Whether a rendered name refers to a component. -/
def Census.renders (census : Census) (name : String) : Bool :=
  census.hasComponent name || (hasChar '.' name && census.knows (beforeFirst '.' name))

/-- The context that a node gives to an element inside it. -/
def contextIn : Kind → Context
  | .ternaryExpression => .conditional
  | .arrayLiteral => .array
  | .objectLiteral | .pair => .object
  | .arguments | .callExpression => .hoc
  | .variableDeclarator => .initializer
  | .jsxElement | .jsxFragment | .jsxExpression | .jsxAttribute => .jsx
  | _ => .other

/-- The site of the whole element of an opening tag. -/
def wholeElement (opening : Site) : Site :=
  match opening.node.kind, opening.above with
  | .jsxOpeningElement, element :: above => ⟨element, above⟩
  | _, _ => opening

/-- Where an element stands. -/
def elementContext (opening : Site) : Context :=
  match (wholeElement opening).container? with
  | some container => contextIn container.kind
  | none => .other

/-- The sort of an expression in braces. -/
def expressionType : Kind → String
  | .numberLiteral => "number"
  | .trueLiteral | .falseLiteral => "boolean"
  | .stringLiteral | .templateString => "string"
  | .arrowFunction | .functionExpression | .functionKeyword => "function"
  | .objectLiteral => "object"
  | .arrayLiteral => "array"
  | .identifier => "variable"
  | _ => "expression"

/-- The sort of value of an attribute; an attribute without a value is a truth value. -/
def propType : Option Node → String
  | none => "boolean"
  | some value =>
    match value.kind with
    | .stringLiteral => "string"
    | .jsxExpression =>
      match value.firstContent?.bind Node.unwrap with
      | some inner => expressionType inner.kind
      | none => "expression"
    | _ => "expression"

/-- Whether an expression in braces is a collection, a call or a conditional. -/
def isComplexKind : Kind → Bool
  | .objectLiteral | .arrayLiteral | .callExpression | .ternaryExpression => true
  | _ => false

/-- Whether the value of an attribute is complex. -/
def isComplexValue : Option Node → Bool
  | none => false
  | some value =>
    value.kind = .jsxExpression &&
      (value.firstContent?.bind Node.unwrap).any fun inner => isComplexKind inner.kind

/-- Adds one attribute of an element to a summary. -/
def addAttribute (summary : PropsSummary) (prop : Node) : PropsSummary :=
  match prop.kind with
  | .jsxExpression =>
    if prop.firstContent?.any (·.kind = .spreadElement) then summary.addSpread else summary
  | .jsxAttribute =>
    match prop.contents with
    | [] => summary
    | name :: rest =>
      summary.addProp
        { name := name.text
          type := propType rest.head?
          isEventHandler := startsWith name.text "on"
          isComplex := isComplexValue rest.head? }
  | _ => summary

/-- The attributes of an opening or self-closing element. -/
def propsOf (opening : Node) : PropsSummary :=
  let isName (prop : Node) :=
    (opening.child? .name).any fun name => prop.number = name.number
  (opening.contents.filter fun prop => !isName prop).foldl addAttribute {}

/-- The renderings of a name after one more: the first one fixes line and context. -/
def nextRendering (name : String) (occurrence : Occurrence) (summary : PropsSummary) :
    Option Rendering → Rendering
  | none => ⟨name, occurrence.line, occurrence.context, summary.namedProps, summary, 1, [occurrence]⟩
  | some earlier =>
    { earlier with
      summary := earlier.summary.merge summary
      props := summary.namedProps.foldl addName earlier.props
      count := earlier.count + 1
      occurrences := earlier.occurrences ++ [occurrence] }

namespace Census

/-- Notes one rendering of a name. -/
def addRendering (census : Census) (name : String) (occurrence : Occurrence)
    (summary : PropsSummary) : Census :=
  census.record fun f =>
    let rendering := nextRendering name occurrence summary (f.renderings.get? name)
    { f with
      renderings := f.renderings.put name rendering
      props := f.props.put name rendering.summary }

/-- Makes the member of a rendered namespace a component. -/
def promoteMember (census : Census) (name : String) : Census :=
  let member := afterFirst '.' name
  if hasChar '.' name && census.hasNamespace (beforeFirst '.' name) && !hasChar '.' member then
    census.addComponent member
  else
    census

/-- Notes an element that renders a component. -/
def noteElement (census : Census) (opening : Site) : Census :=
  match elementName? opening.node with
  | none => census
  | some name =>
    if census.renders name then
      (census.addRendering name ⟨opening.node.line, elementContext opening⟩
        (propsOf opening.node)).promoteMember name
    else
      census

end Census

end ComponentCensus.Usage
