import ComponentCensus.Syntax.Name
import ComponentCensus.Text.Split
import ComponentCensus.Usage.Import

/-!
# References to components

An expression refers to components when it is a name, a member chain, or a conditional expression
between references.  `assignmentText?` writes such a reference down, with a bar between the
branches of a conditional, and `isKnown` tells whether it refers to something known.
-/

namespace ComponentCensus.Usage

open ComponentCensus.Syntax ComponentCensus.Text

/-- The place of the child that fills a field. -/
def fieldPlace? (field : Field) (children : List Node) : Option Nat :=
  children.findIdx? fun child => decide (field ∈ child.label.fields)

/-- The text of a node looked at through wrappers; an empty wrapper has none. -/
def innerText (node : Node) : String :=
  match node.unwrap with
  | some inner => inner.text
  | none => ""

mutual

/-- A component reference as text. -/
def assignmentText? : Node → Option String
  | ⟨label, children⟩ =>
    if label.kind.isWrapper then
      match Node.wrappedPlace? label.kind children with
      | some place => assignmentTextAt? children place
      | none => none
    else
      match label.kind with
      | .identifier => some label.text
      | .memberExpression => (Node.mk label children).dottedName?
      | .ternaryExpression =>
        some (branchText children (fieldPlace? .consequence children) ++ " | " ++
          branchText children (fieldPlace? .alternative children))
      | _ => none

/-- The reference that the child at a place is. -/
def assignmentTextAt? : List Node → Nat → Option String
  | [], _ => none
  | child :: _, 0 => assignmentText? child
  | _ :: rest, place + 1 => assignmentTextAt? rest place

/-- The text of a branch of a conditional: the reference, or else what stands there. -/
def branchText (children : List Node) : Option Nat → String
  | none => ""
  | some place =>
    match assignmentTextAt? children place with
    | some reference => reference
    | none => (children[place]?.map innerText).getD ""

end

mutual

/-- Whether an expression refers to a known component or namespace. -/
def isKnownReference (census : Census) : Node → Bool
  | ⟨label, children⟩ =>
    if label.kind.isWrapper then
      match Node.wrappedPlace? label.kind children with
      | some place => isKnownReferenceAt census children place
      | none => false
    else
      match label.kind with
      | .identifier => census.knows label.text
      | .memberExpression =>
        match (Node.mk label children).dottedName? with
        | some dotted => census.hasComponent dotted || census.knows (beforeFirst '.' dotted)
        | none => false
      | .ternaryExpression =>
        isKnownBranch census children (fieldPlace? .consequence children) ||
          isKnownBranch census children (fieldPlace? .alternative children)
      | _ => false

/-- Whether the child at a place refers to something known. -/
def isKnownReferenceAt (census : Census) : List Node → Nat → Bool
  | [], _ => false
  | child :: _, 0 => isKnownReference census child
  | _ :: rest, place + 1 => isKnownReferenceAt census rest place

/-- Whether a branch of a conditional refers to something known. -/
def isKnownBranch (census : Census) (children : List Node) : Option Nat → Bool
  | none => false
  | some place => isKnownReferenceAt census children place

end

/-- The target of a pattern: with a default value, what stands to its left. -/
def patternTarget? (value : Node) : Option Node :=
  if value.kind = .assignmentPattern then value.child? .left else some value

/-- The property and the local name that one part of an object pattern binds. -/
def bindingOf? (part : Node) : Option (String × String) :=
  match part.kind with
  | .shorthandPropertyIdentifierPattern => some (part.text, part.text)
  | .objectAssignmentPattern =>
    match part.child? .left with
    | some left =>
      if left.kind = .shorthandPropertyIdentifierPattern then some (left.text, left.text) else none
    | none => none
  | .pairPattern =>
    match part.child? .key with
    | none => none
    | some key =>
      if key.kind = .computedPropertyName then none
      else
        match (part.child? .value).bind patternTarget? |>.bind Node.identifierName? with
        | some localName => some (nameOf key, localName)
        | none => none
  | _ => none

/-- The pairs of property and local name that an object pattern binds. -/
def patternBindings (pattern : Node) : List (String × String) :=
  pattern.contents.filterMap bindingOf?

end ComponentCensus.Usage
