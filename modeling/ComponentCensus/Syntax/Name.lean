import ComponentCensus.Syntax.Unwrap

/-!
# Names, texts and calls in a syntax tree

These readings look through wrappers first: the name of an identifier, the value of a string
literal, the dotted path of a member chain, and the callee and arguments of a call.
-/

namespace ComponentCensus.Syntax.Node

/-- The name of a bare identifier. -/
def identifierName? (node : Node) : Option String :=
  match node.unwrap with
  | some inner => if inner.kind = .identifier then some inner.text else none
  | none => none

/-- A text without its first and its last character. -/
def betweenQuotes (s : String) : String :=
  String.ofList ((s.toList.drop 1).dropLast)

/-- The value of a string literal, or of a template without substitutions. -/
def stringValue? (node : Node) : Option String :=
  match node.unwrap with
  | none => none
  | some inner =>
    match inner.kind with
    | .stringLiteral => some (betweenQuotes inner.text)
    | .templateString =>
      if inner.namedChildren.any (·.kind = .templateSubstitution) then none
      else some (betweenQuotes inner.text)
    | _ => none

/-- The object and the property of a member chain: by their fields, or else the only two contents,
each with its place among the children. -/
def memberParts? (children : List Node) : Option (Nat × Node) :=
  let byField (field : Field) := fun child : Node => decide (field ∈ child.label.fields)
  match children.findIdx? (byField .object), children.find? (byField .property) with
  | some place, some property => some (place, property)
  | _, _ =>
    match children.filter isContent, children.findIdx? isContent with
    | [_, property], some place => some (place, property)
    | _, _ => none

mutual

/-- The dotted path of an identifier or a member chain; nothing when a link is computed, private or
no name. -/
def dottedName? : Node → Option String
  | ⟨label, children⟩ =>
    if label.kind.isWrapper then
      match wrappedPlace? label.kind children with
      | some place => dottedNameAt? children place
      | none => none
    else if label.kind.isName then
      some label.text
    else if label.kind.isMember then
      match memberParts? children with
      | none => none
      | some (place, property) =>
        match dottedNameAt? children place with
        | none => none
        | some head =>
          if property.kind = .privatePropertyIdentifier then none
          else some (head ++ "." ++ property.text)
    else
      none

/-- The dotted path of the child at a place. -/
def dottedNameAt? : List Node → Nat → Option String
  | [], _ => none
  | child :: _, 0 => child.dottedName?
  | _ :: rest, place + 1 => dottedNameAt? rest place

end

theorem dottedNameAt?_eq (children : List Node) (place : Nat) :
    dottedNameAt? children place = children[place]?.bind dottedName? := by
  induction children generalizing place with
  | nil => simp [dottedNameAt?]
  | cons child rest ih =>
    cases place with
    | zero => simp [dottedNameAt?]
    | succ place => simp [dottedNameAt?, ih]

/-- The last name of the callee of a call: the identifier, or the property of a member chain. -/
def calleeName? (call : Node) : Option String :=
  match call.field? .function with
  | none => none
  | some callee =>
    match callee.kind with
    | .identifier => some callee.text
    | .memberExpression => (callee.child? .property).map text
    | _ => none

/-- The arguments of a call, each looked at through wrappers; an empty wrapper stands for
itself. -/
def arguments (call : Node) : List Node :=
  match call.child? .arguments with
  | some list =>
    if list.kind = .arguments then list.contents.map fun argument => argument.unwrap.getD argument
    else []
  | none => []

/-- Whether a node is a call of the `import` keyword. -/
def isImportCall (node : Node) : Bool :=
  match node.unwrap with
  | some inner =>
    inner.kind = .callExpression && (inner.child? .function).any (·.kind = .importKeyword)
  | none => false

end ComponentCensus.Syntax.Node
