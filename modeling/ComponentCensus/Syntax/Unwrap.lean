import ComponentCensus.Syntax.Node

/-!
# Looking through wrappers

Parentheses and type annotations around an expression do not change which value it refers to.
`unwrap` goes down to the expression itself: through the first content of a wrapper, or through the
last one of a type assertion, where the type comes first.  A wrapper without content has nothing
inside.
-/

namespace ComponentCensus.Syntax.Node

/-- The place of the last content among children. -/
def lastContentPlace? : List Node → Option Nat
  | [] => none
  | child :: rest =>
    match lastContentPlace? rest with
    | some place => some (place + 1)
    | none => if child.isContent then some 0 else none

/-- The place of the wrapped expression among the children of a wrapper. -/
def wrappedPlace? (kind : Kind) (children : List Node) : Option Nat :=
  if kind = .typeAssertion then lastContentPlace? children else children.findIdx? isContent

mutual

/-- The expression inside the wrappers around it. -/
def unwrap : Node → Option Node
  | ⟨label, children⟩ =>
    if label.kind.isWrapper then
      match wrappedPlace? label.kind children with
      | some place => unwrapAt children place
      | none => none
    else
      some ⟨label, children⟩

/-- The expression inside the child at a place. -/
def unwrapAt : List Node → Nat → Option Node
  | [], _ => none
  | child :: _, 0 => child.unwrap
  | _ :: rest, place + 1 => unwrapAt rest place

end

theorem unwrapAt_eq (children : List Node) (place : Nat) :
    unwrapAt children place = children[place]?.bind unwrap := by
  induction children generalizing place with
  | nil => simp [unwrapAt]
  | cons child rest ih =>
    cases place with
    | zero => simp [unwrapAt]
    | succ place => simp [unwrapAt, ih]

/-- A node that is no wrapper stands for itself. -/
theorem unwrap_of_not_isWrapper {node : Node} (h : node.kind.isWrapper = false) :
    node.unwrap = some node := by
  obtain ⟨label, children⟩ := node
  have hkind : label.kind.isWrapper = false := h
  simp [unwrap, hkind]

/-- The expression that fills a field, looked at through wrappers. -/
def field? (node : Node) (field : Field) : Option Node :=
  (node.child? field).bind unwrap

/-- The expression inside an optional node. -/
def unwrap? (node : Option Node) : Option Node :=
  node.bind unwrap

end ComponentCensus.Syntax.Node
