import ComponentCensus.Syntax.Node

/-!
# Syntax errors in a tree

A tree has an error when it is marked as broken or holds an error node or a missing node.  The line
of the first error is found by a search in document order that leaves out the parts without an
error.
-/

namespace ComponentCensus.Syntax.Node

/-- Whether a node itself is an error or missing. -/
def isError (node : Node) : Bool :=
  node.kind = .error || node.label.missing

mutual

/-- Whether a tree has an error. -/
def hasError : Node → Bool
  | ⟨label, children⟩ =>
    label.broken || label.kind = .error || label.missing || anyHasError children

/-- Whether one of several trees has an error. -/
def anyHasError : List Node → Bool
  | [] => false
  | node :: rest => node.hasError || anyHasError rest

end

theorem sizeAll_children_lt (node : Node) : sizeAll node.children < node.size := by
  cases node
  simp [size]

/-- The line of the first error in the trees that are left.  A tree that is no error itself makes
room for its children if it is suspect, and is left out otherwise. -/
def searchError? (suspect : Node → Bool) (pending : List Node) : Option Nat :=
  match pending with
  | [] => none
  | node :: rest =>
    if node.isError then some node.line
    else if suspect node then searchError? suspect (node.children ++ rest)
    else searchError? suspect rest
termination_by sizeAll pending
decreasing_by
  · have hlt := sizeAll_children_lt node
    rw [sizeAll_append]
    simp only [sizeAll]
    omega
  · have hpos := size_pos node
    simp only [sizeAll]
    omega

/-- The line of the first error of a tree in document order. -/
def firstErrorLine? (root : Node) : Option Nat :=
  searchError? hasError [root]

end ComponentCensus.Syntax.Node
