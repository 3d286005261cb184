import ComponentCensus.Syntax.Kind

/-!
# Syntax trees

A node has a label and children in source order.  The label holds what the grammar says about the
node: its kind, the line it starts on, its text, the fields it fills for its parent, and marks for
anonymous, missing and broken nodes.  The number of a node is its place in document order and tells
it apart from every other node of the tree.
-/

namespace ComponentCensus.Syntax

/-- What a syntax tree says about one node. -/
structure Label where
  /-- The place of the node in document order. -/
  number : Nat
  kind : Kind
  /-- The line on which the node starts, counted from one. -/
  line : Nat
  text : String
  fields : List Field
  /-- Whether the node is named in the grammar, as opposed to punctuation and keywords. -/
  named : Bool
  /-- Whether the node was inserted to repair the source. -/
  missing : Bool
  /-- Whether the tree is marked as holding an error. -/
  broken : Bool
deriving Repr, DecidableEq, Inhabited

/-- A syntax tree. -/
inductive Node where
  | mk (label : Label) (children : List Node)
deriving Inhabited

namespace Node

/-- The label of a node. -/
def label : Node → Label
  | ⟨label, _⟩ => label

/-- The children of a node in source order, named or not. -/
def children : Node → List Node
  | ⟨_, children⟩ => children

@[simp] theorem label_mk (label : Label) (children : List Node) :
    (Node.mk label children).label = label := rfl

@[simp] theorem children_mk (label : Label) (children : List Node) :
    (Node.mk label children).children = children := rfl

/-- The kind of a node. -/
def kind (node : Node) : Kind := node.label.kind

/-- The text of a node. -/
def text (node : Node) : String := node.label.text

/-- The line on which a node starts. -/
def line (node : Node) : Nat := node.label.line

/-- The place of a node in document order. -/
def number (node : Node) : Nat := node.label.number

/-- The named children of a node. -/
def namedChildren (node : Node) : List Node :=
  node.children.filter (·.label.named)

/-- Whether a node is part of the content of its parent: named, and no comment. -/
def isContent (node : Node) : Bool :=
  node.label.named && node.kind ≠ .comment

/-- The named children of a node without comments. -/
def contents (node : Node) : List Node :=
  node.children.filter isContent

/-- The first content of a node. -/
def firstContent? (node : Node) : Option Node :=
  node.children.find? isContent

/-- The first child that fills a field, as it stands. -/
def child? (node : Node) (field : Field) : Option Node :=
  node.children.find? fun child => field ∈ child.label.fields

mutual

/-- The number of nodes of a tree. -/
def size : Node → Nat
  | ⟨_, children⟩ => sizeAll children + 1

/-- The number of nodes of several trees. -/
def sizeAll : List Node → Nat
  | [] => 0
  | node :: rest => node.size + sizeAll rest

end

theorem size_pos (node : Node) : 0 < node.size := by
  cases node
  simp [size]

theorem sizeAll_append (xs ys : List Node) : sizeAll (xs ++ ys) = sizeAll xs + sizeAll ys := by
  induction xs with
  | nil => simp [sizeAll]
  | cons x xs ih => simp [sizeAll, ih, Nat.add_assoc]

theorem sizeAll_filter_le (keep : Node → Bool) (xs : List Node) :
    sizeAll (xs.filter keep) ≤ sizeAll xs := by
  induction xs with
  | nil => simp
  | cons x xs ih =>
    rw [List.filter_cons]
    split
    · simp [sizeAll, ih]
    · simp only [sizeAll]
      omega

end Node

end ComponentCensus.Syntax
