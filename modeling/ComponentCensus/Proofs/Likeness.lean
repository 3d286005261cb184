import ComponentCensus.Proofs.Traversal
import Mathlib.Data.List.Forall2
import Mathlib.Tactic.Common

/-!
# Trees that say the same

A wrapper around an operand and a comment between two children change a syntax tree, but not what
it says.  `Alike` relates two trees that differ in such ways only.  `Shown` relates the children of
alike nodes: the one is like the other, or it is an operand and the other a wrapper around its
like.  `Matched` relates whole lists of children, with comments left out on either side.

Nodes are told apart by their numbers, and a tree with a wrapper more is numbered differently.  The
relations are therefore stated over a relation `same` between the numbers of the two trees.

## Main results

* `Matched.contents`, `Matched.field` : alike nodes have the same contents and fields, up to
  wrappers.
* `LooksThrough.eq_of_sameInside` : a reading that looks through wrappers finds the same in both
  trees.

## Strategy

* What alike nodes have in common is read off the relations by recursion on them: fields, contents,
  and what stands inside the wrappers.
* A reading that looks through wrappers needs no more than `SameInside`: without their wrappers the
  nodes are alike.  The induction behind all such readings is carried out once, over the first
  tree; the second may have any number of wrappers where the first has none.
* Renumbering a tree leaves a tree that is alike (`alike_renumbered`).
-/

namespace ComponentCensus.Usage

open ComponentCensus.Syntax

/-! ## Operands, wrappers and comments -/

/-- Whether nodes of a kind may be put into a wrapper.  All kinds of expressions may; comments, the
opening halves of elements and private names are no expressions. -/
def isOperandKind : Kind → Bool
  | .comment | .jsxOpeningElement | .privatePropertyIdentifier => false
  | _ => true

/-- Whether a child stands where its parent expects an expression: the value of a declarator or a
pair, an element of an array, an argument, the callee of a call (the keyword `import` is none), a
branch of a conditional, the object of a member chain, which fills the field or none at all, the
object or the index of a subscript, the body of a function, or the content of braces in an element
that is no spread.  Parents of a kind that is known by name only may have any child wrapped. -/
def StandsAsOperand (parent : Kind) (child : Node) : Prop :=
  match parent with
  | .variableDeclarator | .pair => child.label.fields = [.value]
  | .arrayLiteral | .arguments => True
  | .callExpression => child.label.fields = [.function] ∧ child.kind ≠ .importKeyword
  | .ternaryExpression => child.label.fields = [.consequence] ∨ child.label.fields = [.alternative]
  | .memberExpression | .nestedIdentifier =>
    child.label.fields = [.object] ∨ child.label.fields = []
  | .subscriptExpression => child.label.fields = [.object] ∨ child.label.fields = [.index]
  | .arrowFunction | .functionExpression | .functionKeyword => child.label.fields = [.body]
  | .jsxExpression => child.kind ≠ .spreadElement
  | .other _ => True
  | _ => False

/-- A named expression that stands as an operand of its parent. -/
structure Operand (parent : Kind) (child : Node) : Prop where
  named : child.label.named = true
  kind : isOperandKind child.kind = true
  stands : StandsAsOperand parent child

/-- The label of a wrapper around a node: a named node of the same extent that takes over the fields
of what it wraps. -/
structure WrapperLabel (wrapper : Label) (inner : Label) : Prop where
  kind : wrapper.kind.isWrapper = true
  named : wrapper.named = true
  text : wrapper.text = inner.text
  line : wrapper.line = inner.line
  fields : wrapper.fields = inner.fields

/-- A comment that fills no field and holds nothing. -/
structure IsRemark (node : Node) : Prop where
  kind : node.kind = .comment
  fields : node.label.fields = []
  children : node.children = []

/-! ## The relations -/

mutual

/-- Two nodes that say the same.  The fields they fill belong to their parents and are not
compared. -/
inductive Alike (same : Nat → Nat → Prop) : Node → Node → Prop
  | mk {label label' : Label} {children children' : List Node}
      (hkind : label'.kind = label.kind) (hline : label'.line = label.line)
      (htext : label'.text = label.text) (hnumber : same label.number label'.number)
      (hchildren : Matched same label.kind children children') :
      Alike same ⟨label, children⟩ ⟨label', children'⟩

/-- Two children of nodes of a kind that say the same to their parents. -/
inductive Shown (same : Nat → Nat → Prop) : Kind → Node → Node → Prop
  | plain {parent : Kind} {child child' : Node} (halike : Alike same child child')
      (hfields : child'.label.fields = child.label.fields)
      (hnamed : child'.label.named = child.label.named) : Shown same parent child child'
  | wrapped {parent : Kind} {child inner : Node} {label : Label} (hoperand : Operand parent child)
      (hlabel : WrapperLabel label child.label) (hnamed : inner.label.named = true)
      (halike : Alike same child inner) : Shown same parent child ⟨label, [inner]⟩

/-- The children of two nodes of a kind that say the same, up to comments. -/
inductive Matched (same : Nat → Nat → Prop) : Kind → List Node → List Node → Prop
  | nil {parent : Kind} : Matched same parent [] []
  | cons {parent : Kind} {child child' : Node} {rest rest' : List Node}
      (hchild : Shown same parent child child') (hrest : Matched same parent rest rest') :
      Matched same parent (child :: rest) (child' :: rest')
  | remarkLeft {parent : Kind} {remark : Node} {rest rest' : List Node} (hremark : IsRemark remark)
      (hrest : Matched same parent rest rest') : Matched same parent (remark :: rest) rest'
  | remarkRight {parent : Kind} {remark : Node} {rest rest' : List Node} (hremark : IsRemark remark)
      (hrest : Matched same parent rest rest') : Matched same parent rest (remark :: rest')

end

variable {same : Nat → Nat → Prop} {parent : Kind} {node node' child child' : Node}
  {children children' : List Node}

namespace Alike

theorem kind_eq (halike : Alike same node node') : node'.kind = node.kind := by
  cases halike with
  | mk hkind => exact hkind

theorem line_eq (halike : Alike same node node') : node'.line = node.line := by
  cases halike with
  | mk _ hline => exact hline

theorem text_eq (halike : Alike same node node') : node'.text = node.text := by
  cases halike with
  | mk _ _ htext => exact htext

theorem number_same (halike : Alike same node node') : same node.number node'.number := by
  cases halike with
  | mk _ _ _ hnumber => exact hnumber

theorem matched (halike : Alike same node node') :
    Matched same node.kind node.children node'.children := by
  cases halike with
  | mk _ _ _ _ hchildren => exact hchildren

end Alike

/-! ## What a child is to its parent -/

namespace Shown

theorem fields_eq (hshown : Shown same parent child child') :
    child'.label.fields = child.label.fields := by
  cases hshown with
  | plain _ hfields => exact hfields
  | wrapped _ hlabel => exact hlabel.fields

theorem named_eq (hshown : Shown same parent child child') :
    child'.label.named = child.label.named := by
  cases hshown with
  | plain _ _ hnamed => exact hnamed
  | wrapped hoperand hlabel => exact hlabel.named.trans hoperand.named.symm

theorem text_eq (hshown : Shown same parent child child') : child'.text = child.text := by
  cases hshown with
  | plain halike => exact halike.text_eq
  | wrapped _ hlabel => exact hlabel.text

/-- A kind that neither wrappers nor operands have is seen on both sides or on neither. -/
theorem kind_eq_iff (hshown : Shown same parent child child') (kind : Kind)
    (hwrapper : kind.isWrapper = false) (hoperand : Operand parent child → child.kind ≠ kind) :
    child'.kind = kind ↔ child.kind = kind := by
  cases hshown with
  | plain halike => rw [halike.kind_eq]
  | @wrapped _ _ _ label hoperand' hlabel =>
      constructor
      · intro hkind
        have hlabelKind : label.kind = kind := hkind
        rw [← hlabelKind, hlabel.kind] at hwrapper
        cases hwrapper
      · intro hkind
        exact absurd hkind (hoperand hoperand')

theorem isContent_eq (hshown : Shown same parent child child') :
    child'.isContent = child.isContent := by
  have hcomment : child'.kind = .comment ↔ child.kind = .comment := by
    refine hshown.kind_eq_iff .comment rfl fun hoperand hkind => ?_
    have hoperandKind := hoperand.kind
    rw [hkind] at hoperandKind
    cases hoperandKind
  unfold Node.isContent
  rw [hshown.named_eq]
  simp only [ne_eq, hcomment]

/-- A child that is no operand is shown as it is. -/
theorem alike (hshown : Shown same parent child child') (hoperand : ¬ Operand parent child) :
    Alike same child child' := by
  cases hshown with
  | plain halike => exact halike
  | wrapped hoperand' => exact absurd hoperand' hoperand

theorem isContent_inner {inner : Node} (hoperand : Operand parent child)
    (hnamed : inner.label.named = true) (halike : Alike same child inner) :
    inner.isContent = true := by
  have hkind := hoperand.kind
  unfold Node.isContent
  rw [halike.kind_eq, hnamed]
  cases hchild : child.kind <;> simp_all [isOperandKind]

end Shown

/-! ## Lists of children -/

theorem IsRemark.isContent_eq (hremark : IsRemark node) : node.isContent = false := by
  simp [Node.isContent, hremark.kind]

namespace Matched

/-- What is no comment is shown in order. -/
theorem contents : ∀ {children children' : List Node}, Matched same parent children children' →
    List.Forall₂ (Shown same parent) (children.filter Node.isContent)
      (children'.filter Node.isContent)
  | _, _, .nil => .nil
  | _, _, @Matched.cons _ _ child _ _ _ hchild hrest => by
      rw [List.filter_cons, List.filter_cons, hchild.isContent_eq]
      split
      · exact .cons hchild (contents hrest)
      · exact contents hrest
  | _, _, .remarkLeft hremark hrest => by
      rw [List.filter_cons_of_neg (by simp [hremark.isContent_eq])]
      exact contents hrest
  | _, _, .remarkRight hremark hrest => by
      rw [List.filter_cons_of_neg (by simp [hremark.isContent_eq])]
      exact contents hrest

/-- What fills a field is shown. -/
theorem field (field : Field) : ∀ {children children' : List Node},
    Matched same parent children children' →
      Option.Rel (Shown same parent)
        (children.find? fun child => decide (field ∈ child.label.fields))
        (children'.find? fun child => decide (field ∈ child.label.fields))
  | _, _, .nil => .none
  | _, _, @Matched.cons _ _ child _ _ _ hchild hrest => by
      rw [List.find?_cons, List.find?_cons, hchild.fields_eq]
      by_cases hfield : field ∈ child.label.fields
      · simpa [hfield] using Option.Rel.some hchild
      · simpa [hfield] using Matched.field field hrest
  | _, _, .remarkLeft hremark hrest => by
      rw [List.find?_cons_of_neg (by simp [hremark.fields])]
      exact Matched.field field hrest
  | _, _, .remarkRight hremark hrest => by
      rw [List.find?_cons_of_neg (by simp [hremark.fields])]
      exact Matched.field field hrest

/-- A kind of node that is neither a comment nor ever wrapped is found among the named children of
both or of neither. -/
theorem any_named_kind (kind : Kind) (hcomment : kind ≠ .comment)
    (hparent : ∀ child, ¬ Operand parent child) :
    ∀ {children children' : List Node}, Matched same parent children children' →
      (children'.filter (·.label.named)).any (·.kind = kind) =
        (children.filter (·.label.named)).any (·.kind = kind)
  | _, _, .nil => rfl
  | _, _, @Matched.cons _ _ child _ _ _ hchild hrest => by
      have hkind := (hchild.alike (hparent child)).kind_eq
      have hrest' := any_named_kind kind hcomment hparent hrest
      rw [List.filter_cons, List.filter_cons, hchild.named_eq]
      split
      · rw [List.any_cons, List.any_cons, hkind, hrest']
      · exact hrest'
  | _, _, .remarkLeft hremark hrest => by
      rw [any_named_kind kind hcomment hparent hrest, List.filter_cons]
      split
      · simp [hremark.kind, Ne.symm hcomment]
      · rfl
  | _, _, .remarkRight hremark hrest => by
      rw [← any_named_kind kind hcomment hparent hrest, List.filter_cons]
      split
      · simp [hremark.kind, Ne.symm hcomment]
      · rfl

end Matched

section Lists

variable {α β : Type} {r : α → β → Prop} {xs : List α} {ys : List β}

theorem rel_head? (hall : List.Forall₂ r xs ys) : Option.Rel r xs.head? ys.head? := by
  cases hall with
  | nil => exact .none
  | cons hhead _ => exact .some hhead

theorem rel_getLast? (hall : List.Forall₂ r xs ys) : Option.Rel r xs.getLast? ys.getLast? := by
  rw [List.getLast?_eq_head?_reverse, List.getLast?_eq_head?_reverse]
  exact rel_head? (List.rel_reverse hall)

/-- Two readings that agree on related values agree on related options. -/
theorem elim_eq_of_rel {γ : Type} {missing : γ} {read : α → γ} {read' : β → γ} {x : Option α}
    {y : Option β} (hrel : Option.Rel r x y)
    (hread : ∀ a b, x = some a → r a b → read' b = read a) :
    y.elim missing read' = x.elim missing read := by
  cases hrel with
  | none => rfl
  | some hpair => exact hread _ _ rfl hpair

theorem bind_eq_of_rel {γ : Type} {read : α → Option γ} {read' : β → Option γ} {x : Option α}
    {y : Option β} (hrel : Option.Rel r x y)
    (hread : ∀ a b, x = some a → r a b → read' b = read a) :
    y.bind read' = x.bind read := by
  cases hrel with
  | none => rfl
  | some hpair => exact hread _ _ rfl hpair

theorem rel_bind {γ δ : Type} {t : γ → δ → Prop} {read : α → Option γ} {read' : β → Option δ}
    {x : Option α} {y : Option β} (hrel : Option.Rel r x y)
    (hread : ∀ a b, x = some a → r a b → Option.Rel t (read a) (read' b)) :
    Option.Rel t (x.bind read) (y.bind read') := by
  cases hrel with
  | none => exact .none
  | some hpair => exact hread _ _ rfl hpair

/-- Folding over related lists gives the same when every step does. -/
theorem foldl_eq_of_forall₂ {σ : Type} {change : σ → α → σ} {change' : σ → β → σ}
    (hall : List.Forall₂ r xs ys) (hchange : ∀ state a b, r a b → change' state b = change state a)
    (state : σ) : ys.foldl change' state = xs.foldl change state := by
  induction hall generalizing state with
  | nil => rfl
  | cons hhead _ ih => rw [List.foldl_cons, List.foldl_cons, hchange state _ _ hhead, ih]

theorem filterMap_eq_of_forall₂ {γ : Type} {read : α → Option γ} {read' : β → Option γ}
    (hall : List.Forall₂ r xs ys) (hread : ∀ a b, r a b → read' b = read a) :
    ys.filterMap read' = xs.filterMap read := by
  induction hall with
  | nil => rfl
  | cons hhead _ ih => rw [List.filterMap_cons, List.filterMap_cons, hread _ _ hhead, ih]

end Lists

namespace Alike

theorem contents (halike : Alike same node node') :
    List.Forall₂ (Shown same node.kind) node.contents node'.contents :=
  halike.matched.contents

theorem child? (halike : Alike same node node') (field : Field) :
    Option.Rel (Shown same node.kind) (node.child? field) (node'.child? field) :=
  halike.matched.field field

theorem firstContent? (halike : Alike same node node') :
    Option.Rel (Shown same node.kind) node.firstContent? node'.firstContent? := by
  unfold Node.firstContent?
  rw [← List.head?_filter, ← List.head?_filter]
  exact rel_head? halike.contents

end Alike

/-! ## Looking through wrappers -/

/-- The content of a wrapper that is the wrapped expression. -/
def wrappedContent? (node : Node) : Option Node :=
  if node.kind = .typeAssertion then node.contents.getLast? else node.contents.head?

theorem lastContentPlace?_eq_none_iff (children : List Node) :
    Node.lastContentPlace? children = none ↔ children.filter Node.isContent = [] := by
  induction children with
  | nil => simp [Node.lastContentPlace?]
  | cons child rest ih =>
      rw [Node.lastContentPlace?]
      -- a later content hides the first child, whatever it is
      cases hplace : Node.lastContentPlace? rest with
      | some place =>
          have hrest : rest.filter Node.isContent ≠ [] := by simp [← ih, hplace]
          by_cases hchild : child.isContent = true
          · simp [hchild]
          · simp [List.filter_cons_of_neg hchild, hrest]
      | none =>
          have hrest := ih.mp hplace
          by_cases hchild : child.isContent = true
          · simp [hchild]
          · simp [List.filter_cons_of_neg hchild, hchild, hrest]

theorem getElem?_lastContentPlace? (children : List Node) :
    ((Node.lastContentPlace? children).bind fun place => children[place]?) =
      (children.filter Node.isContent).getLast? := by
  induction children with
  | nil => rfl
  | cons child rest ih =>
      have hnone := lastContentPlace?_eq_none_iff rest
      rw [Node.lastContentPlace?]
      cases hplace : Node.lastContentPlace? rest with
      | some place =>
          -- the last content of the rest is the last of all
          obtain ⟨content, more, hrest⟩ : ∃ content more,
              rest.filter Node.isContent = content :: more := by
            rw [← List.ne_nil_iff_exists_cons, ne_eq, ← hnone, hplace]
            simp
          rw [hplace, hrest] at ih
          by_cases hchild : child.isContent = true
          · rw [List.filter_cons_of_pos hchild, hrest, List.getLast?_cons_cons]
            exact ih
          · rw [List.filter_cons_of_neg hchild, hrest]
            exact ih
      | none =>
          by_cases hchild : child.isContent = true
          · simp [List.filter_cons_of_pos hchild, hnone.mp hplace, hchild]
          · simp [List.filter_cons_of_neg hchild, hnone.mp hplace, hchild]

/-- A wrapper has its content at the place where it is looked for. -/
theorem getElem?_wrappedPlace? (label : Label) (children : List Node) :
    ((Node.wrappedPlace? label.kind children).bind fun place => children[place]?) =
      wrappedContent? ⟨label, children⟩ := by
  unfold Node.wrappedPlace? wrappedContent? Node.contents
  show _ = if label.kind = .typeAssertion then _ else _
  split
  · exact getElem?_lastContentPlace? children
  · rw [← List.find?_eq_bind_findIdx?_getElem?, List.head?_filter]
    rfl

theorem unwrap_eq (node : Node) :
    node.unwrap =
      if node.kind.isWrapper then (wrappedContent? node).bind Node.unwrap else some node := by
  obtain ⟨label, children⟩ := node
  rw [Node.unwrap, ← getElem?_wrappedPlace?]
  show (if label.kind.isWrapper then _ else _) = if label.kind.isWrapper then _ else _
  split
  · cases Node.wrappedPlace? label.kind children with
    | none => rfl
    | some place => exact Node.unwrapAt_eq children place
  · rfl

/-- A wrapper around one content holds that content. -/
theorem wrappedContent?_single (label : Label) {inner : Node} (hcontent : inner.isContent = true) :
    wrappedContent? ⟨label, [inner]⟩ = some inner := by
  have hcontents : (Node.mk label [inner]).contents = [inner] := by
    simp [Node.contents, hcontent]
  unfold wrappedContent?
  rw [hcontents]
  split <;> rfl

/-- Wrappers have no operands. -/
theorem not_operand_of_isWrapper (hparent : parent.isWrapper = true) : ¬ Operand parent child := by
  rintro ⟨_, _, hstands⟩
  cases parent <;> simp_all [StandsAsOperand, Kind.isWrapper]

/-- The contents of alike wrappers are alike. -/
theorem Alike.rel_wrappedContent? (halike : Alike same node node')
    (hwrapper : node.kind.isWrapper = true) :
    Option.Rel (Alike same) (wrappedContent? node) (wrappedContent? node') := by
  have hcontents : List.Forall₂ (Alike same) node.contents node'.contents :=
    halike.contents.imp fun _ _ hshown => hshown.alike (not_operand_of_isWrapper hwrapper)
  unfold wrappedContent?
  rw [halike.kind_eq]
  split
  · exact rel_getLast? hcontents
  · exact rel_head? hcontents

theorem mem_contents_of_wrappedContent? (hcontent : wrappedContent? node = some child) :
    child ∈ node.contents := by
  unfold wrappedContent? at hcontent
  split at hcontent
  · exact List.mem_of_getLast? hcontent
  · exact List.mem_of_head? hcontent

theorem mem_children_of_wrappedContent? (hcontent : wrappedContent? node = some child) :
    child ∈ node.children :=
  (List.mem_filter.mp (mem_contents_of_wrappedContent? hcontent)).1

/-- What stands inside the wrappers of two nodes is alike, or nothing stands inside both. -/
def SameInside (same : Nat → Nat → Prop) (node node' : Node) : Prop :=
  Option.Rel (Alike same) node.unwrap node'.unwrap

theorem Alike.sameInside (halike : Alike same node node') : SameInside same node node' := by
  unfold SameInside
  induction node using node_induction generalizing node' with
  | step label children ih =>
      rw [unwrap_eq, unwrap_eq node', halike.kind_eq]
      by_cases hkind : (Node.mk label children).kind.isWrapper = true
      · rw [if_pos hkind, if_pos hkind]
        exact rel_bind (halike.rel_wrappedContent? hkind) fun content _ hcontent hpair =>
          ih content (mem_children_of_wrappedContent? hcontent) hpair
      · rw [if_neg hkind, if_neg hkind]
        exact .some halike

theorem Shown.sameInside (hshown : Shown same parent child child') :
    SameInside same child child' := by
  cases hshown with
  | plain halike => exact halike.sameInside
  | @wrapped _ _ inner label hoperand hlabel hnamed halike =>
      have hunwrap : (Node.mk label [inner]).unwrap = inner.unwrap := by
        rw [unwrap_eq, wrappedContent?_single label (isContent_inner hoperand hnamed halike)]
        exact if_pos hlabel.kind
      unfold SameInside
      rw [hunwrap]
      exact halike.sameInside

/-- A reading looks through wrappers when it reads off a wrapper what it reads off its content. -/
def LooksThrough {α : Type} (read : Node → α) (missing : α) : Prop :=
  ∀ node : Node, node.kind.isWrapper = true → read node = (wrappedContent? node).elim missing read

namespace LooksThrough

variable {α : Type} {read : Node → α} {missing : α}

theorem eq_unwrap (hread : LooksThrough read missing) (node : Node) :
    read node = node.unwrap.elim missing read := by
  induction node using node_induction with
  | step label children ih =>
      rw [unwrap_eq]
      by_cases hkind : (Node.mk label children).kind.isWrapper = true
      · rw [hread _ hkind, if_pos hkind]
        cases hcontent : wrappedContent? ⟨label, children⟩ with
        | none => rfl
        | some content => exact ih content (mem_children_of_wrappedContent? hcontent)
      · rw [if_neg hkind]
        rfl

/-- A reading that looks through wrappers gives the same on nodes with the same inside, if it does
so on alike nodes as soon as it does so on their children. -/
theorem eq_of_sameInside (hread : LooksThrough read missing)
    (hplain : ∀ node node' : Node, node.kind.isWrapper = false → Alike same node node' →
      (∀ child ∈ node.children, ∀ other, SameInside same child other → read other = read child) →
      read node' = read node)
    (hinside : SameInside same node node') : read node' = read node := by
  induction node using node_induction generalizing node' with
  | step label children ih =>
      unfold SameInside at hinside
      rw [unwrap_eq] at hinside
      -- only the first node is taken apart: the second may have any number of wrappers
      by_cases hkind : (Node.mk label children).kind.isWrapper = true
      · rw [if_pos hkind] at hinside
        rw [hread _ hkind]
        cases hcontent : wrappedContent? ⟨label, children⟩ with
        | none =>
            rw [hcontent] at hinside
            rw [hread.eq_unwrap node']
            exact elim_eq_of_rel hinside fun _ _ hnone => by cases hnone
        | some content =>
            rw [hcontent] at hinside
            exact ih content (mem_children_of_wrappedContent? hcontent) hinside
      · rw [if_neg hkind] at hinside
        rw [hread.eq_unwrap node']
        generalize node'.unwrap = inside at hinside ⊢
        cases hinside with
        | some halike =>
            refine hplain _ _ (Bool.eq_false_iff.mpr hkind) halike fun child hchild _ => ?_
            exact ih child hchild

end LooksThrough

/-! ## Renumbered trees -/

mutual

/-- A tree with other numbers. -/
def renumbered (renumber : Nat → Nat) : Node → Node
  | ⟨label, children⟩ =>
    ⟨{ label with number := renumber label.number }, renumberedAll renumber children⟩

/-- Several trees with other numbers. -/
def renumberedAll (renumber : Nat → Nat) : List Node → List Node
  | [] => []
  | child :: rest => renumbered renumber child :: renumberedAll renumber rest

end

/-- A number and the one that stands for it. -/
def Renumbers (renumber : Nat → Nat) (number number' : Nat) : Prop :=
  number' = renumber number

variable {renumber : Nat → Nat}

/-- Other numbers leave the rest of a label as it is. -/
theorem label_renumbered (node : Node) :
    (renumbered renumber node).label = { node.label with number := renumber node.number } := by
  obtain ⟨label, children⟩ := node
  rfl

mutual

/-- A tree says the same with other numbers. -/
theorem alike_renumbered : ∀ node, Alike (Renumbers renumber) node (renumbered renumber node)
  | ⟨label, children⟩ => by
      rw [renumbered]
      exact .mk rfl rfl rfl rfl (matched_renumbered children)

theorem matched_renumbered {parent : Kind} : ∀ children,
    Matched (Renumbers renumber) parent children (renumberedAll renumber children)
  | [] => .nil
  | child :: rest =>
      .cons (.plain (alike_renumbered child) (by rw [label_renumbered]) (by rw [label_renumbered]))
        (matched_renumbered rest)

end

/-- Lists of children match when they differ in one child that is shown like the other. -/
theorem matched_renumbered_of_shown (before after : List Node)
    (hshown : Shown (Renumbers renumber) parent child (renumbered renumber child')) :
    Matched (Renumbers renumber) parent (before ++ child :: after)
      (renumberedAll renumber (before ++ child' :: after)) := by
  induction before with
  | nil => exact .cons hshown (matched_renumbered after)
  | cons first rest ih =>
      refine .cons (.plain (alike_renumbered first) ?_ ?_) ih
      · rw [label_renumbered]
      · rw [label_renumbered]

end ComponentCensus.Usage
