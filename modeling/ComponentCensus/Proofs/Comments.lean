import ComponentCensus.Proofs.Numbering
import ComponentCensus.Report.Findings
import Mathlib.Logic.Relation

/-!
# Comments are invisible

A comment may stand between any two nodes of a tree.  `CommentInserted` puts one comment somewhere
into a tree; putting in and taking out any number of them is the equivalence it generates.

One comment more leaves a tree that is like the first, so walks through the two keep step.  What is
left is to compare two trees that are numbered each in its own way, as they are when two texts are
parsed: a comment shifts the numbers of all nodes after it.

## Main results

* `visit_of_comments_edited` : trees that differ in comments and numbers only have the same census
  and the same report.

## Strategy

* Both trees are compared with what remains of them without comments.  `commentless` takes out the
  comments from the bottom up, is the same for trees that differ in comments
  (`commentless_eq_of_edited`), and leaves trees that differ in their numbers only.
* A tree arises from what remains of it by inserting comments (`commentsInserted_commentless`), and
  each of them leaves the census as it is (`visit_of_commentsInserted`).
* Trees that differ in their numbers only have the same census as long as no number is used twice,
  and what remains of a tree uses no number twice either (`numbers_commentless_sublist`).
-/

namespace ComponentCensus.Usage

open ComponentCensus.Syntax

variable {tree edited node : Node}

/-! ## One comment -/

/-- `CommentInserted tree edited` says that `edited` is `tree` with one comment more, which fills no
field and holds nothing. -/
inductive CommentInserted : Node → Node → Prop
  | here {label : Label} {remark : Node} (before after : List Node) (hremark : IsRemark remark) :
      CommentInserted ⟨label, before ++ after⟩ ⟨label, before ++ remark :: after⟩
  | inside {label : Label} {child child' : Node} (before after : List Node)
      (hchild : CommentInserted child child') :
      CommentInserted ⟨label, before ++ child :: after⟩ ⟨label, before ++ child' :: after⟩

theorem CommentInserted.label_eq (hinserted : CommentInserted tree edited) :
    edited.label = tree.label := by
  cases hinserted with
  | here => rfl
  | inside => rfl

theorem paired_self {numbers : List Nat} {first second : Nat}
    (hpaired : Paired numbers numbers first second) : first = second := by
  obtain ⟨place, hfirst, hsecond⟩ := hpaired
  exact Option.some.inj (hfirst.symm.trans hsecond)

theorem alike_refl (node : Node) : Alike Eq node node :=
  alike_of_unnumbered_eq rfl fun _ _ => paired_self

theorem shown_refl {parent : Kind} (node : Node) : Shown Eq parent node node :=
  .plain (alike_refl node) rfl rfl

theorem matched_refl {parent : Kind} (nodes : List Node) : Matched Eq parent nodes nodes :=
  matched_of_unnumberedAll_eq rfl fun _ _ => paired_self

/-- Lists of children match when they begin alike and then match. -/
theorem matched_append {parent : Kind} (before : List Node) {after after' : List Node}
    (hafter : Matched Eq parent after after') :
    Matched Eq parent (before ++ after) (before ++ after') := by
  induction before with
  | nil => exact hafter
  | cons first rest ih => exact .cons (shown_refl first) ih

/-- A tree says the same with one comment more. -/
theorem CommentInserted.alike (hinserted : CommentInserted tree edited) : Alike Eq tree edited := by
  induction hinserted with
  | here before after hremark =>
      exact .mk rfl rfl rfl rfl (matched_append before (.remarkRight hremark (matched_refl after)))
  | inside before after hchild ih =>
      refine .mk rfl rfl rfl rfl (matched_append before (.cons ?_ (matched_refl after)))
      exact .plain ih (by rw [hchild.label_eq]) (by rw [hchild.label_eq])

/-- Comments put in one after the other. -/
abbrev CommentsInserted : Node → Node → Prop :=
  Relation.ReflTransGen CommentInserted

theorem visit_of_commentsInserted (hinserted : CommentsInserted tree edited) (census : Census) :
    census.visit edited = census.visit tree := by
  have heq : Relator.BiUnique (Eq : Nat → Nat → Prop) :=
    ⟨fun _ _ _ hfirst hsecond => hfirst.trans hsecond.symm,
      fun _ _ _ hfirst hsecond => hfirst.symm.trans hsecond⟩
  induction hinserted with
  | refl => rfl
  | tail _ hlast ih => rw [visit_alike heq hlast.alike, ih]

/-! ## Trees without comments -/

/-- Whether a node is a comment that fills no field and holds nothing. -/
def isRemark (node : Node) : Bool :=
  node.kind = .comment && node.label.fields.isEmpty && node.children.isEmpty

theorem isRemark_iff : isRemark node = true ↔ IsRemark node := by
  unfold isRemark
  simp only [Bool.and_eq_true, decide_eq_true_eq, List.isEmpty_iff]
  exact ⟨fun ⟨⟨hkind, hfields⟩, hchildren⟩ => ⟨hkind, hfields, hchildren⟩,
    fun ⟨hkind, hfields, hchildren⟩ => ⟨⟨hkind, hfields⟩, hchildren⟩⟩

mutual

/-- A tree without its comments.  A comment that holds nothing but comments goes with them. -/
def commentless : Node → Node
  | ⟨label, children⟩ => ⟨label, commentlessAll children⟩

/-- Several trees without their comments, and without those that are comments. -/
def commentlessAll : List Node → List Node
  | [] => []
  | child :: rest =>
    if isRemark (commentless child) then commentlessAll rest
    else commentless child :: commentlessAll rest

end

theorem commentlessAll_append (nodes others : List Node) :
    commentlessAll (nodes ++ others) = commentlessAll nodes ++ commentlessAll others := by
  induction nodes with
  | nil => rfl
  | cons node rest ih =>
      simp only [List.cons_append, commentlessAll, ih]
      split <;> rfl

theorem commentless_of_isRemark (hremark : IsRemark node) : isRemark (commentless node) = true := by
  obtain ⟨label, children⟩ := node
  have hchildren : children = [] := hremark.children
  subst hchildren
  exact isRemark_iff.mpr hremark

theorem CommentInserted.commentless_eq (hinserted : CommentInserted tree edited) :
    commentless edited = commentless tree := by
  induction hinserted with
  | here before after hremark =>
      simp only [commentless, commentlessAll_append, commentlessAll,
        commentless_of_isRemark hremark, if_true]
  | inside before after _ ih => simp only [commentless, commentlessAll_append, commentlessAll, ih]

/-- Putting in and taking out comments does not change what remains without them. -/
theorem commentless_eq_of_edited (hedited : Relation.EqvGen CommentInserted tree edited) :
    commentless edited = commentless tree := by
  induction hedited with
  | rel _ _ hinserted => exact hinserted.commentless_eq
  | refl => rfl
  | symm _ _ _ ih => exact ih.symm
  | trans _ _ _ _ _ ihfirst ihsecond => exact ihsecond.trans ihfirst

theorem CommentsInserted.inside {label : Label} {child child' : Node} (before after : List Node)
    (hchild : CommentsInserted child child') :
    CommentsInserted ⟨label, before ++ child :: after⟩ ⟨label, before ++ child' :: after⟩ :=
  Relation.ReflTransGen.lift (fun other => Node.mk label (before ++ other :: after))
    (fun _ _ hinserted => .inside before after hinserted) _ _ hchild

mutual

/-- A tree is what remains of it with its comments put in again. -/
theorem commentsInserted_commentless : ∀ node, CommentsInserted (commentless node) node
  | ⟨label, children⟩ => commentsInserted_commentlessAll label [] children

theorem commentsInserted_commentlessAll (label : Label) : ∀ before children,
    CommentsInserted ⟨label, before ++ commentlessAll children⟩ ⟨label, before ++ children⟩
  | _, [] => .refl
  | before, child :: rest => by
      -- first the comments inside the child, then the child itself if it is one
      have hinside : CommentsInserted ⟨label, before ++ commentless child :: rest⟩
          ⟨label, before ++ child :: rest⟩ :=
        CommentsInserted.inside before rest (commentsInserted_commentless child)
      refine Relation.ReflTransGen.trans ?_ hinside
      rw [commentlessAll]
      split
      · next hremark =>
        exact (commentsInserted_commentlessAll label before rest).tail
          (.here before rest (isRemark_iff.mp hremark))
      · simpa using commentsInserted_commentlessAll label (before ++ [commentless child]) rest

end

/-! ## Numbers of trees without comments -/

theorem isRemark_renumbered (renumber : Nat → Nat) (node : Node) :
    isRemark (renumbered renumber node) = isRemark node := by
  obtain ⟨label, children⟩ := node
  cases children <;> rfl

mutual

theorem commentless_renumbered (renumber : Nat → Nat) : ∀ node,
    commentless (renumbered renumber node) = renumbered renumber (commentless node)
  | ⟨label, children⟩ => by
      rw [renumbered, commentless, commentless, renumbered,
        commentlessAll_renumberedAll renumber children]

theorem commentlessAll_renumberedAll (renumber : Nat → Nat) : ∀ nodes,
    commentlessAll (renumberedAll renumber nodes) = renumberedAll renumber (commentlessAll nodes)
  | [] => rfl
  | node :: rest => by
      rw [renumberedAll, commentlessAll, commentlessAll, commentless_renumbered renumber node,
        isRemark_renumbered, commentlessAll_renumberedAll renumber rest]
      split <;> rfl

end

mutual

theorem numbers_commentless_sublist : ∀ node, (numbers (commentless node)).Sublist (numbers node)
  | ⟨label, children⟩ => by
      rw [commentless, numbers, numbers]
      exact (numbersAmong_commentlessAll_sublist children).cons_cons _

theorem numbersAmong_commentlessAll_sublist : ∀ nodes,
    (numbersAmong (commentlessAll nodes)).Sublist (numbersAmong nodes)
  | [] => List.Sublist.refl _
  | node :: rest => by
      have hrest := numbersAmong_commentlessAll_sublist rest
      rw [commentlessAll]
      split
      · exact List.Sublist.trans hrest (List.sublist_append_right (numbers node) _)
      · exact List.Sublist.append (numbers_commentless_sublist node) hrest

end

/-! ## Any number of comments -/

/-- **Comments are invisible.**  Putting any number of comments into a tree and taking any number
out, wherever they stand, leaves the census of the tree and its report as they are.  The two trees
may be numbered each in its own way, as long as the numbers tell nodes apart. -/
theorem visit_of_comments_edited
    (hedited : Relation.EqvGen CommentInserted (unnumbered tree) (unnumbered edited))
    (hnumbers : (numbers tree).Nodup) (hnumbers' : (numbers edited).Nodup) (census : Census) :
    census.visit edited = census.visit tree ∧
      (census.visit edited).report = (census.visit tree).report := by
  -- without comments the two trees differ in their numbers only
  have hremains : unnumbered (commentless edited) = unnumbered (commentless tree) := by
    unfold unnumbered at hedited ⊢
    rw [← commentless_renumbered, ← commentless_renumbered, commentless_eq_of_edited hedited]
  have hvisit : census.visit edited = census.visit tree :=
    calc census.visit edited
        = census.visit (commentless edited) :=
          visit_of_commentsInserted (commentsInserted_commentless edited) census
      _ = census.visit (commentless tree) :=
          visit_of_unnumbered_eq hremains ((numbers_commentless_sublist tree).nodup hnumbers)
            ((numbers_commentless_sublist edited).nodup hnumbers') census
      _ = census.visit tree :=
          (visit_of_commentsInserted (commentsInserted_commentless tree) census).symm
  exact ⟨hvisit, by rw [hvisit]⟩

/-- A comment. -/
def remarkAt (number : Nat) : Node :=
  namedNode number 2 .comment "/* note */" [] []

/-- The import and the tag with a comment between them. -/
def remarkedAbove : Node :=
  namedNode 0 1 .program "import * as Lib from \"lib\"\n<Lib.Item/>" []
    [starImport 1, remarkAt 6, itemTag 7 [] 10]

/-- The import and the tag with a comment in the name of the tag. -/
def remarkedInside : Node :=
  namedNode 0 1 .program "import * as Lib from \"lib\"\n<Lib.Item/>" []
    [starImport 1, itemTag 6 [remarkAt 9] 10]

/-- A dotted name without fields is read by its only two parts; a comment between them is none. -/
theorem visit_remarkedInside :
    Relation.EqvGen CommentInserted (unnumbered remarkedAbove) (unnumbered remarkedInside) ∧
      numbers remarkedAbove = List.range 11 ∧ numbers remarkedInside = List.range 11 ∧
      Census.empty.visit remarkedInside = Census.empty.visit remarkedAbove ∧
      (Census.empty.visit remarkedAbove).components = ["Item"] := by
  have habove : numbers remarkedAbove = List.range 11 := by cbv
  have hinside : numbers remarkedInside = List.range 11 := by cbv
  have hedited : Relation.EqvGen CommentInserted (unnumbered remarkedAbove)
      (unnumbered remarkedInside) := by
    refine .trans _ (unnumbered (namedNode 0 1 .program
      "import * as Lib from \"lib\"\n<Lib.Item/>" [] [starImport 1, itemTag 6 [] 9])) _ ?_ ?_
    · exact .symm _ _ (.rel _ _ (.here [_] [_] ⟨rfl, rfl, rfl⟩))
    · exact .rel _ _ (.inside [_] [] (.inside [] [] (.here [_] [_] ⟨rfl, rfl, rfl⟩)))
  refine ⟨hedited, habove, hinside, ?_, by cbv⟩
  exact (visit_of_comments_edited hedited (habove ▸ List.nodup_range) (hinside ▸ List.nodup_range)
    Census.empty).1

end ComponentCensus.Usage
