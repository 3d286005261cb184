import ComponentCensus.Proofs.Traversal
import ComponentCensus.Syntax.Error

/-!
# The search for the first error is exhaustive

A tree is searched for its first error with a list of the trees that are left, and a tree that is
not suspect is dropped without a look inside.  The reference for the search is the listing of all
nodes in document order, named or not: it is enough that every tree that holds an error is suspect
(`CatchesErrors`), whichever other trees are.

## Main results

* `firstErrorLine?_exhaustive` : the search gives the line of the first error in document order,
  and none if there is no error.

## Strategy

* The invariant is about the list: the search through it finds the first error in the listings of
  its trees, one after the other (`searchError?_eq_find?`).  A tree that makes room for its
  children keeps what is still listed, and a tree that is dropped has no error in its listing.
* The test that the model uses is one that catches errors (`catchesErrors_hasError`).
-/

namespace ComponentCensus.Syntax.Node

open ComponentCensus.Usage (namedNode node_induction)

variable {suspect : Node → Bool} {node inner root : Node} {pending : List Node}

/-! ## Document order -/

mutual

/-- The nodes of a tree in document order, named or not. -/
def documentOrder : Node → List Node
  | ⟨label, children⟩ => ⟨label, children⟩ :: documentOrderAll children

/-- The nodes of several trees in document order. -/
def documentOrderAll : List Node → List Node
  | [] => []
  | node :: rest => node.documentOrder ++ documentOrderAll rest

end

theorem documentOrderAll_eq_flatMap (nodes : List Node) :
    documentOrderAll nodes = nodes.flatMap documentOrder := by
  induction nodes with
  | nil => rfl
  | cons node rest ih => rw [documentOrderAll, ih, List.flatMap_cons]

theorem documentOrder_eq (node : Node) :
    node.documentOrder = node :: node.children.flatMap documentOrder := by
  obtain ⟨label, children⟩ := node
  rw [documentOrder, documentOrderAll_eq_flatMap]
  rfl

theorem mem_documentOrder_self (node : Node) : node ∈ node.documentOrder := by
  rw [documentOrder_eq]
  exact List.mem_cons_self

theorem mem_documentOrder_of_mem_children {child : Node} (hchild : child ∈ node.children)
    (hinner : inner ∈ child.documentOrder) : inner ∈ node.documentOrder := by
  rw [documentOrder_eq]
  exact List.mem_cons_of_mem _ (List.mem_flatMap.mpr ⟨child, hchild, hinner⟩)

/-! ## Suspect trees -/

/-- Every part of a tree that holds an error is suspect. -/
def CatchesErrors (suspect : Node → Bool) (root : Node) : Prop :=
  ∀ node ∈ root.documentOrder, (∃ inner ∈ node.documentOrder, inner.isError = true) →
    suspect node = true

theorem CatchesErrors.child {child : Node} (hcaught : CatchesErrors suspect root)
    (hchild : child ∈ root.children) : CatchesErrors suspect child := by
  intro node hnode herror
  exact hcaught node (mem_documentOrder_of_mem_children hchild hnode) herror

theorem CatchesErrors.find?_eq_none (hcaught : CatchesErrors suspect root)
    (hclear : suspect root = false) : root.documentOrder.find? isError = none := by
  rw [List.find?_eq_none]
  intro inner hinner herror
  have hsuspect := hcaught root (mem_documentOrder_self root) ⟨inner, hinner, herror⟩
  exact Bool.false_ne_true (hclear.symm.trans hsuspect)

theorem anyHasError_eq_any (nodes : List Node) : anyHasError nodes = nodes.any hasError := by
  induction nodes with
  | nil => rfl
  | cons node rest ih => rw [anyHasError, ih, List.any_cons]

theorem hasError_of_isError (herror : node.isError = true) : node.hasError = true := by
  obtain ⟨label, children⟩ := node
  simp only [isError, kind, label_mk, Bool.or_eq_true] at herror
  rcases herror with hkind | hmissing
  · simp [hasError, of_decide_eq_true hkind]
  · simp [hasError, hmissing]

theorem hasError_of_mem_children {child : Node} (hchild : child ∈ node.children)
    (herror : child.hasError = true) : node.hasError = true := by
  obtain ⟨label, children⟩ := node
  have hany : children.any hasError = true := List.any_eq_true.mpr ⟨child, hchild, herror⟩
  rw [hasError, anyHasError_eq_any, hany, Bool.or_true]

/-- A tree with an error somewhere has an error. -/
theorem catchesErrors_hasError (root : Node) : CatchesErrors hasError root := by
  rintro node - ⟨inner, hinner, herror⟩
  induction node using node_induction with
  | step label children ih =>
      rw [documentOrder_eq] at hinner
      rcases List.mem_cons.mp hinner with rfl | hbelow
      · exact hasError_of_isError herror
      · obtain ⟨child, hchild, hmem⟩ := List.mem_flatMap.mp hbelow
        exact hasError_of_mem_children hchild (ih child hchild hmem)

/-! ## The search -/

/-- The search through the trees that are left finds the first error in their listings. -/
theorem searchError?_eq_find? (hcaught : ∀ node ∈ pending, CatchesErrors suspect node) :
    searchError? suspect pending =
      ((pending.flatMap documentOrder).find? isError).map line := by
  fun_induction searchError? suspect pending with
  | case1 => rfl
  | case2 node rest herror =>
      rw [List.flatMap_cons, documentOrder_eq, List.cons_append, List.find?_cons_of_pos herror]
      rfl
  | case3 node rest herror _ ih =>
      -- the children take the place of the node, in front of what is left
      have hpending : ∀ other ∈ node.children ++ rest, CatchesErrors suspect other := by
        intro other hother
        rcases List.mem_append.mp hother with hchild | hrest
        · exact (hcaught node List.mem_cons_self).child hchild
        · exact hcaught other (List.mem_cons_of_mem _ hrest)
      rw [ih hpending, List.flatMap_append, List.flatMap_cons, documentOrder_eq, List.cons_append,
        List.find?_cons_of_neg herror]
  | case4 node rest _ hclear ih =>
      have hnone := (hcaught node List.mem_cons_self).find?_eq_none (Bool.eq_false_iff.mpr hclear)
      rw [ih fun other hother => hcaught other (List.mem_cons_of_mem _ hother),
        List.flatMap_cons, List.find?_append, hnone, Option.none_or]

theorem searchError?_root (hcaught : CatchesErrors suspect root) :
    searchError? suspect [root] = (root.documentOrder.find? isError).map line := by
  rw [searchError?_eq_find? (List.forall_mem_singleton.mpr hcaught), List.flatMap_singleton]

/-- **The first error.**  Whichever trees are suspect, as long as those with an error are, the
search of a tree gives the line of the first node in document order that is an error or missing,
and nothing exactly if there is no such node.  The search for the trees that have an error is one
of these. -/
theorem firstErrorLine?_exhaustive (hcaught : CatchesErrors suspect root) :
    searchError? suspect [root] = (root.documentOrder.find? isError).map line ∧
      (searchError? suspect [root] = none ↔
        ∀ node ∈ root.documentOrder, node.isError = false) ∧
      root.firstErrorLine? = searchError? suspect [root] := by
  have hfound := searchError?_root hcaught
  refine ⟨hfound, ?_, ?_⟩
  · rw [hfound, Option.map_eq_none_iff, List.find?_eq_none]
    simp only [Bool.not_eq_true]
  · rw [hfound]
    exact searchError?_root (catchesErrors_hasError root)

/-- A declaration whose end is missing, between a statement without an error and something that
cannot be read. -/
def unclosedDeclaration : Node :=
  namedNode 0 1 .program "" []
    [namedNode 1 1 (.other "expression_statement") "" [] [namedNode 2 1 .identifier "a" [] []],
     namedNode 3 2 .lexicalDeclaration "" []
      [namedNode 4 2 .variableDeclarator "" [] [],
       ⟨⟨5, .other ";", 3, "", [], false, true, false⟩, []⟩],
     namedNode 6 4 .error "" [] []]

/-- The statement without an error is suspect as well, and the missing end has no name. -/
theorem firstErrorLine?_unclosedDeclaration :
    CatchesErrors (fun node => decide (node.number ≠ 2)) unclosedDeclaration ∧
      searchError? (fun node => decide (node.number ≠ 2)) [unclosedDeclaration] = some 3 ∧
      unclosedDeclaration.firstErrorLine? = some 3 := by
  have hcaught : CatchesErrors (fun node => decide (node.number ≠ 2)) unclosedDeclaration := by
    unfold CatchesErrors
    decide
  have hfirst : (unclosedDeclaration.documentOrder.find? isError).map line = some 3 := rfl
  obtain ⟨hfound, -, hsame⟩ := firstErrorLine?_exhaustive hcaught
  exact ⟨hcaught, hfound.trans hfirst, hsame.trans (hfound.trans hfirst)⟩

end ComponentCensus.Syntax.Node
