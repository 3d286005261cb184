import ComponentCensus.Usage.Walk

/-!
# The walk is a fold over a listing of sites

`Progress.walk` keeps a list of the sites that are still to be visited, and `Progress.visit` binds
the imports of a program before it walks through the rest.  Neither form is convenient to reason
about: a site enters the list long before it is visited.

This file settles what is visited and in which order.  `visited` lists the sites below a site by
plain recursion on the tree, and `visitOrder` puts the import statements of a program in front.

## Main results

* `Progress.walk_eq_foldl`, `Progress.visit_eq_foldl` : a walk visits exactly these sites, one
  after the other.
* `mem_visited_iff` : the same sites without an order, namely those that are reached through named
  children without passing through a node that is not entered (`Reached`).
* `nodup_visited` : if the numbers of a tree tell its nodes apart, no site is visited twice.
-/

namespace ComponentCensus.Usage

open ComponentCensus.Syntax

/-- A named node, for writing down small trees. -/
def namedNode (number line : Nat) (kind : Kind) (text : String) (fields : List Field)
    (children : List Node) : Node :=
  ⟨⟨number, kind, line, text, fields, true, false, false⟩, children⟩

/-- `import * as Lib from "lib"`, numbered from `start` on. -/
def starImport (start : Nat) : Node :=
  namedNode start 1 .importStatement "import * as Lib from \"lib\"" []
    [namedNode (start + 1) 1 .importClause "* as Lib" []
      [namedNode (start + 2) 1 .namespaceImport "* as Lib" []
        [namedNode (start + 3) 1 .identifier "Lib" [] []]],
     namedNode (start + 4) 1 .stringLiteral "\"lib\"" [.source] []]

/-- `<Lib.Item/>`, numbered from `start` on, with comments in front of the last part. -/
def itemTag (start : Nat) (remarks : List Node) (last : Nat) : Node :=
  namedNode start 2 .jsxSelfClosingElement "<Lib.Item/>" []
    [namedNode (start + 1) 2 .nestedIdentifier "Lib.Item" [.name]
      (namedNode (start + 2) 2 .identifier "Lib" [] [] ::
        (remarks ++ [namedNode last 2 .propertyIdentifier "Item" [] []]))]

/-- Whether nodes of a kind are tags that render something. -/
def isTag : Kind → Bool
  | .jsxOpeningElement | .jsxSelfClosingElement => true
  | _ => false

/-! ## The listing -/

mutual

/-- The sites that a walk visits from a node on, in document order. -/
def visitedFrom (above : List Node) : Node → List Site
  | ⟨label, children⟩ =>
    ⟨⟨label, children⟩, above⟩ ::
      if isEntered label.kind then visitedAmong (⟨label, children⟩ :: above) children else []

/-- The sites that a walk visits from the named ones of several nodes on, in document order. -/
def visitedAmong (above : List Node) : List Node → List Site
  | [] => []
  | child :: rest =>
    (if child.label.named then visitedFrom above child else []) ++ visitedAmong above rest

end

/-- The sites that a walk visits from a site on, in document order. -/
def visited (site : Site) : List Site :=
  visitedFrom site.above site.node

/-- `Reached start site` says that `site` is reached from `start` through named children, without
passing through a node that is not entered. -/
inductive Reached (start : Site) : Site → Prop
  | start : Reached start start
  | child {site child : Site} (hsite : Reached start site)
      (hentered : isEntered site.node.kind = true) (hchild : child ∈ site.namedChildren) :
      Reached start child

/-- The order in which a tree is visited: the import statements of a program come first. -/
def visitOrder (root : Site) : List Site :=
  if root.node.kind = .program then
    root.namedChildren.filter Progress.isImport ++
      (root.namedChildren.filter fun site => !Progress.isImport site).flatMap visited
  else
    visited root

theorem visitedAmong_eq_flatMap (above : List Node) (nodes : List Node) :
    visitedAmong above nodes = (nodes.filter (·.label.named)).flatMap (visitedFrom above) := by
  induction nodes with
  | nil => rfl
  | cons child rest ih =>
      rw [visitedAmong, ih]
      by_cases hnamed : child.label.named = true
      · simp [hnamed]
      · simp [hnamed]

/-- A site is visited first, and the sites below it follow unless it is not entered. -/
theorem visited_eq (site : Site) :
    visited site =
      site :: if isEntered site.node.kind then site.namedChildren.flatMap visited else [] := by
  obtain ⟨⟨label, children⟩, above⟩ := site
  simp only [visited, visitedFrom, visitedAmong_eq_flatMap]
  simp [Site.namedChildren, Node.namedChildren, Node.kind, List.flatMap_map, visited]

theorem visited_eq_of_not_isEntered {site : Site} (hentered : isEntered site.node.kind = false) :
    visited site = [site] := by
  rw [visited_eq, hentered]
  rfl

theorem visited_eq_of_isEntered {site : Site} (hentered : isEntered site.node.kind = true) :
    visited site = site :: site.namedChildren.flatMap visited := by
  rw [visited_eq, if_pos hentered]

/-! ## Which sites are listed -/

theorem Reached.trans {start middle site : Site} (hfirst : Reached start middle)
    (hsecond : Reached middle site) : Reached start site := by
  induction hsecond with
  | start => exact hfirst
  | child _ hentered hchild ih => exact ih.child hentered hchild

/-- Induction on a tree: what holds of a node when it holds of all its children holds of every
node. -/
@[elab_as_elim]
theorem node_induction {motive : Node → Prop}
    (step : ∀ label children, (∀ child ∈ children, motive child) → motive ⟨label, children⟩) :
    ∀ node, motive node
  | ⟨label, children⟩ => step label children fun child _ => node_induction step child
termination_by node => sizeOf node
decreasing_by
  rename_i hchild
  have hlt := List.sizeOf_lt_of_mem hchild
  simp only [Node.mk.sizeOf_spec]
  omega

/-- Induction along the listing: what holds of a site when it holds of the sites of its named
children holds of every site. -/
@[elab_as_elim]
theorem site_induction {motive : Site → Prop}
    (step : ∀ site, (∀ child ∈ site.namedChildren, motive child) → motive site) (site : Site) :
    motive site := by
  obtain ⟨node, above⟩ := site
  induction node using node_induction generalizing above with
  | step label children ih =>
      refine step _ fun child hchild => ?_
      obtain ⟨node, hnode, rfl⟩ := List.mem_map.mp hchild
      exact ih node (List.mem_filter.mp hnode).1 _

theorem mem_visited_self (site : Site) : site ∈ visited site := by
  rw [visited_eq]
  exact List.mem_cons_self ..

/-- The listing is closed under going down to a named child. -/
theorem mem_visited_of_child {start site child : Site} (hsite : site ∈ visited start)
    (hentered : isEntered site.node.kind = true) (hchild : child ∈ site.namedChildren) :
    child ∈ visited start := by
  induction start using site_induction with
  | step start ih =>
      -- the site is the start itself or lies below one of its children
      by_cases hstart : isEntered start.node.kind = true
      · rw [visited_eq_of_isEntered hstart] at hsite ⊢
        rcases List.mem_cons.mp hsite with rfl | hbelow
        · exact List.mem_cons_of_mem _
            (List.mem_flatMap.mpr ⟨child, hchild, mem_visited_self child⟩)
        · obtain ⟨between, hbetween, hmem⟩ := List.mem_flatMap.mp hbelow
          exact List.mem_cons_of_mem _
            (List.mem_flatMap.mpr ⟨between, hbetween, ih between hbetween hmem⟩)
      · rw [visited_eq_of_not_isEntered (Bool.eq_false_iff.mpr hstart)] at hsite
        rw [List.mem_singleton.mp hsite] at hentered
        exact absurd hentered hstart

/-- The listing holds exactly the sites that are reached. -/
theorem mem_visited_iff {start site : Site} : site ∈ visited start ↔ Reached start site := by
  constructor
  · intro hmem
    -- down the tree for the one direction, and along the way to the site for the other
    induction start using site_induction with
    | step start ih =>
        rw [visited_eq] at hmem
        rcases List.mem_cons.mp hmem with rfl | hbelow
        · exact .start
        · split at hbelow
          · next hentered =>
            obtain ⟨child, hchild, hsite⟩ := List.mem_flatMap.mp hbelow
            exact (Reached.start.child hentered hchild).trans (ih child hchild hsite)
          · simp at hbelow
  · intro hreached
    induction hreached with
    | start => exact mem_visited_self start
    | child _ hentered hchild ih => exact mem_visited_of_child ih hentered hchild

/-! ## No site is listed twice -/

mutual

/-- The numbers of the nodes of a tree, in document order. -/
def numbers : Node → List Nat
  | ⟨label, children⟩ => label.number :: numbersAmong children

/-- The numbers of the nodes of several trees, in document order. -/
def numbersAmong : List Node → List Nat
  | [] => []
  | child :: rest => numbers child ++ numbersAmong rest

end

mutual

theorem visitedFrom_numbers_sublist (above : List Node) :
    ∀ node, ((visitedFrom above node).map (·.node.number)).Sublist (numbers node)
  | ⟨label, children⟩ => by
      rw [visitedFrom, numbers, List.map_cons]
      refine List.Sublist.cons_cons _ ?_
      split
      · exact visitedAmong_numbers_sublist _ children
      · exact List.nil_sublist _

theorem visitedAmong_numbers_sublist (above : List Node) :
    ∀ nodes, ((visitedAmong above nodes).map (·.node.number)).Sublist (numbersAmong nodes)
  | [] => List.Sublist.refl _
  | child :: rest => by
      rw [visitedAmong, numbersAmong, List.map_append]
      refine List.Sublist.append ?_ (visitedAmong_numbers_sublist above rest)
      split
      · exact visitedFrom_numbers_sublist above child
      · exact List.nil_sublist _

end

/-- When the nodes of a tree are told apart by their numbers, no site is listed twice. -/
theorem nodup_visited {site : Site} (hnumbers : (numbers site.node).Nodup) :
    (visited site).Nodup := by
  have hlisted := (visitedFrom_numbers_sublist site.above site.node).nodup hnumbers
  refine List.Pairwise.of_map (·.node.number) ?_ hlisted
  intro first second hne heq
  exact hne (congrArg (·.node.number) heq)

/-! ## The walk follows the listing -/

namespace Progress

/-- A walk visits the sites of the listing, one after the other. -/
theorem walk_eq_foldl (progress : Progress) (pending : List Site) :
    progress.walk pending = (pending.flatMap visited).foldl visitSite progress := by
  fun_induction walk progress pending with
  | case1 progress => rfl
  | case2 progress site rest hentered ih =>
      rw [ih, List.flatMap_cons, visited_eq_of_isEntered hentered]
      simp
  | case3 progress site rest hentered ih =>
      rw [ih, List.flatMap_cons, visited_eq_of_not_isEntered (Bool.eq_false_iff.mpr hentered)]
      simp

theorem visitSite_of_isImport {progress : Progress} {site : Site} (himport : isImport site = true) :
    progress.visitSite site = progress.update (·.noteImport site.node) := by
  have hkind : site.node.kind = .importStatement := of_decide_eq_true himport
  simp only [visitSite, hkind]

private theorem foldl_visitSite_of_isImport {sites : List Site}
    (hall : ∀ site ∈ sites, isImport site = true) (progress : Progress) :
    sites.foldl visitSite progress = progress.update fun census =>
      sites.foldl (fun census site => census.noteImport site.node) census := by
  induction sites generalizing progress with
  | nil => rfl
  | cons site rest ih =>
      rw [List.foldl_cons, visitSite_of_isImport (hall site (List.mem_cons_self ..)),
        ih fun other hother => hall other (List.mem_cons_of_mem _ hother)]
      rfl

/-- The first phase visits the import statements at the top. -/
theorem bindImports_eq_foldl (progress : Progress) (root : Site) :
    progress.bindImports root =
      (root.namedChildren.filter isImport).foldl visitSite progress :=
  (foldl_visitSite_of_isImport (fun _ hsite => (List.mem_filter.mp hsite).2) progress).symm

/-- The second phase visits everything else at the top, each with what is below it. -/
theorem walkStatements_eq_foldl (progress : Progress) (root : Site) :
    progress.walkStatements root =
      ((root.namedChildren.filter fun site => !isImport site).flatMap visited).foldl
        visitSite progress := by
  rw [walkStatements, List.foldl_flatMap]
  simp only [walk_eq_foldl, List.flatMap_cons, List.flatMap_nil, List.append_nil]

/-- A visit to a whole tree visits the sites of `visitOrder`, one after the other. -/
theorem visit_eq_foldl (progress : Progress) (root : Site) :
    progress.visit root = (visitOrder root).foldl visitSite progress := by
  unfold visit visitOrder
  split
  · rw [walkStatements_eq_foldl, bindImports_eq_foldl, List.foldl_append]
  · rw [walk_eq_foldl]
    simp

end Progress

end ComponentCensus.Usage
