import ComponentCensus.Proofs.Walks
import Mathlib.Data.List.Nodup
import Mathlib.Data.List.Perm.Basic

/-!
# Going down and coming back up

What a field holds is looked at through wrappers, and so is what stands above a site.  The two fit
together, so that a site remembers where it was reached from, however many wrappers lie between.

## Main results

* `exists_inside` : the expression inside a child is visited below it, and the nearest site above
  it that is no wrapper is the parent of that child.
* `sublist_visitOrder_of_reached` : a site is visited before everything that is reached from it.
* `nodup_numbers_visitOrder` : no two sites of a visit have the same number.

## Strategy

* `parent?` gives the site above where `Site.container?` gives the node only (`container?_eq`), so
  that going up can be repeated.
* Between a child and the expression inside it there are wrappers and nothing else
  (`exists_reached_of_unwrap`), and these are passed over on the way up
  (`parent?_of_forall_isWrapper`).
* What is visited below a site stands in one piece behind it (`visited_sublist`).
-/

namespace ComponentCensus.Usage

open ComponentCensus.Syntax

variable {site child outer inner root : Site} {node : Node}

/-! ## Through wrappers -/

/-- The nearest site above that is no wrapper. -/
def parent? (site : Site) : Option Site :=
  match site.above.dropWhile fun node => node.kind.isWrapper with
  | [] => none
  | node :: above => some ⟨node, above⟩

theorem container?_eq (site : Site) : site.container? = (parent? site).map Site.node := by
  obtain ⟨node, above⟩ := site
  unfold Site.container? parent?
  dsimp only
  induction above with
  | nil => rfl
  | cons first rest ih =>
      rw [List.find?_cons, List.dropWhile_cons]
      cases first.kind.isWrapper with
      | true => exact ih
      | false => rfl

theorem suffix_of_parent? {up : Site} (hparent : parent? site = some up) :
    up.node :: up.above <:+ site.above := by
  unfold parent? at hparent
  split at hparent
  · cases hparent
  · next node above habove =>
    cases hparent
    exact habove ▸ List.dropWhile_suffix _

theorem isEntered_of_isWrapper {kind : Kind} (hwrapper : kind.isWrapper = true) :
    isEntered kind = true := by
  cases kind <;> simp_all [Kind.isWrapper, isEntered]

/-- The contents of a node are among its named children. -/
theorem mem_namedChildren_of_mem_contents (hcontent : node ∈ site.node.contents) :
    ⟨node, site.node :: site.above⟩ ∈ site.namedChildren := by
  obtain ⟨hchild, hisContent⟩ := List.mem_filter.mp hcontent
  have hnamed : node.label.named = true := (Bool.and_eq_true_iff.mp hisContent).1
  exact List.mem_map.mpr ⟨node, List.mem_filter.mpr ⟨hchild, hnamed⟩, rfl⟩

/-- What stands inside the wrappers of a site is reached through nothing but wrappers. -/
theorem exists_reached_of_unwrap {node : Node} (hinside : site.node.unwrap = some node) :
    ∃ wrappers : List Node, (∀ wrapper ∈ wrappers, wrapper.kind.isWrapper = true) ∧
      Reached site ⟨node, wrappers ++ site.above⟩ := by
  induction site using site_induction with
  | step site ih =>
      rw [unwrap_eq] at hinside
      by_cases hwrapper : site.node.kind.isWrapper = true
      · rw [if_pos hwrapper] at hinside
        obtain ⟨content, hcontent, hunwrap⟩ := Option.bind_eq_some_iff.mp hinside
        have hchild := mem_namedChildren_of_mem_contents (mem_contents_of_wrappedContent? hcontent)
        obtain ⟨wrappers, hall, hreached⟩ := ih _ hchild hunwrap
        -- the site itself is the last wrapper on the way
        refine ⟨wrappers ++ [site.node], ?_, ?_⟩
        · intro wrapper hmem
          rcases List.mem_append.mp hmem with hbelow | hself
          · exact hall wrapper hbelow
          · rwa [List.mem_singleton.mp hself]
        · have hstep := Reached.start.child (isEntered_of_isWrapper hwrapper) hchild
          rw [List.append_assoc]
          exact hstep.trans hreached
      · rw [if_neg hwrapper] at hinside
        cases hinside
        exact ⟨[], by simp, .start⟩

/-- Nothing but wrappers is passed over on the way up. -/
theorem parent?_of_forall_isWrapper {wrappers : List Node}
    (hplain : site.node.kind.isWrapper = false)
    (hall : ∀ wrapper ∈ wrappers, wrapper.kind.isWrapper = true) :
    parent? ⟨node, wrappers ++ site.node :: site.above⟩ = some site := by
  unfold parent?
  simp only [List.dropWhile_append_of_pos hall, List.dropWhile_cons, hplain]
  rfl

/-- The expression inside a child of a site is visited, and leads back to the site. -/
theorem exists_inside (hplain : site.node.kind.isWrapper = false)
    (hentered : isEntered site.node.kind = true) (hchild : child ∈ site.namedChildren)
    (hinside : child.node.unwrap = some node) :
    ∃ inner : Site, inner.node = node ∧ Reached site inner ∧ parent? inner = some site := by
  obtain ⟨wrappers, hall, hreached⟩ := exists_reached_of_unwrap hinside
  refine ⟨_, rfl, (Reached.start.child hentered hchild).trans hreached, ?_⟩
  obtain ⟨_, _, rfl⟩ := List.mem_map.mp hchild
  exact parent?_of_forall_isWrapper hplain hall

/-- What a field holds is visited, and leads back to the site. -/
theorem exists_inside_field {field : Field} (hplain : site.node.kind.isWrapper = false)
    (hentered : isEntered site.node.kind = true)
    (hnamed : ∀ child, site.node.child? field = some child → child.label.named = true)
    (hfield : site.node.field? field = some node) :
    ∃ inner : Site, inner.node = node ∧ Reached site inner ∧ parent? inner = some site := by
  obtain ⟨held, hheld, hinside⟩ := Option.bind_eq_some_iff.mp hfield
  have hmem : held ∈ site.node.namedChildren :=
    List.mem_filter.mpr ⟨mem_children_of_child? hheld, hnamed held hheld⟩
  exact exists_inside hplain hentered (List.mem_map.mpr ⟨held, hmem, rfl⟩) hinside

/-! ## The order of a visit -/

/-- Everything below a site is listed behind it, in its own order. -/
theorem visited_sublist {start : Site} (hsite : site ∈ visited start) :
    (visited site).Sublist (visited start) := by
  induction start using site_induction with
  | step start ih =>
      rw [visited_eq] at hsite
      rcases List.mem_cons.mp hsite with rfl | hbelow
      · exact List.Sublist.refl _
      · split at hbelow
        · next hentered =>
          obtain ⟨child, hchild, hmem⟩ := List.mem_flatMap.mp hbelow
          have hchildren : (visited child).Sublist (start.namedChildren.flatMap visited) :=
            List.sublist_flatten_of_mem (List.mem_map_of_mem hchild)
          rw [visited_eq_of_isEntered hentered]
          exact ((ih child hchild hmem).trans hchildren).cons _
        · cases hbelow

theorem visited_sublist_visitOrder (hsite : site ∈ visitOrder root) :
    (visited site).Sublist (visitOrder root) := by
  unfold visitOrder at hsite ⊢
  split at hsite
  · next hprogram =>
    rw [if_pos hprogram]
    rcases List.mem_append.mp hsite with himport | hstatement
    · -- an import statement is not entered
      have hkind : site.node.kind = .importStatement :=
        of_decide_eq_true (List.mem_filter.mp himport).2
      rw [visited_eq_of_not_isEntered (by rw [hkind]; rfl), List.singleton_sublist]
      exact List.mem_append_left _ himport
    · obtain ⟨statement, hchild, hmem⟩ := List.mem_flatMap.mp hstatement
      refine ((visited_sublist hmem).trans ?_).trans (List.sublist_append_right _ _)
      exact List.sublist_flatten_of_mem (List.mem_map_of_mem hchild)
  · next hprogram =>
    rw [if_neg hprogram]
    exact visited_sublist hsite

/-- What is reached from a visited site is visited. -/
theorem mem_visitOrder_of_reached (hsite : site ∈ visitOrder root) (hreached : Reached site inner) :
    inner ∈ visitOrder root :=
  (visited_sublist_visitOrder hsite).subset (mem_visited_iff.mpr hreached)

/-- What is reached from a visited site is visited later. -/
theorem sublist_visitOrder_of_reached (hsite : site ∈ visitOrder root)
    (hreached : Reached site inner) (hne : inner ≠ site) :
    [site, inner].Sublist (visitOrder root) := by
  refine List.Sublist.trans ?_ (visited_sublist_visitOrder hsite)
  have hmem := mem_visited_iff.mpr hreached
  rw [visited_eq] at hmem ⊢
  rcases List.mem_cons.mp hmem with hself | hbelow
  · exact absurd hself hne
  · exact (List.singleton_sublist.mpr hbelow).cons_cons _

/-- A program is visited out of order, but nothing is left out. -/
theorem visitOrder_perm (hprogram : root.node.kind = .program) :
    (visitOrder root).Perm (root.namedChildren.flatMap visited) := by
  have himports : (root.namedChildren.filter Progress.isImport).flatMap visited =
      root.namedChildren.filter Progress.isImport :=
    flatMap_visited_of_isImport fun _ himport => (List.mem_filter.mp himport).2
  rw [visitOrder, if_pos hprogram, ← himports, ← List.flatMap_append]
  exact (List.filter_append_perm _ _).flatMap_right _

/-- The sites above a reached site are reached as well, down from the start. -/
theorem Reached.above {start : Site} (hreached : Reached start site) {above : List Node}
    (habove : node :: above <:+ site.above) :
    node :: above <:+ start.above ∨ Reached start ⟨node, above⟩ := by
  induction hreached with
  | start => exact Or.inl habove
  | @child site child hsite _ hchild ih =>
      obtain ⟨_, _, rfl⟩ := List.mem_map.mp hchild
      rcases List.suffix_cons_iff.mp habove with hself | hfurther
      · cases hself
        exact Or.inr hsite
      · exact ih hfurther

/-- The nearest site above a visited one that is no wrapper is visited, unless it is a program. -/
theorem mem_visitOrder_of_parent? {tree : Node} {up : Site}
    (hsite : site ∈ visitOrder (Site.root tree)) (hparent : parent? site = some up)
    (hkind : up.node.kind ≠ .program) : up ∈ visitOrder (Site.root tree) := by
  have hsuffix := suffix_of_parent? hparent
  by_cases hprogram : tree.kind = .program
  · -- the only site above a statement that is not visited is the program
    have hnotRoot : ¬ up.node :: up.above <:+ [tree] := by
      intro hroot
      rcases List.suffix_cons_iff.mp hroot with hself | hnil
      · exact hkind ((congrArg Node.kind (List.cons.inj hself).1).trans hprogram)
      · simp at hnil
    have horder := @visitOrder_perm (Site.root tree) hprogram
    rw [horder.mem_iff] at hsite ⊢
    obtain ⟨statement, hstatement, hmem⟩ := List.mem_flatMap.mp hsite
    refine List.mem_flatMap.mpr ⟨statement, hstatement, mem_visited_iff.mpr ?_⟩
    obtain ⟨_, _, rfl⟩ := List.mem_map.mp hstatement
    exact ((mem_visited_iff.mp hmem).above hsuffix).resolve_left hnotRoot
  · have horder : visitOrder (Site.root tree) = visited (Site.root tree) := if_neg hprogram
    rw [horder] at hsite ⊢
    refine mem_visited_iff.mpr (((mem_visited_iff.mp hsite).above hsuffix).resolve_left ?_)
    simp [Site.root]

/-- The numbers of a tree tell the sites of a visit apart. -/
theorem nodup_numbers_visitOrder (hnumbers : (numbers root.node).Nodup) :
    ((visitOrder root).map (·.node.number)).Nodup := by
  have hlisted : ((visited root).map (·.node.number)).Nodup :=
    (visitedFrom_numbers_sublist root.above root.node).nodup hnumbers
  by_cases hprogram : root.node.kind = .program
  · rw [((visitOrder_perm hprogram).map _).nodup_iff]
    rw [visited_eq_of_isEntered (by rw [hprogram]; rfl), List.map_cons] at hlisted
    exact (List.nodup_cons.mp hlisted).2
  · rwa [visitOrder, if_neg hprogram]

/-- In a list without repetition no two members stand in both orders. -/
theorem not_sublist_swap {α : Type} {items : List α} (hnodup : items.Nodup) {first second : α}
    (hfirst : [first, second].Sublist items) : ¬ [second, first].Sublist items := by
  induction items with
  | nil => cases hfirst
  | cons item rest ih =>
      obtain ⟨hfresh, hrest⟩ := List.nodup_cons.mp hnodup
      intro hsecond
      cases hfirst with
      | cons _ hfirst =>
          cases hsecond with
          | cons _ hsecond => exact ih hrest hfirst hsecond
          | cons_cons _ _ => exact hfresh (hfirst.subset (by simp))
      | cons_cons _ hfirst =>
          cases hsecond with
          | cons _ hsecond => exact hfresh (hsecond.subset (by simp))
          | cons_cons _ _ => exact hfresh (hfirst.subset (by simp))

end ComponentCensus.Usage
