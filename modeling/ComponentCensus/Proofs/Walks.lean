import ComponentCensus.Proofs.Notes

/-!
# Walks through alike trees

Two walks through alike trees keep step: after each pair of alike sites the two censuses are equal,
and the loading calls set aside are the same up to `same` (`ProgressAlike`).  Between such pairs
one of the walks may visit a wrapper or a comment that the other tree does not have; these leave no
notes.

The relation `same` has to be one-to-one, for calls that are set aside are known again by their
numbers.

## Main results

* `visit_alike` : alike trees have the same census.

## Strategy

* `ProgressAlike.visitSite` is the step, with one case for each kind of site; that the notes taken
  of alike sites are the same is known from there.
* `walksAlike` carries the step through a tree by induction on the tree.  The children of alike
  nodes are walked through side by side, and a wrapper or a comment on one side is passed over
  (`ProgressAlike.visitedAmongKinds`).
* `visit_alike` adds the two phases of a program, which are walks that leave out some kinds of
  statements.
-/

namespace ComponentCensus.Usage

open ComponentCensus.Syntax

variable {same : Nat → Nat → Prop} {parent : Kind} {node node' : Node} {site site' : Site}
  {progress progress' : Progress} {above above' : List Node}

/-! ## One step -/

/-- Two walks that have noted the same so far. -/
structure ProgressAlike (same : Nat → Nat → Prop) (progress progress' : Progress) : Prop where
  census : progress'.census = progress.census
  consumed : ∀ number number', same number number' →
    (number' ∈ progress'.consumed ↔ number ∈ progress.consumed)

namespace ProgressAlike

theorem update (hprogress : ProgressAlike same progress progress')
    {change change' : Census → Census} (hchange : ∀ census, change' census = change census) :
    ProgressAlike same (progress.update change) (progress'.update change') where
  census := by
    show change' progress'.census = change progress.census
    rw [hprogress.census, hchange]
  consumed := hprogress.consumed

theorem visitLazy (hprogress : ProgressAlike same progress progress')
    (hsame : Relator.BiUnique same) (hsite : SiteAlike same site site')
    (hcall : site.node.kind = .callExpression) :
    ProgressAlike same (progress.visitLazy site) (progress'.visitLazy site') := by
  have hlazy := hsite.node.rel_lazyImport? hcall
  unfold Progress.visitLazy
  generalize lazyImport? site.node = found, lazyImport? site'.node = found' at hlazy ⊢
  cases hlazy with
  | none => exact hprogress
  | @some loading loading' hloading =>
      obtain ⟨halike, hmodule⟩ := hloading
      refine ⟨?_, fun number number' hnumber => ?_⟩
      · show progress'.census.noteLazy site' loading'.2 = progress.census.noteLazy site loading.2
        rw [hprogress.census, hmodule, Census.noteLazy_alike _ hsite]
      · -- a call is set aside in one walk exactly if its like is in the other
        have hiff : number = loading.1.number ↔ number' = loading'.1.number :=
          Relator.rel_eq hsame hnumber halike.number_same
        rw [List.mem_cons, List.mem_cons, hprogress.consumed number number' hnumber, hiff]

theorem visitCall (hprogress : ProgressAlike same progress progress')
    (hsame : Relator.BiUnique same) (hsite : SiteAlike same site site')
    (hcall : site.node.kind = .callExpression) :
    ProgressAlike same (progress.visitCall site) (progress'.visitCall site') := by
  have hconsumed := hprogress.consumed _ _ hsite.node.number_same
  unfold Progress.visitCall
  by_cases hmem : site.node.number ∈ progress.consumed
  · rw [if_pos hmem, if_pos (hconsumed.mpr hmem)]
    exact hprogress
  · rw [if_neg hmem, if_neg (mt hconsumed.mp hmem)]
    refine (hprogress.visitLazy hsame hsite hcall).update fun census => ?_
    rw [Census.noteDynamicImport_alike _ hsite.node hcall,
      Census.noteWrapping_alike _ hsite.node hcall, Census.noteLibraryCall_alike _ hsite.node hcall]

/-- Alike sites keep two walks in step. -/
theorem visitSite (hprogress : ProgressAlike same progress progress')
    (hsame : Relator.BiUnique same) (hsite : SiteAlike same site site') :
    ProgressAlike same (progress.visitSite site) (progress'.visitSite site') := by
  have halike := hsite.node
  unfold Progress.visitSite
  rw [halike.kind_eq]
  split
  · next hkind => exact hprogress.update fun census => census.noteImport_alike halike hkind
  · next hkind =>
    exact hprogress.update fun census => census.noteDeclaration_alike halike fun child => by
      simp [hkind, StandsAsOperand]
  · next hkind =>
    exact hprogress.update fun census => census.noteDeclaration_alike halike fun child => by
      simp [hkind, StandsAsOperand]
  · next hkind =>
    exact hprogress.update fun census => census.noteElement_alike hsame hsite (by rw [hkind]; rfl)
  · next hkind =>
    exact hprogress.update fun census => census.noteElement_alike hsame hsite (by rw [hkind]; rfl)
  · next hkind => exact hprogress.visitCall hsame hsite hkind
  · exact hprogress.update fun census => census.noteArray_alike hsame hsite
  · next hkind => exact hprogress.update fun census => census.noteObject_alike hsame hsite hkind
  · exact hprogress.update fun census => census.noteChoice_alike halike
  · exact hprogress.update fun census => census.noteMember_alike halike
  · exact hprogress.update fun census => census.noteMember_alike halike
  · exact hprogress.update fun census => census.noteSubscript_alike halike
  · exact hprogress

end ProgressAlike

/-! ## What only one of the walks visits -/

theorem visitSite_of_isWrapper (progress : Progress) (site : Site)
    (hwrapper : site.node.kind.isWrapper = true) : progress.visitSite site = progress := by
  unfold Progress.visitSite
  cases hkind : site.node.kind <;> simp_all [Kind.isWrapper]

/-- A walk leaves a comment as it came. -/
theorem foldl_visitedFrom_remark (progress : Progress) (hremark : IsRemark node) :
    (visitedFrom above node).foldl Progress.visitSite progress = progress := by
  obtain ⟨label, children⟩ := node
  have hkind : label.kind = .comment := hremark.kind
  have hchildren : children = [] := hremark.children
  simp only [visitedFrom, hkind, hchildren, isEntered, if_true, visitedAmong, List.foldl_cons,
    List.foldl_nil, Progress.visitSite, Node.kind, Node.label_mk]

/-- A walk goes through a wrapper to the node inside. -/
theorem foldl_visitedFrom_wrapper (progress : Progress) {label : Label} {inner : Node}
    (hwrapper : label.kind.isWrapper = true) (hnamed : inner.label.named = true) :
    (visitedFrom above ⟨label, [inner]⟩).foldl Progress.visitSite progress =
      (visitedFrom (⟨label, [inner]⟩ :: above) inner).foldl Progress.visitSite progress := by
  have hentered : isEntered label.kind = true := by
    cases hkind : label.kind <;> simp_all [Kind.isWrapper, isEntered]
  rw [visitedFrom, if_pos hentered, List.foldl_cons,
    visitSite_of_isWrapper progress ⟨⟨label, [inner]⟩, above⟩ hwrapper]
  simp [visitedAmong, hnamed]

/-! ## The whole walk -/

/-- The sites that a walk visits from the named ones of several nodes on, when it keeps to some
kinds. -/
def visitedAmongKinds (keep : Kind → Bool) (above : List Node) (nodes : List Node) : List Site :=
  (nodes.filter fun node => node.label.named && keep node.kind).flatMap (visitedFrom above)

theorem foldl_visitedAmongKinds_cons (keep : Kind → Bool) (node : Node) (rest : List Node)
    (progress : Progress) :
    (visitedAmongKinds keep above (node :: rest)).foldl Progress.visitSite progress =
      (visitedAmongKinds keep above rest).foldl Progress.visitSite
        (if node.label.named && keep node.kind then
          (visitedFrom above node).foldl Progress.visitSite progress
        else progress) := by
  unfold visitedAmongKinds
  rw [List.filter_cons]
  split
  · rw [List.flatMap_cons, List.foldl_append]
  · rfl

/-- Walks from a node on keep step with walks from the nodes like it. -/
def WalksAlike (same : Nat → Nat → Prop) (node : Node) : Prop :=
  ∀ {node' : Node} {above above' : List Node} {progress progress' : Progress},
    SiteAlike same ⟨node, above⟩ ⟨node', above'⟩ → ProgressAlike same progress progress' →
      ProgressAlike same ((visitedFrom above node).foldl Progress.visitSite progress)
        ((visitedFrom above' node').foldl Progress.visitSite progress')

/-- Walks from a child on keep step with walks from a node that is shown like it. -/
theorem WalksAlike.shown {child child' : Node} (hwalks : WalksAlike same child)
    (hshown : Shown same parent child child') (habove : Above same above above')
    (hdirect : Above same (above.drop 1) (above'.drop 1))
    (hprogress : ProgressAlike same progress progress') :
    ProgressAlike same ((visitedFrom above child).foldl Progress.visitSite progress)
      ((visitedFrom above' child').foldl Progress.visitSite progress') := by
  cases hshown with
  | plain halike => exact hwalks ⟨halike, habove, fun _ => hdirect⟩ hprogress
  | wrapped hoperand hlabel hnamed halike =>
      rw [foldl_visitedFrom_wrapper progress' hlabel.kind hnamed]
      -- the opening half of an element is never wrapped
      refine hwalks ⟨halike, .wrapper hlabel.kind habove, fun hopening => ?_⟩ hprogress
      have hoperandKind := hoperand.kind
      rw [hopening] at hoperandKind
      cases hoperandKind

/-- Walks from matched children on keep step, also when both keep to some kinds of children; where
there are operands, every kind has to be kept. -/
theorem ProgressAlike.visitedAmongKinds (keep : Kind → Bool)
    (hkeep : ∀ child, Operand parent child → ∀ kind, keep kind = true)
    (habove : Above same above above') (hdirect : Above same (above.drop 1) (above'.drop 1)) :
    ∀ {children children' : List Node} {progress progress' : Progress},
      Matched same parent children children' → (∀ child ∈ children, WalksAlike same child) →
      ProgressAlike same progress progress' →
      ProgressAlike same
        ((visitedAmongKinds keep above children).foldl Progress.visitSite progress)
        ((visitedAmongKinds keep above' children').foldl Progress.visitSite progress')
  | _, _, _, _, .nil, _, hprogress => hprogress
  | _, _, _, _, @Matched.cons _ _ child child' _ _ hchild hrest, hwalks, hprogress => by
      rw [foldl_visitedAmongKinds_cons, foldl_visitedAmongKinds_cons]
      refine ProgressAlike.visitedAmongKinds keep hkeep habove hdirect hrest
        (fun other hother => hwalks other (List.mem_cons_of_mem _ hother)) ?_
      -- a wrapper may be of a kind that is not kept, but then there are no operands
      have hkept : keep child'.kind = keep child.kind := by
        cases hchild with
        | plain halike => rw [halike.kind_eq]
        | wrapped hoperand => rw [hkeep child hoperand, hkeep child hoperand]
      rw [hchild.named_eq, hkept]
      split
      · have hchildWalks : WalksAlike same child := hwalks child (List.mem_cons_self ..)
        exact WalksAlike.shown hchildWalks hchild habove hdirect hprogress
      · exact hprogress
  | _, _, progress, _, .remarkLeft hremark hrest, hwalks, hprogress => by
      rw [foldl_visitedAmongKinds_cons, foldl_visitedFrom_remark progress hremark, ite_self]
      exact ProgressAlike.visitedAmongKinds keep hkeep habove hdirect hrest
        (fun other hother => hwalks other (List.mem_cons_of_mem _ hother)) hprogress
  | _, _, _, progress', .remarkRight hremark hrest, hwalks, hprogress => by
      rw [foldl_visitedAmongKinds_cons keep _ _ progress',
        foldl_visitedFrom_remark progress' hremark, ite_self]
      exact ProgressAlike.visitedAmongKinds keep hkeep habove hdirect hrest hwalks hprogress

theorem visitedAmong_eq (above nodes : List Node) :
    visitedAmong above nodes = Usage.visitedAmongKinds (fun _ => true) above nodes := by
  simp [visitedAmong_eq_flatMap, Usage.visitedAmongKinds]

/-- Walks through alike trees keep step. -/
theorem walksAlike (hsame : Relator.BiUnique same) (node : Node) : WalksAlike same node := by
  induction node using node_induction with
  | step label children ih =>
      intro node' above above' progress progress' hsite hprogress
      obtain ⟨label', children'⟩ := node'
      have halike := hsite.node
      have hkind : label'.kind = label.kind := halike.kind_eq
      have hstep := hprogress.visitSite hsame hsite
      rw [visitedFrom, visitedFrom, List.foldl_cons, List.foldl_cons, hkind]
      split
      · rw [visitedAmong_eq, visitedAmong_eq]
        exact ProgressAlike.visitedAmongKinds _ (fun _ _ _ => rfl) (.cons halike hsite.above)
          hsite.above halike.matched ih hstep
      · exact hstep

/-! ## Programs -/

theorem flatMap_visited_filter (keep : Kind → Bool) (site : Site) :
    (site.namedChildren.filter fun child => keep child.node.kind).flatMap visited =
      visitedAmongKinds keep (site.node :: site.above) site.node.children := by
  unfold visitedAmongKinds Site.namedChildren Node.namedChildren
  rw [List.filter_map, List.flatMap_map, List.filter_filter]
  congr 1
  refine List.filter_congr fun child _ => ?_
  exact Bool.and_comm _ _

/-- Import statements are visited alone. -/
theorem flatMap_visited_of_isImport {sites : List Site}
    (hall : ∀ site ∈ sites, Progress.isImport site = true) : sites.flatMap visited = sites := by
  induction sites with
  | nil => rfl
  | cons site rest ih =>
      have hkind : site.node.kind = .importStatement :=
        of_decide_eq_true (hall site (List.mem_cons_self ..))
      rw [List.flatMap_cons, visited_eq_of_not_isEntered (by rw [hkind]; rfl),
        ih fun other hother => hall other (List.mem_cons_of_mem _ hother)]
      rfl

/-- A program is visited in two phases, each of which keeps to some kinds of statements. -/
theorem visitOrder_program (hprogram : site.node.kind = .program) :
    visitOrder site =
      visitedAmongKinds (fun kind => decide (kind = .importStatement)) (site.node :: site.above)
          site.node.children ++
        visitedAmongKinds (fun kind => !decide (kind = .importStatement)) (site.node :: site.above)
          site.node.children := by
  rw [← flatMap_visited_filter, ← flatMap_visited_filter, visitOrder, if_pos hprogram]
  congr 1
  exact (flatMap_visited_of_isImport fun child hchild => (List.mem_filter.mp hchild).2).symm

/-- Alike trees have the same census. -/
theorem visit_alike (hsame : Relator.BiUnique same) (halike : Alike same node node')
    (census : Census) : census.visit node' = census.visit node := by
  have hsite : SiteAlike same (Site.root node) (Site.root node') := ⟨halike, .nil, fun _ => .nil⟩
  have hstart : ProgressAlike same ⟨census, []⟩ ⟨census, []⟩ := ⟨rfl, by simp⟩
  suffices hend : ProgressAlike same
      ((visitOrder (Site.root node)).foldl Progress.visitSite ⟨census, []⟩)
      ((visitOrder (Site.root node')).foldl Progress.visitSite ⟨census, []⟩) by
    unfold Census.visit
    rw [Progress.visit_eq_foldl, Progress.visit_eq_foldl, hend.census]
  by_cases hprogram : node.kind = .program
  · have hprogram' : node'.kind = .program := by rw [halike.kind_eq, hprogram]
    have hkeep : ∀ keep : Kind → Bool, ∀ child, Operand node.kind child →
        ∀ kind, keep kind = true := by
      intro keep child hoperand
      have hstands := hoperand.stands
      rw [hprogram] at hstands
      exact absurd hstands id
    -- both phases are walks from the statements on, each with some kinds left out
    have hphase (keep : Kind → Bool) {progress progress' : Progress}
        (hprogress : ProgressAlike same progress progress') :=
      ProgressAlike.visitedAmongKinds keep (hkeep keep) (.cons halike .nil) .nil halike.matched
        (fun child _ => walksAlike hsame child) hprogress
    rw [@visitOrder_program (Site.root node) hprogram,
      @visitOrder_program (Site.root node') hprogram', List.foldl_append, List.foldl_append]
    exact hphase _ (hphase _ hstart)
  · have hprogram' : ¬ node'.kind = .program := by rwa [halike.kind_eq]
    have hroot : visitOrder (Site.root node) = visitedFrom [] node := if_neg hprogram
    have hroot' : visitOrder (Site.root node') = visitedFrom [] node' := if_neg hprogram'
    rw [hroot, hroot']
    exact walksAlike hsame node hsite hstart

end ComponentCensus.Usage
