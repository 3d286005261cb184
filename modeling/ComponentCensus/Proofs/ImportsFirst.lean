import ComponentCensus.Proofs.AddedImports
import ComponentCensus.Proofs.Descent
import ComponentCensus.Proofs.ImportedNames

/-!
# A visit is a fold with the imports in front

A visitor works through a stack of nodes, in two phases, and what it has found changes between two
nodes.  For a program all of this comes to one plain fold: the statements are listed, the imports
first, each of them is followed by what is below it in document order, and the sites of this
listing are visited one after the other.

## Main results

* `foldsImportsFirst_of_program` : a visit to a program is this fold, no site is visited twice, and
  the order of statements matters only among the imports and among the others.

## Strategy

* The listing of a visit is put in terms of its statements (`visitOrder_eq_flatMap`).
* The same visitor may as well be sent to the statements one by one, if none of them is itself a
  program (`visit_eq_foldl_visit`).
* A program is not looked at from below, so that its statements carry everything that a visit sees
  (`Rearranged`, `Progress.visit_rearranged`).  Numbers may differ as well, if they tell the nodes
  apart in both trees (`visit_rearranged_renumbered`).
-/

namespace ComponentCensus.Usage

open ComponentCensus.Syntax

/-- Statements with the imports in front; the imports keep their order, and so do the others. -/
def importsFirst (statements : List Site) : List Site :=
  statements.filter Progress.isImport ++ statements.filter fun site => !Progress.isImport site

/-- The second program has the statements of the first in another order, which is the same among the
imports and the same among the others.  What has to be equal of the statements is what `seen` leaves
of them. -/
structure Rearranged (seen : List Node → List Node) (program program' : Node) : Prop where
  kind' : program'.kind = .program
  imports : seen (importsAmong program'.children) = seen (importsAmong program.children)
  others : seen (othersAmong program'.namedChildren) = seen (othersAmong program.namedChildren)

/-! ## The listing -/

/-- A program is visited in the order of its statements with the imports in front. -/
theorem visitOrder_eq_flatMap {root : Site} (hprogram : root.node.kind = .program) :
    visitOrder root = (importsFirst root.namedChildren).flatMap visited := by
  have himports : (root.namedChildren.filter Progress.isImport).flatMap visited =
      root.namedChildren.filter Progress.isImport :=
    flatMap_visited_of_isImport fun _ himport => (List.mem_filter.mp himport).2
  rw [visitOrder, if_pos hprogram, importsFirst, List.flatMap_append, himports]

theorem mem_importsFirst {statements : List Site} {site : Site} :
    site ∈ importsFirst statements ↔ site ∈ statements :=
  (List.filter_append_perm Progress.isImport statements).mem_iff

/-- The numbers of a tree tell the sites of a visit apart, so that none is visited twice. -/
theorem nodup_visitOrder {root : Site} (hnumbers : (numbers root.node).Nodup) :
    (visitOrder root).Nodup := by
  have hlisted := nodup_numbers_visitOrder hnumbers
  refine List.Pairwise.of_map (·.node.number) ?_ hlisted
  intro first second hne heq
  exact hne (congrArg (·.node.number) heq)

/-! ## One statement after the other -/

namespace Progress

theorem walk_singleton (progress : Progress) (site : Site) :
    progress.walk [site] = (visited site).foldl visitSite progress := by
  rw [walk_eq_foldl, List.flatMap_cons, List.flatMap_nil, List.append_nil]

/-- A site that is no program is visited by a walk. -/
theorem visit_eq_walk (progress : Progress) {site : Site} (hkind : site.node.kind ≠ .program) :
    progress.visit site = progress.walk [site] :=
  if_neg hkind

/-- A program may be visited by walking through its statements one by one. -/
theorem visit_eq_foldl_walk (progress : Progress) {root : Site}
    (hprogram : root.node.kind = .program) :
    progress.visit root =
      (importsFirst root.namedChildren).foldl (fun progress site => progress.walk [site])
        progress := by
  rw [visit_eq_foldl, visitOrder_eq_flatMap hprogram, List.foldl_flatMap]
  exact List.foldl_ext _ _ _ fun progress site _ => (walk_singleton progress site).symm

/-- A program without programs in it may be visited by visiting its statements one by one. -/
theorem visit_eq_foldl_visit (progress : Progress) {root : Site}
    (hprogram : root.node.kind = .program)
    (hplain : ∀ site ∈ root.namedChildren, site.node.kind ≠ .program) :
    progress.visit root = (importsFirst root.namedChildren).foldl visit progress := by
  rw [visit_eq_foldl_walk progress hprogram]
  refine List.foldl_ext _ _ _ fun progress site hsite => ?_
  exact (visit_eq_walk progress (hplain site (mem_importsFirst.mp hsite))).symm

end Progress

/-! ## Rearranged programs -/

/-- Only the named ones of several nodes are visited. -/
theorem visitedAmong_othersAmong_namedChildren (above : List Node) (program : Node) :
    visitedAmong above (othersAmong program.namedChildren) =
      visitedAmong above (othersAmong program.children) := by
  rw [visitedAmong_eq_flatMap, visitedAmong_eq_flatMap]
  unfold othersAmong Node.namedChildren
  simp only [List.filter_filter]
  congr 1
  refine List.filter_congr fun node _ => ?_
  cases node.label.named <;> simp

/-- Statements may be rearranged, by whatever visitor they are visited. -/
theorem Progress.visit_rearranged (progress : Progress) {program program' : Node}
    (hprogram : program.kind = .program) (hrearranged : Rearranged id program program') :
    progress.visit (Site.root program') = progress.visit (Site.root program) := by
  have himports : importsAmong program'.children = importsAmong program.children :=
    hrearranged.imports
  have hothers : othersAmong program'.namedChildren = othersAmong program.namedChildren :=
    hrearranged.others
  rw [Progress.visit_program _ hprogram, Progress.visit_program _ hrearranged.kind', himports,
    ← visitedAmong_othersAmong_namedChildren, hothers, visitedAmong_othersAmong_namedChildren]

/-- Import statements that differ in their numbers only bind the same names. -/
theorem foldl_noteImport_of_unnumberedAll_eq {statements statements' : List Node}
    (hsame : unnumberedAll statements' = unnumberedAll statements)
    (hkind : ∀ statement ∈ statements, statement.kind = .importStatement) (census : Census) :
    statements'.foldl Census.noteImport census = statements.foldl Census.noteImport census := by
  induction statements generalizing statements' census with
  | nil =>
      cases statements' with
      | nil => rfl
      | cons _ _ => cases hsame
  | cons statement rest ih =>
      cases statements' with
      | nil => cases hsame
      | cons statement' rest' =>
          obtain ⟨hstatement, hrest⟩ : unnumbered statement' = unnumbered statement ∧
              unnumberedAll rest' = unnumberedAll rest := List.cons.inj hsame
          obtain ⟨hfirst, hothers⟩ := List.forall_mem_cons.mp hkind
          rw [List.foldl_cons, List.foldl_cons,
            noteImport_of_unnumbered_eq census hstatement hfirst]
          exact ih hrest hothers _

theorem nodup_numbersAmong_namedOthers {program : Node} (hnumbers : (numbers program).Nodup) :
    (numbersAmong (othersAmong program.namedChildren)).Nodup := by
  have hsublist : (othersAmong program.namedChildren).Sublist (othersAmong program.children) :=
    List.filter_sublist.filter _
  exact (numbersAmong_sublist hsublist).nodup (nodup_numbersAmong_others hnumbers)

/-- Statements that are rearranged may get other numbers, as they do when numbers are places in
document order. -/
theorem visit_rearranged_renumbered {program program' : Node} (hprogram : program.kind = .program)
    (hrearranged : Rearranged unnumberedAll program program') (hnumbers : (numbers program).Nodup)
    (hnumbers' : (numbers program').Nodup) (census : Census) :
    census.visit program' = census.visit program := by
  have hkinds : ∀ statement ∈ importsAmong program.children,
      statement.kind = .importStatement := by
    intro statement hstatement
    have hkept := (List.mem_filter.mp hstatement).2
    simp only [Bool.and_eq_true, decide_eq_true_eq] at hkept
    exact hkept.2
  rw [visit_program census hprogram, visit_program census hrearranged.kind',
    foldl_noteImport_of_unnumberedAll_eq hrearranged.imports hkinds,
    ← visitedAmong_othersAmong_namedChildren, ← visitedAmong_othersAmong_namedChildren]
  exact foldl_visitedAmong_of_unnumberedAll_eq hrearranged.others
    (nodup_numbersAmong_namedOthers hnumbers) (nodup_numbersAmong_namedOthers hnumbers') _

/-! ## Both phases as one fold -/

/-- What a visit to a program comes to, for a visitor that may have visited before. -/
structure FoldsImportsFirst (program : Node) (progress : Progress) : Prop where
  /-- The sites of the listing are visited one after the other. -/
  fold : progress.visit (Site.root program) =
    ((importsFirst (Site.root program).namedChildren).flatMap visited).foldl Progress.visitSite
      progress
  /-- Exactly those sites are listed that are reached from a statement. -/
  reached : ∀ site, site ∈ (importsFirst (Site.root program).namedChildren).flatMap visited ↔
    ∃ statement ∈ (Site.root program).namedChildren, Reached statement site
  /-- No site is listed twice. -/
  once : (numbers program).Nodup →
    ((importsFirst (Site.root program).namedChildren).flatMap visited).Nodup
  /-- The statements may be walked through one by one. -/
  walks : progress.visit (Site.root program) =
    (importsFirst (Site.root program).namedChildren).foldl
      (fun progress site => progress.walk [site]) progress
  /-- The statements may be visited one by one, if none of them is itself a program. -/
  visits : (∀ site ∈ (Site.root program).namedChildren, site.node.kind ≠ .program) →
    progress.visit (Site.root program) =
      (importsFirst (Site.root program).namedChildren).foldl Progress.visit progress
  /-- The imports may be moved among the other statements. -/
  rearranged : ∀ program', Rearranged id program program' →
    progress.visit (Site.root program') = progress.visit (Site.root program)
  /-- So they may when the nodes get other numbers. -/
  renumbered : ∀ program', Rearranged unnumberedAll program program' → (numbers program).Nodup →
    (numbers program').Nodup → ∀ census : Census, census.visit program' = census.visit program

/-- **A visit is a fold with the imports in front.**  Whatever a visitor has found before, visiting
a program is visiting the sites of one listing one after the other: the statements with the imports
in front, each followed by what is below it in document order, where import statements and closing
tags have nothing below them.  So the statements may be walked through one by one; visited one by
one, if none of them is itself a program; and rearranged, as long as the imports keep their order
and the others theirs. -/
theorem foldsImportsFirst_of_program {program : Node} (hprogram : program.kind = .program)
    (progress : Progress) : FoldsImportsFirst program progress where
  fold := by rw [Progress.visit_eq_foldl, visitOrder_eq_flatMap hprogram]
  reached site := by
    simp only [List.mem_flatMap, mem_importsFirst, mem_visited_iff]
  once hnumbers := by
    rw [← visitOrder_eq_flatMap hprogram]
    exact nodup_visitOrder hnumbers
  walks := progress.visit_eq_foldl_walk hprogram
  visits := progress.visit_eq_foldl_visit hprogram
  rearranged _ hrearranged := progress.visit_rearranged hprogram hrearranged
  renumbered _ hrearranged hnumbers hnumbers' census :=
    visit_rearranged_renumbered hprogram hrearranged hnumbers hnumbers' census

/-- The statements of `renderedAboveImport` with the import in front. -/
def importedAboveRendering : Node :=
  ⟨renderedAboveImport.label, renderedAboveImport.children.reverse⟩

/-- An import below the tags is visited before them, what is below it and below the closing tag is
not visited, and moving the import to the top changes nothing. -/
theorem foldsImportsFirst_of_renderedAboveImport :
    renderedAboveImport.kind = .program ∧
      (((importsFirst (Site.root renderedAboveImport).namedChildren).flatMap visited).map
        (·.node.number)) = [8, 1, 2, 3, 4, 5, 6] ∧
      Rearranged id renderedAboveImport importedAboveRendering ∧
      ∀ progress : Progress,
        progress.visit (Site.root renderedAboveImport) =
            (importsFirst (Site.root renderedAboveImport).namedChildren).foldl Progress.visit
              progress ∧
          progress.visit (Site.root importedAboveRendering) =
            progress.visit (Site.root renderedAboveImport) := by
  have hrearranged : Rearranged id renderedAboveImport importedAboveRendering :=
    ⟨rfl, by cbv, by cbv⟩
  have hplain : ((Site.root renderedAboveImport).namedChildren.all fun site =>
      decide (site.node.kind ≠ .program)) = true := by cbv
  refine ⟨rfl, by cbv, hrearranged, fun progress => ?_⟩
  have hfolds := @foldsImportsFirst_of_program renderedAboveImport rfl progress
  refine ⟨hfolds.visits fun site hsite => ?_, hfolds.rearranged _ hrearranged⟩
  exact of_decide_eq_true (List.all_eq_true.mp hplain site hsite)

end ComponentCensus.Usage
