import ComponentCensus.Proofs.KnownNames
import ComponentCensus.Proofs.Numbering
import ComponentCensus.Report.Findings
import Mathlib.Data.List.Perm.Subperm

/-!
# More imports, no fewer findings

Import statements are bound before anything else is visited.  A program with more of them therefore
starts its second phase with more names and more findings, and ends with no fewer.

The report counts entries of tables and names, where `Within` compares sets of keys.  No key and no
component is ever listed twice (`Tidy`), so that more keys are more entries.

## Main results

* `findings_kept_by_known_names` : a census that starts with more names ends with no fewer
  findings, and a program with more imports has a report that says no less (`ReportsNoLess`).

## Strategy

* The program node itself is never looked at from below, so that the walk through the statements
  does not depend on which imports stand beside them (`foldl_visitedFrom_below_program`).
* Neither the numbers nor the lines of the statements, which change when something is put in front
  of them, matter (`foldl_visitedAmong_of_unnumberedAll_eq`).
* So the two programs have the same second phase, and it starts from censuses one of which is
  within the other (`Within.foldl_noteImport`).
-/

namespace ComponentCensus.Usage

open ComponentCensus.Syntax

/-! ## Nothing is listed twice -/

/-- No component and no key of a table is listed twice. -/
structure Tidy (census : Census) : Prop where
  components : census.components.Nodup
  aliasedImports : census.findings.aliasedImports.keys.Nodup
  renderings : census.findings.renderings.keys.Nodup
  props : census.findings.props.keys.Nodup
  assignments : census.findings.assignments.keys.Nodup

namespace Tidy

variable {census : Census}

theorem empty : Tidy {} := by
  constructor <;> simp [Entries.keys]

theorem edit {next : Census} (hedit : Edit census next) (hcensus : Tidy census) : Tidy next := by
  cases hedit with
  | bindDefault source line name =>
      exact { hcensus with components := nodup_addName hcensus.components name }
  | bindNamed source line imported localName =>
      unfold Census.bindNamed
      dsimp only
      split
      · exact { hcensus with components := nodup_addName hcensus.components localName }
      · exact
          { hcensus with
            components := nodup_addName hcensus.components localName
            aliasedImports := Entries.nodup_keys_put hcensus.aliasedImports _ _ }
  | assign variableName assignment =>
      exact
        { hcensus with
          components := nodup_addName hcensus.components variableName
          assignments := Entries.nodup_keys_put hcensus.assignments _ _ }
  | noteProperty line binding hspace =>
      exact
        { hcensus with
          components := nodup_addName (nodup_addName hcensus.components binding.1) binding.2 }
  | noteContext line context bindings =>
      rw [Census.noteContext, Census.addComponents_eq]
      exact { hcensus with components := nodup_foldl_addName hcensus.components _ }
  | array array holder hlisted =>
      cases holder with
      | none => exact { hcensus with }
      | some name => exact { hcensus with }
  | object object hnonempty hlisted =>
      cases hholder : object.holder with
      | none => exact { hcensus with }
      | some name => exact { hcensus with }
  | promote name => exact { hcensus with components := nodup_addName hcensus.components name }
  | _ => exact { hcensus with }

theorem step {next : Census} (hstep : Step census next) (hcensus : Tidy census) : Tidy next := by
  cases hstep with
  | edit hedit => exact hcensus.edit hedit
  | render name opening hrenders =>
      exact
        { hcensus with
          renderings := Entries.nodup_keys_put hcensus.renderings _ _
          props := Entries.nodup_keys_put hcensus.props _ _ }

theorem of_reachable (hreachable : Reachable census) : Tidy census :=
  hreachable.induction_on_steps empty fun _ _ => step

end Tidy

/-! ## What the report counts -/

/-- Two buckets of the same name, the second of which is no shorter. -/
def NoShorter (bucket bucket' : String × List Value) : Prop :=
  bucket'.1 = bucket.1 ∧ bucket.2.length ≤ bucket'.2.length

/-- The report of the second census counts no fewer imports, components and patterns, none of its
buckets is shorter, and no component is rendered less often. -/
structure ReportsNoLess (census census' : Census) : Prop where
  imports : census.report.summary.imports ≤ census'.report.summary.imports
  components : census.report.summary.components ≤ census'.report.summary.components
  usagePatterns : census.report.summary.usagePatterns ≤ census'.report.summary.usagePatterns
  importBuckets :
    List.Forall₂ NoShorter census.findings.importBuckets census'.findings.importBuckets
  usageBuckets : List.Forall₂ NoShorter census.findings.usageBuckets census'.findings.usageBuckets
  advancedBuckets :
    List.Forall₂ NoShorter census.findings.advancedBuckets census'.findings.advancedBuckets
  props : census.findings.props.length ≤ census'.findings.props.length
  counts : ∀ name, census.findings.renderingCount name ≤ census'.findings.renderingCount name

theorem length_le_of_subset_of_nodup {names names' : List String} (hsubset : names ⊆ names')
    (hnames : names.Nodup) : names.length ≤ names'.length :=
  (hnames.subperm hsubset).length_le

theorem length_le_of_keys_subset {α : Type} {table table' : Entries String α}
    (hkeys : table.keys ⊆ table'.keys) (htable : table.keys.Nodup) :
    table.length ≤ table'.length := by
  simpa [Entries.keys] using length_le_of_subset_of_nodup hkeys htable

/-- A census without repetitions reports no more than one that knows and has found at least as
much. -/
theorem Within.reportsNoLess {census census' : Census} (hwithin : Within census census')
    (htidy : Tidy census) : ReportsNoLess census census' := by
  have hfindings := hwithin.findings
  have hcomponents := length_le_of_subset_of_nodup hwithin.components htidy.components
  have haliased := length_le_of_keys_subset hfindings.aliasedImports htidy.aliasedImports
  have hrenderings := length_le_of_keys_subset hfindings.renderings htidy.renderings
  have hprops := length_le_of_keys_subset hfindings.props htidy.props
  have hassignments := length_le_of_keys_subset hfindings.assignments htidy.assignments
  obtain ⟨hdefault, hnamed, hnamespace, hdestructurings, hchoices, harrays, hobjects, hlookups,
    hcontexts, hlazy, hdynamic, hwrappings, hmemos, hforwarded, hportals, _⟩ := hfindings
  -- the summary counts names and entries, the buckets are compared one by one
  refine ⟨?_, ?_, ?_, ?_, ?_, ?_, hprops, hwithin.findings.counts⟩
  · simp only [Census.report]
    omega
  · simp only [Census.report]
    omega
  · simp only [Census.report, Findings.total]
    omega
  · simp [Findings.importBuckets, NoShorter, Entries.values, *]
  · simp [Findings.usageBuckets, NoShorter, Entries.values, *]
  · simp [Findings.advancedBuckets, NoShorter, *]

/-! ## A program is not looked at from below -/

/-- The context that the nearest node above gives, if there is one. -/
def contextUnder : Option Node → Context
  | some container => contextIn container.kind
  | none => .other

theorem elementContext_eq (opening : Site) :
    elementContext opening = contextUnder (wholeElement opening).container? := by
  unfold elementContext
  cases (wholeElement opening).container? <;> rfl

section Below

variable {root : Node} (hroot : root.kind = .program)

include hroot

theorem find?_not_isWrapper_append (above : List Node) :
    (above ++ [root]).find? (fun node => !node.kind.isWrapper) =
      (above.find? fun node => !node.kind.isWrapper).or (some root) := by
  rw [List.find?_append, List.find?_singleton, hroot]
  rfl

theorem elementContext_below_program (node : Node) (above : List Node) :
    elementContext ⟨node, above ++ [root]⟩ = elementContext ⟨node, above⟩ := by
  -- a program above everything gives no context, as nothing at all does
  have hcontext : ∀ above : List Node,
      contextUnder ((above ++ [root]).find? fun node => !node.kind.isWrapper) =
        contextUnder (above.find? fun node => !node.kind.isWrapper) := by
    intro above
    rw [find?_not_isWrapper_append hroot]
    cases above.find? fun node => !node.kind.isWrapper with
    | none => simp only [Option.none_or, contextUnder, hroot, contextIn]
    | some container => rfl
  rw [elementContext_eq, elementContext_eq, container?_wholeElement, container?_wholeElement]
  by_cases hopening : node.kind = .jsxOpeningElement
  · simp only [if_pos hopening]
    cases above with
    | nil => rfl
    | cons element rest => exact hcontext rest
  · simp only [if_neg hopening]
    exact hcontext above

theorem mappingVariable?_below_program (node : Node) (above : List Node) :
    mappingVariable? ⟨node, above ++ [root]⟩ = mappingVariable? ⟨node, above⟩ := by
  unfold mappingVariable? Site.container?
  rw [find?_not_isWrapper_append hroot]
  cases above.find? fun node => !node.kind.isWrapper with
  | none => simp [hroot]
  | some container => rfl

theorem noteLazy_below_program (census : Census) (node : Node) (above : List Node)
    (module : String) :
    census.noteLazy ⟨node, above ++ [root]⟩ module = census.noteLazy ⟨node, above⟩ module := by
  unfold Census.noteLazy Site.container?
  rw [find?_not_isWrapper_append hroot]
  cases above.find? fun node => !node.kind.isWrapper with
  | none => simp [hroot]
  | some container => rfl

theorem visitSite_below_program (progress : Progress) (node : Node) (above : List Node) :
    progress.visitSite ⟨node, above ++ [root]⟩ = progress.visitSite ⟨node, above⟩ := by
  unfold Progress.visitSite Progress.visitCall Progress.visitLazy Census.noteElement
    Census.noteArray Census.noteObject
  simp only [elementContext_below_program hroot, mappingVariable?_below_program hroot,
    noteLazy_below_program hroot]

/-- A walk below a program goes as if there were no program. -/
theorem foldl_visitedFrom_below_program (node : Node) (above : List Node) (progress : Progress) :
    (visitedFrom (above ++ [root]) node).foldl Progress.visitSite progress =
      (visitedFrom above node).foldl Progress.visitSite progress := by
  induction node using node_induction generalizing above progress with
  | step label children ih =>
      rw [visitedFrom, visitedFrom, List.foldl_cons, List.foldl_cons, visitSite_below_program hroot]
      split
      · rw [visitedAmong_eq_flatMap, visitedAmong_eq_flatMap, List.foldl_flatMap,
          List.foldl_flatMap]
        refine List.foldl_ext _ _ _ fun progress child hchild => ?_
        exact ih child (List.mem_filter.mp hchild).1 (⟨label, children⟩ :: above) progress
      · rfl

end Below

/-! ## Programs with more imports -/

/-- The import statements among several nodes. -/
def importsAmong (nodes : List Node) : List Node :=
  nodes.filter fun node => node.label.named && decide (node.kind = .importStatement)

/-- The nodes among several that are no import statements. -/
def othersAmong (nodes : List Node) : List Node :=
  nodes.filter fun node => !decide (node.kind = .importStatement)

/-- A visit to a program binds its imports, and then goes through its other statements. -/
theorem Progress.visit_program (progress : Progress) {program : Node}
    (hprogram : program.kind = .program) :
    progress.visit (Site.root program) =
      (visitedAmong [] (othersAmong program.children)).foldl Progress.visitSite
        (progress.update fun census =>
          (importsAmong program.children).foldl Census.noteImport census) := by
  have himports : progress.bindImports (Site.root program) =
      progress.update fun census =>
        (importsAmong program.children).foldl Census.noteImport census := by
    unfold Progress.bindImports Site.namedChildren Node.namedChildren importsAmong
    rw [List.filter_map, List.filter_filter]
    simp only [List.foldl_map, Function.comp_def, Progress.isImport, Bool.and_comm, Site.root]
  -- the second phase leaves out the imports
  have hlisted : ((Site.root program).namedChildren.filter fun site =>
      !Progress.isImport site).flatMap visited =
        visitedAmong [program] (othersAmong program.children) := by
    rw [visitedAmong_eq_flatMap, othersAmong, List.filter_filter]
    exact flatMap_visited_filter (fun kind => !decide (kind = .importStatement)) (Site.root program)
  have hvisit : progress.visit (Site.root program) =
      (progress.bindImports (Site.root program)).walkStatements (Site.root program) :=
    if_pos hprogram
  rw [hvisit, Progress.walkStatements_eq_foldl, himports, hlisted,
    visitedAmong_eq_flatMap, visitedAmong_eq_flatMap, List.foldl_flatMap, List.foldl_flatMap]
  exact List.foldl_ext _ _ _ fun progress statement _ =>
    foldl_visitedFrom_below_program hprogram statement [] progress

/-- The census of a program: its imports are bound, and then its other statements are visited. -/
theorem visit_program (census : Census) {program : Node} (hprogram : program.kind = .program) :
    census.visit program =
      ((visitedAmong [] (othersAmong program.children)).foldl Progress.visitSite
        ⟨(importsAmong program.children).foldl Census.noteImport census, []⟩).census := by
  rw [Census.visit, Progress.visit_program _ hprogram]
  rfl

/-- Statements with import statements put in between them.  The others may move to other lines and
get other numbers, and keep everything else. -/
inductive ImportsInserted (lineOf : Label → Nat) : List Node → List Node → Prop
  | nil : ImportsInserted lineOf [] []
  | keep {statement statement' : Node} {rest rest' : List Node}
      (hsame : unnumbered statement' = unnumbered (relined lineOf statement))
      (hrest : ImportsInserted lineOf rest rest') :
      ImportsInserted lineOf (statement :: rest) (statement' :: rest')
  | insert {statement : Node} {rest rest' : List Node} (hkind : statement.kind = .importStatement)
      (hrest : ImportsInserted lineOf rest rest') : ImportsInserted lineOf rest (statement :: rest')

/-- A program and the same program with more import statements, both with numbers that tell nodes
apart.  New lines are given by label; as no two nodes of the first program have the same label,
they may be any lines at all. -/
structure ImportsAdded (program program' : Node) : Prop where
  kind : program.kind = .program
  kind' : program'.kind = .program
  inserted : ∃ lineOf : Label → Nat, ImportsInserted lineOf program.children program'.children
  nodup : (numbers program).Nodup
  nodup' : (numbers program').Nodup

variable {lineOf : Label → Nat}

/-- What a kept statement is does not depend on its number or its line. -/
theorem named_and_kind_of_unnumbered_eq {statement statement' : Node}
    (hsame : unnumbered statement' = unnumbered (relined lineOf statement)) :
    statement'.label.named = statement.label.named ∧ statement'.kind = statement.kind := by
  have hlabel := label_of_unnumbered_eq hsame
  simp only [Label.mk.injEq, named_relined] at hlabel
  obtain ⟨_, hkind, _, _, _, hnamed, _⟩ := hlabel
  exact ⟨hnamed, hkind.trans (kind_relined lineOf statement)⟩

theorem noteImport_of_unnumbered_eq (census : Census) {statement statement' : Node}
    (hsame : unnumbered statement' = unnumbered statement)
    (hkind : statement.kind = .importStatement) :
    census.noteImport statement' = census.noteImport statement := by
  have halike : Alike (fun _ _ => True) statement statement' :=
    alike_of_unnumbered_eq hsame fun _ _ _ => trivial
  exact census.noteImport_alike halike hkind

/-- More import statements bring more names and more findings. -/
theorem Within.foldl_noteImport {census census' : Census} (hwithin : Within census census')
    {nodes nodes' : List Node} (hinserted : ImportsInserted lineOf nodes nodes') :
    Within ((importsAmong nodes).foldl Census.noteImport census)
      ((importsAmong nodes').foldl Census.noteImport census') := by
  unfold importsAmong
  -- along the statements; one that is put in is noted by the second run only
  induction hinserted generalizing census census' with
  | nil => exact hwithin
  | @keep statement statement' rest rest' hsame hrest ih =>
      obtain ⟨hnamed, hkind⟩ := named_and_kind_of_unnumbered_eq hsame
      rw [List.filter_cons, List.filter_cons, hnamed, hkind]
      split
      · next himport =>
        have hstatement : (relined lineOf statement).kind = .importStatement := by simp_all
        rw [List.foldl_cons, List.foldl_cons, noteImport_of_unnumbered_eq census' hsame hstatement]
        exact ih (hwithin.noteImport lineOf statement)
      · exact ih hwithin
  | @insert statement rest rest' hkind hrest ih =>
      rw [List.filter_cons]
      split
      · exact ih (hwithin.trans (Census.noteImport_edits census' statement).steps.within)
      · exact ih hwithin

/-- The other statements keep all but their numbers and lines. -/
theorem ImportsInserted.unnumberedAll_eq {nodes nodes' : List Node}
    (hinserted : ImportsInserted lineOf nodes nodes') :
    unnumberedAll (othersAmong nodes') =
      unnumberedAll (relinedAll lineOf (othersAmong nodes)) := by
  unfold othersAmong
  induction hinserted with
  | nil => rfl
  | @keep statement statement' rest rest' hsame hrest ih =>
      rw [List.filter_cons, List.filter_cons, (named_and_kind_of_unnumbered_eq hsame).2]
      split
      · exact congrArg₂ List.cons hsame ih
      · exact ih
  | @insert statement rest rest' hkind hrest ih =>
      rw [List.filter_cons_of_neg (by simp [hkind])]
      exact ih

theorem nodup_numbersAmong_others {program : Node} (hnumbers : (numbers program).Nodup) :
    (numbersAmong (othersAmong program.children)).Nodup := by
  obtain ⟨label, children⟩ := program
  rw [numbers] at hnumbers
  exact (numbersAmong_sublist List.filter_sublist).nodup (List.nodup_cons.mp hnumbers).2

/-- Walks from nodes that differ in their numbers only end in the same census. -/
theorem foldl_visitedAmong_of_unnumberedAll_eq {nodes nodes' : List Node}
    (hsame : unnumberedAll nodes' = unnumberedAll nodes) (hnodup : (numbersAmong nodes).Nodup)
    (hnodup' : (numbersAmong nodes').Nodup) (census : Census) :
    ((visitedAmong [] nodes').foldl Progress.visitSite ⟨census, []⟩).census =
      ((visitedAmong [] nodes).foldl Progress.visitSite ⟨census, []⟩).census := by
  have hpaired := biUnique_paired hnodup hnodup'
  have hmatched : Matched (Paired (numbersAmong nodes) (numbersAmong nodes')) .program nodes
      nodes' := matched_of_unnumberedAll_eq hsame fun _ _ hpair => hpair
  have hstart : ProgressAlike (Paired (numbersAmong nodes) (numbersAmong nodes')) ⟨census, []⟩
      ⟨census, []⟩ := ⟨rfl, by simp⟩
  rw [visitedAmong_eq, visitedAmong_eq]
  exact (ProgressAlike.visitedAmongKinds _ (fun _ _ _ => rfl) .nil .nil hmatched
    (fun node _ => walksAlike hpaired node) hstart).census

/-- A program with more import statements ends with at least as much. -/
theorem Within.visit_of_importsAdded {program program' : Node}
    (hadded : ImportsAdded program program') (census : Census) :
    Within (census.visit program) (census.visit program') := by
  obtain ⟨lineOf, hinserted⟩ := hadded.inserted
  have hnodup : (numbersAmong (relinedAll lineOf (othersAmong program.children))).Nodup := by
    rw [numbersAmong_relinedAll]
    exact nodup_numbersAmong_others hadded.nodup
  rw [visit_program census hadded.kind, visit_program census hadded.kind',
    foldl_visitedAmong_of_unnumberedAll_eq hinserted.unnumberedAll_eq hnodup
      (nodup_numbersAmong_others hadded.nodup')]
  -- what the imports leave for the second phase
  have hphase : ProgressWithin ⟨(importsAmong program.children).foldl Census.noteImport census, []⟩
      ⟨(importsAmong program'.children).foldl Census.noteImport census, []⟩ :=
    ⟨(Within.refl census).foldl_noteImport hinserted, rfl⟩
  have hwalk := hphase.foldl_visitSite lineOf (visitedAmong [] (othersAmong program.children))
  rw [← visitedAmong_relined] at hwalk
  exact hwalk.census

/-- **Knowing more names never loses findings.**  Walks through the same tree from two censuses, the
second of which knows at least the names of the first and has found at least as much, end in two
such censuses.  In particular, import statements put into a program, whatever lines they move its
other statements to, lower no number of its report, shorten no bucket and take no rendering
away. -/
theorem findings_kept_by_known_names :
    (∀ (census census' : Census) (tree : Node), Within census census' →
      Within (census.visit tree) (census'.visit tree)) ∧
    ∀ program program' : Node, ImportsAdded program program' →
      ReportsNoLess (Census.empty.visit program) (Census.empty.visit program') := by
  refine ⟨fun _ _ tree hwithin => hwithin.visit tree, fun program program' hadded => ?_⟩
  have hreachable : Reachable (Census.empty.visit program) :=
    Reachable.visit .empty [] (Site.root program)
  exact (Within.visit_of_importsAdded hadded Census.empty).reportsNoLess
    (Tidy.of_reachable hreachable)

/-- `import A from "m"` on line 1. -/
def defaultImport : Node :=
  namedNode 1 1 .importStatement "import A from \"m\"" []
    [namedNode 2 1 .importClause "A" [] [namedNode 3 1 .identifier "A" [] []],
     namedNode 4 1 .stringLiteral "\"m\"" [.source] []]

/-- `<A/>` on a line, the nodes of which have the number `start` and the next one. -/
def tagOfA (start line : Nat) : Node :=
  namedNode start line .jsxSelfClosingElement "<A/>" []
    [namedNode (start + 1) line .identifier "A" [.name] []]

/-- `<A/>` where nothing says what `A` is. -/
def tagAlone : Node :=
  namedNode 0 1 .program "<A/>" [] [tagOfA 1 1]

/-- The same tag on the line after an import of `A`. -/
def tagBehindImport : Node :=
  namedNode 0 1 .program "import A from \"m\"\n<A/>" [] [defaultImport, tagOfA 5 2]

/-- An import in front of a tag moves the tag to another line, gives it another number, and lets it
be found. -/
theorem reportsNoLess_tagBehindImport :
    Within Census.empty (Census.empty.noteImport defaultImport) ∧
      Within (Census.empty.visit tagAlone)
        ((Census.empty.noteImport defaultImport).visit tagAlone) ∧
      ImportsAdded tagAlone tagBehindImport ∧
      ReportsNoLess (Census.empty.visit tagAlone) (Census.empty.visit tagBehindImport) ∧
      (Census.empty.visit tagAlone).findings.renderingCount "A" = 0 ∧
      (Census.empty.visit tagBehindImport).findings.renderingCount "A" = 1 := by
  have hwithin : Within Census.empty (Census.empty.noteImport defaultImport) :=
    (Census.noteImport_edits _ _).steps.within
  have hadded : ImportsAdded tagAlone tagBehindImport := by
    refine ⟨rfl, rfl, ⟨fun label => label.line + 1, .insert rfl (.keep rfl .nil)⟩, ?_, ?_⟩
    · have hnumbers : numbers tagAlone = List.range 3 := by cbv
      exact hnumbers ▸ List.nodup_range
    · have hnumbers : numbers tagBehindImport = List.range 7 := by cbv
      exact hnumbers ▸ List.nodup_range
  obtain ⟨hkept, hreports⟩ := findings_kept_by_known_names
  exact ⟨hwithin, hkept _ _ tagAlone hwithin, hadded, hreports _ _ hadded, by cbv, by cbv⟩

end ComponentCensus.Usage
