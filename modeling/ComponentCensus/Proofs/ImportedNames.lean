import ComponentCensus.Proofs.Edits
import Mathlib.Data.List.TakeWhile

/-!
# No rendering of an imported component is lost or counted twice

A tag refers to an import when its name, or the part before the first dot, is bound by an import
statement at the top of the program (`RefersToImport`).  For such a name the census lists exactly
the places of the tags with that name, in document order.

## Main results

* `occurrences_of_imported_name` : a name that refers to an import has an entry exactly if there is
  a tag with that name, and the entry lists the places of all such tags.
* `bindImports_reaches` : what an import statement brings about holds when the imports are bound.

## Strategy

* Imports are bound before anything else is visited, so a name that refers to an import renders
  from the first tag on (`renders_of_refersToImport`), and names are never taken back
  (`Steps.renders`).
* While a name renders, a visit to a tag with that name adds its place
  (`occurrencesOf?_visitSite_of_isTagOf`), and a visit to anything else leaves the entry of the
  name alone (`occurrencesOf?_visitSite_of_not_isTagOf`).
* The rest is induction along the listing of the visited sites (`occurrencesOf?_foldl`).
-/

namespace ComponentCensus.Usage

open ComponentCensus.Syntax ComponentCensus.Text

/-! ## Names that import statements bind -/

/-- The module that an import statement names. -/
def importSource? (statement : Node) : Option String :=
  (statement.child? .source).bind Node.stringValue?

/-- The local name of a specifier between braces: the one behind `as`, or else the imported one. -/
def specifierLocal? (specifier : Node) : Option String :=
  (specifier.child? .name).map fun imported =>
    match specifier.child? .alias with
    | some renamed => renamed.text
    | none => nameOf imported

/-- `BindsComponent statement name` says that an import statement binds `name` by a default import,
by a specifier between braces, or by requiring a module. -/
inductive BindsComponent (statement : Node) : String → Prop
  | byDefault {clause part : Node} (hsource : (importSource? statement).isSome = true)
      (hclause : clause ∈ statement.contents) (hclauseKind : clause.kind = .importClause)
      (hpart : part ∈ clause.contents) (hpartKind : part.kind = .identifier) :
      BindsComponent statement part.text
  | bySpecifier {clause part specifier : Node} {name : String}
      (hsource : (importSource? statement).isSome = true)
      (hclause : clause ∈ statement.contents) (hclauseKind : clause.kind = .importClause)
      (hpart : part ∈ clause.contents) (hpartKind : part.kind = .namedImports)
      (hspecifier : specifier ∈ part.contents) (hspecifierKind : specifier.kind = .importSpecifier)
      (hname : specifierLocal? specifier = some name) : BindsComponent statement name
  | byRequire {clause name : Node} (hclause : clause ∈ statement.contents)
      (hclauseKind : clause.kind = .importRequireClause)
      (hname : clause.firstContent? = some name)
      (hsource : (importSource? clause).isSome = true) : BindsComponent statement name.text

/-- `BindsNamespace statement name` says that an import statement binds `name` to all that a module
exports. -/
inductive BindsNamespace (statement : Node) : String → Prop
  | byStar {clause part name : Node} (hsource : (importSource? statement).isSome = true)
      (hclause : clause ∈ statement.contents) (hclauseKind : clause.kind = .importClause)
      (hpart : part ∈ clause.contents) (hpartKind : part.kind = .namespaceImport)
      (hname : part.firstContent? = some name) : BindsNamespace statement name.text

/-- Whether the name of a tag goes back to an import at the top of a program: the name itself or the
part before its first dot is an imported component, or the part before its first dot is a
namespace. -/
def RefersToImport (program : Node) (name : String) : Prop :=
  ∃ statement ∈ program.namedChildren, statement.kind = .importStatement ∧
    (BindsComponent statement name ∨ BindsComponent statement (beforeFirst '.' name) ∨
      hasChar '.' name = true ∧ BindsNamespace statement (beforeFirst '.' name))

/-- What folding reaches at one item and keeps at all others, it reaches in the end. -/
theorem foldl_reaches {α σ : Type} {goal : σ → Prop} {change : σ → α → σ} {items : List α}
    {item : α} (hitem : item ∈ items) (hreaches : ∀ state, goal (change state item))
    (hkeeps : ∀ state other, goal state → goal (change state other)) (state : σ) :
    goal (items.foldl change state) := by
  have hkept : ∀ (rest : List α) (state : σ), goal state → goal (rest.foldl change state) := by
    intro rest
    induction rest with
    | nil => exact fun _ hstate => hstate
    | cons other rest ih => exact fun state hstate => ih _ (hkeeps state other hstate)
  induction items generalizing state with
  | nil => simp at hitem
  | cons first rest ih =>
      rcases List.mem_cons.mp hitem with rfl | hrest
      · exact hkept rest _ (hreaches state)
      · exact ih hrest _

namespace Census

theorem mem_components_of_edits {census next : Census} (hedits : Edits census next) {name : String}
    (hname : name ∈ census.components) : name ∈ next.components :=
  hedits.steps.names_subset.1 hname

theorem mem_namespaces_of_edits {census next : Census} (hedits : Edits census next) {name : String}
    (hname : name ∈ census.namespaces) : name ∈ next.namespaces :=
  hedits.steps.names_subset.2 hname

theorem mem_bindNamed (census : Census) (source : String) (line : Nat)
    (imported localName : String) :
    localName ∈ (census.bindNamed source line imported localName).components := by
  unfold bindNamed
  dsimp only
  split <;> simp

/-- Binding a specifier makes its local name a component. -/
theorem mem_bindSpecifier {specifier : Node} {name : String} (source : String) (line : Nat)
    (hkind : specifier.kind = .importSpecifier) (hname : specifierLocal? specifier = some name)
    (census : Census) : name ∈ (bindSpecifier source line census specifier).components := by
  obtain ⟨imported, himported, hlocal⟩ := Option.map_eq_some_iff.mp hname
  simp only [bindSpecifier, hkind, himported, if_true]
  cases hrenamed : specifier.child? .alias with
  | none =>
      rw [hrenamed] at hlocal
      exact hlocal ▸ mem_bindNamed ..
  | some renamed =>
      rw [hrenamed] at hlocal
      exact hlocal ▸ mem_bindNamed ..

/-- Importing a statement makes the names it binds components. -/
theorem mem_noteImport_components {statement : Node} {name : String}
    (hbinds : BindsComponent statement name) (census : Census) :
    name ∈ (census.noteImport statement).components := by
  have hclauses : ∀ (state : Census) (other : Node), name ∈ state.components →
      name ∈ (bindClause (importSource? statement) statement.line state other).components :=
    fun state other => mem_components_of_edits (bindClause_edits _ _ state other)
  have hparts : ∀ (source : String) (state : Census) (other : Node), name ∈ state.components →
      name ∈ (bindPart source statement.line state other).components :=
    fun source state other => mem_components_of_edits (bindPart_edits _ _ state other)
  cases hbinds with
  | @byDefault clause part hsource hclause hclauseKind hpart hpartKind =>
      obtain ⟨source, hsource⟩ := Option.isSome_iff_exists.mp hsource
      refine foldl_reaches hclause (fun state => ?_) hclauses census
      simp only [bindClause, hclauseKind, hsource]
      refine foldl_reaches hpart (fun state => ?_) (hparts source) state
      simp [bindPart, hpartKind, bindDefault]
  | @bySpecifier clause part specifier name hsource hclause hclauseKind hpart hpartKind hspecifier
      hspecifierKind hname =>
      obtain ⟨source, hsource⟩ := Option.isSome_iff_exists.mp hsource
      refine foldl_reaches hclause (fun state => ?_) hclauses census
      simp only [bindClause, hclauseKind, hsource]
      refine foldl_reaches hpart (fun state => ?_) (hparts source) state
      simp only [bindPart, hpartKind]
      exact foldl_reaches hspecifier (mem_bindSpecifier _ _ hspecifierKind hname)
        (fun state other => mem_components_of_edits (bindSpecifier_edits _ _ state other)) state
  | @byRequire clause part hclause hclauseKind hname hsource =>
      obtain ⟨source, hsource⟩ := Option.isSome_iff_exists.mp hsource
      refine foldl_reaches hclause (fun state => ?_) hclauses census
      unfold importSource? at hsource
      simp [bindClause, hclauseKind, hname, hsource, bindDefault]

/-- Importing a statement makes the names it binds to whole modules namespaces. -/
theorem mem_noteImport_namespaces {statement : Node} {name : String}
    (hbinds : BindsNamespace statement name) (census : Census) :
    name ∈ (census.noteImport statement).namespaces := by
  cases hbinds with
  | @byStar clause part namespaceName hsource hclause hclauseKind hpart hpartKind hname =>
      obtain ⟨source, hsource⟩ := Option.isSome_iff_exists.mp hsource
      refine foldl_reaches hclause (fun state => ?_)
        (fun state other => mem_namespaces_of_edits (bindClause_edits _ _ state other)) census
      simp only [importSource?] at hsource
      simp only [bindClause, hclauseKind, hsource]
      refine foldl_reaches hpart (fun state => ?_)
        (fun state other => mem_namespaces_of_edits (bindPart_edits _ _ state other)) state
      simp [bindPart, hpartKind, hname, bindNamespace]

end Census

/-! ## The first phase -/

theorem beforeFirst_of_not_hasChar {sep : Char} {s : String} (hnone : ¬ hasChar sep s = true) :
    beforeFirst sep s = s := by
  have hall : ∀ c ∈ s.toList, decide (c ≠ sep) = true := by
    intro c hc
    simp only [decide_eq_true_eq]
    rintro rfl
    exact hnone (List.contains_iff_mem.mpr hc)
  rw [beforeFirst, List.takeWhile_eq_self_iff.mpr hall, String.ofList_toList]

/-- Once the imports of a program are bound, what one of them brings about holds, if none of them
takes it back. -/
theorem bindImports_reaches {holds : Census → Prop} {program statement : Node}
    (hstatement : statement ∈ program.namedChildren) (hkind : statement.kind = .importStatement)
    (hreaches : ∀ census : Census, holds (census.noteImport statement))
    (hkeeps : ∀ (census : Census) (other : Node), holds census → holds (census.noteImport other))
    (progress : Progress) : holds (progress.bindImports (Site.root program)).census := by
  have hsite : (⟨statement, [program]⟩ : Site) ∈
      (Site.root program).namedChildren.filter Progress.isImport := by
    refine List.mem_filter.mpr ⟨List.mem_map.mpr ⟨statement, hstatement, rfl⟩, ?_⟩
    simp [Progress.isImport, hkind]
  exact foldl_reaches hsite hreaches (fun census other => hkeeps census other.node) progress.census

/-- When the imports of a program are bound, a name that refers to one of them renders. -/
theorem renders_of_refersToImport {program : Node} {name : String}
    (himport : RefersToImport program name) (progress : Progress) :
    (progress.bindImports (Site.root program)).census.renders name = true := by
  obtain ⟨statement, hstatement, hkind, hbinds⟩ := himport
  have hkeeps : ∀ (census : Census) (other : Node), census.renders name = true →
      (census.noteImport other).renders name = true := by
    intro census other hrenders
    exact (Census.noteImport_edits census other).steps.renders hrenders
  -- the statement itself brings the name about; those after it take nothing back
  have hreaches : ∀ census : Census, (census.noteImport statement).renders name = true := by
    intro census
    simp only [Census.renders, Census.knows, Bool.or_eq_true, Bool.and_eq_true,
      Census.hasComponent_iff, Census.hasNamespace_iff]
    rcases hbinds with hname | hroot | ⟨hdotted, hroot⟩
    · exact Or.inl (Census.mem_noteImport_components hname census)
    · by_cases hdotted : hasChar '.' name = true
      · exact Or.inr ⟨hdotted, Or.inl (Census.mem_noteImport_components hroot census)⟩
      · -- without a dot the part before it is the whole name
        rw [beforeFirst_of_not_hasChar hdotted] at hroot
        exact Or.inl (Census.mem_noteImport_components hroot census)
    · exact Or.inr ⟨hdotted, Or.inr (Census.mem_noteImport_namespaces hroot census)⟩
  exact @bindImports_reaches (fun census => census.renders name = true) _ _ hstatement hkind
    hreaches hkeeps progress

theorem bindImports_renderings (progress : Progress) (root : Site) :
    (progress.bindImports root).census.findings.renderings =
      progress.census.findings.renderings :=
  (edits_foldl_of_forall (fun census (site : Site) => Census.noteImport_edits census site.node) _
    progress.census).renderings_eq

/-! ## The second phase -/

/-- Whether a site is a tag with a name. -/
def isTagOf (name : String) (site : Site) : Bool :=
  isTag site.node.kind && elementName? site.node = some name

/-- The place of a tag: its line, and where its element stands. -/
def placeOf (site : Site) : Occurrence :=
  ⟨site.node.line, elementContext site⟩

/-- The places that the census lists for a name, if it has an entry. -/
def occurrencesOf? (census : Census) (name : String) : Option (List Occurrence) :=
  (census.findings.renderings.get? name).map (·.occurrences)

/-- More places for a name: its entry is made with the first of them. -/
def extend (listed : Option (List Occurrence)) : List Occurrence → Option (List Occurrence)
  | [] => listed
  | place :: places => some (listed.getD [] ++ place :: places)

theorem extend_extend (listed : Option (List Occurrence)) (first second : List Occurrence) :
    extend (extend listed first) second = extend listed (first ++ second) := by
  cases first <;> cases second <;> simp [extend]

theorem occurrencesOf?_addRendering_self (census : Census) (name : String)
    (occurrence : Occurrence) (summary : PropsSummary) :
    occurrencesOf? (census.addRendering name occurrence summary) name =
      extend (occurrencesOf? census name) [occurrence] := by
  simp only [occurrencesOf?, Census.addRendering, Census.record_findings, Entries.get?_put_self]
  cases census.findings.renderings.get? name <;> rfl

theorem occurrencesOf?_addRendering_other {census : Census} {name other : String}
    (occurrence : Occurrence) (summary : PropsSummary) (hne : name ≠ other) :
    occurrencesOf? (census.addRendering other occurrence summary) name =
      occurrencesOf? census name := by
  simp only [occurrencesOf?, Census.addRendering, Census.record_findings,
    Entries.get?_put_other _ _ hne]

theorem occurrencesOf?_of_edits {census next : Census} (hedits : Edits census next)
    (name : String) : occurrencesOf? next name = occurrencesOf? census name := by
  rw [occurrencesOf?, hedits.renderings_eq, occurrencesOf?]

/-- A visit to a tag with a name that renders lists its place. -/
theorem occurrencesOf?_visitSite_of_isTagOf {progress : Progress} {name : String} {site : Site}
    (hrenders : progress.census.renders name = true) (hsite : isTagOf name site = true) :
    occurrencesOf? (progress.visitSite site).census name =
      extend (occurrencesOf? progress.census name) [placeOf site] := by
  obtain ⟨htag, hname⟩ : isTag site.node.kind = true ∧ elementName? site.node = some name := by
    simpa [isTagOf] using hsite
  rw [Progress.visitSite_of_isTag progress htag]
  simp only [Progress.update, Census.noteElement, hname, hrenders, if_true]
  rw [occurrencesOf?_of_edits (Census.promoteMember_edits ..), occurrencesOf?_addRendering_self]
  rfl

/-- A visit to any other site leaves the places of a name alone. -/
theorem occurrencesOf?_visitSite_of_not_isTagOf (progress : Progress) {name : String} {site : Site}
    (hsite : isTagOf name site = false) :
    occurrencesOf? (progress.visitSite site).census name =
      occurrencesOf? progress.census name := by
  by_cases htag : isTag site.node.kind = true
  · have hname : elementName? site.node ≠ some name := by simpa [isTagOf, htag] using hsite
    rw [Progress.visitSite_of_isTag progress htag]
    simp only [Progress.update, Census.noteElement]
    split
    · rfl
    · next other hother =>
      -- a tag of another name writes to another entry
      have hne : name ≠ other := by
        rintro rfl
        exact hname hother
      split
      · rw [occurrencesOf?_of_edits (Census.promoteMember_edits ..),
          occurrencesOf?_addRendering_other _ _ hne]
      · rfl
  · exact occurrencesOf?_of_edits
      (Progress.visitSite_edits progress (Bool.eq_false_iff.mpr htag)) name

/-- While a name renders, a run of visits lists the places of the tags with that name, in the order
of the visits. -/
theorem occurrencesOf?_foldl {name : String} (sites : List Site) {progress : Progress}
    (hrenders : progress.census.renders name = true) :
    occurrencesOf? (sites.foldl Progress.visitSite progress).census name =
      extend (occurrencesOf? progress.census name)
        ((sites.filter (isTagOf name)).map placeOf) := by
  induction sites generalizing progress with
  | nil => rfl
  | cons site rest ih =>
      -- the name renders all along
      have hnext : (progress.visitSite site).census.renders name = true :=
        (Progress.visitSite_steps progress site).renders hrenders
      rw [List.foldl_cons, ih hnext]
      by_cases hsite : isTagOf name site = true
      · rw [occurrencesOf?_visitSite_of_isTagOf hrenders hsite, extend_extend,
          List.filter_cons_of_pos hsite]
        rfl
      · rw [occurrencesOf?_visitSite_of_not_isTagOf progress (Bool.eq_false_iff.mpr hsite),
          List.filter_cons_of_neg hsite]

/-! ## Both phases together -/

/-- Leaving out the import statements at the top leaves out no tag. -/
theorem filter_visited_statements (name : String) (sites : List Site) :
    ((sites.filter fun site => !Progress.isImport site).flatMap visited).filter (isTagOf name) =
      (sites.flatMap visited).filter (isTagOf name) := by
  induction sites with
  | nil => rfl
  | cons site rest ih =>
      by_cases himport : Progress.isImport site = true
      · have hkind : site.node.kind = .importStatement := of_decide_eq_true himport
        -- an import statement is not entered, and it is no tag
        have hvisited : visited site = [site] :=
          visited_eq_of_not_isEntered (by rw [hkind]; rfl)
        have hnone : isTagOf name site = false := by simp [isTagOf, hkind, isTag]
        rw [List.filter_cons_of_neg (by simp [himport]), ih, List.flatMap_cons, hvisited,
          List.filter_append]
        simp [hnone]
      · rw [List.filter_cons_of_pos (by simpa using himport), List.flatMap_cons, List.flatMap_cons,
          List.filter_append, List.filter_append, ih]

/-- The tags below a program are those of its statements. -/
theorem filter_visited_program {program : Node} (hprogram : program.kind = .program)
    (name : String) :
    (visited (Site.root program)).filter (isTagOf name) =
      ((Site.root program).namedChildren.flatMap visited).filter (isTagOf name) := by
  have hkind : (Site.root program).node.kind = .program := hprogram
  have hnone : isTagOf name (Site.root program) = false := by simp [isTagOf, hkind, isTag]
  rw [visited_eq_of_isEntered (by rw [hkind]; rfl), List.filter_cons_of_neg (by simp [hnone])]

/-- The census of a program lists for a name that refers to an import the places of all tags with
that name. -/
theorem occurrencesOf?_visit {program : Node} (hprogram : program.kind = .program) {name : String}
    (himport : RefersToImport program name) :
    occurrencesOf? (Census.empty.visit program) name =
      extend none (((visited (Site.root program)).filter (isTagOf name)).map placeOf) := by
  have hrenders := renders_of_refersToImport himport ⟨Census.empty, []⟩
  have hnone : occurrencesOf? ((Progress.mk Census.empty []).bindImports
      (Site.root program)).census name = none := by
    rw [occurrencesOf?, bindImports_renderings]
    rfl
  have hvisit : (Progress.mk Census.empty []).visit (Site.root program) =
      ((Progress.mk Census.empty []).bindImports (Site.root program)).walkStatements
        (Site.root program) := if_pos hprogram
  rw [Census.visit, hvisit, Progress.walkStatements_eq_foldl, occurrencesOf?_foldl _ hrenders,
    hnone, filter_visited_statements, filter_visited_program hprogram]

/-- **Renderings of imported components.**  In the census of a program, a tag name that refers to
something imported has an entry exactly when a tag with that name is reached, and the entry lists
the places of all these tags in document order.  No tag is listed twice, as long as nodes are told
apart by their numbers. -/
theorem occurrences_of_imported_name {program : Node} (hprogram : program.kind = .program)
    {name : String} (himport : RefersToImport program name) :
    ((Census.empty.visit program).findings.renderings.has name = true ↔
        ∃ site, Reached (Site.root program) site ∧ isTagOf name site = true) ∧
      (∀ rendering, (Census.empty.visit program).findings.renderings.get? name = some rendering →
        rendering.occurrences =
          ((visited (Site.root program)).filter (isTagOf name)).map placeOf) ∧
      ((numbers program).Nodup → ((visited (Site.root program)).filter (isTagOf name)).Nodup) := by
  have hlisted := occurrencesOf?_visit hprogram himport
  have hreached : (visited (Site.root program)).filter (isTagOf name) ≠ [] ↔
      ∃ site, Reached (Site.root program) site ∧ isTagOf name site = true := by
    simp only [← mem_visited_iff, ← List.mem_filter]
    exact ⟨List.exists_mem_of_ne_nil _, fun ⟨_, hmem⟩ => List.ne_nil_of_mem hmem⟩
  refine ⟨?_, ?_, ?_⟩
  · rw [← hreached, Entries.has, ← Option.isSome_map (f := Rendering.occurrences)]
    show (occurrencesOf? (Census.empty.visit program) name).isSome = true ↔ _
    rw [hlisted]
    cases (visited (Site.root program)).filter (isTagOf name) <;> simp [extend]
  · intro rendering hget
    rw [occurrencesOf?, hget] at hlisted
    cases htags : (visited (Site.root program)).filter (isTagOf name) with
    | nil => simp [htags, extend] at hlisted
    | cons first rest => simpa [htags, extend] using hlisted
  · intro hnumbers
    exact (@nodup_visited (Site.root program) hnumbers).filter _

/-- `<A><A/></A>` on line 1, and below it `import A from "m"` on line 2. -/
def renderedAboveImport : Node :=
  namedNode 0 1 .program "<A><A/></A>\nimport A from \"m\"" []
    [namedNode 1 1 .jsxElement "<A><A/></A>" []
      [namedNode 2 1 .jsxOpeningElement "<A>" [] [namedNode 3 1 .identifier "A" [.name] []],
       namedNode 4 1 .jsxSelfClosingElement "<A/>" [] [namedNode 5 1 .identifier "A" [.name] []],
       namedNode 6 1 .jsxClosingElement "</A>" [] [namedNode 7 1 .identifier "A" [.name] []]],
     namedNode 8 2 .importStatement "import A from \"m\"" []
      [namedNode 9 2 .importClause "A" [] [namedNode 10 2 .identifier "A" [] []],
       namedNode 11 2 .stringLiteral "\"m\"" [.source] []]]

theorem refersToImport_renderedAboveImport : RefersToImport renderedAboveImport "A" := by
  refine ⟨_, List.mem_cons_of_mem _ (List.mem_singleton_self _), rfl, Or.inl ?_⟩
  exact @BindsComponent.byDefault _
    (namedNode 9 2 .importClause "A" [] [namedNode 10 2 .identifier "A" [] []])
    (namedNode 10 2 .identifier "A" [] []) (by cbv) (List.mem_cons_self ..) rfl
    (List.mem_cons_self ..) rfl

/-- Both tags above the import are listed, and the closing tag is not. -/
theorem occurrences_of_name_imported_below :
    renderedAboveImport.kind = .program ∧ RefersToImport renderedAboveImport "A" ∧
      ∃ rendering, (Census.empty.visit renderedAboveImport).findings.renderings.get? "A" =
          some rendering ∧
        rendering.occurrences = [⟨1, .other⟩, ⟨1, .jsx⟩] := by
  have himport := refersToImport_renderedAboveImport
  obtain ⟨hentry, hoccurrences, _⟩ := occurrences_of_imported_name rfl himport
  have hplaces : ((visited (Site.root renderedAboveImport)).filter (isTagOf "A")).map placeOf =
      [⟨1, .other⟩, ⟨1, .jsx⟩] := by cbv
  have htag : ∃ site, Reached (Site.root renderedAboveImport) site ∧ isTagOf "A" site = true := by
    obtain ⟨site, hsite, _⟩ := List.mem_map.mp (hplaces ▸ List.mem_cons_self ..)
    exact ⟨site, mem_visited_iff.mp (List.mem_filter.mp hsite).1, (List.mem_filter.mp hsite).2⟩
  obtain ⟨rendering, hget⟩ := Option.isSome_iff_exists.mp (hentry.mpr htag)
  exact ⟨rfl, himport, rendering, hget, (hoccurrences rendering hget).trans hplaces⟩

end ComponentCensus.Usage
