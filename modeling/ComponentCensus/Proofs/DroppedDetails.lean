import ComponentCensus.Proofs.ImportedNames
import ComponentCensus.Proofs.Merging
import ComponentCensus.Proofs.Renderings

/-!
# Where the complexity of an entry comes from

An entry of the ledger is marked as complex when an attribute of one of its tags is complex.  The
mark is joined by every merge, but a detail is dropped by a merge when its name and its type are
listed, and these two do not always tell whether a value is complex: calls and conditionals are
complex, member chains and other expressions are not, and all of them are of the type `expression`.

## Main results

* `complexity_listed_or_dropped` : the mark of an entry is explained by a detail that the entry
  lists, or by one that was dropped for an expression of the same name.
* `complexity_not_listed` : an entry with the mark, all of whose details are plain.

## Strategy

* For every type but that of expressions, the type tells whether a value is complex
  (`PropDetail.Graded`), so that a detail with the same name and type is complex as well.
* The tags of an entry are those that it collected (`Rendering.Collects`): each entry is the merge
  of its tags in the order of their visits, which every visit keeps (`collectsTags_of_reachable`).
* What a merge says of many summaries is then a matter of the merge alone
  (`complex_listed_or_dropped`).
-/

namespace ComponentCensus.Usage

open ComponentCensus.Syntax ComponentCensus.Text

/-! ## What the type of a detail tells -/

/-- The types whose values are always complex. -/
def complexTypes : List String :=
  ["object", "array", "spread"]

/-- A detail whose type tells whether it is complex, unless that is any expression. -/
def PropDetail.Graded (detail : PropDetail) : Prop :=
  detail.type = "expression" ∨ (detail.isComplex = true ↔ detail.type ∈ complexTypes)

theorem graded_spreadDetail : PropsSummary.spreadDetail.Graded :=
  Or.inr (by decide)

theorem expressionType_cases (kind : Kind) :
    expressionType kind = "expression" ∨
      (isComplexKind kind = true ↔ expressionType kind ∈ complexTypes) := by
  unfold expressionType
  split
  case h_12 => exact Or.inl rfl
  all_goals exact Or.inr (by decide)

theorem propType_cases (value : Option Node) :
    propType value = "expression" ∨
      (isComplexValue value = true ↔ propType value ∈ complexTypes) := by
  unfold propType isComplexValue
  split
  · exact Or.inr (by decide)
  · next value =>
    split
    · next hkind =>
      rw [hkind]
      exact Or.inr (by simp [complexTypes])
    · next hkind =>
      split
      · next inner hinner =>
        simpa [hkind, hinner] using expressionType_cases inner.kind
      · exact Or.inl rfl
    · exact Or.inl rfl

theorem graded_attributeDetail (name : String) (value : Option Node) :
    (attributeDetail name value).Graded :=
  propType_cases value

/-- Two graded details of one key, of which one is complex, are expressions. -/
theorem PropDetail.Graded.type_eq_expression {listed detail : PropDetail} (hlisted : listed.Graded)
    (hdetail : detail.Graded) (hkey : listed.key = detail.key) (hplain : listed.isComplex = false)
    (hcomplex : detail.isComplex = true) : detail.type = "expression" := by
  have htype : listed.type = detail.type := congrArg Prod.snd hkey
  rcases hdetail with hexpression | hdetail
  · exact hexpression
  · rcases hlisted with hexpression | hlisted
    · exact htype ▸ hexpression
    · -- the type would make the listed detail complex too
      have hboth : listed.isComplex = true := by
        rw [hlisted, htype]
        exact hdetail.mp hcomplex
      rw [hplain] at hboth
      cases hboth

/-! ## Summaries of one element and of several -/

/-- A summary whose mark is that of its details, and whose details are graded. -/
structure PropsSummary.Explained (summary : PropsSummary) : Prop where
  graded : ∀ detail ∈ summary.details, detail.Graded
  complex_iff : summary.hasComplexProps = true ↔
    ∃ detail ∈ summary.details, detail.isComplex = true

/-- The attributes of one element are all listed, so they explain its mark. -/
theorem explained_propsOf (opening : Node) : (propsOf opening).Explained := by
  apply propsOf_induction
  · constructor <;> simp
  · intro summary hsummary
    constructor
    · intro detail hdetail
      rcases List.mem_append.mp hdetail with hold | hnew
      · exact hsummary.graded detail hold
      · rw [List.mem_singleton.mp hnew]
        exact graded_spreadDetail
    · simp [PropsSummary.addSpread, PropsSummary.spreadDetail]
  · intro summary name value hsummary
    constructor
    · intro detail hdetail
      rcases List.mem_append.mp hdetail with hold | hnew
      · exact hsummary.graded detail hold
      · rw [List.mem_singleton.mp hnew]
        exact graded_attributeDetail name value
    · simp [PropsSummary.addProp, hsummary.complex_iff, or_and_right, exists_or]

/-- Summaries merged into a first one, in order. -/
def mergeAll (first : PropsSummary) (later : List PropsSummary) : PropsSummary :=
  later.foldl PropsSummary.merge first

section MergeAll

variable {first : PropsSummary} {later : List PropsSummary}

/-- What merges only take over comes from one of the summaries. -/
theorem exists_mem_of_mergeAll (holds : PropsSummary → Prop)
    (hmerge : ∀ a b, holds (a.merge b) → holds a ∨ holds b)
    (hall : holds (mergeAll first later)) : ∃ summary ∈ first :: later, holds summary := by
  induction later generalizing first with
  | nil => exact ⟨first, List.mem_singleton_self first, hall⟩
  | cons next rest ih =>
      obtain ⟨summary, hsummary, hholds⟩ := ih hall
      rcases List.mem_cons.mp hsummary with rfl | hrest
      · rcases hmerge first next hholds with hfirst | hnext
        · exact ⟨first, List.mem_cons_self, hfirst⟩
        · exact ⟨next, List.mem_cons_of_mem _ List.mem_cons_self, hnext⟩
      · exact ⟨summary, List.mem_cons_of_mem _ (List.mem_cons_of_mem _ hrest), hholds⟩

/-- What merges take over from both sides reaches the end from every summary. -/
theorem mergeAll_of_mem (holds : PropsSummary → Prop)
    (hmerge : ∀ a b, holds a ∨ holds b → holds (a.merge b))
    {summary : PropsSummary} (hsummary : summary ∈ first :: later) (hholds : holds summary) :
    holds (mergeAll first later) := by
  induction later generalizing first summary with
  | nil => exact List.mem_singleton.mp hsummary ▸ hholds
  | cons next rest ih =>
      show holds (mergeAll (first.merge next) rest)
      rcases List.mem_cons.mp hsummary with rfl | hlater
      · exact ih List.mem_cons_self (hmerge _ _ (Or.inl hholds))
      · rcases List.mem_cons.mp hlater with rfl | hrest
        · exact ih List.mem_cons_self (hmerge _ _ (Or.inr hholds))
        · exact ih (List.mem_cons_of_mem _ hrest) hholds

/-- What the first summary lists stays listed. -/
theorem prefix_mergeAll_details : first.details <+: (mergeAll first later).details := by
  induction later generalizing first with
  | nil => exact List.prefix_refl _
  | cons next rest ih => exact List.IsPrefix.trans (PropsSummary.prefix_merge_details ..) ih

/-- A complex detail gives way to a listed one with its name and type that is not complex. -/
structure PropDetail.DroppedFor (listed : List PropDetail) (detail : PropDetail) : Prop where
  complex : detail.isComplex = true
  taken : ∃ other ∈ listed, other.key = detail.key ∧ other.isComplex = false

theorem exists_source_of_listed {detail : PropDetail}
    (hlisted : detail ∈ (mergeAll first later).details) :
    ∃ summary ∈ first :: later, detail ∈ summary.details :=
  exists_mem_of_mergeAll (detail ∈ ·.details) (fun _ _ => mem_foldl_addDetail) hlisted

/-- A complex detail of a later summary is dropped only for an expression. -/
theorem listed_or_dropped (hall : ∀ summary ∈ first :: later, summary.Explained)
    {summary : PropsSummary} (hsummary : summary ∈ later) {detail : PropDetail}
    (hdetail : detail ∈ summary.details) (hcomplex : detail.isComplex = true) :
    (∃ listed ∈ (mergeAll first later).details, listed.isComplex = true) ∨
      (detail.type = "expression" ∧ detail.DroppedFor (mergeAll first later).details) := by
  have hmem : summary ∈ first :: later := List.mem_cons_of_mem _ hsummary
  -- the key of the detail is listed, with or without its complexity
  have hkey : detail.key ∈ (mergeAll first later).details.map PropDetail.key :=
    mergeAll_of_mem (detail.key ∈ ·.details.map PropDetail.key)
      (fun a b => (PropsSummary.mem_merge_keys a b).mpr) hmem (List.mem_map_of_mem hdetail)
  obtain ⟨listed, hlisted, heq⟩ := List.mem_map.mp hkey
  by_cases hsame : listed.isComplex = true
  · exact Or.inl ⟨listed, hlisted, hsame⟩
  · have hplain : listed.isComplex = false := Bool.eq_false_iff.mpr hsame
    obtain ⟨source, hsource, hof⟩ := exists_source_of_listed hlisted
    have htype : detail.type = "expression" :=
      ((hall source hsource).graded listed hof).type_eq_expression
        ((hall summary hmem).graded detail hdetail) heq hplain hcomplex
    exact Or.inr ⟨htype, hcomplex, listed, hlisted, heq, hplain⟩

/-- The mark of a merge is explained by a listed detail, or by an expression that was dropped. -/
theorem complex_listed_or_dropped (hall : ∀ summary ∈ first :: later, summary.Explained) :
    (mergeAll first later).hasComplexProps = true ↔
      (∃ detail ∈ (mergeAll first later).details, detail.isComplex = true) ∨
        ∃ summary ∈ later, ∃ detail ∈ summary.details,
          detail.type = "expression" ∧ detail.DroppedFor (mergeAll first later).details := by
  -- a complex detail of any tag leaves the mark
  have hmark {summary : PropsSummary} (hsummary : summary ∈ first :: later) {detail : PropDetail}
      (hdetail : detail ∈ summary.details) (hcomplex : detail.isComplex = true) :
      (mergeAll first later).hasComplexProps = true :=
    mergeAll_of_mem (·.hasComplexProps = true) (fun _ _ => (Bool.or_eq_true ..).mpr) hsummary
      ((hall summary hsummary).complex_iff.mpr ⟨detail, hdetail, hcomplex⟩)
  constructor
  · intro hcomplexProps
    obtain ⟨summary, hsummary, hmarked⟩ :=
      exists_mem_of_mergeAll (·.hasComplexProps = true) (fun _ _ => (Bool.or_eq_true ..).mp)
        hcomplexProps
    obtain ⟨detail, hdetail, hcomplex⟩ := (hall summary hsummary).complex_iff.mp hmarked
    rcases List.mem_cons.mp hsummary with rfl | hlater
    · exact Or.inl ⟨detail, prefix_mergeAll_details.subset hdetail, hcomplex⟩
    · apply (listed_or_dropped hall hlater hdetail hcomplex).imp_right
      intro hdropped
      exact ⟨summary, hlater, detail, hdetail, hdropped⟩
  · rintro (⟨detail, hlisted, hcomplex⟩ | ⟨summary, hsummary, detail, hdetail, -, hdropped⟩)
    · obtain ⟨summary, hsummary, hdetail⟩ := exists_source_of_listed hlisted
      exact hmark hsummary hdetail hcomplex
    · exact hmark (List.mem_cons_of_mem _ hsummary) hdetail hdropped.complex

end MergeAll

/-! ## The tags of an entry -/

/-- An entry is made of tags with its name: it has their places, and their attributes merged in
order. -/
structure Rendering.Collects (name : String) (first : Site) (later : List Site)
    (rendering : Rendering) : Prop where
  named : ∀ tag ∈ first :: later, isTagOf name tag = true
  occurrences_eq : rendering.occurrences = (first :: later).map placeOf
  summary_eq : rendering.summary =
    mergeAll (propsOf first.node) (later.map fun tag => propsOf tag.node)

/-- Every entry of the ledger is made of tags. -/
def CollectsTags (census : Census) : Prop :=
  ∀ entry ∈ census.findings.renderings, ∃ first later, entry.2.Collects entry.1 first later

theorem exists_collects_nextRendering {name : String} {tag : Site} (htag : isTagOf name tag = true)
    {earlier : Option Rendering}
    (hearlier : ∀ rendering ∈ earlier, ∃ first later, rendering.Collects name first later) :
    ∃ first later, (nextRendering name (placeOf tag) (propsOf tag.node) earlier).Collects name
      first later := by
  cases earlier with
  | none => exact ⟨tag, [], by simpa using htag, rfl, rfl⟩
  | some rendering =>
      obtain ⟨first, later, hcollects⟩ := hearlier rendering rfl
      refine ⟨first, later ++ [tag], ?_, ?_, ?_⟩
      · intro other hother
        rw [← List.cons_append, List.mem_append, List.mem_singleton] at hother
        rcases hother with hold | rfl
        · exact hcollects.named other hold
        · exact htag
      · simp [nextRendering, hcollects.occurrences_eq]
      · simp [nextRendering, hcollects.summary_eq, mergeAll]

/-- A visit to a site leaves every entry made of tags. -/
theorem CollectsTags.visitSite {progress : Progress} (hcensus : CollectsTags progress.census)
    (site : Site) : CollectsTags (progress.visitSite site).census := by
  -- only a tag writes to the ledger, and it is the last one that its entry collects
  by_cases htag : isTag site.node.kind = true
  · rw [Progress.visitSite_of_isTag progress htag]
    simp only [Progress.update, Census.noteElement]
    split
    · exact hcensus
    · next name hname =>
      split
      · intro entry hentry
        rw [(Census.promoteMember_edits ..).renderings_eq] at hentry
        rcases Entries.mem_of_mem_put hentry with rfl | hold
        · refine exists_collects_nextRendering (by simp [isTagOf, htag, hname]) ?_
          intro rendering hrendering
          exact hcensus (name, rendering) (Entries.mem_of_get?_eq_some hrendering)
        · exact hcensus entry hold
      · exact hcensus
  · intro entry hentry
    rw [(Progress.visitSite_edits progress (Bool.eq_false_iff.mpr htag)).renderings_eq] at hentry
    exact hcensus entry hentry

theorem collectsTags_of_reachable {census : Census} (hcensus : Reachable census) :
    CollectsTags census := by
  refine hcensus.induction_on_sites ?_ fun _ site hkept => hkept.visitSite site
  intro entry hentry
  cases hentry

/-! ## The mark of an entry -/

/-- **The complexity of an entry.**  In every census that visits lead to, an entry is the merge of
its tags, and it is marked as complex exactly if it lists a complex detail, or if a later tag has a
complex expression that was dropped for a listed expression of the same name that is not complex. -/
theorem complexity_listed_or_dropped {census : Census} (hcensus : Reachable census) {name : String}
    {rendering : Rendering} (hentry : (name, rendering) ∈ census.findings.renderings) :
    ∃ first later, rendering.Collects name first later ∧
      (rendering.summary.hasComplexProps = true ↔
        (∃ detail ∈ rendering.summary.details, detail.isComplex = true) ∨
          ∃ tag ∈ later, ∃ detail ∈ (propsOf tag.node).details,
            detail.type = "expression" ∧ detail.DroppedFor rendering.summary.details) := by
  obtain ⟨first, later, hcollects⟩ := collectsTags_of_reachable hcensus (name, rendering) hentry
  refine ⟨first, later, hcollects, ?_⟩
  have hexplained : ∀ summary ∈ propsOf first.node :: later.map fun tag => propsOf tag.node,
      summary.Explained :=
    List.forall_mem_cons.mpr
      ⟨explained_propsOf _, List.forall_mem_map.mpr fun _ _ => explained_propsOf _⟩
  have hmark := complex_listed_or_dropped hexplained
  rw [← hcollects.summary_eq] at hmark
  simpa only [List.mem_map, exists_exists_and_eq_and] using hmark

/-- `import A from "m"`, then `<A x={a.b}/>`, then `<A x={f()}/>`, each on its line. -/
def callBehindMember : Node :=
  namedNode 0 1 .program "" []
    [namedNode 1 1 .importStatement "import A from \"m\"" []
      [namedNode 2 1 .importClause "A" [] [namedNode 3 1 .identifier "A" [] []],
       namedNode 4 1 .stringLiteral "\"m\"" [.source] []],
     namedNode 5 2 .jsxSelfClosingElement "<A x={a.b}/>" []
      [namedNode 6 2 .identifier "A" [.name] [],
       namedNode 7 2 .jsxAttribute "x={a.b}" []
        [namedNode 8 2 .propertyIdentifier "x" [] [],
         namedNode 9 2 .jsxExpression "{a.b}" []
          [namedNode 10 2 .memberExpression "a.b" []
            [namedNode 11 2 .identifier "a" [.object] [],
             namedNode 12 2 .propertyIdentifier "b" [.property] []]]]],
     namedNode 13 3 .jsxSelfClosingElement "<A x={f()}/>" []
      [namedNode 14 3 .identifier "A" [.name] [],
       namedNode 15 3 .jsxAttribute "x={f()}" []
        [namedNode 16 3 .propertyIdentifier "x" [] [],
         namedNode 17 3 .jsxExpression "{f()}" []
          [namedNode 18 3 .callExpression "f()" []
            [namedNode 19 3 .identifier "f" [.function] [],
             namedNode 20 3 .arguments "()" [.arguments] []]]]]]

/-- The entry is marked as complex, and the one detail that it lists is not. -/
theorem summaries_callBehindMember :
    ((Census.empty.visit callBehindMember).findings.renderings.map fun entry =>
      (entry.1, entry.2.summary.hasComplexProps, entry.2.summary.details)) =
        [("A", true, [{ name := "x", type := "expression" }])] := by
  cbv

theorem exists_rendering_callBehindMember :
    ∃ rendering,
      ("A", rendering) ∈ (Census.empty.visit callBehindMember).findings.renderings ∧
        rendering.summary.hasComplexProps = true ∧
        rendering.summary.details = [{ name := "x", type := "expression" }] := by
  obtain ⟨⟨name, rendering⟩, hmem, heq⟩ :=
    List.mem_map.mp (summaries_callBehindMember ▸ List.mem_singleton_self _)
  obtain ⟨rfl, hmark, hdetails⟩ : name = "A" ∧ _ ∧ _ := by simpa using heq
  exact ⟨rendering, hmem, hmark, hdetails⟩

/-- The call was dropped for the member chain. -/
theorem complexity_dropped_callBehindMember :
    Reachable (Census.empty.visit callBehindMember) ∧
      ∃ rendering,
        ("A", rendering) ∈ (Census.empty.visit callBehindMember).findings.renderings ∧
          ∃ first later, rendering.Collects "A" first later ∧
            ∃ tag ∈ later, ∃ detail ∈ (propsOf tag.node).details,
              detail.type = "expression" ∧ detail.DroppedFor rendering.summary.details := by
  have hreachable : Reachable (Census.empty.visit callBehindMember) := .visit .empty [] _
  obtain ⟨rendering, hmem, hmark, hdetails⟩ := exists_rendering_callBehindMember
  obtain ⟨first, later, hcollects, hiff⟩ := complexity_listed_or_dropped hreachable hmem
  refine ⟨hreachable, rendering, hmem, first, later, hcollects, ?_⟩
  rcases hiff.mp hmark with ⟨detail, hdetail, hcomplex⟩ | hdropped
  · rw [hdetails, List.mem_singleton] at hdetail
    rw [hdetail] at hcomplex
    cases hcomplex
  · exact hdropped

/-- The mark of an entry is not always explained by the details that it lists. -/
theorem complexity_not_listed :
    ¬ ∀ census, Reachable census → ∀ entry ∈ census.findings.renderings,
      (entry.2.summary.hasComplexProps = true ↔
        ∃ detail ∈ entry.2.summary.details, detail.isComplex = true) := by
  intro hclaim
  obtain ⟨rendering, hmem, hmark, hdetails⟩ := exists_rendering_callBehindMember
  obtain ⟨detail, hdetail, hcomplex⟩ :=
    (hclaim (Census.empty.visit callBehindMember) (.visit .empty [] _) _ hmem).mp hmark
  rw [hdetails, List.mem_singleton] at hdetail
  rw [hdetail] at hcomplex
  cases hcomplex

end ComponentCensus.Usage
