import ComponentCensus.Proofs.Edits

/-!
# The ledger of renderings

All renderings of a name share one entry, and a new rendering is merged into it.  The entry keeps
the names of the attributes twice and their details once, and the three are maintained by loops of
their own: names are told apart by name, details by name and type, flags are joined.

They agree all the same.  What a detail says follows from its name and its type
(`PropDetail.Lawful`), so a detail that is left out because its key is present repeats one that is
listed, and the names of the listed details, each taken once in the order in which it is first
seen, are the names of all details (`eraseDups_plainNames_foldl_addDetail`).

## Main results

* `consistent_of_reachable` : in every census that can be reached, each entry of the ledger is
  consistent, and the ledger of attributes has the entries of the ledger of renderings.

## Strategy

* `PropsSummary.Sound` says of one summary that its names and flags are those of its details.  It
  holds of what one tag has (`sound_propsOf`, by induction over its attributes) and is kept when
  two summaries are merged (`PropsSummary.Sound.merge`).
* `Rendering.Sound` adds the places of the renderings and is kept by one more rendering
  (`sound_nextRendering`); all that a reader of the ledger may rely on follows from it
  (`Rendering.Sound.consistent`).
* `SoundLedger` says it of all entries, and is kept by every step of a visit, most of which do not
  write to the ledger at all.
-/

namespace ComponentCensus.Usage

open ComponentCensus.Syntax ComponentCensus.Text

/-! ## Details of attributes -/

/-- A detail whose flags follow from its name and its type. -/
structure PropDetail.Lawful (detail : PropDetail) : Prop where
  spread_iff : detail.isSpread = true ↔ detail.type = "spread"
  event_eq : detail.isEventHandler = startsWith detail.name "on"

theorem lawful_spreadDetail : PropsSummary.spreadDetail.Lawful where
  spread_iff := by simp [PropsSummary.spreadDetail]
  event_eq := by cbv

theorem expressionType_ne_spread (kind : Kind) : expressionType kind ≠ "spread" := by
  unfold expressionType
  split <;> simp

/-- A value is never said to be spread. -/
theorem propType_ne_spread (value : Option Node) : propType value ≠ "spread" := by
  unfold propType
  split
  · simp
  · split
    · simp
    · split
      · exact expressionType_ne_spread _
      · simp
    · simp

/-- Lawful details with the same key have the same flags. -/
theorem PropDetail.Lawful.eq_of_key_eq {first second : PropDetail} (hfirst : first.Lawful)
    (hsecond : second.Lawful) (hkey : first.key = second.key) :
    first.isSpread = second.isSpread ∧ first.isEventHandler = second.isEventHandler := by
  obtain ⟨hname, htype⟩ : first.name = second.name ∧ first.type = second.type := by
    simpa [PropDetail.key] using hkey
  constructor
  · rw [Bool.eq_iff_iff, hfirst.spread_iff, hsecond.spread_iff, htype]
  · rw [hfirst.event_eq, hsecond.event_eq, hname]

/-! ## The names of the details -/

/-- The names of the details that are no spreads, in order. -/
def plainNames (details : List PropDetail) : List String :=
  (details.filter fun detail => !detail.isSpread).map (·.name)

theorem plainNames_append (details others : List PropDetail) :
    plainNames (details ++ others) = plainNames details ++ plainNames others := by
  simp [plainNames]

theorem mem_addDetail {details : List PropDetail} {detail other : PropDetail}
    (hother : other ∈ addDetail details detail) : other ∈ details ∨ other = detail := by
  unfold addDetail at hother
  split at hother
  · exact Or.inl hother
  · simpa using hother

/-- A detail is listed already, or it is appended. -/
theorem addDetail_cases (details : List PropDetail) (detail : PropDetail) :
    (∃ listed ∈ details, listed.key = detail.key ∧ addDetail details detail = details) ∨
      addDetail details detail = details ++ [detail] := by
  unfold addDetail
  split
  · next hkey =>
    obtain ⟨listed, hlisted, heq⟩ := List.mem_map.mp hkey
    exact Or.inl ⟨listed, hlisted, heq, rfl⟩
  · exact Or.inr rfl

theorem eraseDups_plainNames_addDetail {details : List PropDetail} {detail : PropDetail}
    (hdetails : ∀ listed ∈ details, listed.Lawful) (hdetail : detail.Lawful) :
    (plainNames (addDetail details detail)).eraseDups =
      (plainNames details ++ plainNames [detail]).eraseDups := by
  rcases addDetail_cases details detail with ⟨listed, hlisted, hkey, hsame⟩ | happended
  · have hspread := ((hdetails listed hlisted).eq_of_key_eq hdetail hkey).1
    rw [hsame]
    by_cases hplain : detail.isSpread = true
    · simp [plainNames, hplain]
    · -- the listed detail has the same name and is no spread either
      have hname : listed.name = detail.name := congrArg Prod.fst hkey
      have hseen : detail.name ∈ plainNames details := by
        refine List.mem_map.mpr ⟨listed, List.mem_filter.mpr ⟨hlisted, ?_⟩, hname⟩
        simp [hspread, hplain]
      have hnew : plainNames [detail] = [detail.name] := by simp [plainNames, hplain]
      rw [hnew, ← addName_eraseDups, addName, if_pos (List.mem_eraseDups.mpr hseen)]
  · rw [happended, plainNames_append]

theorem mem_foldl_addDetail {details others : List PropDetail} {detail : PropDetail}
    (hdetail : detail ∈ others.foldl addDetail details) : detail ∈ details ∨ detail ∈ others := by
  induction others generalizing details with
  | nil => exact Or.inl hdetail
  | cons other rest ih =>
      rcases ih hdetail with hadded | hrest
      · rcases mem_addDetail hadded with hdetails | rfl
        · exact Or.inl hdetails
        · exact Or.inr (List.mem_cons_self ..)
      · exact Or.inr (List.mem_cons_of_mem _ hrest)

theorem lawful_foldl_addDetail {details others : List PropDetail}
    (hdetails : ∀ detail ∈ details, detail.Lawful) (hothers : ∀ other ∈ others, other.Lawful) :
    ∀ detail ∈ others.foldl addDetail details, detail.Lawful := by
  intro detail hdetail
  rcases mem_foldl_addDetail hdetail with hold | hnew
  · exact hdetails detail hold
  · exact hothers detail hnew

/-- Leaving out details whose key is present loses no name and keeps the order in which names are
first seen. -/
theorem eraseDups_plainNames_foldl_addDetail {details others : List PropDetail}
    (hdetails : ∀ detail ∈ details, detail.Lawful) (hothers : ∀ other ∈ others, other.Lawful) :
    (plainNames (others.foldl addDetail details)).eraseDups =
      (plainNames details ++ plainNames others).eraseDups := by
  -- along the merged details; listed and merged ones are all lawful on the way
  induction others generalizing details with
  | nil => simp [plainNames]
  | cons other rest ih =>
      obtain ⟨hother, hrest⟩ := List.forall_mem_cons.mp hothers
      have hadded : ∀ detail ∈ addDetail details other, detail.Lawful :=
        @lawful_foldl_addDetail details [other] hdetails (by simpa using hother)
      calc (plainNames (rest.foldl addDetail (addDetail details other))).eraseDups
          = (plainNames (addDetail details other) ++ plainNames rest).eraseDups := ih hadded hrest
        _ = (plainNames rest).foldl addName (plainNames (addDetail details other)).eraseDups :=
            (foldl_addName_eraseDups ..).symm
        _ = (plainNames rest).foldl addName
              (plainNames details ++ plainNames [other]).eraseDups := by
            rw [eraseDups_plainNames_addDetail hdetails hother]
        _ = (plainNames details ++ plainNames (other :: rest)).eraseDups := by
            rw [foldl_addName_eraseDups, List.append_assoc, ← plainNames_append]
            rfl

/-- Leaving out details whose key is present keeps every flag that some detail has. -/
theorem exists_mem_foldl_addDetail (flag : PropDetail → Bool)
    (hflag : ∀ first second : PropDetail, first.Lawful → second.Lawful → first.key = second.key →
      flag first = flag second)
    {details others : List PropDetail} (hdetails : ∀ detail ∈ details, detail.Lawful)
    (hothers : ∀ other ∈ others, other.Lawful) :
    (∃ detail ∈ others.foldl addDetail details, flag detail = true) ↔
      (∃ detail ∈ details, flag detail = true) ∨ ∃ other ∈ others, flag other = true := by
  induction others generalizing details with
  | nil => simp
  | cons other rest ih =>
      obtain ⟨hother, hrest⟩ := List.forall_mem_cons.mp hothers
      have hadded : ∀ detail ∈ addDetail details other, detail.Lawful :=
        @lawful_foldl_addDetail details [other] hdetails (by simpa using hother)
      -- a detail that is left out has the flag of the one that is listed
      have hone : (∃ detail ∈ addDetail details other, flag detail = true) ↔
          (∃ detail ∈ details, flag detail = true) ∨ flag other = true := by
        rcases addDetail_cases details other with ⟨listed, hlisted, hkey, hsame⟩ | happended
        · rw [hsame]
          refine ⟨Or.inl, ?_⟩
          rintro (hexists | htrue)
          · exact hexists
          · exact ⟨listed, hlisted,
              (hflag listed other (hdetails listed hlisted) hother hkey).trans htrue⟩
        · simp [happended, or_and_right, exists_or]
      rw [List.foldl_cons, ih hadded hrest, hone]
      simp [or_assoc]

/-! ## Summaries of attributes -/

/-- A summary whose names and flags are those of its details. -/
structure PropsSummary.Sound (summary : PropsSummary) : Prop where
  lawful : ∀ detail ∈ summary.details, detail.Lawful
  namedProps_eq : summary.namedProps = (plainNames summary.details).eraseDups
  spread_iff : summary.hasSpread = true ↔ ∃ detail ∈ summary.details, detail.isSpread = true
  events_iff : summary.hasEventHandlers = true ↔
    ∃ detail ∈ summary.details, detail.isEventHandler = true

namespace PropsSummary.Sound

variable {summary : PropsSummary}

theorem empty : Sound {} := by
  constructor <;> simp [plainNames]

theorem addSpread (hsummary : summary.Sound) : summary.addSpread.Sound where
  lawful := by
    intro detail hdetail
    rcases List.mem_append.mp hdetail with hdetail | hdetail
    · exact hsummary.lawful detail hdetail
    · rw [List.mem_singleton.mp hdetail]
      exact lawful_spreadDetail
  namedProps_eq := by
    simp [PropsSummary.addSpread, hsummary.namedProps_eq, plainNames, spreadDetail]
  spread_iff := by simp [PropsSummary.addSpread, spreadDetail]
  events_iff := by
    simp [PropsSummary.addSpread, hsummary.events_iff, spreadDetail, or_and_right, exists_or]

/-- Adding a lawful detail that is no spread. -/
theorem addProp (hsummary : summary.Sound) {detail : PropDetail} (hdetail : detail.Lawful)
    (hplain : detail.isSpread = false) : (summary.addProp detail).Sound where
  lawful := by
    intro other hother
    rcases List.mem_append.mp hother with hother | hother
    · exact hsummary.lawful other hother
    · rw [List.mem_singleton.mp hother]
      exact hdetail
  namedProps_eq := by
    have hnew : plainNames [detail] = [detail.name] := by simp [plainNames, hplain]
    show addName summary.namedProps detail.name =
      (plainNames (summary.details ++ [detail])).eraseDups
    rw [hsummary.namedProps_eq, addName_eraseDups, plainNames_append, hnew]
  spread_iff := by simp [PropsSummary.addProp, hsummary.spread_iff, hplain, or_and_right, exists_or]
  events_iff := by simp [PropsSummary.addProp, hsummary.events_iff, or_and_right, exists_or]

theorem merge {other : PropsSummary} (hsummary : summary.Sound) (hother : other.Sound) :
    (summary.merge other).Sound where
  lawful := lawful_foldl_addDetail hsummary.lawful hother.lawful
  namedProps_eq := by
    calc other.namedProps.foldl addName summary.namedProps
        = (plainNames other.details).eraseDups.foldl addName
            (plainNames summary.details).eraseDups := by
          rw [hsummary.namedProps_eq, hother.namedProps_eq]
      _ = (plainNames summary.details ++ plainNames other.details).eraseDups := by
          rw [foldl_addName_of_eraseDups, foldl_addName_eraseDups]
      _ = (plainNames (summary.merge other).details).eraseDups :=
          (eraseDups_plainNames_foldl_addDetail hsummary.lawful hother.lawful).symm
  spread_iff := by
    have hmerged := exists_mem_foldl_addDetail (·.isSpread)
      (fun _ _ hfirst hsecond hkey => (hfirst.eq_of_key_eq hsecond hkey).1)
      hsummary.lawful hother.lawful
    simp only [PropsSummary.merge, Bool.or_eq_true, hsummary.spread_iff, hother.spread_iff, hmerged]
  events_iff := by
    have hmerged := exists_mem_foldl_addDetail (·.isEventHandler)
      (fun _ _ hfirst hsecond hkey => (hfirst.eq_of_key_eq hsecond hkey).2)
      hsummary.lawful hother.lawful
    simp only [PropsSummary.merge, Bool.or_eq_true, hsummary.events_iff, hother.events_iff, hmerged]

end PropsSummary.Sound

/-- The detail of an attribute with a name. -/
def attributeDetail (name : String) (value : Option Node) : PropDetail where
  name := name
  type := propType value
  isEventHandler := startsWith name "on"
  isComplex := isComplexValue value

/-- What holds of the empty summary, and goes on to hold when spread attributes or an attribute with
a name are added, holds of the attributes of every element. -/
theorem propsOf_induction {motive : PropsSummary → Prop} (hempty : motive {})
    (hspread : ∀ summary, motive summary → motive summary.addSpread)
    (hprop : ∀ summary name value, motive summary →
      motive (summary.addProp (attributeDetail name value)))
    (opening : Node) : motive (propsOf opening) := by
  -- one attribute: a spread, a plain one, or nothing that counts
  have hone (summary : PropsSummary) (prop : Node) (hsummary : motive summary) :
      motive (addAttribute summary prop) := by
    unfold addAttribute
    split
    · split
      · exact hspread summary hsummary
      · exact hsummary
    · split
      · exact hsummary
      · exact hprop summary _ _ hsummary
    · exact hsummary
  have hall (props : List Node) (summary : PropsSummary) (hsummary : motive summary) :
      motive (props.foldl addAttribute summary) := by
    induction props generalizing summary with
    | nil => exact hsummary
    | cons prop rest ih => exact ih _ (hone summary prop hsummary)
  exact hall _ _ hempty

/-- The attributes of every element have a sound summary. -/
theorem sound_propsOf (opening : Node) : (propsOf opening).Sound := by
  refine propsOf_induction .empty (fun _ hsummary => hsummary.addSpread)
    (fun _ name value hsummary => hsummary.addProp ⟨?_, rfl⟩ rfl) opening
  simp [attributeDetail, propType_ne_spread]

/-! ## Entries of the ledger -/

/-- The renderings of a name agree with the places and the attributes that they were made of. -/
structure Rendering.Consistent (name : String) (rendering : Rendering) : Prop where
  component_eq : rendering.component = name
  count_eq : rendering.count = rendering.occurrences.length
  count_pos : 1 ≤ rendering.count
  first_occurrence : rendering.occurrences.head? = some ⟨rendering.line, rendering.context⟩
  props_eq : rendering.props = rendering.summary.namedProps
  props_nodup : rendering.props.Nodup
  props_names : rendering.props =
    ((rendering.summary.details.filter fun detail => !detail.isSpread).map (·.name)).eraseDups
  spread_iff : rendering.summary.hasSpread = true ↔
    ∃ detail ∈ rendering.summary.details, detail.isSpread = true
  events_iff : rendering.summary.hasEventHandlers = true ↔
    ∃ detail ∈ rendering.summary.details, detail.isEventHandler = true

/-- What is kept along the way: the places, and a summary that is sound in its details too. -/
structure Rendering.Sound (name : String) (rendering : Rendering) : Prop where
  component_eq : rendering.component = name
  count_eq : rendering.count = rendering.occurrences.length
  first_occurrence : rendering.occurrences.head? = some ⟨rendering.line, rendering.context⟩
  props_eq : rendering.props = rendering.summary.namedProps
  summary : rendering.summary.Sound

theorem Rendering.Sound.consistent {name : String} {rendering : Rendering}
    (hsound : rendering.Sound name) : rendering.Consistent name := by
  have hnames := hsound.props_eq.trans hsound.summary.namedProps_eq
  refine
    { component_eq := hsound.component_eq
      count_eq := hsound.count_eq
      count_pos := ?_
      first_occurrence := hsound.first_occurrence
      props_eq := hsound.props_eq
      props_nodup := hnames ▸ nodup_eraseDups _
      props_names := hnames
      spread_iff := hsound.summary.spread_iff
      events_iff := hsound.summary.events_iff }
  obtain ⟨rest, hrest⟩ := List.head?_eq_some_iff.mp hsound.first_occurrence
  rw [hsound.count_eq, hrest, List.length_cons]
  omega

/-- One more rendering of a name, given the renderings before it. -/
theorem sound_nextRendering {name : String} (occurrence : Occurrence) {summary : PropsSummary}
    {earlier : Option Rendering} (hsummary : summary.Sound)
    (hearlier : ∀ rendering ∈ earlier, rendering.Sound name) :
    (nextRendering name occurrence summary earlier).Sound name := by
  cases earlier with
  | none => exact ⟨rfl, rfl, rfl, rfl, hsummary⟩
  | some rendering =>
      have hrendering := hearlier rendering rfl
      refine ⟨hrendering.component_eq, ?_, ?_, ?_, hrendering.summary.merge hsummary⟩
      · simp [nextRendering, hrendering.count_eq]
      · simp [nextRendering, List.head?_append, hrendering.first_occurrence]
      · simp [nextRendering, PropsSummary.merge, hrendering.props_eq]

/-! ## The ledger -/

/-- Every entry of the ledger is sound, and the table of attributes repeats what it says. -/
structure SoundLedger (census : Census) : Prop where
  sound : ∀ entry ∈ census.findings.renderings, entry.2.Sound entry.1
  props_eq : census.findings.props =
    census.findings.renderings.map fun entry => (entry.1, entry.2.summary)

theorem SoundLedger.edit {census next : Census} (hedit : Edit census next)
    (hcensus : SoundLedger census) : SoundLedger next := by
  obtain ⟨hrenderings, hprops⟩ := hedit.renderings_eq
  refine ⟨?_, ?_⟩
  · rw [hrenderings]
    exact hcensus.sound
  · rw [hrenderings, hprops]
    exact hcensus.props_eq

theorem SoundLedger.addRendering {census : Census} (hcensus : SoundLedger census) (name : String)
    (occurrence : Occurrence) {summary : PropsSummary} (hsummary : summary.Sound) :
    SoundLedger (census.addRendering name occurrence summary) := by
  -- the entry that is written continues the one that stands there
  have hnext := sound_nextRendering occurrence hsummary
    fun rendering (hget : census.findings.renderings.get? name = some rendering) =>
      hcensus.sound (name, rendering) (Entries.mem_of_get?_eq_some hget)
  refine ⟨?_, ?_⟩
  · intro entry hentry
    rcases Entries.mem_of_mem_put hentry with rfl | hentry
    · exact hnext
    · exact hcensus.sound entry hentry
  · show Entries.put _ _ census.findings.props = _
    rw [hcensus.props_eq]
    exact (Entries.map_put Rendering.summary ..).symm

theorem SoundLedger.step {census next : Census} (hstep : Step census next)
    (hcensus : SoundLedger census) : SoundLedger next := by
  cases hstep with
  | edit hedit => exact hcensus.edit hedit
  | render name opening hrenders =>
      exact hcensus.addRendering name _ (sound_propsOf opening.node)

/-- **The ledger of renderings.**  In every census that visits lead to, each entry agrees with the
places and attributes it was made of, and the table of attributes has the same names in the same
order, each with the summary of its entry. -/
theorem consistent_of_reachable {census : Census} (hcensus : Reachable census) :
    (∀ entry ∈ census.findings.renderings, entry.2.Consistent entry.1) ∧
      census.findings.props =
        census.findings.renderings.map fun entry => (entry.1, entry.2.summary) := by
  have hledger : SoundLedger census :=
    hcensus.induction_on_steps ⟨by simp, rfl⟩ fun _ _ hstep hkept => hkept.step hstep
  exact ⟨fun entry hentry => (hledger.sound entry hentry).consistent, hledger.props_eq⟩

/-- `import A from "m"`, then `<A x onClick={f}/>`, then `<A x={1} {...p}/>`, each on its line. -/
def renderedTwice : Node :=
  namedNode 0 1 .program "" []
    [namedNode 1 1 .importStatement "import A from \"m\"" []
      [namedNode 2 1 .importClause "A" [] [namedNode 3 1 .identifier "A" [] []],
       namedNode 4 1 .stringLiteral "\"m\"" [.source] []],
     namedNode 5 2 .jsxSelfClosingElement "<A x onClick={f}/>" []
      [namedNode 6 2 .identifier "A" [.name] [],
       namedNode 7 2 .jsxAttribute "x" [] [namedNode 8 2 .propertyIdentifier "x" [] []],
       namedNode 9 2 .jsxAttribute "onClick={f}" []
        [namedNode 10 2 .propertyIdentifier "onClick" [] [],
         namedNode 11 2 .jsxExpression "{f}" [] [namedNode 12 2 .identifier "f" [] []]]],
     namedNode 13 3 .jsxSelfClosingElement "<A x={1} {...p}/>" []
      [namedNode 14 3 .identifier "A" [.name] [],
       namedNode 15 3 .jsxAttribute "x={1}" []
        [namedNode 16 3 .propertyIdentifier "x" [] [],
         namedNode 17 3 .jsxExpression "{1}" [] [namedNode 18 3 .numberLiteral "1" [] []]],
       namedNode 19 3 .jsxExpression "{...p}" []
        [namedNode 20 3 .spreadElement "...p" [] [namedNode 21 3 .identifier "p" [] []]]]]

/-- Two renderings of one name share an entry, although their attributes overlap. -/
theorem consistent_of_renderedTwice :
    Reachable (Census.empty.visit renderedTwice) ∧
      ∃ rendering, ("A", rendering) ∈ (Census.empty.visit renderedTwice).findings.renderings ∧
        rendering.Consistent "A" ∧ rendering.props = ["x", "onClick"] ∧
        rendering.summary.details.map PropDetail.key =
          [("x", "boolean"), ("onClick", "variable"), ("x", "number"), ("...", "spread")] := by
  have hreachable : Reachable (Census.empty.visit renderedTwice) := .visit .empty [] _
  have hentry : ((Census.empty.visit renderedTwice).findings.renderings.map fun entry =>
      (entry.1, entry.2.props, entry.2.summary.details.map PropDetail.key)) =
      [("A", ["x", "onClick"],
        [("x", "boolean"), ("onClick", "variable"), ("x", "number"), ("...", "spread")])] := by cbv
  obtain ⟨⟨name, rendering⟩, hmem, heq⟩ := List.mem_map.mp (hentry ▸ List.mem_cons_self ..)
  obtain ⟨rfl, hprops, hdetails⟩ : name = "A" ∧ _ ∧ _ := by simpa using heq
  have hconsistent := (consistent_of_reachable hreachable).1 ("A", rendering) hmem
  exact ⟨hreachable, rendering, hmem, hconsistent, hprops, hdetails⟩

end ComponentCensus.Usage
