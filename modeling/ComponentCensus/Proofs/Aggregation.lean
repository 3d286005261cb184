import ComponentCensus.Proofs.Counted

/-!
# What the numbers of many reports count

Reports are taken together by a fold that keeps two running sums: the renderings of each component,
and the sizes of the buckets in the order of a fixed catalog.  Both are sums over the reports, so
that the numbers of the whole follow from those of each report.

What makes this work is that each report is balanced: its summary agrees with its buckets, the
places of its renderings with the counts, and the attributes with the renderings.  That is shown
for the reports of every visit, narrowed or not, and it is all that is used of a report here.

## Main results

* `counters_agree` : every report is balanced, and the numbers of an aggregate are the sums of
  those of its reports.

## Strategy

* One report adds its places to the counts of the components and its bucket sizes to those of the
  catalog (`Totals.added_of_add`); a list of reports adds theirs one after the other
  (`Totals.added_of_foldlM_add`).
* A tally is a sum over the types that pass a test.  It is additive in the sizes
  (`tally_addCounts`) and does not depend on the order of the catalog (`tally_patternCounts`).
* Nothing can go wrong with reports of this kind as long as packages are named by texts: every
  component has a source (`exists_componentSource`), and a share is a quotient of a part by the
  whole, which is never too large (`exists_percent`).
-/

namespace ComponentCensus

open ComponentCensus.Number

/-! ## Sums -/

section Sums

variable {α : Type}

theorem total_perm {xs ys : List Int} (hperm : xs.Perm ys) : total xs = total ys := by
  induction hperm with
  | nil => rfl
  | cons x _ ih => rw [total_cons, total_cons, ih]
  | swap x y _ =>
      simp only [total_cons]
      omega
  | trans _ _ ih₁ ih₂ => rw [ih₁, ih₂]

theorem total_map_add (f g : α → Int) (xs : List α) :
    total (xs.map fun x => f x + g x) = total (xs.map f) + total (xs.map g) := by
  induction xs with
  | nil => rfl
  | cons x xs ih =>
      simp only [List.map_cons, total_cons, ih]
      omega

theorem total_nonneg {xs : List Int} (hxs : ∀ x ∈ xs, 0 ≤ x) : 0 ≤ total xs := by
  induction xs with
  | nil => exact le_rfl
  | cons x xs ih =>
      obtain ⟨hx, hrest⟩ := List.forall_mem_cons.mp hxs
      exact Int.add_nonneg hx (ih hrest)

theorem le_total_of_mem {xs : List Int} (hxs : ∀ x ∈ xs, 0 ≤ x) {x : Int} (hx : x ∈ xs) :
    x ≤ total xs := by
  induction xs with
  | nil => cases hx
  | cons y ys ih =>
      obtain ⟨hy, hrest⟩ := List.forall_mem_cons.mp hxs
      rw [total_cons]
      rcases List.mem_cons.mp hx with rfl | hmem
      · have := total_nonneg hrest
        omega
      · have := ih hrest hmem
        omega

/-- A write changes a sum over the values by what is written less what it replaces. -/
theorem total_values_put (weight : α → Int) (key : String) (value : α) (table : Entries String α) :
    total ((table.put key value).values.map weight) + ((table.get? key).map weight).getD 0 =
      total (table.values.map weight) + weight value := by
  induction table with
  | nil => simp [Entries.put, Entries.get?, Entries.values]
  | cons entry rest ih =>
      obtain ⟨k, old⟩ := entry
      unfold Entries.values at ih ⊢
      by_cases hkey : k = key
      · simp only [Entries.put, Entries.get?, hkey, beq_self_eq_true, if_true, List.map_cons,
          total_cons, Option.map_some, Option.getD_some]
        omega
      · simp only [Entries.put, Entries.get?, beq_iff_eq, hkey, if_false, List.map_cons, total_cons]
        omega

end Sums

namespace Package

open ComponentCensus.Syntax ComponentCensus.Usage

/-! ## The source of a component -/

section Attribution

variable {α : Type} {view : α → Value}

theorem lookupD_default (f : Findings) :
    (Value.object (groupMembers f.importBuckets)).lookupD "default" (.list []) =
      .ok (.list (f.defaultImports.map ImportRecord.toValue)) := rfl

theorem lookupD_named (f : Findings) :
    (Value.object (groupMembers f.importBuckets)).lookupD "named" (.list []) =
      .ok (.list (f.namedImports.map ImportRecord.toValue)) := rfl

theorem lookupD_namespace (f : Findings) :
    (Value.object (groupMembers f.importBuckets)).lookupD "namespace" (.list []) =
      .ok (.list (f.namespaceImports.map ImportRecord.toValue)) := rfl

theorem lookupD_aliased (f : Findings) :
    (Value.object (groupMembers f.importBuckets)).lookupD "aliased" (.list []) =
      .ok (.list (f.aliasedImports.values.map AliasedImport.toValue)) := rfl

/-- Looking for a binding finds the first item with the name. -/
theorem findBinding_map {member target : String} {name : α → String}
    (hmember : ∀ item, (view item).lookupD member .null = .ok (.str (name item)))
    (items : List α) :
    findBinding member (.str target) (items.map view) =
      .ok ((items.find? fun item => name item = target).map view) := by
  induction items with
  | nil => rfl
  | cons item rest ih =>
      rw [List.map_cons, findBinding]
      refine bind_of_eq_ok (hmember item) ?_
      by_cases hname : name item = target
      · rw [if_pos (show (Value.str (name item)).equal (.str target) = true by
          simp [Value.equal, Value.same, hname]), List.find?_cons_of_pos (by simpa using hname)]
        rfl
      · rw [if_neg (show ¬ (Value.str (name item)).equal (.str target) = true by
          simp [Value.equal, Value.same, hname]), List.find?_cons_of_neg (by simpa using hname)]
        exact ih

theorem search_eq_ok {imports name : Value} {bucket member : String} {items : List Value}
    {found : Option Value} (hitems : imports.lookupD bucket (.list []) = .ok (.list items))
    (hfound : findBinding member name items = .ok found) :
    (do findBinding member name (← (← imports.lookupD bucket (.list [])).items)) = .ok found :=
  bind_of_eq_ok hitems (bind_of_eq_ok rfl hfound)

/-- The source that the ledgers of imports give a component: they are searched one after the other,
and the namespaces only for a component with a dot. -/
def importedSource? (f : Findings) (component : String) : Option String :=
  ((f.namedImports.find? fun item => item.name = component).map (·.source)).or
    (((f.defaultImports.find? fun item => item.name = component).map (·.source)).or
      (((f.aliasedImports.values.find? fun item => item.localName = component).map (·.source)).or
        (if Text.hasChar '.' component then
          (f.namespaceImports.find? fun item => item.name = Text.beforeFirst '.' component).map
            (·.source)
        else none)))

/-- Looking for the import of a component finds nothing, or an entry with the source that the
ledgers give. -/
theorem exists_findImport (f : Findings) (component : String) :
    ∃ found : Option Value,
      findImport (.str component) (.object (groupMembers f.importBuckets)) = .ok found ∧
        found.map (·.member "source") =
          (importedSource? f component).map fun source => .ok (.str source) := by
  have hname : ∀ item : ImportRecord, item.toValue.lookupD "name" .null = .ok (.str item.name) :=
    fun _ => rfl
  have hlocal : ∀ item : AliasedImport,
      item.toValue.lookupD "local" .null = .ok (.str item.localName) := fun _ => rfl
  have hfirst := search_eq_ok (lookupD_named f) (@findBinding_map _ _ "name" component _ hname _)
  have hsecond := search_eq_ok (lookupD_default f) (@findBinding_map _ _ "name" component _ hname _)
  have hthird := search_eq_ok (lookupD_aliased f)
    (@findBinding_map _ _ "local" component _ hlocal _)
  have hfourth := search_eq_ok (lookupD_namespace f)
    (@findBinding_map _ _ "name" (Text.beforeFirst '.' component) _ hname _)
  -- the buckets are searched in turn, and the first hit ends the search
  unfold findImport importedSource?
  cases hnamed : f.namedImports.find? fun item => item.name = component with
  | some entry =>
      rw [hnamed] at hfirst
      exact ⟨_, bind_of_eq_ok hfirst rfl, rfl⟩
  | none =>
      rw [hnamed] at hfirst
      cases hdefault : f.defaultImports.find? fun item => item.name = component with
      | some entry =>
          rw [hdefault] at hsecond
          exact ⟨_, bind_of_eq_ok hfirst (bind_of_eq_ok hsecond rfl), rfl⟩
      | none =>
          rw [hdefault] at hsecond
          cases hrenamed : f.aliasedImports.values.find? fun item => item.localName = component with
          | some entry =>
              rw [hrenamed] at hthird
              exact ⟨_, bind_of_eq_ok hfirst (bind_of_eq_ok hsecond (bind_of_eq_ok hthird rfl)),
                rfl⟩
          | none =>
              rw [hrenamed] at hthird
              cases hdot : Text.hasChar '.' component with
              | false =>
                  exact ⟨none, bind_of_eq_ok hfirst (bind_of_eq_ok hsecond
                    (bind_of_eq_ok hthird (bind_of_eq_ok (congrArg Except.ok hdot) rfl))), rfl⟩
              | true =>
                  refine ⟨_, bind_of_eq_ok hfirst (bind_of_eq_ok hsecond
                    (bind_of_eq_ok hthird (bind_of_eq_ok (congrArg Except.ok hdot)
                      (bind_of_eq_ok rfl hfourth)))), ?_⟩
                  cases f.namespaceImports.find?
                    fun item => item.name = Text.beforeFirst '.' component <;> rfl

theorem resolveValue_texts (source : String) (packages : List String) :
    resolveValue (.str source) (packages.map .str) = .ok (resolve source packages) := by
  have hnames : (packages.map Value.str).mapM nameText? = some packages := by
    induction packages with
    | nil => rfl
    | cons package rest ih => simp [nameText?, ih]
  unfold resolveValue
  refine bind_of_eq_ok rfl ?_
  rw [hnames]
  rfl

/-- A component belongs to the package of the source that the ledgers of imports give it. -/
theorem componentSource_texts (f : Findings) (component : String) (packages : List String) :
    componentSource component f.toValue (packages.map .str) =
      .ok (((importedSource? f component).map fun source => resolve source packages).getD
        unknownPackage) := by
  obtain ⟨found, hfound, hsource⟩ := exists_findImport f component
  unfold componentSource componentSourceOf
  refine bind_of_eq_ok (lookupD_imports f) (bind_of_eq_ok hfound ?_)
  -- a source that is found is resolved against the packages; without one it is unknown
  cases hits : importedSource? f component with
  | none =>
      rw [hits, Option.map_none, Option.map_eq_none_iff] at hsource
      rw [hsource]
      rfl
  | some source =>
      rw [hits, Option.map_some, Option.map_eq_some_iff] at hsource
      obtain ⟨item, rfl, hmember⟩ := hsource
      exact bind_of_eq_ok hmember (resolveValue_texts source packages)

/-- Names that are all texts. -/
def AreTexts (packages : List Value) : Prop :=
  ∀ name ∈ packages, ∃ text, name = .str text

theorem AreTexts.exists_eq_map {packages : List Value} (hpackages : AreTexts packages) :
    ∃ names : List String, packages = names.map .str := by
  induction packages with
  | nil => exact ⟨[], rfl⟩
  | cons package rest ih =>
      obtain ⟨⟨text, rfl⟩, hrest⟩ := List.forall_mem_cons.mp hpackages
      obtain ⟨names, rfl⟩ := ih hrest
      exact ⟨text :: names, rfl⟩

/-- Every component has a source among packages that are named by texts. -/
theorem exists_componentSource {packages : List Value} (hpackages : AreTexts packages)
    (f : Findings) (component : String) :
    ∃ package, componentSource component f.toValue packages = .ok package := by
  obtain ⟨names, rfl⟩ := hpackages.exists_eq_map
  exact ⟨_, componentSource_texts f component names⟩

end Attribution

/-! ## The renderings of a report -/

/-- The renderings of all components. -/
def usageTotal (usage : Entries String ComponentUsage) : Int :=
  total (usage.values.map (·.count))

/-- No component is rendered less than no time. -/
def NonNegative (usage : Entries String ComponentUsage) : Prop :=
  ∀ known ∈ usage.values, 0 ≤ known.count

section Renderings

variable {packages : List Value} {result : FileResult} {usage next : Entries String ComponentUsage}

/-- What is known of a component before one more entry of it. -/
def knownUsage (packages : List Value) (result : FileResult)
    (usage : Entries String ComponentUsage) (name : String) : Except Fault ComponentUsage :=
  match usage.get? name with
  | some known => pure known
  | none => do
    let source ← componentSource name result.report.patterns packages
    pure { name := name, source := source }

theorem count_knownUsage {name : String} {known : ComponentUsage}
    (hknown : knownUsage packages result usage name = .ok known) :
    known.count = ((usage.get? name).map (·.count)).getD 0 := by
  unfold knownUsage at hknown
  cases hget : usage.get? name with
  | some earlier =>
      rw [hget] at hknown
      cases hknown
      rfl
  | none =>
      rw [hget] at hknown
      obtain ⟨source, -, hsource⟩ := exists_of_bind_eq_ok hknown
      cases hsource
      rfl

/-- An entry is added to what is known of its component. -/
theorem addUsage_toValue (item : Rendering) :
    addUsage packages result usage item.toValue = (do
      let known ← knownUsage packages result usage item.component
      return usage.put item.component
        { known with
          count := known.count + item.count
          files := addName known.files result.path.text }) := by
  unfold addUsage knownUsage
  refine bind_of_eq_ok rfl (bind_of_eq_ok rfl ?_)
  dsimp only
  cases usage.get? item.component with
  | some known => rfl
  | none => cases componentSource item.component result.report.patterns packages <;> rfl

/-- One entry adds its count to the renderings of all components. -/
theorem usageTotal_addUsage {item : Rendering}
    (hnext : addUsage packages result usage item.toValue = .ok next) :
    usageTotal next = usageTotal usage + item.count ∧
      (NonNegative usage → NonNegative next) := by
  rw [addUsage_toValue] at hnext
  obtain ⟨known, hknown, hnext⟩ := exists_of_bind_eq_ok hnext
  cases hnext
  have hcount := count_knownUsage hknown
  constructor
  · -- the entry of the component is written anew, with the renderings added
    have hput := total_values_put (fun known : ComponentUsage => known.count) item.component
      { known with
        count := known.count + item.count
        files := addName known.files result.path.text } usage
    unfold usageTotal
    dsimp only at hput
    omega
  · intro husage other hother
    obtain ⟨entry, hentry, rfl⟩ := List.mem_map.mp hother
    rcases Entries.mem_of_mem_put hentry with rfl | hold
    · have hearlier : 0 ≤ ((usage.get? item.component).map (·.count)).getD 0 := by
        cases hget : usage.get? item.component with
        | none => exact le_rfl
        | some earlier =>
            exact husage earlier (List.mem_map_of_mem (Entries.mem_of_get?_eq_some hget))
      show 0 ≤ known.count + item.count
      omega
    · exact husage entry.2 (List.mem_map_of_mem hold)

/-- All entries of a report add their counts. -/
theorem usageTotal_foldlM_addUsage {items : List Rendering}
    (hnext : (items.map Rendering.toValue).foldlM (addUsage packages result) usage = .ok next) :
    usageTotal next = usageTotal usage + total (items.map fun item => (item.count : Int)) ∧
      (NonNegative usage → NonNegative next) := by
  -- along the renderings of one report
  induction items generalizing usage with
  | nil =>
      cases hnext
      exact ⟨by simp, id⟩
  | cons item rest ih =>
      obtain ⟨middle, hmiddle, hnext⟩ := foldlM_cons_eq_ok hnext
      obtain ⟨hfirst, hkept⟩ := usageTotal_addUsage hmiddle
      obtain ⟨hlast, hkept'⟩ := ih hnext
      refine ⟨?_, fun husage => hkept' (hkept husage)⟩
      rw [hlast, hfirst, List.map_cons, total_cons]
      omega

/-- No entry is refused among packages that are named by texts. -/
theorem exists_addUsage (hpackages : AreTexts packages) {census : Census}
    (hreport : result.report = census.report) (usage : Entries String ComponentUsage)
    (item : Rendering) : ∃ next, addUsage packages result usage item.toValue = .ok next := by
  have hknown : ∃ known, knownUsage packages result usage item.component = .ok known := by
    unfold knownUsage
    cases usage.get? item.component with
    | some known => exact ⟨known, rfl⟩
    | none =>
        obtain ⟨source, hsource⟩ :=
          exists_componentSource hpackages census.findings item.component
        refine ⟨{ name := item.component, source := source }, ?_⟩
        rw [hreport]
        exact bind_of_eq_ok hsource rfl
  obtain ⟨known, hknown⟩ := hknown
  rw [addUsage_toValue, hknown]
  exact ⟨_, rfl⟩

end Renderings

/-! ## The sizes of the buckets -/

/-- The sizes of all buckets of a report. -/
def sizesOf (report : Report) : List Nat :=
  report.buckets.map fun bucket => bucket.2.2.length

theorem sizesOf_report (census : Census) : sizesOf census.report =
    (census.findings.importBuckets ++
      (census.findings.usageBuckets ++ census.findings.advancedBuckets)).map (·.2.length) := by
  rw [sizesOf, buckets_report]
  simp only [List.map_append, List.map_map, Function.comp_def]

theorem patternSizes_toValue (census : Census) :
    patternSizes census.findings.toValue = .ok (sizesOf census.report) := by
  rw [sizesOf_report]
  rfl

theorem length_sizesOf (census : Census) :
    (sizesOf census.report).length = countedPatterns.length := by
  rw [sizesOf_report]
  rfl

/-- The entries of the catalog with their counts, in the order of the catalog. -/
def catalogEntries (patterns : List (String × String × String)) (counts : List Nat) :
    List PatternCount :=
  List.zipWith (fun pattern count => ⟨pattern.1 ++ "." ++ pattern.2.1, pattern.2.2, count⟩)
    patterns counts

/-- The sum of the counts of the types that pass a test. -/
def tally (test : String → Bool) (entries : List PatternCount) : Int :=
  total ((entries.filter fun entry => test entry.type).map fun entry => (entry.count : Int))

theorem tally_patternCounts (test : String → Bool) (counts : List Nat) :
    tally test (patternCounts counts) = tally test (catalogEntries countedPatterns counts) :=
  total_perm (((List.mergeSort_perm _ _).filter _).map _)

theorem types_catalogEntries {patterns : List (String × String × String)} {counts : List Nat}
    (hlength : counts.length = patterns.length) :
    (catalogEntries patterns counts).map (·.type) =
      patterns.map fun pattern => pattern.1 ++ "." ++ pattern.2.1 := by
  induction patterns generalizing counts with
  | nil => rfl
  | cons pattern patterns ih =>
      cases counts with
      | nil => cases hlength
      | cons count counts => exact congrArg (List.cons _) (ih (Nat.succ.inj hlength))

theorem tally_cons (test : String → Bool) (entry : PatternCount) (entries : List PatternCount) :
    tally test (entry :: entries) =
      (if test entry.type then (entry.count : Int) else 0) + tally test entries := by
  unfold tally
  rw [List.filter_cons]
  split <;> simp

theorem tally_zipWith_add (test : String → Bool) (patterns : List (String × String × String))
    {counts sizes : List Nat} (hlength : counts.length = sizes.length) :
    tally test (catalogEntries patterns (List.zipWith (· + ·) counts sizes)) =
      tally test (catalogEntries patterns counts) + tally test (catalogEntries patterns sizes) := by
  -- along the catalog, which both lists of sizes follow
  induction patterns generalizing counts sizes with
  | nil => rfl
  | cons pattern patterns ih =>
      cases counts with
      | nil =>
          cases sizes with
          | nil => rfl
          | cons size sizes => cases hlength
      | cons count counts =>
          cases sizes with
          | nil => cases hlength
          | cons size sizes =>
              have hrest := ih (Nat.succ.inj hlength)
              unfold catalogEntries at hrest ⊢
              simp only [List.zipWith_cons_cons, tally_cons, hrest]
              split <;> push_cast <;> omega

theorem length_addCounts {counts sizes : List Nat}
    (hlength : counts = [] ∨ counts.length = sizes.length) :
    (addCounts counts sizes).length = sizes.length := by
  unfold addCounts
  split
  · rfl
  · next hfull =>
    have hlength := hlength.resolve_left fun hempty => hfull (by rw [hempty]; rfl)
    rw [List.length_zipWith, hlength, Nat.min_self]

/-- A tally of sums is the sum of the tallies. -/
theorem tally_addCounts (test : String → Bool) {counts sizes : List Nat}
    (hlength : counts = [] ∨ counts.length = sizes.length) :
    tally test (catalogEntries countedPatterns (addCounts counts sizes)) =
      tally test (catalogEntries countedPatterns counts) +
        tally test (catalogEntries countedPatterns sizes) := by
  unfold addCounts
  cases counts with
  | nil =>
      rw [if_pos (by rfl)]
      simp [catalogEntries, tally]
  | cons count counts =>
      rw [if_neg (by simp)]
      exact tally_zipWith_add test countedPatterns (hlength.resolve_left (by simp))

theorem tally_true {patterns : List (String × String × String)} {counts : List Nat}
    (hlength : counts.length = patterns.length) :
    tally (fun _ => true) (catalogEntries patterns counts) =
      total (counts.map fun count : Nat => (count : Int)) := by
  induction patterns generalizing counts with
  | nil =>
      rw [List.length_eq_zero_iff.mp hlength]
      rfl
  | cons pattern patterns ih =>
      cases counts with
      | nil => cases hlength
      | cons count counts =>
          have hrest := ih (Nat.succ.inj hlength)
          unfold catalogEntries at hrest ⊢
          simp only [List.zipWith_cons_cons, tally_cons, hrest, if_true, List.map_cons, total_cons]

/-! ## One report after the other -/

/-- A report of a counted census. -/
def Reported (report : Report) : Prop :=
  ∃ census : Census, Counted census ∧ report = census.report

section Reports

variable {packages : List Value} {report : Report} {census : Census}

theorem Reported.balanced (hreport : Reported report) : report.Balanced := by
  obtain ⟨census, hcounted, rfl⟩ := hreport
  exact hcounted.balanced

theorem total_map_length {α β : Type} (places : α → List β) (items : List α) :
    total (items.map fun item => ((places item).length : Int)) = (items.flatMap places).length := by
  induction items with
  | nil => rfl
  | cons item rest ih =>
      rw [List.map_cons, total_cons, ih, List.flatMap_cons, List.length_append]
      push_cast
      rfl

/-- The patterns of a report are those of the catalog and the attributes, of which there are as many
as rendered names. -/
theorem Reported.usagePatterns (hreport : Reported report) :
    report.summary.usagePatterns =
      tally (fun _ => true) (catalogEntries countedPatterns (sizesOf report)) +
        tally (· = "usage.jsx") (catalogEntries countedPatterns (sizesOf report)) := by
  have hbalanced := hreport.balanced
  obtain ⟨census, -, rfl⟩ := hreport
  -- renderings are counted once as such and once for their attributes
  have hprops : census.report.props.length = (census.report.bucket "usage" "jsx").length := by
    simpa using congrArg List.length hbalanced.attributes
  have hjsx : tally (· = "usage.jsx") (catalogEntries countedPatterns (sizesOf census.report)) =
      (census.report.bucket "usage" "jsx").length := by
    rw [sizesOf_report, bucket_jsx]
    simp [catalogEntries, countedPatterns, Findings.importBuckets, Findings.usageBuckets,
      Findings.advancedBuckets, tally]
  rw [tally_true (length_sizesOf census), hjsx, ← hprops, hbalanced.usagePatterns, sizesOf,
    List.map_map]
  rfl

theorem Reported.imports (hreport : Reported report) :
    report.summary.imports =
      tally (· = "imports.default") (catalogEntries countedPatterns (sizesOf report)) +
        tally (· = "imports.named") (catalogEntries countedPatterns (sizesOf report)) +
        tally (· = "imports.namespace") (catalogEntries countedPatterns (sizesOf report)) := by
  obtain ⟨census, -, rfl⟩ := hreport
  rw [sizesOf_report]
  simp [catalogEntries, countedPatterns, Findings.importBuckets, Findings.usageBuckets,
    Findings.advancedBuckets, tally, Census.report]

theorem total_counts_eq_occurrences (hcounted : Counted census) :
    total (census.findings.renderings.values.map fun item => (item.count : Int)) =
      census.report.occurrences.length := by
  have hcounts : census.findings.renderings.values.map (fun item => (item.count : Int)) =
      census.findings.renderings.values.map fun item =>
        ((item.occurrences.map Occurrence.toValue).length : Int) := by
    refine List.map_congr_left fun item hitem => ?_
    obtain ⟨entry, hentry, rfl⟩ := List.mem_map.mp hitem
    rw [List.length_map, hcounted.count_eq entry hentry]
  rw [occurrences_report, hcounts, total_map_length]

end Reports

/-- The sums over reports that were added to those of a start. -/
structure Totals.Added (start : Totals) (results : List FileResult) (final : Totals) : Prop where
  usage : usageTotal final.usage =
    usageTotal start.usage +
      total (results.map fun result => (result.report.occurrences.length : Int))
  nonNegative : NonNegative start.usage → NonNegative final.usage
  tallies : ∀ test, tally test (catalogEntries countedPatterns final.counts) =
    tally test (catalogEntries countedPatterns start.counts) +
      total (results.map fun result =>
        tally test (catalogEntries countedPatterns (sizesOf result.report)))
  counts : final.counts.length = countedPatterns.length ∨
    results = [] ∧ final.counts = start.counts

section Runs

variable {packages : List Value} {result : FileResult} {results : List FileResult}
  {census : Census} {totals next start final : Totals}

theorem Totals.add_eq (hreport : result.report = census.report) :
    Totals.add packages totals result = (do
      let usage ← (census.findings.renderings.values.map Rendering.toValue).foldlM
        (addUsage packages result) totals.usage
      return ⟨usage, addCounts totals.counts (sizesOf result.report)⟩) := by
  unfold Totals.add
  rw [hreport]
  refine bind_of_eq_ok (lookupD_usage census.findings)
    (bind_of_eq_ok (lookupD_jsx census.findings) (bind_of_eq_ok rfl ?_))
  refine congrArg (Bind.bind _) (funext fun usage => ?_)
  exact bind_of_eq_ok (patternSizes_toValue census) rfl

/-- One report adds its places and its sizes. -/
theorem Totals.added_of_add (hreport : Reported result.report)
    (htotals : totals.counts = [] ∨ totals.counts.length = countedPatterns.length)
    (hnext : Totals.add packages totals result = .ok next) : totals.Added [result] next := by
  obtain ⟨census, hcounted, hreport⟩ := hreport
  rw [Totals.add_eq hreport] at hnext
  obtain ⟨usage, hfold, hnext⟩ := exists_of_bind_eq_ok hnext
  cases hnext
  obtain ⟨husage, hkept⟩ := usageTotal_foldlM_addUsage hfold
  -- all reports have as many buckets as the catalog
  have hlength : (sizesOf result.report).length = countedPatterns.length := by
    rw [hreport]
    exact length_sizesOf census
  have hcounts : totals.counts = [] ∨ totals.counts.length = (sizesOf result.report).length :=
    htotals.imp_right fun hfull => hfull.trans hlength.symm
  refine ⟨?_, hkept, ?_, Or.inl ((length_addCounts hcounts).trans hlength)⟩
  · rw [husage, total_counts_eq_occurrences hcounted]
    simp [hreport]
  · intro test
    rw [tally_addCounts test hcounts]
    simp

/-- A list of reports adds theirs. -/
theorem Totals.added_of_foldlM_add (hresults : ∀ result ∈ results, Reported result.report)
    (hstart : start.counts = [] ∨ start.counts.length = countedPatterns.length)
    (hfinal : results.foldlM (Totals.add packages) start = .ok final) :
    start.Added results final := by
  -- along the reports, with the sums so far as the start
  induction results generalizing start with
  | nil =>
      cases hfinal
      exact ⟨by simp, id, by simp, Or.inr ⟨rfl, rfl⟩⟩
  | cons result rest ih =>
      obtain ⟨hresult, hrest⟩ := List.forall_mem_cons.mp hresults
      obtain ⟨middle, hmiddle, hfinal⟩ := foldlM_cons_eq_ok hfinal
      have hfirst := Totals.added_of_add hresult hstart hmiddle
      -- after the first report there is a size for each entry of the catalog
      have hlength : middle.counts.length = countedPatterns.length :=
        hfirst.counts.resolve_right (by simp)
      have hlast := ih hrest (Or.inr hlength) hfinal
      refine ⟨?_, fun hkept => hlast.nonNegative (hfirst.nonNegative hkept), ?_, Or.inl ?_⟩
      · have husage := hfirst.usage
        rw [hlast.usage, List.map_cons, total_cons]
        simp only [List.map_cons, List.map_nil, total_cons, total_nil] at husage
        omega
      · intro test
        have htally := hfirst.tallies test
        rw [hlast.tallies test, List.map_cons, total_cons]
        simp only [List.map_cons, List.map_nil, total_cons, total_nil] at htally
        omega
      · rcases hlast.counts with hfull | ⟨-, hsame⟩
        · exact hfull
        · rw [hsame]
          exact hlength

theorem Totals.exists_foldlM_add (hpackages : AreTexts packages)
    (hresults : ∀ result ∈ results, Reported result.report) (start : Totals) :
    ∃ final, results.foldlM (Totals.add packages) start = .ok final := by
  refine exists_foldlM_ok (fun result hresult totals => ?_) start
  obtain ⟨census, -, hreport⟩ := hresults result hresult
  have husage : ∃ usage, (census.findings.renderings.values.map Rendering.toValue).foldlM
      (addUsage packages result) totals.usage = .ok usage := by
    refine exists_foldlM_ok (fun value hvalue usage => ?_) totals.usage
    obtain ⟨item, -, rfl⟩ := List.mem_map.mp hvalue
    exact exists_addUsage hpackages hreport usage item
  obtain ⟨usage, husage⟩ := husage
  rw [Totals.add_eq hreport, husage]
  exact ⟨_, rfl⟩

end Runs

/-! ## Shares -/

open Binary64 in
/-- A quotient of a part by the whole is a finite number. -/
theorem exists_ofRatio_eq_finite (negative : Bool) {num den : Nat} (hle : num ≤ den) :
    ∃ significand exponent, ofRatio negative num den = .finite negative significand exponent := by
  unfold ofRatio
  split
  · exact ⟨_, _, rfl⟩
  · next hnum =>
    have hden : den ≠ 0 := by omega
    have hlog : num.log2 ≤ den.log2 := (Nat.le_log2 hden).mpr ((Nat.log2_self_le hnum).trans hle)
    -- a quotient of at most one is far below the greatest exponent
    have hexponent : exponentFor num den ≤ -52 := by
      unfold exponentFor leastExponent
      dsimp only
      split <;> omega
    dsimp only
    split
    · rw [if_neg (by unfold greatestExponent; omega)]
      exact ⟨_, _, rfl⟩
    · rw [if_neg (by unfold greatestExponent; omega)]
      exact ⟨_, _, rfl⟩

theorem exists_percent {part whole : Int} (hpart : 0 ≤ part) (hle : part ≤ whole)
    (hwhole : whole ≠ 0) : ∃ share, Share.percent part whole = .ok share := by
  have hnat : part.natAbs ≤ whole.natAbs := by omega
  obtain ⟨significand, exponent, hfinite⟩ :=
    exists_ofRatio_eq_finite ((part < 0) != (whole < 0)) hnat
  have hquotient : Share.quotient part whole =
      .ok (.finite ((part < 0) != (whole < 0)) significand exponent) := by
    unfold Share.quotient Quantity.wholeQuotient Binary64.quotient?
    rw [if_neg hwhole, hfinite]
  unfold Share.percent
  rw [hquotient]
  exact ⟨_, rfl⟩

theorem nonneg_addToPackage {versions : Lockfile.Versions} {known : ComponentUsage}
    (hknown : 0 ≤ known.count) {packages : Entries String PackageShare}
    (hpackages : ∀ package ∈ packages.values, 0 ≤ package.usageCount) :
    ∀ package ∈ Entries.values (addToPackage versions packages known), 0 ≤ package.usageCount := by
  intro package hpackage
  unfold addToPackage at hpackage
  split at hpackage
  · exact hpackages package hpackage
  · dsimp only at hpackage
    obtain ⟨entry, hentry, rfl⟩ := List.mem_map.mp hpackage
    rcases Entries.mem_of_mem_put hentry with rfl | hold
    · cases hget : packages.get? known.source with
      | none => simpa using hknown
      | some earlier =>
          have hearlier := hpackages earlier
            (List.mem_map_of_mem (Entries.mem_of_get?_eq_some hget))
          exact Int.add_nonneg hearlier hknown
    · exact hpackages entry.2 (List.mem_map_of_mem hold)

/-- The shares of packages can always be computed. -/
theorem exists_distribution {usage : Entries String ComponentUsage} (husage : NonNegative usage)
    (versions : Lockfile.Versions) : ∃ shares, distribution usage versions = .ok shares := by
  have hpackages : ∀ package ∈ Entries.values (usage.values.foldl (addToPackage versions) []),
      0 ≤ package.usageCount :=
    List.foldlRecOn (motive := fun packages : Entries String PackageShare =>
      ∀ package ∈ packages.values, 0 ≤ package.usageCount) usage.values _ (by simp [Entries.values])
      fun _ hkept known hknown => nonneg_addToPackage (husage known hknown) hkept
  unfold distribution
  dsimp only
  generalize Entries.values (usage.values.foldl (addToPackage versions) []) = packages
    at hpackages ⊢
  have hcounts : ∀ count ∈ packages.map (·.usageCount), 0 ≤ count := by
    intro count hcount
    obtain ⟨package, hpackage, rfl⟩ := List.mem_map.mp hcount
    exact hpackages package hpackage
  -- each part is at most the whole, so its percentage exists
  have hshare : ∀ package ∈ packages, ∃ share : PackageShare,
      (if total (packages.map (·.usageCount)) = 0 then pure package
      else do
        return { package with
          percentage := ← Share.percent package.usageCount (total (packages.map (·.usageCount))) } :
        Except Fault PackageShare) = .ok share := by
    intro package hpackage
    split
    · exact ⟨package, rfl⟩
    · next hsum =>
      obtain ⟨share, hshare⟩ := exists_percent (hpackages package hpackage)
        (le_total_of_mem hcounts (List.mem_map_of_mem hpackage)) hsum
      exact ⟨_, bind_of_eq_ok hshare rfl⟩
  obtain ⟨shares, hshares⟩ := exists_mapM_ok hshare
  exact ⟨_, bind_of_eq_ok hshares rfl⟩

/-! ## Reports taken together -/

namespace Aggregate

/-- The count of a pattern, which is listed once. -/
def countOf (aggregate : Aggregate) (type : String) : Int :=
  tally (· = type) aggregate.patternCounts

/-- The numbers of many reports are sums over their lists. -/
structure Tallies (results : List FileResult) (aggregate : Aggregate) : Prop where
  types : (aggregate.patternCounts.map (·.type)).Perm
    (countedPatterns.map fun pattern => pattern.1 ++ "." ++ pattern.2.1)
  usagePatterns : aggregate.usagePatterns =
    total (aggregate.patternCounts.map fun pattern => (pattern.count : Int)) +
      aggregate.countOf "usage.jsx"
  imports : aggregate.imports = aggregate.countOf "imports.default" +
    aggregate.countOf "imports.named" + aggregate.countOf "imports.namespace"
  usage : total (aggregate.usage.values.map (·.count)) =
    (results.flatMap fun result => result.report.occurrences).length

end Aggregate

section Aggregates

variable {results : List FileResult} {versions : Lockfile.Versions}

theorem exists_aggregate (hpackages : AreTexts versions.packages.keys)
    (hresults : ∀ result ∈ results, Reported result.report) :
    ∃ whole, aggregate results versions = .ok whole := by
  obtain ⟨totals, htotals⟩ := Totals.exists_foldlM_add hpackages hresults {}
  have hadded := Totals.added_of_foldlM_add hresults (Or.inl rfl) htotals
  obtain ⟨shares, hshares⟩ :=
    exists_distribution (hadded.nonNegative (by simp [NonNegative, Entries.values])) versions
  exact ⟨_, bind_of_eq_ok htotals (bind_of_eq_ok hshares rfl)⟩

theorem tallies_of_aggregate (hnonempty : results ≠ [])
    (hresults : ∀ result ∈ results, Reported result.report) {whole : Aggregate}
    (hwhole : aggregate results versions = .ok whole) : whole.Tallies results := by
  unfold aggregate at hwhole
  obtain ⟨totals, htotals, hwhole⟩ := exists_of_bind_eq_ok hwhole
  obtain ⟨shares, -, hwhole⟩ := exists_of_bind_eq_ok hwhole
  cases hwhole
  have hadded := Totals.added_of_foldlM_add hresults (Or.inl rfl) htotals
  have hlength : totals.counts.length = countedPatterns.length :=
    hadded.counts.resolve_right fun hnone => hnonempty hnone.1
  -- the tally of the whole, for every test at once
  have htally : ∀ test, tally test (patternCounts totals.counts) =
      total (results.map fun result =>
        tally test (catalogEntries countedPatterns (sizesOf result.report))) := by
    intro test
    rw [tally_patternCounts, hadded.tallies test]
    simp [catalogEntries, tally]
  refine ⟨?_, ?_, ?_, ?_⟩
  · rw [← types_catalogEntries hlength]
    exact (List.mergeSort_perm _ _).map _
  · -- the usage patterns count the renderings twice
    have hsum : total ((patternCounts totals.counts).map fun pattern => (pattern.count : Int)) =
        tally (fun _ => true) (patternCounts totals.counts) := by
      simp [tally]
    have husage : results.map (fun result => result.report.summary.usagePatterns) =
        results.map fun result =>
          tally (fun _ => true) (catalogEntries countedPatterns (sizesOf result.report)) +
            tally (· = "usage.jsx") (catalogEntries countedPatterns (sizesOf result.report)) :=
      List.map_congr_left fun result hresult => (hresults result hresult).usagePatterns
    show total (results.map fun result => result.report.summary.usagePatterns) =
      _ + tally _ (patternCounts totals.counts)
    rw [hsum, htally, htally, husage, total_map_add]
  · have himports : results.map (fun result => result.report.summary.imports) =
        results.map fun result =>
          tally (· = "imports.default") (catalogEntries countedPatterns (sizesOf result.report)) +
          tally (· = "imports.named") (catalogEntries countedPatterns (sizesOf result.report)) +
          tally (· = "imports.namespace")
            (catalogEntries countedPatterns (sizesOf result.report)) :=
      List.map_congr_left fun result hresult => (hresults result hresult).imports
    show total (results.map fun result => result.report.summary.imports) =
      tally _ (patternCounts totals.counts) + tally _ (patternCounts totals.counts) +
        tally _ (patternCounts totals.counts)
    rw [htally, htally, htally, himports, total_map_add, total_map_add]
  · have husage := hadded.usage
    rw [total_map_length] at husage
    simpa [usageTotal, Entries.values] using husage

theorem reported_of_reportFor {tree : Node} {library : Option String} {report : Report}
    (hreport : (Census.empty.visit tree).reportFor library = .ok report) : Reported report :=
  (Counted.of_reachable (.visit .empty [] (Site.root tree))).of_reportFor hreport

end Aggregates

/-- **Counters agree.**  The numbers of a report are those of its lists, whether the report was
narrowed to a library or not; it can be narrowed unless something is rendered under a name without a
root.  The numbers of many such reports are sums over the lists of all of them, and there are such
numbers as long as packages are named by texts. -/
theorem counters_agree :
    (∀ (tree : Node) (library : Option String),
      ((∃ report, (Census.empty.visit tree).reportFor library = .ok report) ↔
        (library = none ∨ ∀ name ∈ (Census.empty.visit tree).findings.renderings.keys,
          Report.rootNames name ≠ [])) ∧
      ∀ report, (Census.empty.visit tree).reportFor library = .ok report → report.Balanced) ∧
    ∀ (results : List FileResult) (versions : Lockfile.Versions), results ≠ [] →
      (∀ result ∈ results, ∃ (tree : Node) (library : Option String),
        (Census.empty.visit tree).reportFor library = .ok result.report) →
      (AreTexts versions.packages.keys → ∃ whole, aggregate results versions = .ok whole) ∧
        ∀ whole, aggregate results versions = .ok whole → whole.Tallies results := by
  refine ⟨fun tree library => ⟨?_, fun report hreport => ?_⟩,
    fun results versions hnonempty hresults => ?_⟩
  · exact (Counted.of_reachable (.visit .empty [] (Site.root tree))).exists_reportFor_iff
  · exact (reported_of_reportFor hreport).balanced
  · have hreported : ∀ result ∈ results, Reported result.report := by
      intro result hresult
      obtain ⟨tree, library, hreport⟩ := hresults result hresult
      exact reported_of_reportFor hreport
    exact ⟨fun hpackages => exists_aggregate hpackages hreported,
      fun whole hwhole => tallies_of_aggregate hnonempty hreported hwhole⟩

/-- Two files that render a component twice, one of them narrowed to its library: all four places
count. -/
theorem counters_agree_of_renderedTwice :
    ∃ report whole, (Census.empty.visit renderedTwice).reportFor (some "m") = .ok report ∧
      report.Balanced ∧
      aggregate [⟨{}, (Census.empty.visit renderedTwice).report, none⟩, ⟨{}, report, none⟩] {} =
        .ok whole ∧
      total (whole.usage.values.map (·.count)) = 4 ∧
      whole.usagePatterns = total (whole.patternCounts.map fun pattern => (pattern.count : Int)) +
        whole.countOf "usage.jsx" := by
  have hroots : ∀ name ∈ (Census.empty.visit renderedTwice).findings.renderings.keys,
      Report.rootNames name ≠ [] := by
    have hkeys : (Census.empty.visit renderedTwice).findings.renderings.keys = ["A"] := by cbv
    rw [hkeys, List.forall_mem_singleton]
    have hnames : Report.rootNames "A" = ["A"] := by cbv
    simp [hnames]
  obtain ⟨hexists, hbalanced⟩ := counters_agree.1 renderedTwice (some "m")
  obtain ⟨report, hreport⟩ := hexists.mpr (Or.inr hroots)
  have hresults : ∀ result ∈ [FileResult.mk {} (Census.empty.visit renderedTwice).report none,
      FileResult.mk {} report none], ∃ (tree : Node) (library : Option String),
        (Census.empty.visit tree).reportFor library = .ok result.report := by
    rw [List.forall_mem_cons, List.forall_mem_singleton]
    exact ⟨⟨renderedTwice, none, by rw [Census.reportFor]⟩, renderedTwice, some "m", hreport⟩
  obtain ⟨hwhole, htallies⟩ := counters_agree.2 _ {} (List.cons_ne_nil _ _) hresults
  obtain ⟨whole, hwhole⟩ := hwhole (by simp [AreTexts, Entries.keys])
  have htallied := htallies whole hwhole
  have hplaces : (Census.empty.visit renderedTwice).report.occurrences.length = 2 := by cbv
  have hnarrowed : report.occurrences.length = 2 := by
    have hkept :
        ((Census.empty.visit renderedTwice).narrowed "m").report.occurrences.length = 2 := by
      cbv
    rw [Census.reportFor, narrow_report] at hreport
    split at hreport
    · cases hreport
      exact hkept
    · cases hreport
  refine ⟨report, whole, hreport, hbalanced report hreport, hwhole, ?_, htallied.usagePatterns⟩
  rw [htallied.usage]
  simp [hplaces, hnarrowed]

end Package

end ComponentCensus
