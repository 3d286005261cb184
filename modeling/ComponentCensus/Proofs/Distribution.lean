import ComponentCensus.Proofs.Uses

/-!
# The distribution of usage among packages

Components are added to their packages one after the other, and three figures of a package grow
with each of them: the number of components, the renderings and the list of names.  In closed form,
the table of the packages has one entry for each known source, in the order in which sources first
appear, and the entry says of its source what the components with this source say together
(`foldl_addToPackage`).  So the packages divide the components that have a known source among
themselves.

Neither the percentages nor the order of the list change a figure (`figures_of_distribution`).  The
sort is stable, so packages with the same number of renderings stay in the order in which they
appeared (`filter_mergeSort_of_tied`).

## Main results

* `packages_partition_usage` : each component with a known source is in exactly one package, and
  the figures of a package are those of its components (`Partitions`).

## Strategy

* The closed form is shown by induction from the right: one more component is one more step of the
  fold (`addToPackage_append`), and the closed form of the longer list is compared entry by entry.
* What follows is about the closed form alone: names, figures and the total are read off it
  (`names_of_distribution`, `figures_of_mem`, `total_of_distribution`).
-/

namespace ComponentCensus

open ComponentCensus.Number

/-! ## Tables by key -/

namespace Entries

variable {α : Type}

theorem put_map_key {keys : List String} (hkeys : keys.Nodup) (value : String → α) (key : String)
    (new : α) :
    Entries.put key new (keys.map fun name => (name, value name)) =
      (addName keys key).map fun name => (name, if name = key then new else value name) := by
  induction keys with
  | nil => simp [put, addName]
  | cons name rest ih =>
      obtain ⟨hfresh, hrest⟩ := List.nodup_cons.mp hkeys
      by_cases hname : name = key
      · subst hname
        -- the key does not come again, so the others keep their values
        have hothers : rest.map (fun other => (other, value other)) =
            rest.map fun other => (other, if other = name then new else value other) := by
          refine List.map_congr_left fun other hother => ?_
          have hne : ¬ other = name := fun heq => hfresh (heq ▸ hother)
          rw [if_neg hne]
        simp [put, addName, hothers]
      · have hne : ¬ key = name := fun heq => hname heq.symm
        have hadd : addName (name :: rest) key = name :: addName rest key := by
          unfold addName
          by_cases hmem : key ∈ rest <;> simp [hmem, hne]
        simp [put, hname, hadd, ih hrest]

end Entries

/-! ## Order -/

/-- Names without repetition stand in the order in which they first appear. -/
theorem pairwise_eraseDups (names : List String) :
    names.eraseDups.Pairwise fun first second => names.idxOf first < names.idxOf second := by
  induction names using List.reverseRecOn with
  | nil => simp
  | append_singleton names name ih =>
      -- a longer list leaves the first places of its names as they were
      have hkept : names.eraseDups.Pairwise fun first second =>
          (names ++ [name]).idxOf first < (names ++ [name]).idxOf second := by
        refine ih.imp_of_mem fun hfirst hsecond hlt => ?_
        rw [List.mem_eraseDups] at hfirst hsecond
        rwa [List.idxOf_append_of_mem hfirst, List.idxOf_append_of_mem hsecond]
      rw [← addName_eraseDups, addName]
      split
      · exact hkept
      · next hfresh =>
        rw [List.mem_eraseDups] at hfresh
        refine List.pairwise_append.mpr ⟨hkept, List.pairwise_singleton _ _, fun first hfirst => ?_⟩
        rw [List.mem_eraseDups] at hfirst
        have hlt := List.idxOf_lt_length_of_mem hfirst
        simpa [List.idxOf_append_of_mem hfirst, List.idxOf_append_of_notMem hfresh] using hlt

/-- A sort leaves the items that tie in their order. -/
theorem filter_mergeSort_of_tied {α : Type} {le : α → α → Bool}
    (htrans : ∀ a b c, le a b = true → le b c = true → le a c = true)
    (htotal : ∀ a b, (le a b || le b a) = true) {test : α → Bool}
    (htied : ∀ a b, test a = true → test b = true → le a b = true) (items : List α) :
    (items.mergeSort le).filter test = items.filter test := by
  have hsorted : (items.filter test).Pairwise fun a b => le a b = true := by
    refine List.pairwise_of_forall_mem_list fun a ha b hb => ?_
    exact htied a b (List.mem_filter.mp ha).2 (List.mem_filter.mp hb).2
  have hsublist := (List.sublist_mergeSort htrans htotal hsorted List.filter_sublist).filter test
  rw [List.filter_filter] at hsublist
  simp only [Bool.and_self] at hsublist
  exact (hsublist.eq_of_length ((List.mergeSort_perm items le).filter test).length_eq.symm).symm

theorem total_map_filter {α : Type} (keep : α → Bool) (count : α → Int) (items : List α) :
    total ((items.filter keep).map count) =
      total (items.map fun item => if keep item then count item else 0) := by
  induction items with
  | nil => rfl
  | cons item rest ih =>
      rw [List.filter_cons, List.map_cons, total_cons, ← ih]
      by_cases hkeep : keep item <;> simp [hkeep]

namespace Package

/-! ## Components by source -/

/-- The components that have a source. -/
def withSource (components : List ComponentUsage) (source : String) : List ComponentUsage :=
  components.filter fun known => known.source = source

/-- The place where a source first appears among components. -/
def firstPlace (components : List ComponentUsage) (source : String) : Nat :=
  (components.map (·.source)).idxOf source

/-- The known sources of components in the order in which they first appear. -/
def knownSources (components : List ComponentUsage) : List String :=
  (components.map (·.source)).eraseDups.filter fun source => source ≠ unknownPackage

/-- The share that the components with a source have together; the percentage is still open. -/
def shareOf (versions : Lockfile.Versions) (components : List ComponentUsage) (source : String) :
    PackageShare where
  name := source
  version := ((versions.versionOf? source).filter (· ≠ "")).getD unknownPackage
  componentCount := (withSource components source).length
  usageCount := total ((withSource components source).map (·.count))
  components := (withSource components source).map (·.name)

section Sources

variable {versions : Lockfile.Versions} {components : List ComponentUsage}
  {known : ComponentUsage} {source : String}

theorem mem_knownSources : source ∈ knownSources components ↔
    source ≠ unknownPackage ∧ ∃ known ∈ components, known.source = source := by
  simp [knownSources, and_comm]

theorem nodup_knownSources (components : List ComponentUsage) : (knownSources components).Nodup :=
  (nodup_eraseDups _).filter _

theorem knownSources_append_unknown (hunknown : known.source = unknownPackage) :
    knownSources (components ++ [known]) = knownSources components := by
  rw [knownSources, List.map_append, List.map_singleton, ← addName_eraseDups, addName]
  split
  · rfl
  · simp [knownSources, hunknown]

theorem knownSources_append (hknown : known.source ≠ unknownPackage) :
    knownSources (components ++ [known]) = addName (knownSources components) known.source := by
  rw [knownSources, List.map_append, List.map_singleton, ← addName_eraseDups, addName, addName]
  by_cases hmem : known.source ∈ components.map (·.source)
  · -- a source that has appeared is listed already
    have hsource : known.source ∈ knownSources components := by
      obtain ⟨other, hother, hsame⟩ := List.mem_map.mp hmem
      exact mem_knownSources.mpr ⟨hknown, other, hother, hsame⟩
    rw [if_pos (List.mem_eraseDups.mpr hmem), if_pos hsource, knownSources]
  · have hsource : known.source ∉ knownSources components := by
      intro hin
      obtain ⟨-, other, hother, hsame⟩ := mem_knownSources.mp hin
      exact hmem (List.mem_map.mpr ⟨other, hother, hsame⟩)
    rw [if_neg (mt List.mem_eraseDups.mp hmem), if_neg hsource, List.filter_append]
    simp [knownSources, hknown]

/-- A component says nothing of other sources. -/
theorem shareOf_append_other (hother : known.source ≠ source) :
    shareOf versions (components ++ [known]) source = shareOf versions components source := by
  simp [shareOf, withSource, List.filter_append, hother]

/-- What is known of a source before one more component is added is what the others say of it. -/
theorem getD_knownSources (versions : Lockfile.Versions) (components : List ComponentUsage)
    (hsource : source ≠ unknownPackage) :
    (Entries.get? source ((knownSources components).map fun package =>
        (package, shareOf versions components package))).getD
      { name := source
        version := ((versions.versionOf? source).filter (· ≠ "")).getD unknownPackage } =
      shareOf versions components source := by
  rw [Entries.get?_map_key]
  split
  · rfl
  · next hnew =>
    have hnone : withSource components source = [] := by
      refine List.filter_eq_nil_iff.mpr fun known hknown hsame => hnew ?_
      exact mem_knownSources.mpr ⟨hsource, known, hknown, of_decide_eq_true hsame⟩
    simp [shareOf, hnone]

/-- One more component goes to the package of its source. -/
theorem addToPackage_append (versions : Lockfile.Versions) (components : List ComponentUsage)
    (known : ComponentUsage) :
    addToPackage versions ((knownSources components).map fun package =>
        (package, shareOf versions components package)) known =
      (knownSources (components ++ [known])).map fun package =>
        (package, shareOf versions (components ++ [known]) package) := by
  unfold addToPackage
  by_cases hunknown : known.source = unknownPackage
  · rw [if_pos hunknown, knownSources_append_unknown hunknown]
    refine List.map_congr_left fun package hpackage => ?_
    -- no package has the unknown source, so no figure changes
    have hother : known.source ≠ package := by
      rintro rfl
      exact (mem_knownSources.mp hpackage).1 hunknown
    rw [shareOf_append_other hother]
  · rw [if_neg hunknown]
    dsimp only
    rw [getD_knownSources versions components hunknown,
      Entries.put_map_key (nodup_knownSources components), knownSources_append hunknown]
    -- entry by entry: the figures grow for the source of the component and for no other
    refine List.map_congr_left fun package _ => ?_
    split
    · next hsame =>
      subst hsame
      simp [shareOf, withSource, List.filter_append, total_append]
    · next hother => rw [shareOf_append_other fun heq => hother heq.symm]

/-- The packages of components: one for each known source, with the share of the source. -/
theorem foldl_addToPackage (versions : Lockfile.Versions) (components : List ComponentUsage) :
    components.foldl (addToPackage versions) [] =
      (knownSources components).map fun package =>
        (package, shareOf versions components package) := by
  induction components using List.reverseRecOn with
  | nil => rfl
  | append_singleton components known ih =>
      rw [List.foldl_append, ih]
      exact addToPackage_append versions components known

end Sources

/-! ## The list of packages -/

/-- A share without its percentage. -/
def PackageShare.figures (share : PackageShare) : PackageShare :=
  { share with percentage := Binary64.zero false }

/-- Whether a package goes before another one in the list. -/
def isBefore (first second : PackageShare) : Bool :=
  decide (second.usageCount ≤ first.usageCount)

section Listed

variable {usage : Entries String ComponentUsage} {versions : Lockfile.Versions}
  {listed : List PackageShare}

/-- Up to percentages, the list holds the shares of the known sources, sorted. -/
theorem figures_of_distribution (hlisted : distribution usage versions = .ok listed) :
    ∃ shares : List PackageShare, listed = shares.mergeSort isBefore ∧
      shares.map (·.figures) =
        (knownSources usage.values).map (shareOf versions usage.values) := by
  unfold distribution at hlisted
  obtain ⟨shares, hshares, hlisted⟩ := exists_of_bind_eq_ok hlisted
  cases hlisted
  refine ⟨shares, rfl, ?_⟩
  have hfigures : shares.map (·.figures) =
      (Entries.values (usage.values.foldl (addToPackage versions) [])).map (·.figures) := by
    -- a percentage is put in, and the figures stay
    refine map_of_mapM_eq_ok _ _ (fun share result hresult => ?_) hshares
    split at hresult
    · cases hresult
      rfl
    · obtain ⟨percentage, -, hresult⟩ := exists_of_bind_eq_ok hresult
      cases hresult
      rfl
  rw [hfigures, foldl_addToPackage, Entries.values, List.map_map, List.map_map]
  rfl

/-- The names of shares are those of their sources. -/
theorem names_of_figures {components : List ComponentUsage} {shares : List PackageShare}
    (hshares : shares.map (·.figures) =
      (knownSources components).map (shareOf versions components)) :
    shares.map (·.name) = knownSources components := by
  have hnames := congrArg (List.map fun share : PackageShare => share.name) hshares
  rw [List.map_map, List.map_map] at hnames
  exact hnames.trans (List.map_id _)

/-- The packages are the known sources. -/
theorem names_of_distribution (hlisted : distribution usage versions = .ok listed) :
    (listed.map (·.name)).Perm (knownSources usage.values) := by
  obtain ⟨shares, rfl, hshares⟩ := figures_of_distribution hlisted
  rw [← names_of_figures hshares]
  exact (List.mergeSort_perm shares isBefore).map _

/-- A package has the share of its source. -/
theorem figures_of_mem (hlisted : distribution usage versions = .ok listed) {share : PackageShare}
    (hshare : share ∈ listed) : share.figures = shareOf versions usage.values share.name := by
  obtain ⟨shares, rfl, hshares⟩ := figures_of_distribution hlisted
  have hmem : share.figures ∈ (knownSources usage.values).map (shareOf versions usage.values) := by
    rw [← hshares]
    exact List.mem_map_of_mem (List.mem_mergeSort.mp hshare)
  obtain ⟨source, -, hsource⟩ := List.mem_map.mp hmem
  have hname : source = share.name := congrArg PackageShare.name hsource
  rw [← hsource, hname]

/-- Packages are listed by renderings, and those with as many in the order of appearance. -/
theorem pairwise_of_distribution (hlisted : distribution usage versions = .ok listed) :
    listed.Pairwise fun first second => second.usageCount < first.usageCount ∨
      first.usageCount = second.usageCount ∧
        firstPlace usage.values first.name < firstPlace usage.values second.name := by
  obtain ⟨shares, rfl, hshares⟩ := figures_of_distribution hlisted
  have htrans : ∀ a b c : PackageShare, isBefore a b = true → isBefore b c = true →
      isBefore a c = true := by
    intro a b c hab hbc
    simp only [isBefore, decide_eq_true_eq] at hab hbc ⊢
    omega
  have htotal : ∀ a b : PackageShare, (isBefore a b || isBefore b a) = true := by
    intro a b
    simp only [isBefore, Bool.or_eq_true, decide_eq_true_eq]
    omega
  -- before the sort the packages stand in the order of their sources
  have hsources : shares.Pairwise fun first second =>
      firstPlace usage.values first.name < firstPlace usage.values second.name := by
    have happeared := (pairwise_eraseDups (usage.values.map (·.source))).filter
      fun source => decide (source ≠ unknownPackage)
    rw [← knownSources, ← names_of_figures hshares, List.pairwise_map] at happeared
    exact happeared
  rw [List.pairwise_iff_forall_sublist] at hsources ⊢
  intro first second hpair
  have hle : isBefore first second = true :=
    List.pairwise_iff_forall_sublist.mp (List.pairwise_mergeSort htrans htotal shares) hpair
  simp only [isBefore, decide_eq_true_eq] at hle
  rcases lt_or_eq_of_le hle with hlt | htie
  · exact Or.inl hlt
  · -- the packages that tie stand in the list as they stood before
    refine Or.inr ⟨htie.symm, hsources ?_⟩
    have hkept := hpair.filter fun share => decide (share.usageCount = first.usageCount)
    rw [filter_mergeSort_of_tied htrans htotal (by
      intro a b ha hb
      simp only [isBefore, decide_eq_true_eq] at ha hb ⊢
      omega)] at hkept
    simp only [htie, decide_true, List.filter_cons_of_pos, List.filter_nil] at hkept
    exact hkept.trans List.filter_sublist

/-- The renderings of all packages are those of the components that have a known source. -/
theorem total_of_distribution (hlisted : distribution usage versions = .ok listed) :
    total (listed.map (·.usageCount)) =
      total ((usage.values.filter fun known => known.source ≠ unknownPackage).map (·.count)) := by
  obtain ⟨shares, rfl, hshares⟩ := figures_of_distribution hlisted
  -- the total over the packages is a total over groups of components
  have hcounts : shares.map (·.usageCount) = (knownSources usage.values).map fun source =>
      total ((withSource usage.values source).map (·.count)) := by
    have hfigures := congrArg (List.map fun share : PackageShare => share.usageCount) hshares
    rw [List.map_map, List.map_map] at hfigures
    exact hfigures
  have hsources : ∀ known ∈ usage.values,
      known.source ∈ (usage.values.map (·.source)).eraseDups :=
    fun known hknown => List.mem_eraseDups.mpr (List.mem_map_of_mem hknown)
  calc total ((shares.mergeSort isBefore).map (·.usageCount))
      = total (shares.map (·.usageCount)) :=
        total_perm ((List.mergeSort_perm shares isBefore).map _)
    _ = total ((knownSources usage.values).map fun source =>
          total ((withSource usage.values source).map (·.count))) := by rw [hcounts]
    _ = total ((usage.values.map (·.source)).eraseDups.map fun source =>
          if decide (source ≠ unknownPackage) then
            total ((withSource usage.values source).map (·.count)) else 0) :=
        total_map_filter _ _ _
    _ = total ((usage.values.filter fun known => known.source ≠ unknownPackage).map (·.count)) :=
        total_grouped (nodup_eraseDups _) ComponentUsage.source ComponentUsage.count
          (fun source => decide (source ≠ unknownPackage)) hsources

end Listed

/-! ## The partition -/

/-- How often a table says that a component is rendered. -/
def renderingsIn (usage : Entries String ComponentUsage) (name : String) : Int :=
  ((usage.get? name).map (·.count)).getD 0

/-- A list of packages that divides the components with a known source among its packages. -/
structure Partitions (usage : Entries String ComponentUsage) (versions : Lockfile.Versions)
    (listed : List PackageShare) : Prop where
  /-- Packages have distinct names. -/
  nodup : (listed.map (·.name)).Nodup
  known : ∀ share ∈ listed, share.name ≠ unknownPackage
  /-- A package lists the components whose source it is, each of them once. -/
  mem_components : ∀ share ∈ listed, ∀ name, name ∈ share.components ↔
    ∃ known, usage.get? name = some known ∧ known.source = share.name
  nodup_components : ∀ share ∈ listed, share.components.Nodup
  /-- A component with a known source is in one package. -/
  existsUnique : ∀ name known, usage.get? name = some known → known.source ≠ unknownPackage →
    ∃! share, share ∈ listed ∧ name ∈ share.components
  /-- The figures of a package are those of its components. -/
  componentCount : ∀ share ∈ listed, share.componentCount = share.components.length
  usageCount : ∀ share ∈ listed,
    share.usageCount = total (share.components.map (renderingsIn usage))
  /-- No rendering of a component with a known source is lost. -/
  total_eq : total (listed.map (·.usageCount)) =
    total ((usage.values.filter fun known => known.source ≠ unknownPackage).map (·.count))
  /-- The most used package comes first, and of two that are used as often the one that appears
  first. -/
  sorted : listed.Pairwise fun first second => second.usageCount < first.usageCount ∨
    first.usageCount = second.usageCount ∧
      firstPlace usage.values first.name < firstPlace usage.values second.name
  version : ∀ share ∈ listed, ∀ version, versions.packages.get? (.str share.name) = some version →
    version ≠ "" → share.version = version

section Partition

variable {usage : Entries String ComponentUsage} {versions : Lockfile.Versions}
  {listed : List PackageShare} {share : PackageShare} {known : ComponentUsage}

theorem get?_name (hkeys : usage.keys.Nodup) (hnames : ∀ entry ∈ usage, entry.2.name = entry.1)
    (hknown : known ∈ usage.values) : usage.get? known.name = some known := by
  obtain ⟨entry, hentry, rfl⟩ := List.mem_map.mp hknown
  rw [hnames entry hentry]
  exact Entries.get?_of_mem hkeys hentry

theorem components_of_mem (hlisted : distribution usage versions = .ok listed)
    (hshare : share ∈ listed) :
    share.components = (withSource usage.values share.name).map (·.name) :=
  congrArg PackageShare.components (figures_of_mem hlisted hshare)

theorem mem_components_iff (hkeys : usage.keys.Nodup)
    (hnames : ∀ entry ∈ usage, entry.2.name = entry.1)
    (hlisted : distribution usage versions = .ok listed) (hshare : share ∈ listed)
    {name : String} : name ∈ share.components ↔
      ∃ known, usage.get? name = some known ∧ known.source = share.name := by
  rw [components_of_mem hlisted hshare, List.mem_map]
  constructor
  · rintro ⟨known, hknown, rfl⟩
    obtain ⟨hvalue, hsource⟩ := List.mem_filter.mp hknown
    exact ⟨known, get?_name hkeys hnames hvalue, of_decide_eq_true hsource⟩
  · rintro ⟨known, hget, hsource⟩
    have hentry := Entries.mem_of_get?_eq_some hget
    refine ⟨known, List.mem_filter.mpr ⟨List.mem_map_of_mem hentry, decide_eq_true hsource⟩, ?_⟩
    exact hnames (name, known) hentry

theorem partitions_of_distribution (hkeys : usage.keys.Nodup)
    (hnames : ∀ entry ∈ usage, entry.2.name = entry.1)
    (hlisted : distribution usage versions = .ok listed) : Partitions usage versions listed := by
  have hperm := names_of_distribution hlisted
  have hnodup : (listed.map (·.name)).Nodup :=
    hperm.nodup_iff.mpr (nodup_knownSources usage.values)
  have hvalues : usage.values.map (·.name) = usage.keys := by
    rw [Entries.values, List.map_map]
    exact List.map_congr_left hnames
  refine
    { nodup := hnodup
      known := fun share hshare => ?_
      mem_components := fun share hshare name => mem_components_iff hkeys hnames hlisted hshare
      nodup_components := fun share hshare => ?_
      existsUnique := fun name known hget hknown => ?_
      componentCount := fun share hshare => ?_
      usageCount := fun share hshare => ?_
      total_eq := total_of_distribution hlisted
      sorted := pairwise_of_distribution hlisted
      version := fun share hshare version hversion hnonempty => ?_ }
  · exact (mem_knownSources.mp (hperm.mem_iff.mp (List.mem_map_of_mem hshare))).1
  · rw [components_of_mem hlisted hshare]
    exact (List.filter_sublist.map _).nodup (hvalues ▸ hkeys)
  · -- the package of a component is that of its source
    have hsource : known.source ∈ listed.map (·.name) := by
      refine hperm.mem_iff.mpr (mem_knownSources.mpr ⟨hknown, known, ?_, rfl⟩)
      exact List.mem_map_of_mem (Entries.mem_of_get?_eq_some hget)
    obtain ⟨share, hshare, hname⟩ := List.mem_map.mp hsource
    refine ⟨share, ⟨hshare, ?_⟩, ?_⟩
    · exact (mem_components_iff hkeys hnames hlisted hshare).mpr ⟨known, hget, hname.symm⟩
    · -- another package with the component would have the same source, and so the same name
      rintro other ⟨hother, hmem⟩
      obtain ⟨found, hfound, hits⟩ := (mem_components_iff hkeys hnames hlisted hother).mp hmem
      rw [hget, Option.some.injEq] at hfound
      subst hfound
      exact List.inj_on_of_nodup_map hnodup hother hshare (hits.symm.trans hname.symm)
  · have hcount := congrArg PackageShare.componentCount (figures_of_mem hlisted hshare)
    rw [components_of_mem hlisted hshare, List.length_map]
    exact hcount
  · have hcount := congrArg PackageShare.usageCount (figures_of_mem hlisted hshare)
    rw [components_of_mem hlisted hshare, List.map_map]
    refine hcount.trans (congrArg total (List.map_congr_left fun known hknown => ?_))
    have hget := get?_name hkeys hnames (List.mem_filter.mp hknown).1
    simp [renderingsIn, hget]
  · have hits := congrArg PackageShare.version (figures_of_mem hlisted hshare)
    refine hits.trans ?_
    simp [shareOf, Lockfile.Versions.versionOf?, Lockfile.lookup?, hversion, Option.filter_some,
      hnonempty]

/-- **Packages partition the usage.**  A table of components whose keys are their names always has a
list of packages as long as no component is rendered less than no time, and every such list divides
the components that have a known source among its packages. -/
theorem packages_partition_usage (usage : Entries String ComponentUsage)
    (versions : Lockfile.Versions) (hkeys : usage.keys.Nodup)
    (hnames : ∀ entry ∈ usage, entry.2.name = entry.1) :
    ((∀ known ∈ usage.values, 0 ≤ known.count) →
      ∃ listed, distribution usage versions = .ok listed) ∧
    ∀ listed, distribution usage versions = .ok listed → Partitions usage versions listed :=
  ⟨fun hcounts => exists_distribution hcounts versions,
    fun _ hlisted => partitions_of_distribution hkeys hnames hlisted⟩

end Partition

/-- Components of two packages that are used as often, and one without a known source between
them. -/
def mixedUsage : Entries String ComponentUsage :=
  [("A", ⟨"A", "p", 1, []⟩), ("B", ⟨"B", "unknown", 5, []⟩), ("C", ⟨"C", "q", 2, []⟩),
   ("D", ⟨"D", "p", 1, []⟩)]

/-- The components are divided between the two packages, and all but the five renderings of unknown
source are counted. -/
theorem packages_partition_mixedUsage :
    mixedUsage.keys.Nodup ∧ (∀ entry ∈ mixedUsage, entry.2.name = entry.1) ∧
      ∃ listed, distribution mixedUsage twoPackages = .ok listed ∧
        Partitions mixedUsage twoPackages listed ∧ total (listed.map (·.usageCount)) = 4 := by
  have hkeys : mixedUsage.keys.Nodup := by decide
  have hnames : ∀ entry ∈ mixedUsage, entry.2.name = entry.1 := by simp [mixedUsage]
  obtain ⟨hexists, hpartitions⟩ := packages_partition_usage mixedUsage twoPackages hkeys hnames
  obtain ⟨listed, hlisted⟩ := hexists (by simp [mixedUsage, Entries.values])
  have hpartition := hpartitions listed hlisted
  refine ⟨hkeys, hnames, listed, hlisted, hpartition, ?_⟩
  rw [hpartition.total_eq]
  decide

end Package

end ComponentCensus
