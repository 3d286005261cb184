import ComponentCensus.Proofs.Uses

/-!
# The usage of packages

A package is listed with the renderings of its components.  A component belongs to the package that
the first use of it gives, so all uses of a name count for one package, also those of files that
have the name from somewhere else.

## Main results

* `usage_of_first_package` : the packages of an aggregate divide its renderings by the first use of
  each component (`Divided`), and a package has the renderings that its own imports account for
  exactly if as many renderings are taken from it as it is given.
* `usage_lost_to_first_package` : two files and two packages, of which one is given nothing.

## Strategy

* Each component adds its count to the share of its source (`total_weights_addToPackage`), and
  neither the percentages nor the order of the shares change the counts
  (`usageCountOf_of_distribution`).
* The components of a source are those that are first used with it, and the sum of their counts is
  the sum over the uses of these components (`total_weights_of_tabled`).
-/

namespace ComponentCensus.Package

open ComponentCensus.Number ComponentCensus.Syntax ComponentCensus.Usage

/-- The renderings that an aggregate lists for a package, none if it does not list it. -/
def Aggregate.usageCountOf (whole : Aggregate) (package : String) : Int :=
  ((whole.packages.find? fun share => share.name = package).map (·.usageCount)).getD 0

/-- The package that the first use of a component gives it. -/
def firstSource? (uses : List Use) (component : String) : Option String :=
  (uses.find? fun use => use.component = component).bind fun use => use.source.toOption

/-- Whether a use is of a component that is first used from a package. -/
def isGiven (uses : List Use) (package : String) (use : Use) : Bool :=
  firstSource? uses use.component = some package

/-- Whether the imports of its own file give a use to a package. -/
def isImported (package : String) (use : Use) : Bool :=
  use.source.toOption = some package

/-- The renderings of the uses that pass a test. -/
def renderingsOf (test : Use → Bool) (uses : List Use) : Int :=
  total ((uses.filter test).map (·.count))

/-! ## Shares -/

/-- What a share counts for a package. -/
def weightFor (package : String) (share : PackageShare) : Int :=
  if share.name = package then share.usageCount else 0

/-- Shares that stand under their own names. -/
structure Named (shares : Entries String PackageShare) : Prop where
  nodup : shares.keys.Nodup
  name_eq : ∀ entry ∈ shares, entry.2.name = entry.1

section Shares

variable {versions : Lockfile.Versions} {shares : Entries String PackageShare}
  {known : ComponentUsage} {package : String}

theorem name_getD (hshares : Named shares) (source version : String) :
    ((shares.get? source).getD { name := source, version := version }).name = source := by
  cases hget : shares.get? source with
  | none => rfl
  | some share => exact hshares.name_eq (source, share) (Entries.mem_of_get?_eq_some hget)

theorem Named.addToPackage (hshares : Named shares) :
    Named (addToPackage versions shares known) := by
  unfold Package.addToPackage
  split
  · exact hshares
  · refine ⟨Entries.nodup_keys_put hshares.nodup _ _, fun entry hentry => ?_⟩
    rcases Entries.mem_of_mem_put hentry with rfl | hold
    · exact name_getD hshares _ _
    · exact hshares.name_eq entry hold

/-- A component adds its count to the share of its source. -/
theorem total_weights_addToPackage (hshares : Named shares) (hpackage : package ≠ unknownPackage) :
    total ((Entries.values (addToPackage versions shares known)).map (weightFor package)) =
      total (shares.values.map (weightFor package)) +
        if known.source = package then known.count else 0 := by
  unfold addToPackage
  by_cases hunknown : known.source = unknownPackage
  · have hother : ¬ known.source = package := fun heq => hpackage (heq.symm.trans hunknown)
    rw [if_pos hunknown, if_neg hother, Int.add_zero]
  · rw [if_neg hunknown]
    dsimp only
    generalize ((versions.versionOf? known.source).filter (· ≠ "")).getD unknownPackage = version
    have hname := name_getD hshares known.source version
    have hput := total_values_put (weightFor package) known.source
      { (shares.get? known.source).getD { name := known.source, version := version } with
        componentCount :=
          ((shares.get? known.source).getD
            { name := known.source, version := version }).componentCount + 1
        usageCount :=
          ((shares.get? known.source).getD
            { name := known.source, version := version }).usageCount + known.count
        components :=
          ((shares.get? known.source).getD
            { name := known.source, version := version }).components ++ [known.name] } shares
    cases hget : shares.get? known.source with
    | none =>
        rw [hget] at hput
        simp only [Option.map_none, Option.getD_none, weightFor] at hput ⊢
        split at hput
        · next hsource => rw [if_pos hsource]; omega
        · next hsource => rw [if_neg hsource]; omega
    | some earlier =>
        rw [hget] at hput hname
        simp only [Option.getD_some] at hname
        simp only [Option.map_some, Option.getD_some, weightFor, hname] at hput ⊢
        split at hput
        · next hsource => rw [if_pos hsource]; omega
        · next hsource => rw [if_neg hsource]; omega

/-- The shares of all components, each under its name, count them by source. -/
theorem weights_foldl_addToPackage (components : List ComponentUsage) (hshares : Named shares)
    (hpackage : package ≠ unknownPackage) :
    Named (components.foldl (addToPackage versions) shares) ∧
      total ((Entries.values (components.foldl (addToPackage versions) shares)).map
          (weightFor package)) =
        total (shares.values.map (weightFor package)) +
          total (components.map fun known =>
            if known.source = package then known.count else 0) := by
  induction components generalizing shares with
  | nil => exact ⟨hshares, by simp⟩
  | cons known rest ih =>
      have hnext : Named (addToPackage versions shares known) := hshares.addToPackage
      obtain ⟨hnamed, hsum⟩ := ih hnext
      refine ⟨hnamed, ?_⟩
      rw [List.foldl_cons, hsum, total_weights_addToPackage hshares hpackage, List.map_cons,
        total_cons, Int.add_assoc]

/-- Under names without repetition, what is found under a name is all that is listed under it. -/
theorem find?_eq_total {listed : List PackageShare} (hlisted : (listed.map (·.name)).Nodup) :
    ((listed.find? fun share => share.name = package).map (·.usageCount)).getD 0 =
      total (listed.map (weightFor package)) := by
  induction listed with
  | nil => rfl
  | cons share rest ih =>
      obtain ⟨hfresh, hrest⟩ := List.nodup_cons.mp hlisted
      rw [List.map_cons, total_cons]
      by_cases hname : share.name = package
      · have hothers : rest.map (weightFor package) = rest.map fun _ => 0 := by
          refine List.map_congr_left fun other hother => if_neg fun heq => hfresh ?_
          exact List.mem_map.mpr ⟨other, hother, heq.trans hname.symm⟩
        rw [List.find?_cons_of_pos (by simpa using hname), hothers, total_map_zero, weightFor,
          if_pos hname, Int.add_zero]
        rfl
      · rw [List.find?_cons_of_neg (by simpa using hname), ih hrest, weightFor, if_neg hname,
          Int.zero_add]

/-- What is listed for a package is the sum over the components with this source. -/
theorem usageCountOf_of_distribution {usage : Entries String ComponentUsage}
    {listed : List PackageShare} (hlisted : distribution usage versions = .ok listed)
    (hpackage : package ≠ unknownPackage) :
    (listed.map (·.name)).Nodup ∧
      ((listed.find? fun share => share.name = package).map (·.usageCount)).getD 0 =
        total (usage.values.map fun known =>
          if known.source = package then known.count else 0) := by
  have hempty : Named [] := ⟨List.nodup_nil, by simp⟩
  obtain ⟨hnamed, hsum⟩ :=
    @weights_foldl_addToPackage versions [] package usage.values hempty hpackage
  unfold distribution at hlisted
  obtain ⟨shares, hshares, hlisted⟩ := exists_of_bind_eq_ok hlisted
  cases hlisted
  -- the percentages change neither names nor counts
  have hkept : shares.map (fun share => (share.name, share.usageCount)) =
      (Entries.values (usage.values.foldl (addToPackage versions) [])).map
        fun share => (share.name, share.usageCount) := by
    refine map_of_mapM_eq_ok _ _ (fun share result hresult => ?_) hshares
    split at hresult
    · cases hresult
      rfl
    · obtain ⟨percentage, -, hresult⟩ := exists_of_bind_eq_ok hresult
      cases hresult
      rfl
  have hnames : shares.map (·.name) =
      (usage.values.foldl (addToPackage versions) []).keys := by
    have hfirst := congrArg (List.map Prod.fst) hkept
    rw [List.map_map, List.map_map, Entries.values, List.map_map] at hfirst
    exact hfirst.trans (List.map_congr_left hnamed.name_eq)
  have hweights : shares.map (weightFor package) =
      (Entries.values (usage.values.foldl (addToPackage versions) [])).map (weightFor package) := by
    have hboth := congrArg
      (List.map fun pair : String × Int => if pair.1 = package then pair.2 else 0) hkept
    rwa [List.map_map, List.map_map] at hboth
  have hsorted := List.mergeSort_perm shares fun a b => decide (b.usageCount ≤ a.usageCount)
  have hnodup := (hsorted.map (·.name)).nodup_iff.mpr (hnames ▸ hnamed.nodup)
  refine ⟨hnodup, ?_⟩
  rw [find?_eq_total hnodup, total_perm (hsorted.map _), hweights, hsum]
  simp [Entries.values]

end Shares

/-! ## Components and uses -/

/-- The components of a source are those first used with it, and they have all uses of their
names. -/
theorem total_weights_of_tabled {uses : List Use} {usage : Entries String ComponentUsage}
    (htable : Tabled uses usage) (package : String) :
    total (usage.values.map fun known => if known.source = package then known.count else 0) =
      renderingsOf (isGiven uses package) uses := by
  have hentries : usage.values.map
        (fun known => if known.source = package then known.count else 0) =
      usage.keys.map fun name =>
        if decide (firstSource? uses name = some package) then
          total ((uses.filter fun use => use.component = name).map (·.count)) else 0 := by
    rw [Entries.values, Entries.keys, List.map_map, List.map_map]
    refine List.map_congr_left fun entry hentry => ?_
    have hsummed := htable.summed entry.1 entry.2 (Entries.get?_of_mem htable.nodup hentry)
    have hsource : firstSource? uses entry.1 = some entry.2.source := by
      obtain ⟨first, hfirst, hok⟩ := Option.map_eq_some_iff.mp hsummed.source_eq
      simp [firstSource?, hfirst, hok, Except.toOption]
    simp only [Function.comp_apply, hsource, Option.some.injEq, decide_eq_true_eq,
      hsummed.count_eq]
  rw [hentries, total_grouped htable.nodup (fun use : Use => use.component)
    (fun use => use.count) fun name => decide (firstSource? uses name = some package)]
  · rfl
  · intro use huse
    exact (htable.mem_keys _).mpr ⟨use, huse, rfl⟩

/-- The renderings of one test and those of another differ by what only one of them accepts. -/
theorem renderingsOf_eq_iff (first second : Use → Bool) (uses : List Use) :
    renderingsOf first uses = renderingsOf second uses ↔
      renderingsOf (fun use => second use && !first use) uses =
        renderingsOf (fun use => first use && !second use) uses := by
  have hsplit : renderingsOf first uses +
        renderingsOf (fun use => second use && !first use) uses =
      renderingsOf second uses + renderingsOf (fun use => first use && !second use) uses := by
    unfold renderingsOf
    induction uses with
    | nil => rfl
    | cons use rest ih =>
        simp only [List.filter_cons]
        cases first use <;> cases second use <;> simp only [Bool.not_true, Bool.not_false,
          Bool.and_true, Bool.and_false, if_true, if_false, Bool.false_eq_true, List.map_cons,
          total_cons] <;> omega
  omega

/-! ## Packages -/

/-- How an aggregate divides some uses among packages. -/
structure Divided (uses : List Use) (whole : Aggregate) : Prop where
  /-- A package is listed once. -/
  listed : (whole.packages.map (·.name)).Nodup
  /-- A package has the uses of the components that are first used from it. -/
  given : ∀ package, package ≠ unknownPackage →
    whole.usageCountOf package = renderingsOf (isGiven uses package) uses
  /-- These come to as many renderings as are imported from the package if and only if those that
  are imported from it and not given to it come to as many as those that are given to it and are not
  from it. -/
  imported_iff : ∀ package, package ≠ unknownPackage →
    (whole.usageCountOf package = renderingsOf (isImported package) uses ↔
      renderingsOf (fun use => isImported package use && !isGiven uses package use) uses =
        renderingsOf (fun use => isGiven uses package use && !isImported package use) uses)

theorem divided_of_aggregate {results : List FileResult} {versions : Lockfile.Versions}
    (hresults : ∀ result ∈ results, Reported result.report) {whole : Aggregate}
    (hwhole : aggregate results versions = .ok whole) :
    Divided (usesIn versions.packages.keys results) whole := by
  have htable := tabled_of_aggregate hresults hwhole
  unfold aggregate at hwhole
  obtain ⟨totals, -, hwhole⟩ := exists_of_bind_eq_ok hwhole
  obtain ⟨listed, hlisted, hwhole⟩ := exists_of_bind_eq_ok hwhole
  cases hwhole
  have hgiven : ∀ package, package ≠ unknownPackage →
      ((listed.find? fun share => share.name = package).map (·.usageCount)).getD 0 =
        renderingsOf (isGiven (usesIn versions.packages.keys results) package)
          (usesIn versions.packages.keys results) := by
    intro package hpackage
    rw [(usageCountOf_of_distribution hlisted hpackage).2]
    exact total_weights_of_tabled htable package
  have hlocal : localPackage ≠ unknownPackage := by decide
  refine ⟨(usageCountOf_of_distribution hlisted hlocal).1, hgiven, fun package hpackage => ?_⟩
  rw [← renderingsOf_eq_iff, ← hgiven package hpackage]
  rfl

/-- **Usage goes to the package of the first use.**  Reports can be taken together as long as
packages are named by texts, and then every package has the renderings of the components that are
first used from it, wherever later files import them from. -/
theorem usage_of_first_package (results : List FileResult) (versions : Lockfile.Versions)
    (hresults : ∀ result ∈ results, ∃ (tree : Node) (library : Option String),
      (Census.empty.visit tree).reportFor library = .ok result.report) :
    (AreTexts versions.packages.keys → ∃ whole, aggregate results versions = .ok whole) ∧
      ∀ whole, aggregate results versions = .ok whole →
        Divided (usesIn versions.packages.keys results) whole := by
  have hreported := reported_of_analyzed hresults
  exact ⟨fun hpackages => exists_aggregate hpackages hreported,
    fun whole hwhole => divided_of_aggregate hreported hwhole⟩

/-- Both renderings go to the package of the first file. -/
theorem usage_of_first_package_twoFiles :
    ∃ whole, aggregate twoFiles twoPackages = .ok whole ∧ whole.usageCountOf "p" = 2 ∧
      whole.usageCountOf "q" = 0 := by
  obtain ⟨hexists, hdivided⟩ := usage_of_first_package twoFiles twoPackages reports_twoFiles
  obtain ⟨whole, hwhole⟩ := hexists areTexts_twoPackages
  have hgiven := (hdivided whole hwhole).given
  rw [uses_twoFiles] at hgiven
  refine ⟨whole, hwhole, (hgiven "p" (by decide)).trans ?_, (hgiven "q" (by decide)).trans ?_⟩
  · cbv
  · cbv

/-- A rendering is imported from the package of the second file, which gets none. -/
theorem usage_lost_to_first_package :
    ∃ whole, aggregate twoFiles twoPackages = .ok whole ∧ "q" ≠ unknownPackage ∧
      renderingsOf (isImported "q") (usesIn twoPackages.packages.keys twoFiles) = 1 ∧
      whole.usageCountOf "q" ≠
        renderingsOf (isImported "q") (usesIn twoPackages.packages.keys twoFiles) := by
  have hreported := reported_of_analyzed reports_twoFiles
  obtain ⟨whole, hwhole⟩ := exists_aggregate areTexts_twoPackages hreported
  have hgiven := (divided_of_aggregate hreported hwhole).given "q" (by decide)
  rw [uses_twoFiles] at hgiven ⊢
  have hnone : renderingsOf (isGiven [⟨"A", 1, "a", .ok "p"⟩, ⟨"A", 1, "b", .ok "q"⟩] "q")
      [⟨"A", 1, "a", .ok "p"⟩, ⟨"A", 1, "b", .ok "q"⟩] = 0 := by cbv
  have hone : renderingsOf (isImported "q")
      [⟨"A", 1, "a", .ok "p"⟩, ⟨"A", 1, "b", .ok "q"⟩] = 1 := by cbv
  refine ⟨whole, hwhole, by decide, hone, ?_⟩
  rw [hgiven, hnone, hone]
  decide

end ComponentCensus.Package
