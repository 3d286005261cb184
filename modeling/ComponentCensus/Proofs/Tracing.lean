import ComponentCensus.Proofs.Retention

/-!
# Which aliases narrowing follows

A name leads back to a library if an import of the library binds it, if it is taken out of
something that leads back, or if it is a variable that is bound to something that does (`Traced`).
Narrowing looks for these names in one pass: first the names taken out of imported namespaces, then
the variables in the order in which they were first declared.

One pass finds nothing but traced names, and it finds all that matter exactly if the variables come
in order (`InOrder`): each of them has to mention a name that it can be followed from at that
point.  A name taken out of a variable, or a variable that stands before the one it is bound to, is
out of order, and what is rendered from it is lost.

## Main results

* `follows_iff_inOrder` : a narrowed report has only what leads back to the library, and all of it
  exactly if the variables come in order.
* `rendering_lost_from_alias` : a program whose variables do not.

## Strategy

* If no two imports bind the same name, the ledgers tell nothing but local names of the library, so
  that the pass starts with direct names (`direct_of_mem_directNames`).  If no two bind the same
  export either, it starts with all of them (`mem_directNames_iff`).
* What the pass keeps of the last variables depends on what it has kept before them
  (`keptVariables_append`).  Only variables that lead back are kept
  (`leadsBack_of_mem_keptVariables`), and if they come in order, all of them are
  (`InOrder.mem_keptVariables`).
-/

namespace ComponentCensus

/-- The root names that an entry of a variable mentions. -/
def Value.assignedRoots (item : Value) : List String :=
  match item.part "assignment" with
  | .str reference => Report.rootNames reference
  | _ => []

/-- All entries for renderings and variables that go back to some names are also in another
report. -/
structure Report.Follows (report kept : Report) (goal : String → Prop) : Prop where
  renderings : ∀ item ∈ report.bucket "usage" "jsx",
    (∃ root ∈ item.rootName?, goal root) → item ∈ kept.bucket "usage" "jsx"
  assignments : ∀ item ∈ report.bucket "usage" "variables",
    (∃ root ∈ item.assignedRoots, goal root) → item ∈ kept.bucket "usage" "variables"

namespace Usage

open ComponentCensus.Syntax

/-! ## Names that lead back to a library -/

/-- The least set of names that contains the local names of the imports of a library and, with the
source of a destructuring, the name that it binds and, with a root of what a variable is bound to,
the variable. -/
inductive Traced (program : Node) (library : String) : String → Prop
  | imported {binding : ImportBinding} (hbinding : binding ∈ bindings program)
      (hlibrary : binding.isFrom library = true) : Traced program library binding.localName
  | taken {item : Destructuring}
      (hitem : item ∈ (Census.empty.visit program).findings.destructurings)
      (hsource : Traced program library item.source) : Traced program library item.boundName
  | assigned {entry : String × Assignment} {root : String}
      (hentry : entry ∈ (Census.empty.visit program).findings.assignments)
      (hroot : root ∈ Report.rootNames entry.2.reference)
      (htraced : Traced program library root) : Traced program library entry.1

/-- A variable that is bound to something that leads back to a library. -/
def LeadsBack (program : Node) (library : String) (entry : String × Assignment) : Prop :=
  ∃ root ∈ Report.rootNames entry.2.reference, Traced program library root

/-- A name that an import of a library binds, or that is taken out of a namespace that one binds. -/
inductive Direct (program : Node) (library : String) : String → Prop
  | imported {binding : ImportBinding} (hbinding : binding ∈ bindings program)
      (hlibrary : binding.isFrom library = true) : Direct program library binding.localName
  | taken {item : Destructuring} {space : ImportBinding}
      (hitem : item ∈ (Census.empty.visit program).findings.destructurings)
      (hspace : space ∈ bindings program) (hlibrary : space.isFrom library = true)
      (hstar : space.form = .byStar) (hsource : space.localName = item.source) :
      Direct program library item.boundName

/-- Every variable that leads back to a library mentions a direct name or a variable in front of it
that leads back, and every root that is rendered and leads back is such a name or variable. -/
structure InOrder (program : Node) (library : String) : Prop where
  assignments : ∀ before entry after,
    (Census.empty.visit program).findings.assignments = before ++ entry :: after →
      LeadsBack program library entry →
        ∃ root ∈ Report.rootNames entry.2.reference, Direct program library root ∨
          ∃ earlier ∈ before, LeadsBack program library earlier ∧ earlier.1 = root
  renderings : ∀ name ∈ (Census.empty.visit program).findings.renderings.keys,
    ∀ root ∈ (Report.rootNames name).head?, Traced program library root →
      Direct program library root ∨
        ∃ entry ∈ (Census.empty.visit program).findings.assignments,
          LeadsBack program library entry ∧ entry.1 = root

theorem Direct.traced {program : Node} {library name : String}
    (hdirect : Direct program library name) : Traced program library name := by
  cases hdirect with
  | imported hbinding hlibrary => exact .imported hbinding hlibrary
  | taken hitem hspace hlibrary _ hsource =>
      exact .taken hitem (hsource ▸ .imported hspace hlibrary)

/-! ## Where the pass starts -/

theorem eq_of_nodup_filterMap {α β : Type} {read : α → Option β} {items : List α}
    (hnodup : (items.filterMap read).Nodup) {first second : α} {value : β} (hfirst : first ∈ items)
    (hsecond : second ∈ items) (hread : read first = some value)
    (hread' : read second = some value) : first = second := by
  induction items with
  | nil => cases hfirst
  | cons item rest ih =>
      have hrest : (rest.filterMap read).Nodup :=
        hnodup.sublist ((List.sublist_cons_self item rest).filterMap read)
      -- no other item reads the same as the first one
      have hhead : read item = some value → ∀ other ∈ rest, read other ≠ some value := by
        intro hitem other hother hvalue
        rw [List.filterMap_cons_some hitem] at hnodup
        exact (List.nodup_cons.mp hnodup).1 (List.mem_filterMap.mpr ⟨other, hother, hvalue⟩)
      rcases List.mem_cons.mp hfirst with rfl | hbehind
      · rcases List.mem_cons.mp hsecond with rfl | hsecond
        · rfl
        · exact absurd hread' (hhead hread second hsecond)
      · rcases List.mem_cons.mp hsecond with rfl | hsecond
        · exact absurd hread (hhead hread' first hbehind)
        · exact ih hrest hbehind hsecond

section Start

variable {program : Node} {library name : String} (hprogram : program.kind = .program)
  (hlocals : ((bindings program).map (·.localName)).Nodup)
include hprogram hlocals

/-- The names that the ledgers tell are local names of imports of the library. -/
theorem exists_binding_of_mem_importedNames
    (hname : name ∈ ((Census.empty.visit program).findings.importsOf library).importedNames) :
    ∃ binding ∈ bindings program, binding.isFrom library = true ∧ binding.localName = name := by
  rcases mem_importedNames.mp hname with hdefault | hstar | hrenamed | ⟨hlisted, hkept⟩
  · obtain ⟨binding, hbinding, hlibrary, -, hlocal⟩ := (mem_defaultNames hprogram).mp hdefault
    exact ⟨binding, hbinding, hlibrary, hlocal⟩
  · obtain ⟨binding, hbinding, hlibrary, -, hlocal⟩ := (mem_starNames hprogram).mp hstar
    exact ⟨binding, hbinding, hlibrary, hlocal⟩
  · obtain ⟨entry, hentry, hsource, hname⟩ := mem_otherNames.mp hrenamed
    obtain ⟨binding, hbinding, hrenaming, -⟩ := exists_of_mem_aliasedImports hprogram hentry
    obtain ⟨-, -, hitem⟩ := ImportBinding.renaming?_eq_some_iff.mp hrenaming
    rw [hitem] at hsource hname
    exact ⟨binding, hbinding, hsource, hname⟩
  · obtain ⟨binding, hbinding, hlibrary, himported⟩ := (mem_exportNames hprogram).mp hlisted
    refine ⟨binding, hbinding, hlibrary, ?_⟩
    -- a renamed import would have taken the name out
    by_contra hlocal
    have hrenaming : binding.renaming? =
        some ⟨name, binding.localName, binding.source, binding.line⟩ :=
      ImportBinding.renaming?_eq_some_iff.mpr ⟨himported, fun heq => hlocal heq.symm, rfl⟩
    exact hkept (mem_renamedNames.mpr
      ⟨_, mem_aliasedImports hprogram hlocals hbinding hrenaming, hlibrary, rfl⟩)

/-- The pass starts with direct names only. -/
theorem direct_of_mem_directNames
    (hname : name ∈ ((Census.empty.visit program).findings.importsOf library).directNames) :
    Direct program library name := by
  rcases mem_directNames.mp hname with himported | htaken
  · obtain ⟨binding, hbinding, hlibrary, rfl⟩ :=
      exists_binding_of_mem_importedNames hprogram hlocals himported
    exact .imported hbinding hlibrary
  · obtain ⟨item, hitem, rfl⟩ := List.mem_map.mp htaken
    obtain ⟨hitem, hsource⟩ := List.mem_filter.mp hitem
    obtain ⟨space, hspace, hlibrary, hstar, hlocal⟩ :=
      (mem_starNames hprogram).mp (of_decide_eq_true hsource)
    exact .taken hitem hspace hlibrary hstar hlocal

variable (hexports : ((bindings program).filterMap (·.imported?)).Nodup)
include hexports

/-- The ledgers tell the local names of the imports of a library. -/
theorem mem_importedNames_iff :
    name ∈ ((Census.empty.visit program).findings.importsOf library).importedNames ↔
      ∃ binding ∈ bindings program, binding.isFrom library = true ∧ binding.localName = name := by
  constructor
  · exact exists_binding_of_mem_importedNames hprogram hlocals
  · rintro ⟨binding, hbinding, hlibrary, rfl⟩
    refine mem_importedNames_of_told hprogram hbinding hlibrary ?_ ?_
    · intro hplain htaken
      obtain ⟨entry, hentry, -, hname⟩ := mem_renamedNames.mp htaken
      obtain ⟨other, hother, hrenaming, -⟩ := exists_of_mem_aliasedImports hprogram hentry
      obtain ⟨hexport, hne, -⟩ := ImportBinding.renaming?_eq_some_iff.mp hrenaming
      rw [hname] at hexport hne
      -- only one import has this export, and it is not renamed
      have hsame := eq_of_nodup_filterMap hexports hother hbinding hexport hplain
      exact hne (by rw [hsame])
    · intro item hrenaming
      have hentry := mem_aliasedImports hprogram hlocals hbinding hrenaming
      obtain ⟨-, -, hitem⟩ := ImportBinding.renaming?_eq_some_iff.mp hrenaming
      refine mem_otherNames.mpr ⟨_, hentry, ?_, ?_⟩
      · rw [hitem]
        exact hlibrary
      · rw [hitem]

theorem mem_directNames_iff :
    name ∈ ((Census.empty.visit program).findings.importsOf library).directNames ↔
      Direct program library name := by
  constructor
  · exact direct_of_mem_directNames hprogram hlocals
  · intro hdirect
    rw [mem_directNames, mem_importedNames_iff hprogram hlocals hexports]
    cases hdirect with
    | imported hbinding hlibrary => exact Or.inl ⟨_, hbinding, hlibrary, rfl⟩
    | @taken item space hitem hspace hlibrary hstar hsource =>
        refine Or.inr (List.mem_map.mpr ⟨item, List.mem_filter.mpr ⟨hitem, ?_⟩, rfl⟩)
        exact decide_eq_true ((mem_starNames hprogram).mpr
          ⟨space, hspace, hlibrary, hstar, hsource⟩)

end Start

/-! ## What the pass keeps -/

theorem mentions_iff {names : List String} {entry : String × Assignment} :
    mentions names entry = true ↔ ∃ root ∈ Report.rootNames entry.2.reference, root ∈ names := by
  simp [mentions]

/-- The pass over the last variables starts with the variables kept before them. -/
theorem keptVariables_append (names : List String) (before after : Entries String Assignment) :
    keptVariables names (before ++ after) = keptVariables names before ++
      keptVariables ((keptVariables names before).keys.foldl addName names) after := by
  induction before generalizing names with
  | nil => rfl
  | cons entry rest ih =>
      rw [List.cons_append, keptVariables, keptVariables]
      split
      · rw [ih]
        rfl
      · exact ih names

section Kept

variable {program : Node} {library : String} {names : List String}

theorem leadsBack_of_mem_keptVariables {assignments : Entries String Assignment}
    {entry : String × Assignment} (hnames : ∀ name ∈ names, Traced program library name)
    (hassigned : assignments ⊆ (Census.empty.visit program).findings.assignments)
    (hkept : entry ∈ keptVariables names assignments) : LeadsBack program library entry := by
  -- along the variables, with the traced names that were found so far
  induction assignments generalizing names with
  | nil => cases hkept
  | cons first rest ih =>
      obtain ⟨hfirst, hrest⟩ := List.cons_subset.mp hassigned
      rw [keptVariables] at hkept
      split at hkept
      · next hmentions =>
        obtain ⟨root, hroot, hname⟩ := mentions_iff.mp hmentions
        have hleads : LeadsBack program library first := ⟨root, hroot, hnames root hname⟩
        rcases List.mem_cons.mp hkept with rfl | hkept
        · exact hleads
        · refine ih (fun name hmem => ?_) hrest hkept
          rcases mem_addName.mp hmem with hmem | rfl
          · exact hnames name hmem
          · exact .assigned hfirst hroot (hnames root hname)
      · exact ih hnames hrest hkept

/-- If the variables come in order, the pass has kept all that lead back, wherever it stands. -/
theorem InOrder.mem_keptVariables (hordered : InOrder program library)
    (hnames : ∀ name, Direct program library name → name ∈ names)
    {passed rest : Entries String Assignment}
    (hsplit : (Census.empty.visit program).findings.assignments = passed ++ rest) :
    ∀ entry ∈ passed, LeadsBack program library entry → entry ∈ keptVariables names passed := by
  -- from the back, since the last variable needs what is kept of all in front of it
  induction passed using List.reverseRecOn generalizing rest with
  | nil => simp
  | append_singleton passed last ih =>
      rw [List.append_assoc, List.singleton_append] at hsplit
      have hpassed := ih hsplit
      intro entry hentry hleads
      rw [keptVariables_append, List.mem_append]
      rcases List.mem_append.mp hentry with hentry | hlast
      · exact Or.inl (hpassed entry hentry hleads)
      · rw [List.mem_singleton] at hlast
        subst hlast
        obtain ⟨root, hroot, hfound⟩ := hordered.assignments passed entry rest hsplit hleads
        have hmentions : mentions ((keptVariables names passed).keys.foldl addName names) entry =
            true := by
          refine mentions_iff.mpr ⟨root, hroot, mem_foldl_addName.mpr ?_⟩
          rcases hfound with hdirect | ⟨earlier, hearlier, hback, rfl⟩
          · exact Or.inl (hnames root hdirect)
          · exact Or.inr (List.mem_map_of_mem (hpassed earlier hearlier hback))
        rw [keptVariables, if_pos hmentions]
        exact Or.inr (List.mem_singleton_self entry)

/-- A variable that is kept and stands in one place only mentions a name found in front of it. -/
theorem mentions_of_mem_keptVariables {before after : Entries String Assignment}
    {entry : String × Assignment} (hkeys : (before ++ entry :: after).keys.Nodup)
    (hkept : entry ∈ keptVariables names (before ++ entry :: after)) :
    mentions ((keptVariables names before).keys.foldl addName names) entry = true := by
  have hnodup : (before ++ entry :: after).Nodup := hkeys.of_map _
  -- the entry stands neither before nor after its place
  obtain ⟨-, hbehind, hdisjoint⟩ := List.nodup_append'.mp hnodup
  rw [keptVariables_append, List.mem_append] at hkept
  rcases hkept with hbefore | hkept
  · exact absurd ((keptVariables_subset _ _).subset hbefore)
      (List.disjoint_right.mp hdisjoint (List.mem_cons_self ..))
  · by_contra hmentions
    rw [keptVariables, if_neg hmentions] at hkept
    exact (List.nodup_cons.mp hbehind).1 ((keptVariables_subset _ _).subset hkept)

end Kept

/-! ## Aliases of a library -/

theorem bucket_variables (census : Census) : census.report.bucket "usage" "variables" =
    census.findings.assignments.map Findings.assignmentValue := rfl

theorem assignmentValue_injective : Function.Injective Findings.assignmentValue := by
  rintro ⟨target, reference, line⟩ ⟨target', reference', line'⟩ hvalue
  simpa [Findings.assignmentValue, lineValue, Int.ofNat_inj] using hvalue

section Aliases

variable {program : Node} {library : String} (hprogram : program.kind = .program)
  (hlocals : ((bindings program).map (·.localName)).Nodup)
include hprogram hlocals

theorem leadsBack_of_mem_followed {entry : String × Assignment}
    (hentry : entry ∈ ((Census.empty.visit program).findings.followed library).2) :
    LeadsBack program library entry := by
  rw [followed_eq] at hentry
  exact leadsBack_of_mem_keptVariables
    (fun _ hname => (direct_of_mem_directNames hprogram hlocals hname).traced)
    (List.Subset.refl _) hentry

/-- A name that is followed is direct or a variable that leads back. -/
theorem direct_or_leadsBack_of_followed {name : String}
    (hname : name ∈ ((Census.empty.visit program).findings.followed library).1) :
    Direct program library name ∨
      ∃ entry ∈ (Census.empty.visit program).findings.assignments,
        LeadsBack program library entry ∧ entry.1 = name := by
  rcases mem_followed.mp hname with hdirect | hkey
  · exact Or.inl (direct_of_mem_directNames hprogram hlocals hdirect)
  · obtain ⟨entry, hentry, rfl⟩ := List.mem_map.mp hkey
    have hleads := leadsBack_of_mem_followed hprogram hlocals hentry
    rw [followed_eq] at hentry
    exact Or.inr ⟨entry, (keptVariables_subset _ _).subset hentry, hleads, rfl⟩

/-- Every name that is followed leads back to the library. -/
theorem traced_of_mem_followed {name : String}
    (hname : name ∈ ((Census.empty.visit program).findings.followed library).1) :
    Traced program library name := by
  rcases direct_or_leadsBack_of_followed hprogram hlocals hname with
    hdirect | ⟨entry, hentry, ⟨root, hroot, htraced⟩, rfl⟩
  · exact hdirect.traced
  · exact .assigned hentry hroot htraced

variable (hexports : ((bindings program).filterMap (·.imported?)).Nodup)
include hexports

theorem InOrder.mem_followed (hordered : InOrder program library) {entry : String × Assignment}
    (hentry : entry ∈ (Census.empty.visit program).findings.assignments)
    (hleads : LeadsBack program library entry) :
    entry ∈ ((Census.empty.visit program).findings.followed library).2 := by
  rw [followed_eq]
  exact hordered.mem_keptVariables
    (fun _ hdirect => (mem_directNames_iff hprogram hlocals hexports).mpr hdirect)
    (List.append_nil _).symm entry hentry hleads

/-- If the variables come in order, all that leads back is in the narrowed report. -/
theorem InOrder.follows (hordered : InOrder program library) :
    (Census.empty.visit program).report.Follows
      ((Census.empty.visit program).narrowed library).report (Traced program library) where
  renderings := by
    rintro item hitem ⟨root, hroot, htraced⟩
    have hcounted := counted_visit program
    -- what is rendered is rendered under a name of the ledger
    have hname : ∃ name ∈ (Census.empty.visit program).findings.renderings.keys,
        root ∈ (Report.rootNames name).head? := by
      rw [bucket_jsx] at hitem
      obtain ⟨rendering, hrendering, rfl⟩ := List.mem_map.mp hitem
      obtain ⟨entry, hentry, rfl⟩ := List.mem_map.mp hrendering
      exact ⟨entry.1, List.mem_map_of_mem hentry, hcounted.component_eq entry hentry ▸ hroot⟩
    obtain ⟨name, hmem, hhead⟩ := hname
    refine (retains_of_mem_followed hcounted ?_).renderings item hitem hroot
    rw [Usage.mem_followed]
    rcases hordered.renderings name hmem root hhead htraced with
      hdirect | ⟨entry, hentry, hleads, rfl⟩
    · exact Or.inl ((mem_directNames_iff hprogram hlocals hexports).mpr hdirect)
    · exact Or.inr (List.mem_map_of_mem
        (hordered.mem_followed hprogram hlocals hexports hentry hleads))
  assignments := by
    intro item hitem hleads
    rw [bucket_variables] at hitem ⊢
    obtain ⟨entry, hentry, rfl⟩ := List.mem_map.mp hitem
    exact List.mem_map_of_mem (hordered.mem_followed hprogram hlocals hexports hentry hleads)

/-- If all that leads back is in the narrowed report, the variables come in order. -/
theorem inOrder_of_follows (hfollows : (Census.empty.visit program).report.Follows
      ((Census.empty.visit program).narrowed library).report (Traced program library)) :
    InOrder program library where
  assignments := by
    intro before entry after hsplit hleads
    have hitem : Findings.assignmentValue entry ∈
        (Census.empty.visit program).report.bucket "usage" "variables" := by
      rw [bucket_variables, hsplit]
      exact List.mem_map_of_mem (by simp)
    have hkept := hfollows.assignments _ hitem hleads
    rw [bucket_variables, List.mem_map_of_injective assignmentValue_injective] at hkept
    have hmem : entry ∈ ((Census.empty.visit program).findings.followed library).2 := hkept
    rw [followed_eq, hsplit] at hmem
    -- the variable stands in one place only, so it was kept for what stands in front of it here
    have hkeys : (Census.empty.visit program).findings.assignments.keys.Nodup :=
      (Tidy.of_reachable (.visit .empty [] (Site.root program))).assignments
    rw [hsplit] at hkeys
    obtain ⟨root, hroot, hfound⟩ := mentions_iff.mp (mentions_of_mem_keptVariables hkeys hmem)
    refine ⟨root, hroot, ?_⟩
    rcases mem_foldl_addName.mp hfound with hdirect | hkey
    · exact Or.inl ((mem_directNames_iff hprogram hlocals hexports).mp hdirect)
    · obtain ⟨earlier, hearlier, rfl⟩ := List.mem_map.mp hkey
      refine Or.inr ⟨earlier, (keptVariables_subset _ _).subset hearlier, ?_, rfl⟩
      refine leadsBack_of_mem_keptVariables
        (fun _ hname => (direct_of_mem_directNames hprogram hlocals hname).traced) ?_ hearlier
      rw [hsplit]
      exact List.subset_append_left _ _
  renderings := by
    intro name hname root hroot htraced
    obtain ⟨entry, hentry, rfl⟩ := List.mem_map.mp hname
    have hhead : root ∈ (Rendering.toValue entry.2).rootName? := by
      rw [rootName?_toValue, (counted_visit program).component_eq entry hentry]
      exact hroot
    have hitem : Rendering.toValue entry.2 ∈
        (Census.empty.visit program).report.bucket "usage" "jsx" := by
      rw [bucket_jsx]
      exact List.mem_map_of_mem (List.mem_map_of_mem hentry)
    have hkept := hfollows.renderings _ hitem ⟨root, hhead, htraced⟩
    obtain ⟨found, hfound, hfollowed⟩ := rootName?_of_mem_narrowed hkept
    rw [Option.mem_unique hhead hfound]
    exact direct_or_leadsBack_of_followed hprogram hlocals hfollowed

end Aliases

/-- **Aliases of a library.**  A report is narrowed to a library unless something is rendered under
a name without a root.  If no two imports bind the same name or the same export, nothing but what
leads back to the library is kept of the renderings and the variables, and all that leads back is
kept exactly if the variables come in order. -/
theorem follows_iff_inOrder {program : Node} (hprogram : program.kind = .program)
    (hlocals : ((bindings program).map (·.localName)).Nodup)
    (hexports : ((bindings program).filterMap (·.imported?)).Nodup) (library : String) :
    ((∃ kept, (Census.empty.visit program).report.narrow library = .ok kept) ↔
      ∀ name ∈ (Census.empty.visit program).findings.renderings.keys,
        Report.rootNames name ≠ []) ∧
    ∀ kept, (Census.empty.visit program).report.narrow library = .ok kept →
      (∀ item ∈ kept.bucket "usage" "jsx", ∃ root ∈ item.rootName?, Traced program library root) ∧
      (∀ item ∈ kept.bucket "usage" "variables",
        ∃ root ∈ item.assignedRoots, Traced program library root) ∧
      ((Census.empty.visit program).report.Follows kept (Traced program library) ↔
        InOrder program library) := by
  refine ⟨exists_narrow_iff (counted_visit program), fun kept hkept => ?_⟩
  rw [eq_of_narrow_eq_ok hkept]
  refine ⟨fun item hitem => ?_, fun item hitem => ?_,
    inOrder_of_follows hprogram hlocals hexports,
    fun hordered => hordered.follows hprogram hlocals hexports⟩
  · obtain ⟨root, hroot, hfollowed⟩ := rootName?_of_mem_narrowed hitem
    exact ⟨root, hroot, traced_of_mem_followed hprogram hlocals hfollowed⟩
  · rw [bucket_variables] at hitem
    obtain ⟨entry, hentry, rfl⟩ := List.mem_map.mp hitem
    exact leadsBack_of_mem_followed hprogram hlocals hentry

/-- `import * as L from "m"`, out of which the programs below take names. -/
def spaceImport : Node :=
  namedNode 1 1 .importStatement "import * as L from \"m\"" []
    [namedNode 2 1 .importClause "* as L" []
      [namedNode 3 1 .namespaceImport "* as L" [] [namedNode 4 1 .identifier "L" [] []]],
     namedNode 5 1 .stringLiteral "\"m\"" [.source] []]

/-- `const target = value`, numbered from `start` on. -/
def aliasDeclaration (start line : Nat) (target value : String) : Node :=
  namedNode start line .lexicalDeclaration "" []
    [namedNode (start + 1) line .variableDeclarator "" []
      [namedNode (start + 2) line .identifier target [.name] [],
       namedNode (start + 3) line .identifier value [.value] []]]

/-- `const { property } = value`, numbered from `start` on. -/
def takingDeclaration (start line : Nat) (property value : String) : Node :=
  namedNode start line .lexicalDeclaration "" []
    [namedNode (start + 1) line .variableDeclarator "" []
      [namedNode (start + 2) line .objectPattern "" [.name]
        [namedNode (start + 3) line .shorthandPropertyIdentifierPattern property [] []],
       namedNode (start + 4) line .identifier value [.value] []]]

/-- `const { A } = L`, then `const B = A`, then `<B/>`. -/
def aliasOfTaken : Node :=
  namedNode 0 1 .program "" []
    [spaceImport, takingDeclaration 10 2 "A" "L", aliasDeclaration 20 3 "B" "A",
     namedNode 30 4 .jsxSelfClosingElement "<B/>" [] [namedNode 31 4 .identifier "B" [.name] []]]

theorem bindings_aliasOfTaken : bindings aliasOfTaken = [⟨.byStar, "L", "m", 1⟩] := by
  cbv

theorem visit_aliasOfTaken : Census.empty.visit aliasOfTaken =
    { components := ["A", "B"]
      namespaces := ["L"]
      findings :=
        { namespaceImports := [⟨"L", "m", 1⟩]
          renderings := [("B", ⟨"B", 4, .other, [], {}, 1, [⟨4, .other⟩]⟩)]
          props := [("B", {})]
          assignments := [("B", ⟨"A", 3⟩)]
          destructurings := [⟨"A", "L", 2, none⟩] } } := by
  cbv

theorem inOrder_aliasOfTaken : InOrder aliasOfTaken "m" := by
  have hrootA : Report.rootNames "A" = ["A"] := by cbv
  have hrootB : Report.rootNames "B" = ["B"] := by cbv
  have htaken : Direct aliasOfTaken "m" "A" :=
    @Direct.taken _ _ ⟨"A", "L", 2, none⟩ ⟨.byStar, "L", "m", 1⟩
      (by simp [visit_aliasOfTaken]) (by simp [bindings_aliasOfTaken]) (by cbv) rfl rfl
  have hleads : LeadsBack aliasOfTaken "m" ("B", ⟨"A", 3⟩) :=
    ⟨"A", by simp [hrootA], htaken.traced⟩
  constructor
  · intro before entry after hsplit _
    have hentry : entry ∈ (Census.empty.visit aliasOfTaken).findings.assignments := by
      simp [hsplit]
    simp only [visit_aliasOfTaken, List.mem_singleton] at hentry
    subst hentry
    exact ⟨"A", by simp [hrootA], Or.inl htaken⟩
  · intro name hname root hroot _
    simp only [visit_aliasOfTaken, Entries.keys, List.map_cons, List.map_nil,
      List.mem_singleton] at hname
    subst hname
    rw [hrootB] at hroot
    cases hroot
    exact Or.inr ⟨("B", ⟨"A", 3⟩), by simp [visit_aliasOfTaken], hleads, rfl⟩

/-- The alias of a name that is taken out of the library is followed. -/
theorem follows_aliasOfTaken :
    ∃ kept, (Census.empty.visit aliasOfTaken).report.narrow "m" = .ok kept ∧
      (Census.empty.visit aliasOfTaken).report.Follows kept (Traced aliasOfTaken "m") := by
  have hfollows := @follows_iff_inOrder aliasOfTaken rfl (by simp [bindings_aliasOfTaken])
    (by simp [bindings_aliasOfTaken, ImportBinding.imported?]) "m"
  have hroots : Report.rootNames "B" = ["B"] := by cbv
  obtain ⟨kept, hkept⟩ := hfollows.1.mpr (by simp [visit_aliasOfTaken, Entries.keys, hroots])
  exact ⟨kept, hkept, (hfollows.2 kept hkept).2.2.mpr inOrder_aliasOfTaken⟩

/-- `const U = L`, then `const { A } = U`, then `<A/>`. -/
def takenFromAlias : Node :=
  namedNode 0 1 .program "" []
    [spaceImport, aliasDeclaration 10 2 "U" "L", takingDeclaration 20 3 "A" "U",
     namedNode 30 4 .jsxSelfClosingElement "<A/>" [] [namedNode 31 4 .identifier "A" [.name] []]]

theorem bindings_takenFromAlias : bindings takenFromAlias = [⟨.byStar, "L", "m", 1⟩] := by
  cbv

theorem visit_takenFromAlias : Census.empty.visit takenFromAlias =
    { components := ["U", "A"]
      namespaces := ["L", "U"]
      findings :=
        { namespaceImports := [⟨"L", "m", 1⟩]
          renderings := [("A", ⟨"A", 4, .other, [], {}, 1, [⟨4, .other⟩]⟩)]
          props := [("A", {})]
          assignments := [("U", ⟨"L", 2⟩)]
          destructurings := [⟨"A", "U", 3, none⟩] } } := by
  cbv

theorem traced_takenFromAlias : Traced takenFromAlias "m" "A" := by
  have hroot : Report.rootNames "L" = ["L"] := by cbv
  have hspace : Traced takenFromAlias "m" "L" :=
    @Traced.imported _ _ ⟨.byStar, "L", "m", 1⟩ (by simp [bindings_takenFromAlias]) (by cbv)
  have halias : Traced takenFromAlias "m" "U" :=
    @Traced.assigned _ _ ("U", ⟨"L", 2⟩) "L" (by simp [visit_takenFromAlias]) (by simp [hroot])
      hspace
  exact @Traced.taken _ _ ⟨"A", "U", 3, none⟩ (by simp [visit_takenFromAlias]) halias

/-- A name that is taken out of an alias of the library leads back to it, and what is rendered from
it is lost. -/
theorem rendering_lost_from_alias :
    takenFromAlias.kind = .program ∧ ((bindings takenFromAlias).map (·.localName)).Nodup ∧
      ((bindings takenFromAlias).filterMap (·.imported?)).Nodup ∧
      ∃ kept, (Census.empty.visit takenFromAlias).report.narrow "m" = .ok kept ∧
        ¬ (Census.empty.visit takenFromAlias).report.Follows kept (Traced takenFromAlias "m") := by
  have hroots : Report.rootNames "A" = ["A"] := by cbv
  have hnarrow : ∃ kept, (Census.empty.visit takenFromAlias).report.narrow "m" = .ok kept := by
    rw [exists_narrow_iff (counted_visit takenFromAlias), visit_takenFromAlias]
    simp [Entries.keys, hroots]
  obtain ⟨kept, hkept⟩ := hnarrow
  refine ⟨rfl, by simp [bindings_takenFromAlias],
    by simp [bindings_takenFromAlias, ImportBinding.imported?], kept, hkept, fun hfollows => ?_⟩
  have hfollowed : ((Census.empty.visit takenFromAlias).findings.followed "m").1 = ["L", "U"] := by
    rw [visit_takenFromAlias]
    cbv
  have hroot : (Rendering.toValue ⟨"A", 4, .other, [], {}, 1, [⟨4, .other⟩]⟩).rootName? =
      some "A" := by cbv
  have hrendered : Rendering.toValue ⟨"A", 4, .other, [], {}, 1, [⟨4, .other⟩]⟩ ∈
      (Census.empty.visit takenFromAlias).report.bucket "usage" "jsx" := by
    rw [visit_takenFromAlias]
    exact List.mem_cons_self ..
  exact not_mem_of_not_followed hkept hroot (by simp [hfollowed])
    (hfollows.renderings _ hrendered ⟨"A", hroot, traced_takenFromAlias⟩)

end Usage

end ComponentCensus
