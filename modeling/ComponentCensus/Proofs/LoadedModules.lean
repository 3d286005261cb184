import ComponentCensus.Proofs.Descent
import ComponentCensus.Proofs.Wrappers
import ComponentCensus.Proofs.Writes
import Mathlib.Data.List.Forall2

/-!
# Modules that are loaded when they are needed

A call of the `import` keyword that names its module is recorded once: with the lazy component that
it is the body of, or by itself.  A visit keeps the two apart by the numbers of the calls that
belong to lazy components.  It learns such a number when it comes to the lazy component, and looks
it up when it comes to the call.

For this to work, the call has to come later, and no second lazy component may lay claim to it.

## Main results

* `loadings_foldl` : the records of a run of visits under these two conditions.
* `literal_imports_recorded_once` : the records of a visit are matched one by one with the calls
  that name a module, those of lazy components and the others (`LoadingsMatched`).

## Strategy

* The two conditions follow from where the call stands (`exists_site_of_owned`): it is reached from
  the lazy component, and going up three times from it leads back there.
* What a visit to a site records is read off the site (`owned?`, `loaded?`), so that the records of
  a run are readings of its sites (`readings`), with the calls that are set aside left out
  (`loadedAlone`).
* No visit but one to a call writes to the two ledgers (`visitSite_of_not_call`).
-/

namespace ComponentCensus.Usage

open ComponentCensus.Syntax

variable {site outer inner : Site} {call loading tree : Node} {module : String}

/-! ## Lazy components -/

/-- A call of `lazy` whose first argument is a function with the loading call as its body. -/
def LoadsLazily (call loading : Node) : Prop :=
  call.calleeName? = some "lazy" ∧ ∃ loader, call.arguments.head? = some loader ∧
    loader.kind.isFunction = true ∧ loader.field? .body = some loading

theorem lazyImport?_eq_some_iff :
    lazyImport? call = some (loading, module) ↔
      LoadsLazily call loading ∧ importedModule? loading = some module := by
  rw [lazyImport?_eq]
  constructor
  · intro hlazy
    -- the callee, the loader and its body, each of which may fail to be there
    split at hlazy
    · next hcallee =>
      obtain ⟨loader, hloader, hloaded⟩ := Option.bind_eq_some_iff.mp hlazy
      unfold loadedBy? at hloaded
      split at hloaded
      · next hfunction =>
        obtain ⟨body, hbody, hmodule⟩ := Option.bind_eq_some_iff.mp hloaded
        obtain ⟨_, hnamed, hpair⟩ := Option.map_eq_some_iff.mp hmodule
        cases hpair
        exact ⟨⟨hcallee, loader, hloader, hfunction, hbody⟩, hnamed⟩
      · cases hloaded
    · cases hlazy
  · rintro ⟨⟨hcallee, loader, hloader, hfunction, hbody⟩, hmodule⟩
    simp [hcallee, hloader, loadedBy?, hfunction, hbody, hmodule]

theorem isImportCall_of_importedModule? (hmodule : importedModule? call = some module) :
    call.isImportCall = true := by
  rw [importedModule?_eq] at hmodule
  by_contra hnot
  rw [if_neg hnot] at hmodule
  cases hmodule

/-- A loading call has no name in front of its arguments. -/
theorem calleeName?_of_importedModule? (hcall : call.kind = .callExpression)
    (hmodule : importedModule? call = some module) : call.calleeName? = none := by
  have hinside : call.unwrap = some call := Node.unwrap_of_not_isWrapper (by rw [hcall]; rfl)
  have hkeyword := isImportCall_of_importedModule? hmodule
  unfold Node.isImportCall at hkeyword
  rw [hinside] at hkeyword
  obtain ⟨function, hfunction, hkind⟩ :=
    (Option.any_eq_true ..).mp (Bool.and_eq_true_iff.mp hkeyword).2
  have hkind : function.kind = .importKeyword := of_decide_eq_true hkind
  have hplain : function.unwrap = some function :=
    Node.unwrap_of_not_isWrapper (by rw [hkind]; rfl)
  have hfield : call.field? .function = some function := by
    rw [Node.field?, hfunction]
    exact hplain
  simp only [Node.calleeName?, hfield, hkind]

/-- The body of a function that loads a module is a call. -/
theorem call_of_loadsLazily (hloads : LoadsLazily call loading)
    (hmodule : importedModule? loading = some module) : loading.kind = .callExpression := by
  obtain ⟨_, _, _, _, hbody⟩ := hloads
  obtain ⟨_, _, hinside⟩ := Option.bind_eq_some_iff.mp hbody
  exact kind_of_isImportCall (unwrap_of_unwrap hinside) (isImportCall_of_importedModule? hmodule)

/-! ## Where the loading call stands -/

/-- The lists of arguments and the bodies of functions are named, as in every tree that a grammar
describes. -/
def NamesParts (tree : Node) : Prop :=
  ∀ site ∈ visitOrder (Site.root tree), ∀ field ∈ [Field.arguments, .body],
    ∀ child, site.node.child? field = some child → child.label.named = true

/-- The site three steps up: from a body over its function and the arguments to the call. -/
def owner? (site : Site) : Option Site :=
  ((parent? site).bind parent?).bind parent?

theorem not_isWrapper_of_isFunction {kind : Kind} (hfunction : kind.isFunction = true) :
    kind.isWrapper = false := by
  cases kind <;> simp_all [Kind.isFunction, Kind.isWrapper]

theorem isEntered_of_isFunction {kind : Kind} (hfunction : kind.isFunction = true) :
    isEntered kind = true := by
  cases kind <;> simp_all [Kind.isFunction, isEntered]

/-- The first argument of a call is visited below the list of arguments. -/
theorem exists_site_of_argument (hcall : outer.node.kind = .callExpression)
    (hnamed : ∀ list, outer.node.child? .arguments = some list → list.label.named = true)
    {loader : Node} (hloader : outer.node.arguments.head? = some loader)
    (hfunction : loader.kind.isFunction = true) :
    ∃ inner : Site, inner.node = loader ∧ Reached outer inner ∧
      (parent? inner).bind parent? = some outer := by
  unfold Node.arguments at hloader
  split at hloader
  · next list hlist =>
    split at hloader
    · next hkind =>
      rw [List.head?_map] at hloader
      obtain ⟨argument, hargument, hunwrapped⟩ := Option.map_eq_some_iff.mp hloader
      -- an empty wrapper is passed as it is, and is no function
      have hinside : argument.unwrap = some loader := by
        cases hunwrap : argument.unwrap with
        | some inside =>
            rw [hunwrap] at hunwrapped
            exact congrArg some hunwrapped
        | none =>
            rw [hunwrap, Option.getD_none] at hunwrapped
            subst hunwrapped
            rw [Node.unwrap_of_not_isWrapper (not_isWrapper_of_isFunction hfunction)] at hunwrap
            cases hunwrap
      -- the list of arguments stands between the call and its argument
      let between : Site := ⟨list, outer.node :: outer.above⟩
      have hbetween : between ∈ outer.namedChildren :=
        List.mem_map.mpr ⟨list, List.mem_filter.mpr ⟨mem_children_of_child? hlist,
          hnamed list hlist⟩, rfl⟩
      have hcontent : ⟨argument, list :: outer.node :: outer.above⟩ ∈ between.namedChildren :=
        mem_namedChildren_of_mem_contents (List.mem_of_head? hargument)
      have hentered : isEntered outer.node.kind = true := by rw [hcall]; rfl
      obtain ⟨inner, hinner, hreached, hparent⟩ :=
        exists_inside (by rw [hkind]; rfl) (by rw [hkind]; rfl) hcontent hinside
      refine ⟨inner, hinner, (Reached.start.child hentered hbetween).trans hreached, ?_⟩
      rw [hparent]
      simp [parent?, between, hcall, Kind.isWrapper]
    · cases hloader
  · cases hloader

/-- The loading call of a lazy component is visited below it, and leads back to it. -/
theorem exists_site_of_loadsLazily (hnamed : NamesParts tree)
    (houter : outer ∈ visitOrder (Site.root tree)) (hcall : outer.node.kind = .callExpression)
    (hloads : LoadsLazily outer.node loading) :
    ∃ inner : Site, inner.node = loading ∧ Reached outer inner ∧ owner? inner = some outer := by
  obtain ⟨_, loader, hloader, hfunction, hbody⟩ := hloads
  obtain ⟨middle, rfl, hmiddle, hback⟩ := exists_site_of_argument hcall
    (hnamed outer houter .arguments (by simp)) hloader hfunction
  obtain ⟨inner, hinner, hreached, hparent⟩ :=
    exists_inside_field (not_isWrapper_of_isFunction hfunction) (isEntered_of_isFunction hfunction)
      (hnamed middle (mem_visitOrder_of_reached houter hmiddle) .body (by simp)) hbody
  refine ⟨inner, hinner, hmiddle.trans hreached, ?_⟩
  rw [owner?, hparent]
  exact hback

/-! ## What a visit notes -/

/-- The loading call that belongs to a site, with its module. -/
def owned? (site : Site) : Option (Node × String) :=
  if site.node.kind = .callExpression then lazyImport? site.node else none

/-- The module that a site loads. -/
def loaded? (site : Site) : Option String :=
  if site.node.kind = .callExpression then importedModule? site.node else none

theorem call_of_loaded? (hloaded : loaded? site = some module) :
    site.node.kind = .callExpression := by
  by_contra hcall
  rw [loaded?, if_neg hcall] at hloaded
  cases hloaded

theorem loads_of_owned? (howned : owned? site = some (loading, module)) :
    site.node.kind = .callExpression ∧ LoadsLazily site.node loading ∧
      importedModule? loading = some module := by
  unfold owned? at howned
  split at howned
  · next hcall => exact ⟨hcall, lazyImport?_eq_some_iff.mp howned⟩
  · cases howned

/-- Sites with what is read off them, where there is something. -/
def readings {α : Type} (read : Site → Option α) (sites : List Site) : List (Site × α) :=
  sites.filterMap fun site => (read site).map (Prod.mk site)

theorem mem_readings {α : Type} {read : Site → Option α} {sites : List Site} {value : α} :
    (site, value) ∈ readings read sites ↔ site ∈ sites ∧ read site = some value := by
  simp [readings, List.mem_filterMap, Option.map_eq_some_iff]

theorem readings_singleton {α : Type} (read : Site → Option α) (site : Site) :
    readings read [site] = ((read site).map (Prod.mk site)).toList := by
  cases hread : read site <;> simp [readings, hread]

theorem readings_cons {α : Type} (read : Site → Option α) (site : Site) (rest : List Site) :
    readings read (site :: rest) = readings read [site] ++ readings read rest :=
  @List.filterMap_append _ _ [site] rest _

theorem readings_sublist {α : Type} (read : Site → Option α) (sites : List Site) :
    ((readings read sites).map Prod.fst).Sublist sites := by
  induction sites with
  | nil => exact List.Sublist.refl _
  | cons site rest ih =>
      rw [readings_cons, readings_singleton]
      cases read site with
      | none => exact ih.cons _
      | some value => exact ih.cons_cons _

/-- The numbers of the loading calls that belong to some of the sites. -/
def ownedNumbers (sites : List Site) : List Nat :=
  (readings owned? sites).map fun reading => reading.2.1.number

theorem ownedNumbers_cons (site : Site) (rest : List Site) :
    ownedNumbers (site :: rest) = ownedNumbers [site] ++ ownedNumbers rest := by
  rw [ownedNumbers, readings_cons, List.map_append, ownedNumbers, ownedNumbers]

theorem mem_ownedNumbers {sites : List Site} {number : Nat} :
    number ∈ ownedNumbers sites ↔
      ∃ site ∈ sites, ∃ loading, owned? site = some loading ∧ loading.1.number = number := by
  constructor
  · intro hmem
    obtain ⟨⟨site, loading⟩, hreading, hnumber⟩ := List.mem_map.mp hmem
    obtain ⟨hsite, howned⟩ := mem_readings.mp hreading
    exact ⟨site, hsite, loading, howned, hnumber⟩
  · rintro ⟨site, hsite, loading, howned, hnumber⟩
    exact List.mem_map.mpr ⟨(site, loading), mem_readings.mpr ⟨hsite, howned⟩, hnumber⟩

/-- The sites that load a module and do not belong to a lazy component, where some loading calls are
known to belong to one from earlier on. -/
def loadedAlone (consumed : List Nat) (sites : List Site) : List (Site × String) :=
  (readings loaded? sites).filter fun reading =>
    reading.1.node.number ∉ consumed ++ ownedNumbers sites

theorem mem_loadedAlone {consumed : List Nat} {sites : List Site} :
    (site, module) ∈ loadedAlone consumed sites ↔ site ∈ sites ∧ loaded? site = some module ∧
      site.node.number ∉ consumed ++ ownedNumbers sites := by
  simp only [loadedAlone, List.mem_filter, mem_readings, decide_eq_true_eq, and_assoc]

theorem loadedAlone_sublist (consumed : List Nat) (sites : List Site) :
    ((loadedAlone consumed sites).map Prod.fst).Sublist sites :=
  (List.filter_sublist.map Prod.fst).trans (readings_sublist loaded? sites)

theorem loadedAlone_cons_of_consumed {consumed : List Nat} {rest : List Site}
    (howned : owned? site = none) (hconsumed : site.node.number ∈ consumed) :
    loadedAlone consumed (site :: rest) = loadedAlone consumed rest := by
  have hnumbers : ownedNumbers (site :: rest) = ownedNumbers rest := by
    rw [ownedNumbers_cons, ownedNumbers, readings_singleton, howned]
    rfl
  unfold loadedAlone
  rw [hnumbers, readings_cons, List.filter_append, List.filter_eq_nil_iff.mpr, List.nil_append]
  rintro ⟨other, module⟩ hreading
  rw [List.mem_singleton.mp (mem_readings.mp hreading).1]
  simp [hconsumed]

theorem loadedAlone_cons_of_free {consumed : List Nat} {rest : List Site}
    (hfree : ∀ module, loaded? site = some module →
      site.node.number ∉ consumed ++ ownedNumbers (site :: rest)) :
    loadedAlone consumed (site :: rest) =
      readings loaded? [site] ++ loadedAlone (ownedNumbers [site] ++ consumed) rest := by
  unfold loadedAlone
  rw [readings_cons, List.filter_append, List.filter_eq_self.mpr]
  · congr 1
    refine List.filter_congr fun reading _ => ?_
    rw [ownedNumbers_cons]
    simp only [List.mem_append, or_assoc, or_left_comm]
  · rintro ⟨other, module⟩ hreading
    obtain ⟨hother, hloaded⟩ := mem_readings.mp hreading
    rw [List.mem_singleton.mp hother] at hloaded ⊢
    exact decide_eq_true (hfree module hloaded)

/-- The record of a lazy component. -/
def lazyRecord (reading : Site × Node × String) : SourceImport :=
  ⟨reading.2.2, reading.1.node.line⟩

/-- The record of a loading call. -/
def dynamicRecord (reading : Site × String) : SourceImport :=
  ⟨reading.2, reading.1.node.line⟩

/-- The ledgers of the modules that are loaded when they are needed. -/
def Census.loadings (census : Census) : List SourceImport × List SourceImport :=
  (census.findings.lazyImports, census.findings.dynamicImports)

/-- What else is noted about a call is no loading of a module. -/
theorem loadings_of_call (census : Census) (call : Node) :
    ((census.noteWrapping call).noteLibraryCall call).loadings = census.loadings := by
  obtain ⟨_, _, _, hlibrary⟩ := (census.noteWrapping call).noteLibraryCall_written call
  obtain ⟨_, hwrapping⟩ := census.noteWrapping_written call
  calc ((census.noteWrapping call).noteLibraryCall call).loadings
      = (census.noteWrapping call).loadings := by rw [hlibrary]; rfl
    _ = census.loadings := by rw [hwrapping]; rfl

namespace Progress

variable {progress : Progress}

/-- A loading call that belongs to a lazy component is passed over. -/
theorem visitSite_of_consumed (hcall : site.node.kind = .callExpression)
    (hconsumed : site.node.number ∈ progress.consumed) : progress.visitSite site = progress := by
  simp only [visitSite, hcall, visitCall, if_pos hconsumed]

theorem update_loadings {change : Census → Census} {written : Census}
    (hwritten : change progress.census = written)
    (hkept : written.loadings = progress.census.loadings) :
    (progress.update change).census.loadings = progress.census.loadings ∧
      (progress.update change).consumed = progress.consumed :=
  ⟨(congrArg Census.loadings hwritten).trans hkept, rfl⟩

/-- Only calls are written to the two ledgers. -/
theorem visitSite_of_not_call (hcall : site.node.kind ≠ .callExpression) :
    (progress.visitSite site).census.loadings = progress.census.loadings ∧
      (progress.visitSite site).consumed = progress.consumed := by
  have hvisit := progress.visit_visitSite site
  generalize progress.visitSite site = next at hvisit ⊢
  cases hvisit with
  | statement =>
      obtain ⟨_, _, _, _, _, _, hwritten⟩ := progress.census.noteImport_written site.node
      exact update_loadings hwritten rfl
  | declaration =>
      obtain ⟨_, _, _, _, _, hwritten⟩ := progress.census.noteDeclaration_written site.node
      exact update_loadings hwritten rfl
  | tag =>
      obtain ⟨_, _, _, hwritten⟩ := progress.census.noteElement_written site
      exact update_loadings hwritten rfl
  | call hkind => exact absurd hkind hcall
  | member =>
      obtain ⟨_, hwritten⟩ := progress.census.noteMember_written site.node
      exact update_loadings hwritten rfl
  | collection hwritten =>
      obtain ⟨_, _, _, _, _, hwritten⟩ := hwritten
      exact update_loadings hwritten rfl

/-- What the visit to a call does that may be a lazy component. -/
theorem visitLazy_writes (hcall : site.node.kind = .callExpression) :
    (progress.visitLazy site).census.findings.lazyImports =
        progress.census.findings.lazyImports ++ (readings owned? [site]).map lazyRecord ∧
      (progress.visitLazy site).census.findings.dynamicImports =
        progress.census.findings.dynamicImports ∧
      (progress.visitLazy site).consumed = ownedNumbers [site] ++ progress.consumed := by
  have howned : owned? site = lazyImport? site.node := if_pos hcall
  unfold visitLazy
  rw [ownedNumbers, readings_singleton, howned]
  cases lazyImport? site.node with
  | none => exact ⟨(List.append_nil _).symm, rfl, rfl⟩
  | some loading =>
      obtain ⟨_, hwritten⟩ := progress.census.noteLazy_written site loading.2
      exact ⟨congrArg (·.findings.lazyImports) hwritten,
        congrArg (·.findings.dynamicImports) hwritten, rfl⟩

/-- What the visit to any other site does to the two ledgers and to the consumed numbers. -/
theorem visitSite_of_not_consumed
    (hfree : site.node.kind = .callExpression → site.node.number ∉ progress.consumed) :
    (progress.visitSite site).census.findings.lazyImports =
        progress.census.findings.lazyImports ++ (readings owned? [site]).map lazyRecord ∧
      (progress.visitSite site).census.findings.dynamicImports =
        progress.census.findings.dynamicImports ++ (readings loaded? [site]).map dynamicRecord ∧
      (progress.visitSite site).consumed = ownedNumbers [site] ++ progress.consumed := by
  by_cases hcall : site.node.kind = .callExpression
  · obtain ⟨hlazy, hdynamic, hconsumed⟩ := @visitLazy_writes site progress hcall
    have hloaded : loaded? site = importedModule? site.node := if_pos hcall
    -- the visit does all it can: the lazy component, the module, and the other calls
    have hvisit : progress.visitSite site =
        (progress.visitLazy site).update fun census =>
          ((census.noteDynamicImport site.node).noteWrapping site.node).noteLibraryCall
            site.node := by
      simp only [visitSite, hcall, visitCall, if_neg (hfree hcall)]
    rw [hvisit, ← hlazy, ← hconsumed, ← hdynamic, readings_singleton, hloaded]
    generalize progress.visitLazy site = lazily
    obtain ⟨hlazies, hdynamics⟩ := Prod.ext_iff.mp
      (loadings_of_call (lazily.census.noteDynamicImport site.node) site.node)
    refine ⟨hlazies.trans ?_, hdynamics.trans ?_, rfl⟩
    · unfold Census.noteDynamicImport
      split <;> rfl
    · unfold Census.noteDynamicImport Census.loadings
      cases importedModule? site.node with
      | none => exact (List.append_nil _).symm
      | some module => rfl
  · have howned : owned? site = none := if_neg hcall
    have hloaded : loaded? site = none := if_neg hcall
    rw [ownedNumbers, readings_singleton, readings_singleton, howned, hloaded]
    obtain ⟨hloadings, hconsumed⟩ := @visitSite_of_not_call site progress hcall
    obtain ⟨hlazies, hdynamics⟩ := Prod.ext_iff.mp hloadings
    exact ⟨hlazies.trans (List.append_nil _).symm, hdynamics.trans (List.append_nil _).symm,
      hconsumed⟩

/-- The run of a visit: when loading calls come later than what they belong to, and belong to
nothing else that owns one, all other loading calls are noted by themselves. -/
theorem loadings_foldl (sites : List Site) (progress : Progress)
    (hlater : sites.Pairwise fun earlier later =>
      ∀ loading, owned? later = some loading → loading.1.number ≠ earlier.node.number)
    (howners : ∀ site ∈ sites, ∀ loading, owned? site = some loading →
      site.node.number ∉ progress.consumed ++ ownedNumbers sites) :
    (sites.foldl visitSite progress).census.findings.lazyImports =
        progress.census.findings.lazyImports ++ (readings owned? sites).map lazyRecord ∧
      (sites.foldl visitSite progress).census.findings.dynamicImports =
        progress.census.findings.dynamicImports ++
          (loadedAlone progress.consumed sites).map dynamicRecord := by
  -- along the sites that are left; the consumed numbers stand for those that came before
  induction sites generalizing progress with
  | nil => simp [readings, loadedAlone]
  | cons site rest ih =>
      rw [List.foldl_cons]
      obtain ⟨hfirst, hrest⟩ := List.pairwise_cons.mp hlater
      have hfirstOwner := howners site (List.mem_cons_self ..)
      rw [ownedNumbers_cons] at howners
      by_cases hpassed : site.node.kind = .callExpression ∧ site.node.number ∈ progress.consumed
      · -- a call that is passed over owns nothing
        have howned : owned? site = none := by
          cases howned : owned? site with
          | none => rfl
          | some loading =>
              exact absurd (List.mem_append_left _ hpassed.2) (hfirstOwner loading howned)
        have hnothing : readings owned? [site] = [] := by rw [readings_singleton, howned]; rfl
        rw [visitSite_of_consumed hpassed.1 hpassed.2, readings_cons, hnothing,
          loadedAlone_cons_of_consumed howned hpassed.2]
        refine ih progress hrest fun other hother loading hloading => ?_
        simpa [ownedNumbers, hnothing] using
          howners other (List.mem_cons_of_mem _ hother) loading hloading
      · obtain ⟨hlazy, hdynamic, hconsumed⟩ := @visitSite_of_not_consumed site progress
          fun hcall hmem => hpassed ⟨hcall, hmem⟩
        have hfree : ∀ module, loaded? site = some module →
            site.node.number ∉ progress.consumed ++ ownedNumbers (site :: rest) := by
          intro module hloaded hmem
          rcases List.mem_append.mp hmem with hconsumed | hnumbers
          · exact hpassed ⟨call_of_loaded? hloaded, hconsumed⟩
          · obtain ⟨other, hother, loading, howned, hnumber⟩ := mem_ownedNumbers.mp hnumbers
            rcases List.mem_cons.mp hother with rfl | hbehind
            · exact hfirstOwner loading howned hmem
            · exact hfirst other hbehind loading howned hnumber
        obtain ⟨hlazies, hdynamics⟩ := ih (progress.visitSite site) hrest
          fun other hother loading hloading => by
            simpa [hconsumed, or_assoc, or_left_comm] using
              howners other (List.mem_cons_of_mem _ hother) loading hloading
        rw [hlazies, hdynamics, hlazy, hdynamic, hconsumed, loadedAlone_cons_of_free hfree,
          readings_cons owned? site rest]
        simp only [List.map_append, List.append_assoc, and_self]

end Progress

/-! ## One record for each loading call -/

section Tree

variable (hnumbers : (numbers tree).Nodup) (hnamed : NamesParts tree)

include hnumbers in
/-- Visited sites with the same number are the same site. -/
theorem eq_of_number_eq (hinner : inner ∈ visitOrder (Site.root tree))
    (houter : outer ∈ visitOrder (Site.root tree))
    (hequal : inner.node.number = outer.node.number) : inner = outer :=
  List.inj_on_of_nodup_map (@nodup_numbers_visitOrder (Site.root tree) hnumbers) hinner houter
    hequal

include hnamed in
/-- The loading call that belongs to a visited site is visited later, and leads back to it. -/
theorem exists_site_of_owned (houter : outer ∈ visitOrder (Site.root tree))
    (howned : owned? outer = some (loading, module)) :
    ∃ inner : Site, inner.node = loading ∧ [outer, inner].Sublist (visitOrder (Site.root tree)) ∧
      loaded? inner = some module ∧ owner? inner = some outer := by
  obtain ⟨hcall, hloads, hmodule⟩ := loads_of_owned? howned
  obtain ⟨inner, rfl, hreached, howner⟩ := exists_site_of_loadsLazily hnamed houter hcall hloads
  have hinner := call_of_loadsLazily hloads hmodule
  have hne : inner ≠ outer := by
    rintro rfl
    have hcallee := calleeName?_of_importedModule? hinner hmodule
    rw [hloads.1] at hcallee
    cases hcallee
  refine ⟨inner, rfl, sublist_visitOrder_of_reached houter hreached hne, ?_, howner⟩
  rw [loaded?, if_pos hinner, hmodule]

include hnumbers hnamed

theorem owned_later :
    (visitOrder (Site.root tree)).Pairwise fun earlier later =>
      ∀ loading, owned? later = some loading → loading.1.number ≠ earlier.node.number := by
  have hnodup : (visitOrder (Site.root tree)).Nodup :=
    (@nodup_numbers_visitOrder (Site.root tree) hnumbers).of_map _
  rw [List.pairwise_iff_forall_sublist]
  rintro earlier later hsublist ⟨loading, module⟩ howned hequal
  have hlater : later ∈ visitOrder (Site.root tree) := hsublist.subset (by simp)
  obtain ⟨inner, rfl, hbehind, _, _⟩ := exists_site_of_owned hnamed hlater howned
  have hsame : inner = earlier :=
    eq_of_number_eq hnumbers (hbehind.subset (by simp)) (hsublist.subset (by simp)) hequal
  -- the loading call would come both before and after what it belongs to
  rw [hsame] at hbehind
  exact not_sublist_swap hnodup hsublist hbehind

/-- What owns a loading call is no loading call itself. -/
theorem owner_not_owned (houter : outer ∈ visitOrder (Site.root tree))
    (howned : owned? outer = some (loading, module)) :
    outer.node.number ∉ ownedNumbers (visitOrder (Site.root tree)) := by
  intro hmem
  obtain ⟨other, hother, ⟨loading', module'⟩, howned', hequal⟩ := mem_ownedNumbers.mp hmem
  obtain ⟨inner, rfl, hbehind, hloaded, _⟩ := exists_site_of_owned hnamed hother howned'
  have hsame : inner = outer :=
    eq_of_number_eq hnumbers (hbehind.subset (by simp)) houter hequal
  subst hsame
  obtain ⟨hcall, ⟨hcallee, _⟩, _⟩ := loads_of_owned? howned
  rw [loaded?, if_pos hcall] at hloaded
  rw [calleeName?_of_importedModule? hcall hloaded] at hcallee
  cases hcallee

/-- No loading call belongs to two sites. -/
theorem nodup_ownedNumbers : (ownedNumbers (visitOrder (Site.root tree))).Nodup := by
  have hnodup : (visitOrder (Site.root tree)).Nodup :=
    (@nodup_numbers_visitOrder (Site.root tree) hnumbers).of_map _
  refine List.Nodup.map_on ?_ (((readings_sublist owned? _).nodup hnodup).of_map _)
  rintro ⟨outer, loading, module⟩ hreading ⟨outer', loading', module'⟩ hreading' hequal
  obtain ⟨houter, howned⟩ := mem_readings.mp hreading
  obtain ⟨houter', howned'⟩ := mem_readings.mp hreading'
  obtain ⟨inner, rfl, hbehind, _, howner⟩ := exists_site_of_owned hnamed houter howned
  obtain ⟨inner', rfl, hbehind', _, howner'⟩ := exists_site_of_owned hnamed houter' howned'
  have hsame : inner = inner' :=
    eq_of_number_eq hnumbers (hbehind.subset (by simp)) (hbehind'.subset (by simp)) hequal
  -- going up from the one loading call leads to both
  subst hsame
  rw [howner] at howner'
  cases howner'
  rw [howned] at howned'
  cases howned'
  rfl

/-- The two ledgers at the end of a visit. -/
theorem loadings_visit :
    (Census.empty.visit tree).findings.lazyImports =
        (readings owned? (visitOrder (Site.root tree))).map lazyRecord ∧
      (Census.empty.visit tree).findings.dynamicImports =
        (loadedAlone [] (visitOrder (Site.root tree))).map dynamicRecord := by
  unfold Census.visit
  rw [Progress.visit_eq_foldl]
  refine Progress.loadings_foldl _ ⟨Census.empty, []⟩ (owned_later hnumbers hnamed) ?_
  rintro outer houter ⟨loading, module⟩ howned
  exact owner_not_owned hnumbers hnamed houter howned

end Tree

/-- The calls that are visited. -/
def visitedCalls (tree : Node) : List Node :=
  ((visitOrder (Site.root tree)).map (·.node)).filter fun node => node.kind = .callExpression

/-- The visited calls of the `import` keyword that name their module. -/
def literalImports (tree : Node) : List Node :=
  (visitedCalls tree).filter fun call => (importedModule? call).isSome

theorem mem_visitedCalls :
    call ∈ visitedCalls tree ↔
      ∃ site ∈ visitOrder (Site.root tree), site.node.kind = .callExpression ∧
        site.node = call := by
  simp only [visitedCalls, List.mem_filter, List.mem_map, decide_eq_true_eq]
  constructor
  · rintro ⟨⟨site, hsite, rfl⟩, hcall⟩
    exact ⟨site, hsite, hcall, rfl⟩
  · rintro ⟨site, hsite, hcall, rfl⟩
    exact ⟨⟨site, hsite, rfl⟩, hcall⟩

theorem mem_literalImports :
    call ∈ literalImports tree ↔
      ∃ site ∈ visitOrder (Site.root tree), ∃ module, loaded? site = some module ∧
        site.node = call := by
  rw [literalImports, List.mem_filter, mem_visitedCalls]
  constructor
  · rintro ⟨⟨site, hsite, hcall, rfl⟩, hmodule⟩
    obtain ⟨module, hmodule⟩ := Option.isSome_iff_exists.mp hmodule
    exact ⟨site, hsite, module, by rw [loaded?, if_pos hcall, hmodule], rfl⟩
  · rintro ⟨site, hsite, module, hloaded, rfl⟩
    have hcall := call_of_loaded? hloaded
    rw [loaded?, if_pos hcall] at hloaded
    exact ⟨⟨site, hsite, hcall, rfl⟩, by rw [hloaded]; rfl⟩

theorem nodup_nodes_visitOrder (hnumbers : (numbers tree).Nodup) :
    ((visitOrder (Site.root tree)).map (·.node)).Nodup := by
  refine List.Nodup.of_map Node.number ?_
  rw [List.map_map]
  exact @nodup_numbers_visitOrder (Site.root tree) hnumbers

theorem nodup_literalImports (hnumbers : (numbers tree).Nodup) : (literalImports tree).Nodup :=
  ((nodup_nodes_visitOrder hnumbers).filter _).filter _

/-- The loading calls that belong to lazy components. -/
def ownedCalls (tree : Node) : List Node :=
  (readings owned? (visitOrder (Site.root tree))).map fun reading => reading.2.1

/-- The loading calls that belong to nothing. -/
def aloneCalls (tree : Node) : List Node :=
  (loadedAlone [] (visitOrder (Site.root tree))).map fun reading => reading.1.node

theorem nodup_ownedCalls_append_aloneCalls (hnumbers : (numbers tree).Nodup)
    (hnamed : NamesParts tree) : (ownedCalls tree ++ aloneCalls tree).Nodup := by
  have howned : (ownedCalls tree).Nodup := by
    refine List.Nodup.of_map Node.number ?_
    rw [ownedCalls, List.map_map]
    exact nodup_ownedNumbers hnumbers hnamed
  have halone : (aloneCalls tree).Nodup := by
    have hsublist := (loadedAlone_sublist [] (visitOrder (Site.root tree))).map (·.node)
    rw [List.map_map] at hsublist
    exact hsublist.nodup (nodup_nodes_visitOrder hnumbers)
  refine List.nodup_append.mpr ⟨howned, halone, ?_⟩
  -- a call that is recorded by itself was not set aside
  intro loading hloading call hcall hequal
  obtain ⟨⟨outer, loading, module⟩, hreading, rfl⟩ := List.mem_map.mp hloading
  obtain ⟨⟨site, module'⟩, hreading', rfl⟩ := List.mem_map.mp hcall
  refine (mem_loadedAlone.mp hreading').2.2 (List.mem_map.mpr ⟨_, hreading, ?_⟩)
  exact congrArg Node.number hequal

/-- A loading call belongs to a lazy component or to nothing. -/
theorem mem_ownedCalls_append_aloneCalls (hnumbers : (numbers tree).Nodup)
    (hnamed : NamesParts tree) :
    call ∈ ownedCalls tree ++ aloneCalls tree ↔ call ∈ literalImports tree := by
  rw [List.mem_append, mem_literalImports]
  constructor
  · rintro (howned | halone)
    · obtain ⟨⟨outer, loading, module⟩, hreading, rfl⟩ := List.mem_map.mp howned
      obtain ⟨houter, howned⟩ := mem_readings.mp hreading
      obtain ⟨inner, hinner, hbehind, hloaded, _⟩ := exists_site_of_owned hnamed houter howned
      exact ⟨inner, hbehind.subset (by simp), module, hloaded, hinner⟩
    · obtain ⟨⟨site, module⟩, hreading, rfl⟩ := List.mem_map.mp halone
      obtain ⟨hsite, hloaded, _⟩ := mem_loadedAlone.mp hreading
      exact ⟨site, hsite, module, hloaded, rfl⟩
  · rintro ⟨site, hsite, module, hloaded, rfl⟩
    by_cases hnumber : site.node.number ∈ ownedNumbers (visitOrder (Site.root tree))
    · -- the number of a visited site tells which loading call it is
      obtain ⟨outer, houter, ⟨loading, module'⟩, howned, hequal⟩ := mem_ownedNumbers.mp hnumber
      obtain ⟨inner, rfl, hbehind, _, _⟩ := exists_site_of_owned hnamed houter howned
      have hsame : inner = site :=
        eq_of_number_eq hnumbers (hbehind.subset (by simp)) hsite hequal
      subst hsame
      exact Or.inl (List.mem_map.mpr ⟨_, mem_readings.mpr ⟨houter, howned⟩, rfl⟩)
    · exact Or.inr (List.mem_map.mpr ⟨_, mem_loadedAlone.mpr ⟨hsite, hloaded, hnumber⟩, rfl⟩)

/-- A call that is noted by itself is in no visited call of `lazy`. -/
theorem not_loadsLazily_of_mem_aloneCalls (halone : call ∈ aloneCalls tree) {outer : Node}
    (houter : outer ∈ visitedCalls tree) : ¬ LoadsLazily outer call := by
  intro hloads
  obtain ⟨⟨site, module⟩, hreading, rfl⟩ := List.mem_map.mp halone
  obtain ⟨_, hloaded, hfree⟩ := mem_loadedAlone.mp hreading
  obtain ⟨outer, hvisited, hcall, rfl⟩ := mem_visitedCalls.mp houter
  refine hfree (mem_ownedNumbers.mpr ⟨outer, hvisited, (site.node, module), ?_, rfl⟩)
  rw [loaded?, if_pos (call_of_loaded? hloaded)] at hloaded
  rw [owned?, if_pos hcall]
  exact lazyImport?_eq_some_iff.mpr ⟨hloads, hloaded⟩

/-- How loading calls and records go together: `inLazy` has the calls in lazy components, each
behind its call of `lazy`, and `alone` all others. -/
structure LoadingsMatched (tree : Node) (findings : Findings) (inLazy : List (Node × Node))
    (alone : List Node) : Prop where
  once : (literalImports tree).Nodup
  all : (inLazy.map Prod.snd ++ alone).Perm (literalImports tree)
  lazily : ∀ pair ∈ inLazy, pair.1 ∈ visitedCalls tree ∧ LoadsLazily pair.1 pair.2
  not_lazily : ∀ call ∈ alone, ∀ outer ∈ visitedCalls tree, ¬ LoadsLazily outer call
  lazyImports : List.Forall₂ (fun pair record =>
    importedModule? pair.2 = some record.source ∧ record.line = pair.1.line)
      inLazy findings.lazyImports
  dynamicImports : List.Forall₂ (fun call record =>
    importedModule? call = some record.source ∧ record.line = call.line)
      alone findings.dynamicImports

/-- **Every call that names the module it loads is recorded once.**  A call in the body of a lazy
component has a record of a lazy import, on the line of the call of `lazy`.  Every other one has a
record of a dynamic import, on its own line.  There are no other records. -/
theorem literal_imports_recorded_once (hnumbers : (numbers tree).Nodup)
    (hnamed : NamesParts tree) :
    ∃ inLazy alone, LoadingsMatched tree (Census.empty.visit tree).findings inLazy alone := by
  obtain ⟨hlazies, hdynamics⟩ := loadings_visit hnumbers hnamed
  refine ⟨(readings owned? (visitOrder (Site.root tree))).map fun reading =>
    (reading.1.node, reading.2.1), aloneCalls tree, nodup_literalImports hnumbers, ?_, ?_,
    fun _ halone _ houter => not_loadsLazily_of_mem_aloneCalls halone houter, ?_, ?_⟩
  · rw [List.map_map]
    exact (List.perm_ext_iff_of_nodup (nodup_ownedCalls_append_aloneCalls hnumbers hnamed)
      (nodup_literalImports hnumbers)).mpr fun _ => mem_ownedCalls_append_aloneCalls hnumbers hnamed
  · intro pair hpair
    obtain ⟨⟨outer, loading, module⟩, hreading, rfl⟩ := List.mem_map.mp hpair
    obtain ⟨houter, howned⟩ := mem_readings.mp hreading
    obtain ⟨hcall, hloads, _⟩ := loads_of_owned? howned
    exact ⟨mem_visitedCalls.mpr ⟨outer, houter, hcall, rfl⟩, hloads⟩
  · rw [hlazies, List.forall₂_map_left_iff, List.forall₂_map_right_iff, List.forall₂_same]
    rintro ⟨outer, loading, module⟩ hreading
    obtain ⟨_, _, hmodule⟩ := loads_of_owned? (mem_readings.mp hreading).2
    exact ⟨hmodule, rfl⟩
  · rw [hdynamics, aloneCalls, List.forall₂_map_left_iff, List.forall₂_map_right_iff,
      List.forall₂_same]
    rintro ⟨site, module⟩ hreading
    obtain ⟨_, hloaded, _⟩ := mem_loadedAlone.mp hreading
    rw [loaded?, if_pos (call_of_loaded? hloaded)] at hloaded
    exact ⟨hloaded, rfl⟩

/-- A lazy component, and behind it a function with the same body that is passed to nothing. -/
def loadedTwice : Node :=
  namedNode 0 1 .program
    "const Panel = lazy(() => import(\"./panel\")); () => import(\"./panel\")" []
    ((lazyPanel loadingCall).children ++
      [namedNode 12 1 .arrowFunction "() => import(\"./panel\")" []
        [renumbered (· + 5) loadingCall]])

/-- The two calls say the same, and each has its own record. -/
theorem loadings_of_loadedTwice :
    (numbers loadedTwice).Nodup ∧ NamesParts loadedTwice ∧
      (∃ inLazy alone,
        LoadingsMatched loadedTwice (Census.empty.visit loadedTwice).findings inLazy alone) ∧
      (literalImports loadedTwice).map Node.number = [8, 13] ∧
      (Census.empty.visit loadedTwice).findings.lazyImports = [⟨"./panel", 1⟩] ∧
      (Census.empty.visit loadedTwice).findings.dynamicImports = [⟨"./panel", 1⟩] := by
  have hnumbers : (numbers loadedTwice).Nodup := by
    have hrange : numbers loadedTwice = List.range 17 := by cbv
    exact hrange ▸ List.nodup_range
  have hnamed : NamesParts loadedTwice := by
    have hall : ((visitOrder (Site.root loadedTwice)).all fun site =>
        [Field.arguments, .body].all fun field =>
          (site.node.child? field).all (·.label.named)) = true := by cbv
    simpa [NamesParts, Option.all_eq_true] using hall
  exact ⟨hnumbers, hnamed, literal_imports_recorded_once hnumbers hnamed, by cbv, by cbv, by cbv⟩

end ComponentCensus.Usage
