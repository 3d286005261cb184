import Mathlib.Data.List.Forall2
import Mathlib.Tactic.Common

/-!
# Steps that may fail

A computation that may fail is a chain of steps, and most steps run over a list: they convert,
filter or fold its items and stop at the first fault.  The lemmas here take a chain apart that
succeeded and put one together whose steps succeed.

There are three groups of them, for `mapM`, `filterM` and `foldlM`.  In each the items may be views
of other items, since documents are read by views of the records that they were made from: if every
step does on the view what a plain function does on the record, the whole loop does what `map`,
`filter` or `foldl` does.

## Main results

* `exists_of_bind_eq_ok`, `bind_of_eq_ok` : taking apart and putting together.
* `mapM_map_ok`, `filterM_map_ok`, `foldlM_map_ok` : loops over views.
* `forall₂_of_mapM_eq_ok`, `sublist_of_filterM` : what is known of a loop that succeeded.
-/

namespace ComponentCensus

variable {ε α β σ τ : Type}

/-! ## Chains -/

theorem bind_of_eq_ok {step : Except ε α} {next : α → Except ε β} {value : α} {result : Except ε β}
    (hstep : step = .ok value) (hnext : next value = result) : (step >>= next) = result := by
  rw [hstep]
  exact hnext

theorem bind_of_eq_error {step : Except ε α} {next : α → Except ε β} {fault : ε}
    (hstep : step = .error fault) : (step >>= next) = .error fault := by
  rw [hstep]
  rfl

/-- Two steps succeed only if the first of them does. -/
theorem exists_of_bind_eq_ok {step : Except ε α} {next : α → Except ε β} {result : β}
    (hbind : (step >>= next) = .ok result) :
    ∃ value, step = .ok value ∧ next value = .ok result := by
  cases step with
  | error fault => cases hbind
  | ok value => exact ⟨value, rfl, hbind⟩

/-! ## Conversions -/

theorem mapM_map_ok {convert : β → Except ε τ} {view : α → β} {result : α → τ} {items : List α}
    (hconvert : ∀ item ∈ items, convert (view item) = .ok (result item)) :
    (items.map view).mapM convert = .ok (items.map result) := by
  induction items with
  | nil => rfl
  | cons item rest ih =>
      obtain ⟨hitem, hrest⟩ := List.forall_mem_cons.mp hconvert
      rw [List.map_cons, List.mapM_cons, hitem, ih hrest]
      rfl

theorem exists_mapM_ok {convert : α → Except ε β} {items : List α}
    (hconvert : ∀ item ∈ items, ∃ result, convert item = .ok result) :
    ∃ results, items.mapM convert = .ok results := by
  induction items with
  | nil => exact ⟨[], rfl⟩
  | cons item rest ih =>
      obtain ⟨hitem, hrest⟩ := List.forall_mem_cons.mp hconvert
      obtain ⟨result, hresult⟩ := hitem
      obtain ⟨results, hresults⟩ := ih hrest
      refine ⟨result :: results, ?_⟩
      rw [List.mapM_cons]
      exact bind_of_eq_ok hresult (bind_of_eq_ok hresults rfl)

/-- A list that is converted is converted item by item. -/
theorem forall₂_of_mapM_eq_ok {convert : α → Except ε β} {items : List α} {results : List β}
    (hresults : items.mapM convert = .ok results) :
    List.Forall₂ (fun item result => convert item = .ok result) items results := by
  induction items generalizing results with
  | nil =>
      cases hresults
      exact .nil
  | cons item rest ih =>
      rw [List.mapM_cons] at hresults
      obtain ⟨first, hfirst, hresults⟩ := exists_of_bind_eq_ok hresults
      obtain ⟨others, hothers, hresults⟩ := exists_of_bind_eq_ok hresults
      cases hresults
      exact .cons hfirst (ih hothers)

theorem exists_mem_of_mapM_eq_ok {convert : α → Except ε β} {items : List α} {results : List β}
    (hresults : items.mapM convert = .ok results) {result : β} (hresult : result ∈ results) :
    ∃ item ∈ items, convert item = .ok result := by
  have hitems := forall₂_of_mapM_eq_ok hresults
  clear hresults
  induction hitems with
  | nil => cases hresult
  | @cons item first rest others hfirst _ ih =>
      rcases List.mem_cons.mp hresult with rfl | hothers
      · exact ⟨item, List.mem_cons_self .., hfirst⟩
      · obtain ⟨found, hfound, hconvert⟩ := ih hothers
        exact ⟨found, List.mem_cons_of_mem _ hfound, hconvert⟩

theorem map_of_mapM_eq_ok {γ : Type} {convert : α → Except ε β} (before : α → γ) (after : β → γ)
    (hconvert : ∀ item result, convert item = .ok result → after result = before item)
    {items : List α} {results : List β} (hresults : items.mapM convert = .ok results) :
    results.map after = items.map before := by
  have hitems := forall₂_of_mapM_eq_ok hresults
  clear hresults
  induction hitems with
  | nil => rfl
  | cons hfirst _ ih => rw [List.map_cons, List.map_cons, hconvert _ _ hfirst, ih]

/-! ## Filters -/

theorem filterAuxM_map_ok {test : β → Except ε Bool} {view : α → β} {keep : α → Bool}
    {items : List α} (htest : ∀ item ∈ items, test (view item) = .ok (keep item)) (done : List β) :
    List.filterAuxM test (items.map view) done =
      .ok (((items.filter keep).map view).reverse ++ done) := by
  induction items generalizing done with
  | nil => rfl
  | cons item rest ih =>
      obtain ⟨hitem, hrest⟩ := List.forall_mem_cons.mp htest
      rw [List.map_cons, List.filterAuxM, hitem]
      show List.filterAuxM test (rest.map view) _ = _
      rw [ih hrest, List.filter_cons]
      cases keep item <;> simp [cond]

/-- A filter whose test never fails is a plain filter. -/
theorem filterM_map_ok {test : β → Except ε Bool} {view : α → β} {keep : α → Bool}
    {items : List α} (htest : ∀ item ∈ items, test (view item) = .ok (keep item)) :
    (items.map view).filterM test = .ok ((items.filter keep).map view) := by
  rw [List.filterM, filterAuxM_map_ok htest]
  simp [bind, Except.bind, pure, Except.pure]

/-- A filter fails with the one fault that its test has, as soon as an item is at fault. -/
theorem filterM_map_error {test : β → Except ε Bool} {view : α → β} {keep : α → Bool}
    {sound : α → Prop} [DecidablePred sound] {fault : ε} {items : List α}
    (htest : ∀ item ∈ items,
      test (view item) = if sound item then .ok (keep item) else .error fault)
    (hfault : ∃ item ∈ items, ¬ sound item) : (items.map view).filterM test = .error fault := by
  have haux : ∀ done, List.filterAuxM test (items.map view) done = .error fault := by
    induction items with
    | nil => simp at hfault
    | cons item rest ih =>
        obtain ⟨hitem, hrest⟩ := List.forall_mem_cons.mp htest
        intro done
        rw [List.map_cons, List.filterAuxM, hitem]
        by_cases hsound : sound item
        · rw [if_pos hsound]
          refine ih hrest ?_ _
          obtain ⟨other, hother, hbad⟩ := hfault
          rcases List.mem_cons.mp hother with rfl | hother
          · exact absurd hsound hbad
          · exact ⟨other, hother, hbad⟩
        · rw [if_neg hsound]
          rfl
  rw [List.filterM, haux]
  rfl

theorem filterAuxM_eq_ok {test : α → Except ε Bool} {items done kept : List α}
    (hkept : List.filterAuxM test items done = .ok kept) :
    ∃ passed : List α, kept = passed.reverse ++ done ∧ passed.Sublist items ∧
      ∀ item ∈ passed, test item = .ok true := by
  induction items generalizing done with
  | nil =>
      cases hkept
      exact ⟨[], rfl, List.Sublist.refl _, by simp⟩
  | cons item rest ih =>
      rw [List.filterAuxM] at hkept
      obtain ⟨passes, htest, hkept⟩ := exists_of_bind_eq_ok hkept
      obtain ⟨passed, hsplit, hsublist, hpassed⟩ := ih hkept
      cases passes with
      | false => exact ⟨passed, hsplit, hsublist.cons item, hpassed⟩
      | true =>
          refine ⟨item :: passed, ?_, hsublist.cons_cons item, ?_⟩
          · simpa [cond] using hsplit
          · exact List.forall_mem_cons.mpr ⟨htest, hpassed⟩

/-- A filter keeps items in their order, and only items that pass. -/
theorem sublist_of_filterM {test : α → Except ε Bool} {items kept : List α}
    (hkept : items.filterM test = .ok kept) :
    kept.Sublist items ∧ ∀ item ∈ kept, test item = .ok true := by
  rw [List.filterM] at hkept
  obtain ⟨found, hfound, hkept⟩ := exists_of_bind_eq_ok hkept
  obtain ⟨passed, hsplit, hsublist, hpassed⟩ := filterAuxM_eq_ok hfound
  cases hkept
  rw [hsplit, List.append_nil, List.reverse_reverse]
  exact ⟨hsublist, hpassed⟩

/-- A filter keeps all items if all of them pass. -/
theorem filterM_eq_self {test : α → Except ε Bool} {items : List α}
    (hpassed : ∀ item ∈ items, test item = .ok true) : items.filterM test = .ok items := by
  have hkept := @filterM_map_ok _ _ _ test id (fun _ => true) items hpassed
  simpa using hkept

/-! ## Folds -/

/-- A fold whose step never fails is a plain fold. -/
theorem foldlM_map_ok {step : τ → β → Except ε τ} {view : α → β} (shown : σ → τ)
    {next : σ → α → σ} {items : List α}
    (hstep : ∀ state, ∀ item ∈ items,
      step (shown state) (view item) = .ok (shown (next state item))) (state : σ) :
    (items.map view).foldlM step (shown state) = .ok (shown (items.foldl next state)) := by
  induction items generalizing state with
  | nil => rfl
  | cons item rest ih =>
      obtain ⟨hitem, hrest⟩ := forall_and.mp fun state => List.forall_mem_cons.mp (hstep state)
      rw [List.map_cons, List.foldlM_cons, hitem]
      exact ih hrest (next state item)

theorem exists_foldlM_ok {step : σ → α → Except ε σ} {items : List α}
    (hstep : ∀ item ∈ items, ∀ state, ∃ next, step state item = .ok next) (state : σ) :
    ∃ final, items.foldlM step state = .ok final := by
  induction items generalizing state with
  | nil => exact ⟨state, rfl⟩
  | cons item rest ih =>
      obtain ⟨hitem, hrest⟩ := List.forall_mem_cons.mp hstep
      obtain ⟨next, hnext⟩ := hitem state
      obtain ⟨final, hfinal⟩ := ih hrest next
      refine ⟨final, ?_⟩
      rw [List.foldlM_cons]
      exact bind_of_eq_ok hnext hfinal

/-- A fold that succeeds makes a first step and goes on. -/
theorem foldlM_cons_eq_ok {step : σ → α → Except ε σ} {item : α} {rest : List α} {state final : σ}
    (hfold : (item :: rest).foldlM step state = .ok final) :
    ∃ next, step state item = .ok next ∧ rest.foldlM step next = .ok final := by
  rw [List.foldlM_cons] at hfold
  exact exists_of_bind_eq_ok hfold

end ComponentCensus
