import ComponentCensus.Proofs.Aggregation
import ComponentCensus.Proofs.Foreign

/-!
# Names that another import captures

A rendered component is looked up in four ledgers, one after the other: named imports by the name
of their export, default imports, renamed imports by their local name, and namespaces.  The first
hit decides on the package, whether or not it is the import that binds the name.

An import captures the component of another one if the search meets it earlier (`Captures`): in an
earlier ledger, or ahead in the same one.  The table of renamings keeps what was written last, so
there it is the later import that stands ahead.

## Main results

* `package_of_binding_unless_captured` : a component has the package of the import that binds it,
  unless another import captures it, and which imports at the top can do so.
* `name_taken_by_renamed_export` : a default import whose name is the export of a renamed one.

## Strategy

* Each binding stands under a component in at most one ledger (`ImportBinding.ledger?`), so that
  the ledgers can be read off the bindings: the search finds what `answer?` finds among them
  (`importedSource?_visit`).
* A binding is found unless one that the search meets earlier stands under the same component, and
  then it is such a binding that is found (`answer?_cases`).
* Where no local name is bound twice at the top of the program, a binding there takes the name of
  another one only if it is renamed and exports the name (`imported?_of_captures`).
-/

namespace ComponentCensus

/-- A table whose keys are the names of its values is searched by its keys. -/
theorem Entries.find?_values {α : Type} {name : α → String} {table : Entries String α}
    (hnames : ∀ entry ∈ table, name entry.2 = entry.1) (key : String) :
    (table.values.find? fun value => name value = key) = table.get? key := by
  induction table with
  | nil => rfl
  | cons entry rest ih =>
      obtain ⟨hentry, hrest⟩ := List.forall_mem_cons.mp hnames
      have hvalues : Entries.values (entry :: rest) = entry.2 :: Entries.values rest := rfl
      rw [hvalues, Entries.get?]
      by_cases hkey : entry.1 = key
      · rw [List.find?_cons_of_pos (by simpa [hentry] using hkey), if_pos (beq_iff_eq.mpr hkey)]
      · rw [List.find?_cons_of_neg (by simpa [hentry] using hkey),
          if_neg (mt beq_iff_eq.mp hkey)]
        exact ih hrest

namespace Usage

open ComponentCensus.Syntax ComponentCensus.Package

/-! ## Ledgers -/

/-- The ledgers in which the import of a component is looked up. -/
inductive Ledger where
  | named
  | defaults
  | renamed
  | spaces
deriving DecidableEq, Repr

namespace Ledger

/-- The ledgers in the order in which they are searched. -/
def searched : List Ledger := [.named, .defaults, .renamed, .spaces]

def rank : Ledger → Nat
  | .named => 0
  | .defaults => 1
  | .renamed => 2
  | .spaces => 3

/-- The order in which a ledger is read.  Only the last of the imports that are renamed alike is in
the table. -/
def read (ledger : Ledger) (imports : List ImportBinding) : List ImportBinding :=
  if ledger = .renamed then imports.reverse else imports

/-- What a ledger reads before an import that stands between other ones. -/
def ahead (ledger : Ledger) (before after : List ImportBinding) : List ImportBinding :=
  if ledger = .renamed then after.reverse else before

theorem mem_searched (ledger : Ledger) : ledger ∈ searched := by
  cases ledger <;> decide

theorem rank_injective : Function.Injective rank := by
  intro ledger other hrank
  cases ledger <;> cases other <;> first | rfl | cases hrank

theorem rank_le (ledger : Ledger) : ledger.rank ≤ rank .spaces := by
  cases ledger <;> decide

/-- The ledgers before one in the search are those of a lower rank. -/
theorem mem_of_rank_lt {ledger other : Ledger} {earlier later : List Ledger}
    (hsearched : searched = earlier ++ ledger :: later) (hrank : other.rank < ledger.rank) :
    other ∈ earlier := by
  have hsorted : searched.Pairwise fun a b => a.rank < b.rank := by decide
  rw [hsearched, List.pairwise_append, List.pairwise_cons] at hsorted
  have hother := mem_searched other
  rw [hsearched, List.mem_append, List.mem_cons] at hother
  rcases hother with hearlier | rfl | hlater
  · exact hearlier
  · omega
  · have := hsorted.2.1.1 other hlater
    omega

@[simp] theorem mem_read {ledger : Ledger} {imports : List ImportBinding}
    {binding : ImportBinding} : binding ∈ ledger.read imports ↔ binding ∈ imports := by
  unfold read
  split <;> simp

theorem read_append_cons (ledger : Ledger) (before after : List ImportBinding)
    (binding : ImportBinding) : ∃ behind, ledger.read (before ++ binding :: after) =
      ledger.ahead before after ++ binding :: behind := by
  unfold read ahead
  split
  · exact ⟨before.reverse, by simp⟩
  · exact ⟨after, rfl⟩

end Ledger

namespace ImportBinding

/-- Whether a component is what a binding binds: the local name itself, or a member of the namespace
with that name. -/
def Binds (component : String) (binding : ImportBinding) : Prop :=
  if binding.form = .byStar then
    Text.hasChar '.' component = true ∧ Text.beforeFirst '.' component = binding.localName
  else component = binding.localName

/-- The first ledger in which a binding stands under a component. -/
def ledger? (component : String) (binding : ImportBinding) : Option Ledger :=
  match binding.form with
  | .byName imported =>
    if imported = component then some .named
    else if binding.localName = component then some .renamed
    else none
  | .byDefault => if binding.localName = component then some .defaults else none
  | .byStar =>
    if Text.hasChar '.' component ∧ binding.localName = Text.beforeFirst '.' component then
      some .spaces
    else none

variable {component : String} {binding : ImportBinding}

theorem exists_ledger?_of_binds (hbinds : binding.Binds component) :
    ∃ ledger, binding.ledger? component = some ledger := by
  unfold Binds at hbinds
  unfold ledger?
  cases hform : binding.form with
  | byDefault =>
      rw [hform, if_neg (by decide)] at hbinds
      exact ⟨.defaults, if_pos hbinds.symm⟩
  | byStar =>
      rw [hform, if_pos rfl] at hbinds
      exact ⟨.spaces, if_pos ⟨hbinds.1, hbinds.2.symm⟩⟩
  | byName imported =>
      rw [hform, if_neg (by simp)] at hbinds
      by_cases himported : imported = component
      · exact ⟨.named, if_pos himported⟩
      · exact ⟨.renamed, (if_neg himported).trans (if_pos hbinds.symm)⟩

/-- A binding that stands in a ledger under a name that it does not bind is listed by its export. -/
theorem imported?_of_ledger? {ledger : Ledger} (hledger : binding.ledger? component = some ledger)
    (hspaces : ledger ≠ .spaces) (hlocal : binding.localName ≠ component) :
    binding.imported? = some component := by
  unfold ledger? at hledger
  unfold imported?
  cases hform : binding.form with
  | byDefault => simp [hform, hlocal] at hledger
  | byStar =>
      simp only [hform, Option.ite_none_right_eq_some, Option.some.injEq] at hledger
      exact absurd hledger.2.symm hspaces
  | byName imported =>
      simp only [hform, if_neg hlocal, Option.ite_none_right_eq_some] at hledger
      rw [hledger.1]

theorem eq_of_ledger?_spaces (hledger : binding.ledger? component = some .spaces) :
    binding.form = .byStar ∧ Text.hasChar '.' component = true ∧
      binding.localName = Text.beforeFirst '.' component := by
  unfold ledger? at hledger
  cases hform : binding.form with
  | byStar =>
      simp only [hform, Option.ite_none_right_eq_some] at hledger
      exact ⟨rfl, hledger.1⟩
  | byDefault => simp [hform] at hledger
  | byName imported =>
      simp only [hform] at hledger
      split at hledger
      · cases hledger
      · simp at hledger

end ImportBinding

/-! ## The search -/

section Search

variable {component : String} {imports before after : List ImportBinding}
  {binding found : ImportBinding} {ledger : Ledger}

/-- The first binding of a ledger that stands there under a component. -/
def firstIn (component : String) (imports : List ImportBinding) (ledger : Ledger) :
    Option ImportBinding :=
  (ledger.read imports).find? fun binding => binding.ledger? component = some ledger

/-- The binding that the search for a component ends with. -/
def answer? (component : String) (imports : List ImportBinding) : Option ImportBinding :=
  Ledger.searched.findSome? (firstIn component imports)

theorem firstIn_eq_none_iff : firstIn component imports ledger = none ↔
    ∀ binding ∈ imports, binding.ledger? component ≠ some ledger := by
  simp [firstIn]

theorem mem_of_firstIn_eq_some (hfound : firstIn component imports ledger = some found) :
    found ∈ imports ∧ found.ledger? component = some ledger := by
  constructor
  · exact Ledger.mem_read.mp (List.mem_of_find?_eq_some hfound)
  · simpa using List.find?_some hfound

/-- In its own ledger a binding is found, or one that is read before it. -/
theorem firstIn_append_cons (hledger : binding.ledger? component = some ledger) :
    firstIn component (before ++ binding :: after) ledger =
      ((ledger.ahead before after).find? fun other => other.ledger? component = some ledger).or
        (some binding) := by
  obtain ⟨behind, hread⟩ := ledger.read_append_cons before after binding
  rw [firstIn, hread, List.find?_append, List.find?_cons_of_pos (by simpa using hledger)]

/-- A binding that the search for a component meets before the one between two lists of imports: in
a ledger that is searched earlier, or ahead in the same ledger. -/
inductive Captures (component : String) (before after : List ImportBinding)
    (binding other : ImportBinding) : Prop
  | inEarlierLedger {own ledger : Ledger} (hown : binding.ledger? component = some own)
      (hledger : other.ledger? component = some ledger) (hrank : ledger.rank < own.rank)
      (hother : other ∈ before ++ after)
  | aheadInLedger {own : Ledger} (hown : binding.ledger? component = some own)
      (hledger : other.ledger? component = some own) (hother : other ∈ own.ahead before after)

/-- The search ends with a binding, or with one that captures the component. -/
theorem answer?_cases (hledger : binding.ledger? component = some ledger) :
    (answer? component (before ++ binding :: after) = some binding ∧
      ∀ other, ¬ Captures component before after binding other) ∨
    ∃ other, Captures component before after binding other ∧
      answer? component (before ++ binding :: after) = some other := by
  have hin : binding ∈ before ++ binding :: after := by simp
  cases hanswer : answer? component (before ++ binding :: after) with
  | none =>
      have hnone := List.findSome?_eq_none_iff.mp hanswer ledger ledger.mem_searched
      exact absurd hledger (firstIn_eq_none_iff.mp hnone binding hin)
  | some found =>
      obtain ⟨earlier, last, later, hsearched, hfirst, hearlier⟩ :=
        List.findSome?_eq_some_iff.mp hanswer
      obtain ⟨hmem, hfound⟩ := mem_of_firstIn_eq_some hfirst
      -- nothing stands in the ledgers that were searched in vain
      have hvain : ∀ {other : ImportBinding} {passed : Ledger}, passed.rank < last.rank →
          other ∈ before ++ binding :: after → other.ledger? component ≠ some passed := by
        intro other passed hrank hother
        have hpassed := hearlier passed (Ledger.mem_of_rank_lt hsearched hrank)
        exact firstIn_eq_none_iff.mp hpassed other hother
      -- the ledger that answered comes before that of the binding, or is the same
      rcases Nat.lt_trichotomy last.rank ledger.rank with hlt | heq | hgt
      · refine Or.inr ⟨found, .inEarlierLedger hledger hfound hlt ?_, rfl⟩
        have hne : found ≠ binding := by
          rintro rfl
          rw [hledger, Option.some.injEq] at hfound
          rw [hfound] at hlt
          omega
        simpa [hne] using hmem
      · obtain rfl := Ledger.rank_injective heq
        rw [firstIn_append_cons hledger, Option.or_eq_some_iff] at hfirst
        rcases hfirst with hahead | ⟨hahead, heq⟩
        · exact Or.inr ⟨found,
            .aheadInLedger hledger hfound (List.mem_of_find?_eq_some hahead), rfl⟩
        · refine Or.inl ⟨heq.symm, ?_⟩
          rintro other (⟨hown, hother, hrank, hside⟩ | ⟨hown, hother, hside⟩)
          · obtain rfl := Option.some.inj (hledger.symm.trans hown)
            refine hvain hrank ?_ hother
            simp only [List.mem_append, List.mem_cons] at hside ⊢
            tauto
          · obtain rfl := Option.some.inj (hledger.symm.trans hown)
            simpa [hother] using List.find?_eq_none.mp hahead other hside
      · exact absurd hledger (hvain hgt hin)

/-- Where no local name is bound twice, a binding is captured only by one that exports the name and
is renamed, or that binds the name of a member as it stands. -/
theorem imported?_of_captures {other : ImportBinding} {nested : List ImportBinding}
    (hlocals : ((before ++ binding :: after).map (·.localName)).Nodup)
    (hbinds : binding.Binds component)
    (hcaptures : Captures component before (after ++ nested) binding other)
    (hother : other ∈ before ++ after) :
    other.localName ≠ binding.localName ∧
      (other.imported? = some component ∨
        binding.form = .byStar ∧ other.localName = component) := by
  have hlocal : other.localName ≠ binding.localName := by
    rw [List.map_append, List.map_cons, List.nodup_middle, List.nodup_cons, ← List.map_append]
      at hlocals
    intro heq
    exact hlocals.1 (List.mem_map.mpr ⟨other, hother, heq⟩)
  refine ⟨hlocal, ?_⟩
  -- with the name of the component it could only be hidden behind a namespace
  by_cases hname : other.localName = component
  · refine Or.inr ⟨?_, hname⟩
    by_contra hform
    unfold ImportBinding.Binds at hbinds
    rw [if_neg hform] at hbinds
    exact hlocal (hname.trans hbinds)
  · left
    rcases hcaptures with ⟨hown, hledger, hrank, -⟩ | ⟨hown, hledger, -⟩
    · apply ImportBinding.imported?_of_ledger? hledger _ hname
      rintro rfl
      exact absurd hrank (Nat.not_lt.mpr (Ledger.rank_le _))
    · apply ImportBinding.imported?_of_ledger? hledger _ hname
      rintro rfl
      -- two namespaces under one component have one name
      have hspace := (ImportBinding.eq_of_ledger?_spaces hown).2.2
      exact hlocal ((ImportBinding.eq_of_ledger?_spaces hledger).2.2.trans hspace.symm)

end Search

/-! ## The ledgers of a program -/

section Sources

variable {component : String}

/-- The search in a bucket finds the source of the first binding whose entry is wanted. -/
theorem source_find?_filterMap {α : Type} {record? : ImportBinding → Option α} {test : α → Bool}
    {source : α → String} {wanted : ImportBinding → Bool}
    (hwanted : ∀ binding, (record? binding).any test = wanted binding)
    (hsource : ∀ binding item, record? binding = some item → source item = binding.source)
    (imports : List ImportBinding) :
    ((imports.filterMap record?).find? test).map source =
      (imports.find? wanted).map (·.source) := by
  induction imports with
  | nil => rfl
  | cons binding rest ih =>
      have hbinding := hwanted binding
      rw [List.filterMap_cons, List.find?_cons, ← hbinding]
      cases hrecord : record? binding with
      | none => exact ih
      | some item =>
          rw [Option.any_some, List.find?_cons]
          cases htest : test item with
          | true => exact congrArg some (hsource binding item hrecord)
          | false => exact ih

theorem get?_foldl_putRenamed (items : List AliasedImport) :
    Entries.get? component (items.foldl putRenamed []) =
      items.reverse.find? fun item => item.localName = component := by
  induction items using List.reverseRecOn with
  | nil => rfl
  | append_singleton items item ih =>
      rw [List.foldl_append, List.reverse_append]
      show ((items.foldl putRenamed []).put item.localName item).get? component = _
      by_cases hlocal : item.localName = component
      · rw [hlocal, Entries.get?_put_self]
        exact (List.find?_cons_of_pos (by simpa using hlocal)).symm
      · rw [Entries.get?_put_other _ _ (Ne.symm hlocal), ih]
        exact (List.find?_cons_of_neg (by simpa using hlocal)).symm

theorem answer?_eq (imports : List ImportBinding) :
    answer? component imports = (firstIn component imports .named).or
      ((firstIn component imports .defaults).or
        ((firstIn component imports .renamed).or (firstIn component imports .spaces))) := by
  unfold answer? Ledger.searched
  simp only [List.findSome?_cons, List.findSome?_nil]
  cases firstIn component imports .named <;> cases firstIn component imports .defaults <;>
    cases firstIn component imports .renamed <;> cases firstIn component imports .spaces <;> rfl

theorem any_namedRecord? (binding : ImportBinding) :
    (binding.namedRecord?.any fun item => item.name = component) =
      decide (binding.ledger? component = some .named) := by
  unfold ImportBinding.namedRecord? ImportBinding.imported? ImportBinding.ledger?
  cases binding.form <;> simp

theorem any_defaultRecord? (binding : ImportBinding) :
    (binding.defaultRecord?.any fun item => item.name = component) =
      decide (binding.ledger? component = some .defaults) := by
  unfold ImportBinding.defaultRecord? ImportBinding.ledger?
  cases binding.form with
  | byDefault => simp
  | byStar => simp
  | byName imported => grind

theorem any_renaming? (binding : ImportBinding) :
    (binding.renaming?.any fun item => item.localName = component) =
      decide (binding.ledger? component = some .renamed) := by
  unfold ImportBinding.renaming? ImportBinding.imported? ImportBinding.ledger?
  cases binding.form with
  | byDefault => simp
  | byStar => simp
  | byName imported => grind

theorem any_starRecord? (hdot : Text.hasChar '.' component = true) (binding : ImportBinding) :
    (binding.starRecord?.any fun item => item.name = Text.beforeFirst '.' component) =
      decide (binding.ledger? component = some .spaces) := by
  unfold ImportBinding.starRecord? ImportBinding.ledger?
  cases binding.form with
  | byDefault => simp
  | byStar => simp [hdot]
  | byName imported => grind

theorem firstIn_spaces_of_no_dot (hdot : Text.hasChar '.' component = false)
    (imports : List ImportBinding) : firstIn component imports .spaces = none := by
  rw [firstIn_eq_none_iff]
  intro binding _ hledger
  rw [(ImportBinding.eq_of_ledger?_spaces hledger).2.1] at hdot
  cases hdot

variable {program : Node} (hprogram : program.kind = .program)
include hprogram

theorem source_named : ((Census.empty.visit program).findings.namedImports.find?
    fun item => item.name = component).map (·.source) =
      (firstIn component (bindings program) .named).map (·.source) := by
  rw [namedImports_visit hprogram]
  apply source_find?_filterMap any_namedRecord?
  intro binding item hrecord
  obtain ⟨imported, -, rfl⟩ := Option.map_eq_some_iff.mp hrecord
  rfl

theorem source_default : ((Census.empty.visit program).findings.defaultImports.find?
    fun item => item.name = component).map (·.source) =
      (firstIn component (bindings program) .defaults).map (·.source) := by
  rw [defaultImports_visit hprogram]
  apply source_find?_filterMap any_defaultRecord?
  intro binding item hrecord
  obtain ⟨-, hitem⟩ := Option.ite_none_right_eq_some.mp hrecord
  rw [← Option.some.inj hitem]

theorem source_renamed : ((Census.empty.visit program).findings.aliasedImports.values.find?
    fun item => item.localName = component).map (·.source) =
      (firstIn component (bindings program) .renamed).map (·.source) := by
  -- the table is read through its keys, and a key holds what was written last
  have hkeys : ∀ entry ∈ (Census.empty.visit program).findings.aliasedImports,
      entry.2.localName = entry.1 := by
    intro entry hentry
    rw [aliasedImports_visit hprogram] at hentry
    obtain ⟨item, -, rfl⟩ := (mem_foldl_putRenamed hentry).resolve_left List.not_mem_nil
    rfl
  rw [Entries.find?_values hkeys, aliasedImports_visit hprogram, get?_foldl_putRenamed,
    ← List.filterMap_reverse]
  apply source_find?_filterMap any_renaming?
  intro binding item hrecord
  rw [(ImportBinding.renaming?_eq_some_iff.mp hrecord).2.2]

theorem source_namespace : (if Text.hasChar '.' component then
    ((Census.empty.visit program).findings.namespaceImports.find?
      fun item => item.name = Text.beforeFirst '.' component).map (·.source) else none) =
      (firstIn component (bindings program) .spaces).map (·.source) := by
  cases hdot : Text.hasChar '.' component with
  | false =>
      rw [firstIn_spaces_of_no_dot hdot]
      rfl
  | true =>
      rw [if_pos rfl, namespaceImports_visit hprogram]
      apply source_find?_filterMap (any_starRecord? hdot)
      intro binding item hrecord
      obtain ⟨-, hitem⟩ := Option.ite_none_right_eq_some.mp hrecord
      rw [← Option.some.inj hitem]

/-- The source of a component is that of the binding that the search ends with. -/
theorem importedSource?_visit : importedSource? (Census.empty.visit program).findings component =
    (answer? component (bindings program)).map (·.source) := by
  unfold importedSource?
  rw [source_named hprogram, source_default hprogram, source_renamed hprogram,
    source_namespace hprogram, answer?_eq]
  simp only [Option.map_or]

end Sources

end Usage

namespace Package

open ComponentCensus.Syntax ComponentCensus.Usage

/-! ## The package of a name -/

theorem componentSource_of_answer? {program : Node} (hprogram : program.kind = .program)
    {component : String} {found : ImportBinding}
    (hanswer : answer? component (bindings program) = some found) (packages : List String) :
    componentSource component (Census.empty.visit program).report.patterns (packages.map .str) =
      .ok (resolve found.source packages) := by
  show componentSource component (Census.empty.visit program).findings.toValue _ = _
  rw [componentSource_texts, importedSource?_visit hprogram, hanswer]
  rfl

/-- **A name has the package of its import, unless another one captures it.**  A name that an import
at the top of a program binds has the package of this import if nothing captures the name, and else
the package of the first import that does.  If no local name is bound twice at the top, an import
there captures a name by exporting it under another one; the name of a member is also captured by
one that binds it as it stands. -/
theorem package_of_binding_unless_captured {program : Node} (hprogram : program.kind = .program)
    (hlocals : ((topBindings program).map (·.localName)).Nodup)
    {before after : List ImportBinding} {binding : ImportBinding}
    (htop : topBindings program = before ++ binding :: after) {component : String}
    (hbinds : binding.Binds component) (packages : List String) :
    let captures := Captures component before (after ++ nestedBindings program) binding
    let package :=
      componentSource component (Census.empty.visit program).report.patterns (packages.map .str)
    ((∀ other, ¬ captures other) → package = .ok (resolve binding.source packages)) ∧
    ((∃ other, captures other) →
      ∃ other, captures other ∧ answer? component (bindings program) = some other ∧
        package = .ok (resolve other.source packages)) ∧
    (∀ other ∈ before ++ after, captures other →
      other.localName ≠ binding.localName ∧
        (other.imported? = some component ∨
          binding.form = .byStar ∧ other.localName = component)) := by
  obtain ⟨ledger, hledger⟩ := ImportBinding.exists_ledger?_of_binds hbinds
  have hbindings : bindings program = before ++ binding :: (after ++ nestedBindings program) := by
    rw [bindings, htop, List.append_assoc, List.cons_append]
  have hcases := @answer?_cases component before (after ++ nestedBindings program) _ _ hledger
  rw [← hbindings] at hcases
  refine ⟨?_, ?_, ?_⟩
  · intro hfree
    rcases hcases with ⟨hanswer, -⟩ | ⟨other, hother, -⟩
    · exact componentSource_of_answer? hprogram hanswer packages
    · exact absurd hother (hfree other)
  · rintro ⟨captor, hcaptor⟩
    rcases hcases with ⟨-, hfree⟩ | ⟨other, hother, hanswer⟩
    · exact absurd hcaptor (hfree captor)
    · exact ⟨other, hother, hanswer, componentSource_of_answer? hprogram hanswer packages⟩
  · intro other hother hcaptures
    rw [htop] at hlocals
    exact imported?_of_captures hlocals hbinds hcaptures hother

theorem topBindings_exportBoundElsewhere : topBindings exportBoundElsewhere =
    [⟨.byName "A", "B", "m", 1⟩, ⟨.byDefault, "A", "n", 2⟩] := by
  cbv

theorem nestedBindings_exportBoundElsewhere : nestedBindings exportBoundElsewhere = [] := by
  cbv

theorem nodup_exportBoundElsewhere :
    ((topBindings exportBoundElsewhere).map (·.localName)).Nodup := by
  simp [topBindings_exportBoundElsewhere]

/-- `B` is not captured, and `A` is, by the import that is renamed to `B`. -/
theorem package_of_binding_unless_captured_renamed :
    ((topBindings exportBoundElsewhere).map (·.localName)).Nodup ∧
    componentSource "B" (Census.empty.visit exportBoundElsewhere).report.patterns
      (["m", "n"].map .str) = .ok "m" ∧
    componentSource "A" (Census.empty.visit exportBoundElsewhere).report.patterns
      (["m", "n"].map .str) = .ok "m" := by
  have hpackage : resolve "m" ["m", "n"] = "m" := by cbv
  have hB := package_of_binding_unless_captured rfl nodup_exportBoundElsewhere
    (show _ = [] ++ _ :: _ from topBindings_exportBoundElsewhere) (show _ = "B" from rfl)
    ["m", "n"]
  have hA := package_of_binding_unless_captured rfl nodup_exportBoundElsewhere
    (show _ = [_] ++ _ :: [] from topBindings_exportBoundElsewhere) (show _ = "A" from rfl)
    ["m", "n"]
  rw [nestedBindings_exportBoundElsewhere] at hA hB
  refine ⟨nodup_exportBoundElsewhere, ?_, ?_⟩
  · rw [hB.1, hpackage]
    rintro other (⟨-, hledger, -, hother⟩ | ⟨hown, hledger, hother⟩)
    · obtain rfl := List.mem_singleton.mp hother
      cases hledger
    · cases hown
      obtain rfl := List.mem_singleton.mp hother
      cases hledger
  · obtain ⟨other, -, hanswer, hsource⟩ := hA.2.1
      ⟨_, .inEarlierLedger rfl rfl (by decide) (List.mem_cons_self ..)⟩
    rw [bindings_exportBoundElsewhere] at hanswer
    cases hanswer
    rw [hsource, hpackage]

/-- An import that exports the name under another one takes it from the import that binds it. -/
theorem name_taken_by_renamed_export :
    topBindings exportBoundElsewhere =
      [⟨.byName "A", "B", "m", 1⟩, ⟨.byDefault, "A", "n", 2⟩] ∧
    ImportBinding.Binds "A" ⟨.byDefault, "A", "n", 2⟩ ∧
    componentSource "A" (Census.empty.visit exportBoundElsewhere).report.patterns
      (["m", "n"].map .str) ≠ .ok (resolve "n" ["m", "n"]) := by
  refine ⟨topBindings_exportBoundElsewhere, rfl, ?_⟩
  have hbound : resolve "n" ["m", "n"] = "n" := by cbv
  have hcaptured : resolve "m" ["m", "n"] = "m" := by cbv
  rw [hbound, visit_exportBoundElsewhere]
  show componentSource "A" (Findings.toValue _) _ ≠ _
  rw [componentSource_texts]
  show Except.ok (resolve "m" ["m", "n"]) ≠ _
  rw [hcaptured]
  simp

end Package

end ComponentCensus
