import ComponentCensus.Proofs.Entries
import ComponentCensus.Settings.Basic

/-!
# What a settings file changes

A settings file is laid over the settings in force.  Where both have a table the two are merged,
and anything else that the file has replaces what was there, so what a dotted key finds afterwards
depends on where along its path each side stops being a table.

## Main results

* `settings_of_overlay` : what each key finds after a file is laid over the settings (`LaidOver`),
  and that laying the same file over them again changes nothing.

## Strategy

* `LaidOver` lists the cases for one path.  They are proved along the path, for a value laid over
  whatever was there (`laidOver_lookup?`).
* One step down a path leads from a table laid over another to a member laid over the member of the
  same name (`get?_overlay`), and something that is no table counts as an empty one
  (`overlayValue_object`).
* Names are told apart at every depth (`Distinct`), as they are in a file that was read; a name
  that comes twice would be laid over itself.
-/

namespace ComponentCensus.Settings

open ComponentCensus.Text

/-! ## Tables -/

/-- Members with distinct names, as in every table among their values. -/
inductive Distinct : List (String × Value) → Prop
  | intro {members : List (String × Value)} (hnames : (Entries.keys members).Nodup)
      (htables : ∀ name inner, (name, Value.object inner) ∈ members → Distinct inner) :
      Distinct members

/-- Whether a value is a table. -/
def isTable : Value → Bool
  | .object _ => true
  | _ => false

/-- The members of what was there, none if it was no table. -/
def oldMembers : Option Value → List (String × Value)
  | some (.object members) => members
  | _ => []

theorem Distinct.names {members : List (String × Value)} (hmembers : Distinct members) :
    (Entries.keys members).Nodup := by
  cases hmembers with
  | intro hnames => exact hnames

theorem Distinct.of_get? {members inner : List (String × Value)} {name : String}
    (hmembers : Distinct members) (hget : Entries.get? name members = some (.object inner)) :
    Distinct inner := by
  cases hmembers with
  | intro _ htables => exact htables name inner (Entries.mem_of_get?_eq_some hget)

theorem overlayValue_of_not_isTable {value : Value} (hvalue : isTable value = false)
    (old : Option Value) : overlayValue old value = value := by
  cases value with
  | object members => cases hvalue
  | _ => simp [overlayValue]

@[simp] theorem overlayValue_none (value : Value) : overlayValue none value = value := by
  cases value <;> simp [overlayValue]

/-! ## One level -/

section Members

variable {base members : List (String × Value)}

/-- Members under new names are appended. -/
theorem overlay_of_fresh (hnames : (Entries.keys members).Nodup)
    (hfresh : ∀ name ∈ Entries.keys members, name ∉ Entries.keys base) :
    overlay base members = base ++ members := by
  induction members generalizing base with
  | nil => rw [overlay, List.append_nil]
  | cons member rest ih =>
      obtain ⟨name, value⟩ := member
      obtain ⟨hname, hrest⟩ := List.nodup_cons.mp hnames
      have hnew : name ∉ Entries.keys base := hfresh name List.mem_cons_self
      rw [overlay, Entries.get?_of_not_mem_keys hnew, overlayValue_none,
        Entries.put_of_not_mem_keys hnew, ih hrest, List.append_assoc, List.singleton_append]
      -- the name that was appended is not among the rest
      intro other hother
      rw [Entries.keys, List.map_append, List.mem_append, List.map_singleton, List.mem_singleton]
      rintro (hold | rfl)
      · exact hfresh other (List.mem_cons_of_mem _ hother) hold
      · exact hname hother

theorem overlay_nil (hnames : (Entries.keys members).Nodup) : overlay [] members = members :=
  overlay_of_fresh hnames fun _ _ => List.not_mem_nil

/-- A name finds what the members laid over have for it, over what was there. -/
theorem get?_overlay (hnames : (Entries.keys members).Nodup) (name : String) :
    Entries.get? name (overlay base members) =
      ((Entries.get? name members).map (overlayValue (Entries.get? name base))).or
        (Entries.get? name base) := by
  induction members generalizing base with
  | nil =>
      rw [overlay]
      rfl
  | cons member rest ih =>
      obtain ⟨first, value⟩ := member
      obtain ⟨hfirst, hrest⟩ := List.nodup_cons.mp hnames
      rw [overlay, ih hrest]
      by_cases hname : name = first
      · -- the rest does not write to this name again
        subst hname
        rw [Entries.get?_of_not_mem_keys hfirst, Entries.get?_put_self]
        simp [Entries.get?]
      · have hother : ¬ first = name := fun heq => hname heq.symm
        rw [Entries.get?_put_other _ _ hname]
        simp [Entries.get?, hother]

/-- Members that change nothing one by one change nothing together. -/
theorem overlay_eq_self
    (hkept : ∀ name value, (name, value) ∈ members →
      ∃ old, Entries.get? name base = some old ∧ overlayValue (some old) value = old) :
    overlay base members = base := by
  induction members with
  | nil => rw [overlay]
  | cons member rest ih =>
      obtain ⟨name, value⟩ := member
      obtain ⟨old, hold, hvalue⟩ := hkept name value List.mem_cons_self
      rw [overlay, hold, hvalue, Entries.put_of_get?_eq_some hold]
      exact ih fun other otherValue hmem => hkept other otherValue (List.mem_cons_of_mem _ hmem)

/-- A table laid over something that is no table might as well be laid over an empty one. -/
theorem overlayValue_object (hnames : (Entries.keys members).Nodup) (old : Option Value) :
    overlayValue old (.object members) = .object (overlay (oldMembers old) members) := by
  cases old with
  | none => simp [oldMembers, overlay_nil hnames]
  | some value =>
      cases value with
      | object inner =>
          rw [overlayValue]
          rfl
      | _ => simp [overlayValue, oldMembers, overlay_nil hnames]

end Members

/-! ## Laying over again -/

/-- What was laid over once is there already. -/
theorem overlay_overlay {members : List (String × Value)} (hmembers : Distinct members)
    (base : List (String × Value)) :
    overlay (overlay base members) members = overlay base members := by
  induction hmembers generalizing base with
  | @intro members hnames htables ih =>
      apply overlay_eq_self
      intro name value hmem
      have hget : Entries.get? name members = some value := Entries.get?_of_mem hnames hmem
      refine ⟨overlayValue (Entries.get? name base) value, ?_, ?_⟩
      · rw [get?_overlay hnames, hget]
        rfl
      · -- only a table laid over a table needs an argument, and both hold the same table
        cases value with
        | object inner =>
            have hinner := (htables name inner hmem).names
            rw [overlayValue_object hinner, overlayValue_object hinner]
            exact congrArg Value.object (ih name inner hmem _)
        | _ => simp [overlayValue]

/-! ## Paths -/

/-- A proper part of a path, from its start on, leads to something that is no table. -/
def Blocked (path : List String) (value : Value) : Prop :=
  ∃ front back inner, path = front ++ back ∧ back ≠ [] ∧ lookup? front value = some inner ∧
    isTable inner = false

/-- What a path finds after a value was laid over another, told from what it finds in the old value
and in the new one, and from whether it is blocked in the new one. -/
structure LaidOver (old new : Option Value) (blocked : Prop) (result : Option Value) : Prop where
  replaced : ∀ value, new = some value → isTable value = false → result = some value
  merged : ∀ members inner, new = some (.object members) → old = some (.object inner) →
    result = some (.object (overlay inner members))
  added : ∀ members, new = some (.object members) → (∀ inner, old ≠ some (.object inner)) →
    result = some (.object members)
  cut : blocked → result = none
  kept : new = none → ¬ blocked → result = old

section Paths

variable {path : List String} {name : String} {value : Value}

theorem not_blocked_nil : ¬ Blocked [] value := by
  rintro ⟨front, back, inner, hpath, hback, -⟩
  exact hback (List.append_eq_nil_iff.mp hpath.symm).2

/-- The first step of a path leads to a member; the table itself is not in the way. -/
theorem blocked_cons_iff {members : List (String × Value)} :
    Blocked (name :: path) (.object members) ↔
      ∃ value, Entries.get? name members = some value ∧ Blocked path value := by
  constructor
  · rintro ⟨front, back, inner, hpath, hback, hfront, hinner⟩
    cases front with
    | nil =>
        obtain rfl : Value.object members = inner := Option.some.inj hfront
        cases hinner
    | cons first front =>
        obtain ⟨rfl, rfl⟩ := List.cons.inj hpath
        obtain ⟨value, hvalue, hrest⟩ := Option.bind_eq_some_iff.mp hfront
        exact ⟨value, hvalue, front, back, inner, rfl, hback, hrest, hinner⟩
  · rintro ⟨value, hvalue, front, back, inner, rfl, hback, hfront, hinner⟩
    refine ⟨name :: front, back, inner, rfl, hback, ?_, hinner⟩
    rw [lookup?, hvalue]
    exact hfront

/-- What was there is looked up in its members. -/
theorem bind_lookup?_cons (old : Option Value) (name : String) (path : List String) :
    old.bind (lookup? (name :: path)) =
      (Entries.get? name (oldMembers old)).bind (lookup? path) := by
  cases old with
  | none => rfl
  | some value => cases value <;> rfl

theorem lookup?_cons_of_not_isTable (hvalue : isTable value = false) :
    lookup? (name :: path) value = none := by
  cases value with
  | object members => cases hvalue
  | _ => rfl

/-- At the end of a path. -/
theorem laidOver_end (old : Option Value) (value : Value) :
    LaidOver old (some value) (Blocked [] value) (some (overlayValue old value)) where
  replaced := by
    intro found hfound htable
    obtain rfl := Option.some.inj hfound
    rw [overlayValue_of_not_isTable htable]
  merged := by
    intro members inner hfound hold
    obtain rfl := Option.some.inj hfound
    rw [hold, overlayValue]
  added := by
    intro members hfound hold
    obtain rfl := Option.some.inj hfound
    rw [overlayValue]
    exact hold
  cut := fun hblocked => absurd hblocked not_blocked_nil
  kept := fun hnone => by cases hnone

/-- A path that a value does not continue. -/
theorem laidOver_blocked (hvalue : isTable value = false) (old : Option Value) (name : String)
    (path : List String) : LaidOver old none (Blocked (name :: path) value) none where
  replaced := fun _ hfound => by cases hfound
  merged := fun _ _ hfound => by cases hfound
  added := fun _ hfound => by cases hfound
  cut := fun _ => rfl
  kept := fun _ hclear =>
    absurd ⟨[], name :: path, value, rfl, List.cons_ne_nil name path, rfl, hvalue⟩ hclear

/-- A path whose next name the members laid over do not have. -/
theorem laidOver_absent {old : Option Value} {blocked : Prop} (hclear : ¬ blocked) :
    LaidOver old none blocked old where
  replaced := fun _ hfound => by cases hfound
  merged := fun _ _ hfound => by cases hfound
  added := fun _ hfound => by cases hfound
  cut := fun hblocked => absurd hblocked hclear
  kept := fun _ _ => rfl

/-- What a path finds in a value laid over what was there. -/
theorem laidOver_lookup? (path : List String) (old : Option Value) (value : Value)
    (hvalue : ∀ members, value = .object members → Distinct members) :
    LaidOver (old.bind (lookup? path)) (lookup? path value) (Blocked path value)
      (lookup? path (overlayValue old value)) := by
  induction path generalizing old value with
  | nil =>
      have hbind : old.bind (lookup? []) = old := by cases old <;> rfl
      rw [hbind]
      exact laidOver_end old value
  | cons name path ih =>
      cases value with
      | object members =>
          have hmembers : Distinct members := hvalue members rfl
          have hfound : lookup? (name :: path) (.object members) =
              (Entries.get? name members).bind (lookup? path) := rfl
          -- one step down, a member is laid over the member of the same name
          have hresult : lookup? (name :: path) (overlayValue old (.object members)) =
              (((Entries.get? name members).map
                (overlayValue (Entries.get? name (oldMembers old)))).or
                  (Entries.get? name (oldMembers old))).bind (lookup? path) := by
            rw [overlayValue_object hmembers.names, ← get?_overlay hmembers.names]
            rfl
          rw [hfound, hresult, bind_lookup?_cons, blocked_cons_iff]
          cases hget : Entries.get? name members with
          | none => exact laidOver_absent (by simp)
          | some inner =>
              have hblocked : (∃ value, some inner = some value ∧ Blocked path value) ↔
                  Blocked path inner := by simp
              rw [hblocked]
              apply ih
              rintro table rfl
              exact hmembers.of_get? hget
      | _ =>
          rw [lookup?_cons_of_not_isTable rfl, overlayValue_of_not_isTable rfl,
            lookup?_cons_of_not_isTable rfl]
          exact laidOver_blocked rfl _ name path

end Paths

/-- **What a settings file changes.**  Members with distinct names laid over a table: a dotted key
finds what the members have for it if that is no table, both tables merged if both have one there,
the table of the members if there was none, nothing if the members have something else than a table
on the way, and what it found before in every other case.  Laying the same members over once more
changes nothing. -/
theorem settings_of_overlay {members : List (String × Value)} (hmembers : Distinct members)
    (base : List (String × Value)) :
    (∀ key, ∃ result,
      LaidOver (lookup? (pieces '.' key) (.object base)) (lookup? (pieces '.' key) (.object members))
        (Blocked (pieces '.' key) (.object members)) result ∧
      ∀ default, (Settings.mk (overlay base members)).get key default = result.getD default) ∧
    overlay (overlay base members) members = overlay base members := by
  refine ⟨fun key => ⟨_, ?_, fun default => rfl⟩, overlay_overlay hmembers base⟩
  have hlaid := laidOver_lookup? (pieces '.' key) (some (.object base)) (.object members)
    fun inner hinner => Value.object.inj hinner ▸ hmembers
  rwa [overlayValue] at hlaid

/-- A file that names one setting of a table, replaces a table by a text, and adds a table. -/
def threeChanges : List (String × Value) :=
  [("scan", .object [("jobs", .int 4)]), ("output", .str "x"),
   ("team", .object [("name", .str "a")])]

theorem distinct_threeChanges : Distinct threeChanges := by
  have hsingle (name : String) (value : Value) (hvalue : isTable value = false) :
      Distinct [(name, value)] := by
    refine .intro (List.nodup_singleton name) ?_
    intro other inner hmem
    obtain ⟨-, rfl⟩ := Prod.mk.inj (List.mem_singleton.mp hmem)
    cases hvalue
  refine .intro (by decide) ?_
  intro name inner hmem
  simp only [threeChanges, List.mem_cons, Prod.mk.injEq, Value.object.injEq, reduceCtorEq, and_false,
    List.not_mem_nil, or_false, false_or] at hmem
  rcases hmem with ⟨-, rfl⟩ | ⟨-, rfl⟩
  · exact hsingle _ _ rfl
  · exact hsingle _ _ rfl

/-- The file changes the settings that it names and no others. -/
theorem settings_of_threeChanges :
    Distinct threeChanges ∧
      (withFile threeChanges).get "scan.jobs" .null = .int 4 ∧
      (withFile threeChanges).get "scan.pattern" .null = .str "**/*" ∧
      (withFile threeChanges).get "team" .null = .object [("name", .str "a")] ∧
      (withFile threeChanges).get "output.color" .null = .null ∧
      overlay (overlay defaults threeChanges) threeChanges = overlay defaults threeChanges := by
  obtain ⟨hkeys, hagain⟩ := settings_of_overlay distinct_threeChanges defaults
  refine ⟨distinct_threeChanges, ?_, ?_, ?_, ?_, hagain⟩
  · obtain ⟨result, hlaid, hget⟩ := hkeys "scan.jobs"
    have hpath : pieces '.' "scan.jobs" = ["scan", "jobs"] := by cbv
    rw [hpath] at hlaid
    rw [withFile, hget, hlaid.replaced (.int 4) rfl rfl]
    rfl
  · obtain ⟨result, hlaid, hget⟩ := hkeys "scan.pattern"
    have hpath : pieces '.' "scan.pattern" = ["scan", "pattern"] := by cbv
    rw [hpath] at hlaid
    have hclear : ¬ Blocked ["scan", "pattern"] (.object threeChanges) := by
      rw [threeChanges, blocked_cons_iff]
      rintro ⟨value, hvalue, hblocked⟩
      obtain rfl : Value.object [("jobs", .int 4)] = value := Option.some.inj hvalue
      obtain ⟨inner, hinner, -⟩ := blocked_cons_iff.mp hblocked
      cases hinner
    rw [withFile, hget, hlaid.kept rfl hclear]
    rfl
  · obtain ⟨result, hlaid, hget⟩ := hkeys "team"
    have hpath : pieces '.' "team" = ["team"] := by cbv
    rw [hpath] at hlaid
    have hnew : lookup? ["team"] (.object defaults) = none := rfl
    rw [withFile, hget, hlaid.added [("name", .str "a")] rfl (by simp [hnew])]
    rfl
  · obtain ⟨result, hlaid, hget⟩ := hkeys "output.color"
    have hpath : pieces '.' "output.color" = ["output", "color"] := by cbv
    rw [hpath] at hlaid
    have hblocked : Blocked ["output", "color"] (.object threeChanges) :=
      ⟨["output"], ["color"], .str "x", rfl, List.cons_ne_nil _ _, rfl, rfl⟩
    rw [withFile, hget, hlaid.cut hblocked]
    rfl

end ComponentCensus.Settings
