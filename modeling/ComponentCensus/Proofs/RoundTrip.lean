import ComponentCensus.Proofs.Documents
import ComponentCensus.Proofs.ScalarText
import ComponentCensus.Proofs.Uses

/-!
# Reports survive their text

A value of null, truth values, integers, texts, lists and objects with distinct names is read back
from its text in every blank layout (`parse_print`).  The value of a report is of this kind
(`plain_report`), so a report that is written and loaded again is the same report.

Numbers with a fraction are left out: a census has none.  Distinct names are needed because the
reader keeps the last of several members with one name, at the place of the first.

## Main results

* `parse_print`, `load_print` : a plain value is read back from its text, and so it is with a limit
  on the digits of integers if its own integers keep to it.
* `report_survives_text` : the same for every report of a census, whole or narrowed to a library.

## Strategy

What is shown of a value is that its text can be read wherever it stands (`ReadsBack`): at every
depth of the layout, with every rest behind it that does not go on with a number, and with any fuel
that is more than twice the length of the text.  The rest matters because a number ends only where
its digits do, so an integer has to be followed by a comma, a closing bracket, a blank or nothing.
`ReadsBack` is shown for scalars first, then for lists and objects from their parts, with one
induction along the items (`readItems_itemsText`) and one along the members
(`readMembers_membersText`).

The fuel is two units for each character, since a list or an object takes one unit itself and one
for each item, and there is at least one character for each of these.
-/

namespace ComponentCensus

open Number Syntax Usage

/-! ## Plain values -/

/-- A value without numbers other than integers and without scalars of other kinds, whose objects
name their members apart. -/
inductive Value.Plain : Value → Prop
  | null : Plain .null
  | bool (b : Bool) : Plain (.bool b)
  | int (i : Int) : Plain (.int i)
  | str (s : String) : Plain (.str s)
  | list {items : List Value} (hitems : ∀ item ∈ items, Plain item) : Plain (.list items)
  | object {members : List (String × Value)} (hkeys : (Entries.keys members).Nodup)
      (hmembers : ∀ member ∈ members, Plain member.2) : Plain (.object members)

namespace Value

theorem Document.plain {value : Value} (hdocument : value.Document) : value.Plain := by
  induction hdocument with
  | bool b => exact .bool b
  | int i => exact .int i
  | str s => exact .str s
  | list _ ih => exact .list ih
  | object hkeys _ _ ih => exact .object hkeys ih

mutual

/-- The integers of a value, in the order in which they are written. -/
def integers : Value → List Int
  | .int i => [i]
  | .list items => integersOfItems items
  | .object members => integersOfMembers members
  | _ => []

/-- The integers of the items of a list. -/
def integersOfItems : List Value → List Int
  | [] => []
  | item :: rest => item.integers ++ integersOfItems rest

/-- The integers of the members of an object. -/
def integersOfMembers : List (String × Value) → List Int
  | [] => []
  | (_, value) :: rest => value.integers ++ integersOfMembers rest

end

theorem mem_integers_list {items : List Value} {item : Value} (hitem : item ∈ items) {i : Int}
    (hi : i ∈ item.integers) : i ∈ (Value.list items).integers := by
  rw [integers]
  induction items with
  | nil => simp at hitem
  | cons first rest ih =>
      rw [integersOfItems, List.mem_append]
      rcases List.mem_cons.mp hitem with rfl | hrest
      · exact .inl hi
      · exact .inr (ih hrest)

theorem mem_integers_object {members : List (String × Value)} {member : String × Value}
    (hmember : member ∈ members) {i : Int} (hi : i ∈ member.2.integers) :
    i ∈ (Value.object members).integers := by
  rw [integers]
  induction members with
  | nil => simp at hmember
  | cons first rest ih =>
      obtain ⟨key, value⟩ := first
      rw [integersOfMembers, List.mem_append]
      rcases List.mem_cons.mp hmember with rfl | hrest
      · exact .inl hi
      · exact .inr (ih hrest)

end Value

namespace Json

/-! ## Blanks -/

/-- Whether a layout sets the parts of a value apart by blanks only. -/
def Layout.IsBlank : Layout → Prop
  | .oneLine => True
  | .lines indentation => ∀ c ∈ indentation, isSpace c = true

theorem Layout.isBlank_indented (width : Nat) : (Layout.indented width).IsBlank := by
  intro c hc
  rw [List.eq_of_mem_replicate hc]
  rfl

theorem Layout.IsBlank.lead {layout : Layout} (hlayout : layout.IsBlank) (depth : Nat) :
    ∀ c ∈ layout.lead depth, isSpace c = true := by
  cases layout with
  | oneLine => simp [Layout.lead]
  | lines indentation =>
      have hindentations : ∀ c ∈ indentations indentation depth, isSpace c = true := by
        induction depth with
        | zero => simp [indentations]
        | succ depth ih =>
            rw [indentations, List.forall_mem_append]
            exact ⟨hlayout, ih⟩
      rw [Layout.lead, List.forall_mem_cons]
      exact ⟨rfl, hindentations⟩

/-- Between two items stands a comma, and nothing but blanks behind it. -/
theorem Layout.IsBlank.exists_between {layout : Layout} (hlayout : layout.IsBlank) (depth : Nat) :
    ∃ gap, layout.between depth = ',' :: gap ∧ ∀ c ∈ gap, isSpace c = true := by
  cases layout with
  | oneLine => exact ⟨[' '], rfl, by simp [isSpace]⟩
  | lines indentation => exact ⟨_, rfl, hlayout.lead depth⟩

theorem skipSpace_cons {c : Char} {rest : List Char} (hc : isSpace c = false) :
    skipSpace (c :: rest) = c :: rest :=
  List.dropWhile_cons_of_neg (by simp [hc])

theorem skipSpace_append {blanks rest : List Char} {c : Char}
    (hblanks : ∀ blank ∈ blanks, isSpace blank = true) (hc : isSpace c = false) :
    skipSpace (blanks ++ c :: rest) = c :: rest := by
  rw [skipSpace, List.dropWhile_append_of_pos hblanks]
  exact skipSpace_cons hc

theorem endsNumber_cons {c : Char} (rest : List Char)
    (hc : isAsciiDigit c = false ∧ c ≠ '.' ∧ c ≠ 'e' ∧ c ≠ 'E') : EndsNumber (c :: rest) := by
  intro d hd
  obtain rfl : c = d := by simpa using hd
  exact hc

theorem EndsNumber.append {blanks rest : List Char} (hblanks : ∀ c ∈ blanks, isSpace c = true)
    (hrest : EndsNumber rest) : EndsNumber (blanks ++ rest) := by
  cases blanks with
  | nil => exact hrest
  | cons blank blanks =>
      have hblank := hblanks blank List.mem_cons_self
      simp only [isSpace, Bool.or_eq_true, decide_eq_true_eq] at hblank
      refine endsNumber_cons _ ?_
      rcases hblank with ((rfl | rfl) | rfl) | rfl <;> decide

/-! ## Reading values back -/

/-- Whether a text starts like the text of a value. -/
def StartsValue (cs : List Char) : Prop :=
  ∃ c rest, cs = c :: rest ∧ isSpace c = false ∧ c ≠ ']' ∧ c ≠ '\uFEFF'

theorem skipSpace_startsValue {cs : List Char} (blanks : List Char)
    (hblanks : ∀ blank ∈ blanks, isSpace blank = true) (hcs : StartsValue cs) (rest : List Char) :
    skipSpace (blanks ++ (cs ++ rest)) = cs ++ rest := by
  obtain ⟨c, tail, rfl, hspace, -⟩ := hcs
  exact skipSpace_append hblanks hspace

theorem skipSpace_space {cs : List Char} (hcs : StartsValue cs) (rest : List Char) :
    skipSpace (' ' :: (cs ++ rest)) = cs ++ rest :=
  skipSpace_startsValue [' '] (List.forall_mem_singleton.mpr rfl) hcs rest

/-- A value that is read back from its text at every depth, if what follows cannot continue a
number. -/
structure ReadsBack (limit : Option Nat) (layout : Layout) (value : Value) : Prop where
  starts : ∀ depth, StartsValue (valueText layout depth value)
  reads : ∀ depth fuel rest, 2 * (valueText layout depth value).length ≤ fuel → EndsNumber rest →
    readValue ⟨limit, none⟩ fuel (valueText layout depth value ++ rest) = .ok (value, rest)

section ReadsBack

variable {limit : Option Nat} {layout : Layout}

theorem readValue_scalar {c : Char} (fuel : Nat) (rest : List Char) (hquote : c ≠ '"')
    (hbracket : c ≠ '[') (hbrace : c ≠ '\x7b') :
    readValue ⟨limit, none⟩ (fuel + 1) (c :: rest) = readScalar limit (c :: rest) :=
  readValue.eq_5 ⟨limit, none⟩ (c :: rest) fuel (fun _ h => hquote (List.head_eq_of_cons_eq h))
    (fun _ h => hbracket (List.head_eq_of_cons_eq h)) fun _ h => hbrace (List.head_eq_of_cons_eq h)

/-- A value whose text is the same at every depth and is read as a scalar is read back. -/
theorem readsBack_of_readScalar {value : Value} {c : Char} {cs : List Char}
    (htext : ∀ depth, valueText layout depth value = c :: cs) (hspace : isSpace c = false)
    (hstart : c ∉ ['"', '[', ']', '\x7b', '\uFEFF'])
    (hreads : ∀ rest, EndsNumber rest → readScalar limit (c :: cs ++ rest) = .ok (value, rest)) :
    ReadsBack limit layout value := by
  simp only [List.mem_cons, List.not_mem_nil, or_false, not_or] at hstart
  obtain ⟨hquote, hbracket, hclosing, hbrace, hmark⟩ := hstart
  refine ⟨fun depth => ⟨c, cs, htext depth, hspace, hclosing, hmark⟩, ?_⟩
  intro depth fuel rest hfuel hrest
  rw [htext, List.length_cons] at hfuel
  obtain ⟨fuel, rfl⟩ := Nat.exists_eq_add_one.mpr (by omega : 0 < fuel)
  rw [htext, List.cons_append, readValue_scalar fuel _ hquote hbracket hbrace]
  exact hreads rest hrest

theorem readsBack_null : ReadsBack limit layout .null :=
  readsBack_of_readScalar (fun _ => by rw [valueText]; rfl) rfl (by decide) fun _ _ => rfl

theorem readsBack_bool (b : Bool) : ReadsBack limit layout (.bool b) := by
  cases b with
  | false =>
      exact readsBack_of_readScalar (fun _ => by rw [valueText]; rfl) rfl (by decide)
        fun _ _ => rfl
  | true =>
      exact readsBack_of_readScalar (fun _ => by rw [valueText]; rfl) rfl (by decide)
        fun _ _ => rfl

theorem readsBack_int {i : Int} (hlimit : ∀ bound ∈ limit, digitCount i ≤ bound) :
    ReadsBack limit layout (.int i) := by
  obtain ⟨c, cs, hcs⟩ : ∃ c cs, (toString i).toList = c :: cs := by
    refine List.exists_cons_of_ne_nil ?_
    rw [toList_toString_int]
    exact fun h => Nat.toDigits_ne_nil (List.append_eq_nil_iff.mp h).2
  -- the first character of an integer is a digit or the minus sign
  have hc : isAsciiDigit c = true ∨ c = '-' := by
    have hmem : c ∈ (toString i).toList := hcs ▸ List.mem_cons_self
    rw [toList_toString_int, List.mem_append] at hmem
    rcases hmem with hsign | hdigit
    · right
      split at hsign <;> simp_all
    · exact .inl (isAsciiDigit_of_mem_toDigits hdigit)
  -- so it is none of the characters that other values start with
  have hstart : ∀ other, isAsciiDigit other = false → other ≠ '-' → c ≠ other := by
    rintro other hdigit hsign rfl
    simp_all
  have hspace : isSpace c = false := by
    simp [isSpace, hstart ' ' rfl (by decide), hstart '\t' rfl (by decide),
      hstart '\n' rfl (by decide), hstart '\r' rfl (by decide)]
  refine readsBack_of_readScalar (fun _ => by rw [valueText]; exact hcs) hspace ?_ ?_
  · simp [hstart '"' rfl (by decide), hstart '[' rfl (by decide), hstart ']' rfl (by decide),
      hstart '\x7b' rfl (by decide), hstart '\uFEFF' rfl (by decide)]
  · intro rest hrest
    rw [← hcs]
    exact readScalar_intText hlimit hrest

theorem readsBack_str (s : String) : ReadsBack limit layout (.str s) where
  starts depth := by
    rw [valueText]
    exact ⟨_, _, rfl, rfl, by decide, by decide⟩
  reads depth fuel rest hfuel _ := by
    rw [valueText, stringText] at hfuel ⊢
    simp only [List.cons_append, List.append_assoc, List.nil_append, List.length_cons] at hfuel ⊢
    obtain ⟨fuel, rfl⟩ := Nat.exists_eq_add_one.mpr (by omega : 0 < fuel)
    rw [readValue.eq_2, readString_flatMap_charText]
    simp [Except.map]

/-! ### Lists -/

theorem readItems_last {fuel : Nat} {cs rest after : List Char} {value : Value}
    (hvalue : readValue ⟨limit, none⟩ fuel cs = .ok (value, rest))
    (hclose : skipSpace rest = ']' :: after) :
    readItems ⟨limit, none⟩ (fuel + 1) cs = .ok ([value], after) := by
  rw [readItems.eq_2, hvalue]
  simp [hclose]

theorem readItems_more {fuel : Nat} {cs rest next after : List Char} {value : Value}
    {values : List Value} (hvalue : readValue ⟨limit, none⟩ fuel cs = .ok (value, rest))
    (hcomma : skipSpace rest = ',' :: next)
    (hvalues : readItems ⟨limit, none⟩ fuel (skipSpace next) = .ok (values, after)) :
    readItems ⟨limit, none⟩ (fuel + 1) cs = .ok (value :: values, after) := by
  rw [readItems.eq_2, hvalue]
  simp [hcomma, hvalues, Except.map]

/-- The items of a list are read from the first one to the closing bracket. -/
theorem readItems_itemsText (hlayout : layout.IsBlank) (depth : Nat) (rest : List Char)
    {item : Value} {items : List Value}
    (hitems : ∀ value ∈ item :: items, ReadsBack limit layout value)
    {fuel : Nat} (hfuel : 2 * ((valueText layout (depth + 1) item).length +
      (itemsText layout (depth + 1) items).length) < fuel) :
    readItems ⟨limit, none⟩ fuel (valueText layout (depth + 1) item ++
      (itemsText layout (depth + 1) items ++ (layout.lead depth ++ ']' :: rest))) =
        .ok (item :: items, rest) := by
  -- along the items behind the first one; the fuel shrinks with the text that is left
  induction items generalizing item fuel with
  | nil =>
      obtain ⟨fuel, rfl⟩ := Nat.exists_eq_add_one.mpr (by omega : 0 < fuel)
      rw [itemsText, List.nil_append]
      have hvalue := (hitems item List.mem_cons_self).reads (depth + 1) fuel
        (layout.lead depth ++ ']' :: rest) (by omega)
        (EndsNumber.append (hlayout.lead depth) (endsNumber_cons rest (by decide)))
      exact readItems_last hvalue (skipSpace_append (hlayout.lead depth) rfl)
  | cons second items ih =>
      obtain ⟨fuel, rfl⟩ := Nat.exists_eq_add_one.mpr (by omega : 0 < fuel)
      -- a comma stands between the two, with blanks behind it
      obtain ⟨gap, hbetween, hgap⟩ := hlayout.exists_between (depth + 1)
      have hsecond := hitems second (by simp)
      rw [itemsText, hbetween] at hfuel ⊢
      simp only [List.cons_append, List.append_assoc, List.length_cons, List.length_append]
        at hfuel ⊢
      have hvalue := fun tail => (hitems item List.mem_cons_self).reads (depth + 1) fuel
        (',' :: tail) (by omega) (endsNumber_cons tail (by decide))
      have hvalues := ih (fun value hmem => hitems value (List.mem_cons_of_mem item hmem))
        (by omega : _ < fuel)
      -- the comma ends the first item, even if that is a number
      refine readItems_more (hvalue _) (skipSpace_cons rfl) ?_
      rw [skipSpace_startsValue gap hgap (hsecond.starts (depth + 1))]
      exact hvalues

theorem readValue_items {fuel : Nat} {cs rest after : List Char} {c : Char} {values : List Value}
    (hitems : skipSpace cs = c :: rest) (hc : c ≠ ']')
    (hvalues : readItems ⟨limit, none⟩ fuel (c :: rest) = .ok (values, after)) :
    readValue ⟨limit, none⟩ (fuel + 1) ('[' :: cs) = .ok (.list values, after) := by
  rw [readValue.eq_3, hitems]
  simp only [Limits.inside?]
  split
  · next heq => exact absurd (List.head_eq_of_cons_eq heq) hc
  · rw [hvalues]
    rfl

theorem readsBack_list (hlayout : layout.IsBlank) {items : List Value}
    (hitems : ∀ item ∈ items, ReadsBack limit layout item) :
    ReadsBack limit layout (.list items) := by
  cases items with
  | nil =>
      refine ⟨fun depth => ?_, fun depth fuel rest hfuel _ => ?_⟩
      · rw [valueText]
        exact ⟨_, _, rfl, rfl, by decide, by decide⟩
      · rw [valueText] at hfuel ⊢
        obtain ⟨fuel, rfl⟩ := Nat.exists_eq_add_one.mpr (by simp at hfuel; omega : 0 < fuel)
        rfl
  | cons item items =>
      refine ⟨fun depth => ?_, fun depth fuel rest hfuel _ => ?_⟩
      · rw [valueText]
        exact ⟨_, _, rfl, rfl, by decide, by decide⟩
      · rw [valueText] at hfuel ⊢
        simp only [List.cons_append, List.append_assoc, List.nil_append, List.length_cons,
          List.length_append] at hfuel ⊢
        obtain ⟨fuel, rfl⟩ := Nat.exists_eq_add_one.mpr (by omega : 0 < fuel)
        obtain ⟨c, cs, htext, hspace, hc, -⟩ :=
          (hitems item List.mem_cons_self).starts (depth + 1)
        -- the bracket takes one unit of fuel, and the items are left with enough
        have hvalues := readItems_itemsText hlayout depth rest hitems (by omega : _ < fuel)
        rw [htext, List.cons_append] at hvalues
        rw [htext, List.cons_append]
        exact readValue_items (skipSpace_append (hlayout.lead (depth + 1)) hspace) hc hvalues

/-! ### Objects -/

/-- The text of a member of an object. -/
def memberText (layout : Layout) (depth : Nat) (member : String × Value) : List Char :=
  stringText member.1 ++ (':' :: ' ' :: valueText layout depth member.2)

theorem membersText_cons (depth : Nat) (member : String × Value) (members : List (String × Value)) :
    membersText layout depth (member :: members) =
      layout.between depth ++
        (memberText layout depth member ++ membersText layout depth members) := by
  simp [membersText, memberText]

theorem startsValue_memberText (depth : Nat) (member : String × Value) :
    StartsValue (memberText layout depth member) :=
  ⟨'"', _, rfl, rfl, by decide, by decide⟩

theorem readMembers_last {fuel : Nat} {name : String} {cs rest after : List Char} {value : Value}
    (hspace : skipSpace (' ' :: cs) = cs)
    (hvalue : readValue ⟨limit, none⟩ fuel cs = .ok (value, rest))
    (hclose : skipSpace rest = '\x7d' :: after) :
    readMembers ⟨limit, none⟩ (fuel + 1) (stringText name ++ (':' :: ' ' :: cs)) =
      .ok ([(name, value)], after) := by
  have hcolon : skipSpace (':' :: ' ' :: cs) = ':' :: ' ' :: cs := skipSpace_cons rfl
  simp only [stringText, List.cons_append, List.append_assoc, List.nil_append]
  rw [readMembers.eq_2, readString_flatMap_charText]
  simp only [hcolon, hspace, hvalue, hclose, String.ofList_toList]

theorem readMembers_more {fuel : Nat} {name : String} {cs rest next after : List Char}
    {value : Value} {members : List (String × Value)}
    (hspace : skipSpace (' ' :: cs) = cs)
    (hvalue : readValue ⟨limit, none⟩ fuel cs = .ok (value, rest))
    (hcomma : skipSpace rest = ',' :: next)
    (hmembers : readMembers ⟨limit, none⟩ fuel (skipSpace next) = .ok (members, after)) :
    readMembers ⟨limit, none⟩ (fuel + 1) (stringText name ++ (':' :: ' ' :: cs)) =
      .ok ((name, value) :: members, after) := by
  have hcolon : skipSpace (':' :: ' ' :: cs) = ':' :: ' ' :: cs := skipSpace_cons rfl
  simp only [stringText, List.cons_append, List.append_assoc, List.nil_append]
  rw [readMembers.eq_2, readString_flatMap_charText]
  simp only [hcolon, hspace, hvalue, hcomma, hmembers, String.ofList_toList]
  rfl

/-- The members of an object are read from the first one to the closing brace. -/
theorem readMembers_membersText (hlayout : layout.IsBlank) (depth : Nat) (rest : List Char)
    {member : String × Value} {members : List (String × Value)}
    (hmembers : ∀ entry ∈ member :: members, ReadsBack limit layout entry.2)
    {fuel : Nat} (hfuel : 2 * ((memberText layout (depth + 1) member).length +
      (membersText layout (depth + 1) members).length) < fuel) :
    readMembers ⟨limit, none⟩ fuel (memberText layout (depth + 1) member ++
      (membersText layout (depth + 1) members ++ (layout.lead depth ++ '\x7d' :: rest))) =
        .ok (member :: members, rest) := by
  -- as for items, with a name and a colon in front of each value
  induction members generalizing member fuel with
  | nil =>
      obtain ⟨fuel, rfl⟩ := Nat.exists_eq_add_one.mpr (by omega : 0 < fuel)
      have hmember := hmembers member List.mem_cons_self
      rw [membersText, List.nil_append]
      rw [memberText] at hfuel ⊢
      simp only [List.append_assoc, List.cons_append, List.length_append, List.length_cons]
        at hfuel ⊢
      have hvalue := hmember.reads (depth + 1) fuel (layout.lead depth ++ '\x7d' :: rest) (by omega)
        (EndsNumber.append (hlayout.lead depth) (endsNumber_cons rest (by decide)))
      exact readMembers_last (skipSpace_space (hmember.starts (depth + 1)) _) hvalue
        (skipSpace_append (hlayout.lead depth) rfl)
  | cons second members ih =>
      obtain ⟨fuel, rfl⟩ := Nat.exists_eq_add_one.mpr (by omega : 0 < fuel)
      obtain ⟨gap, hbetween, hgap⟩ := hlayout.exists_between (depth + 1)
      have hmember := hmembers member List.mem_cons_self
      rw [membersText_cons, hbetween] at hfuel ⊢
      have hrest := ih (fun entry hmem => hmembers entry (List.mem_cons_of_mem member hmem))
        (by simp at hfuel; omega : _ < fuel)
      rw [memberText] at hfuel ⊢
      simp only [List.append_assoc, List.cons_append, List.length_append, List.length_cons]
        at hfuel ⊢
      have hvalue := fun tail => hmember.reads (depth + 1) fuel (',' :: tail) (by omega)
        (endsNumber_cons tail (by decide))
      refine readMembers_more (skipSpace_space (hmember.starts (depth + 1)) _) (hvalue _)
        (skipSpace_cons rfl) ?_
      rw [skipSpace_startsValue gap hgap (startsValue_memberText (depth + 1) second)]
      exact hrest

theorem readValue_members {fuel : Nat} {cs rest after : List Char} {c : Char}
    {members : List (String × Value)} (hspace : skipSpace cs = c :: rest) (hc : c ≠ '\x7d')
    (hmembers : readMembers ⟨limit, none⟩ fuel (c :: rest) = .ok (members, after)) :
    readValue ⟨limit, none⟩ (fuel + 1) ('\x7b' :: cs) =
      .ok (.object (Entries.ofPairs members), after) := by
  rw [readValue.eq_4, hspace]
  simp only [Limits.inside?]
  split
  · next heq => exact absurd (List.head_eq_of_cons_eq heq) hc
  · rw [hmembers]
    rfl

theorem readsBack_object (hlayout : layout.IsBlank) {members : List (String × Value)}
    (hkeys : (Entries.keys members).Nodup)
    (hmembers : ∀ member ∈ members, ReadsBack limit layout member.2) :
    ReadsBack limit layout (.object members) := by
  cases members with
  | nil =>
      refine ⟨fun depth => ?_, fun depth fuel rest hfuel _ => ?_⟩
      · rw [valueText]
        exact ⟨_, _, rfl, rfl, by decide, by decide⟩
      · rw [valueText] at hfuel ⊢
        obtain ⟨fuel, rfl⟩ := Nat.exists_eq_add_one.mpr (by simp at hfuel; omega : 0 < fuel)
        rfl
  | cons member members =>
      have htext : ∀ depth, valueText layout depth (.object (member :: members)) =
          '\x7b' :: (layout.lead (depth + 1) ++ (memberText layout (depth + 1) member ++
            (membersText layout (depth + 1) members ++ (layout.lead depth ++ ['\x7d'])))) := by
        intro depth
        simp [valueText, memberText]
      refine ⟨fun depth => ?_, fun depth fuel rest hfuel _ => ?_⟩
      · rw [htext]
        exact ⟨_, _, rfl, rfl, by decide, by decide⟩
      · rw [htext] at hfuel ⊢
        simp only [List.cons_append, List.append_assoc, List.nil_append, List.length_cons,
          List.length_append] at hfuel ⊢
        obtain ⟨fuel, rfl⟩ := Nat.exists_eq_add_one.mpr (by omega : 0 < fuel)
        obtain ⟨cs, htext⟩ : ∃ cs, memberText layout (depth + 1) member = '"' :: cs := ⟨_, rfl⟩
        have hread := readMembers_membersText hlayout depth rest hmembers (by omega : _ < fuel)
        rw [htext, List.cons_append] at hread
        rw [htext, List.cons_append]
        have hobject := readValue_members
          (skipSpace_append (hlayout.lead (depth + 1)) rfl) (by decide) hread
        -- distinct names, so what is read is the list of members itself
        rwa [Entries.ofPairs_of_nodup hkeys] at hobject

/-- A plain value whose integers are within the limit is read back. -/
theorem readsBack_of_plain (hlayout : layout.IsBlank) {value : Value} (hplain : value.Plain)
    (hlimit : ∀ i ∈ value.integers, ∀ bound ∈ limit, digitCount i ≤ bound) :
    ReadsBack limit layout value := by
  induction hplain with
  | null => exact readsBack_null
  | bool b => exact readsBack_bool b
  | int i => exact readsBack_int (hlimit i (by simp [Value.integers]))
  | str s => exact readsBack_str s
  | list _ ih =>
      exact readsBack_list hlayout fun item hitem =>
        ih item hitem fun i hi => hlimit i (Value.mem_integers_list hitem hi)
  | object hkeys _ ih =>
      exact readsBack_object hlayout hkeys fun member hmember =>
        ih member hmember fun i hi => hlimit i (Value.mem_integers_object hmember hi)

/-- A value that is read back is all that its text holds. -/
theorem ReadsBack.readAll_eq {value : Value} (hvalue : ReadsBack limit layout value) :
    readAll ⟨limit, none⟩ (valueText layout 0 value) = .ok value := by
  obtain ⟨c, cs, htext, hspace, -, hmark⟩ := hvalue.starts 0
  have hread := hvalue.reads 0 (2 * (valueText layout 0 value).length + 2) [] (by omega)
    (fun _ h => by simp at h)
  rw [List.append_nil] at hread
  have hskip : skipSpace (valueText layout 0 value) = valueText layout 0 value := by
    rw [htext]
    exact skipSpace_cons hspace
  rw [readAll, if_neg (by simpa [htext] using hmark), hskip, hread]
  rfl

end ReadsBack

/-- A plain value is read back from its text in every blank layout. -/
theorem parse_print {layout : Layout} (hlayout : layout.IsBlank) {value : Value}
    (hplain : value.Plain) : parse (print layout value) = .ok value := by
  have hback : ReadsBack none layout value := readsBack_of_plain hlayout hplain (by simp)
  rw [parse, parseWithin, print, String.toList_ofList, hback.readAll_eq]
  rfl

/-- A plain value is loaded from its text if its integers are not too long. -/
theorem load_print {layout : Layout} (hlayout : layout.IsBlank) {value : Value}
    (hplain : value.Plain) (hlimit : ∀ i ∈ value.integers, digitCount i ≤ digitLimit) :
    load (print layout value) = .ok value := by
  have hback : ReadsBack (some digitLimit) layout value :=
    readsBack_of_plain hlayout hplain (by simpa using hlimit)
  rw [load, loadWithin, parseWithin, print, String.toList_ofList, hback.readAll_eq]
  rfl

end Json

/-! ## Reports -/

namespace Usage

/-- The value of the report of a census is plain. -/
theorem Census.plain_report (census : Census) : census.report.toValue.Plain :=
  census.document_report.plain

end Usage

/-- **Reports survive their text.**  The text of a report of any tree, on one line or with any
number of spaces for each level, is read as the document it was written from, whatever the
characters of its names are, and the report loaded from it is the same; so is the text that is
written again.  A reader that limits the length of integers reads the document if no integer of it
is longer. -/
theorem report_survives_text {tree : Node} {library : Option String} {report : Report}
    (hreport : (Census.empty.visit tree).reportFor library = .ok report) (indent : Option Nat) :
    Json.parse (report.text (indent.elim .oneLine .indented)) = .ok report.toValue ∧
    ((∀ i ∈ report.toValue.integers, Json.digitCount i ≤ digitLimit) →
      Json.load (report.text (indent.elim .oneLine .indented)) = .ok report.toValue) ∧
    ∃ loaded, Report.ofValue report.toValue = .ok loaded ∧ loaded = report ∧
      ∀ layout, loaded.text layout = report.text layout := by
  obtain ⟨census, -, rfl⟩ := Package.reported_of_reportFor hreport
  have hlayout : (indent.elim Json.Layout.oneLine Json.Layout.indented).IsBlank := by
    cases indent with
    | none => trivial
    | some width => exact Json.Layout.isBlank_indented width
  -- a report is loaded from the parts of its document as they are
  have hloaded : Report.ofValue census.report.toValue = .ok census.report := rfl
  exact ⟨Json.parse_print hlayout census.plain_report,
    Json.load_print hlayout census.plain_report, _, hloaded, rfl, fun _ => rfl⟩

/-- A source with a backslash, a control character, an accent and a character beyond the 16-bit
units comes back from an indented text. -/
theorem report_survives_text_importedFrom :
    ∃ report loaded,
      (Census.empty.visit (Package.importedFrom "\\\x01é😀")).reportFor none = .ok report ∧
      (Json.load (report.text (.indented 2)) >>= Report.ofValue) = .ok loaded ∧
      loaded.bucket "imports" "default" =
        [.object [("name", .str "A"), ("source", .str "\\\x01é😀"), ("line", .int 1)]] := by
  have hreport : (Census.empty.visit (Package.importedFrom "\\\x01é😀")).reportFor none =
      .ok (Census.empty.visit (Package.importedFrom "\\\x01é😀")).report := rfl
  have hintegers : (Census.empty.visit
      (Package.importedFrom "\\\x01é😀")).report.toValue.integers = [1, 1, 3, 1, 2, 1, 2] := by
    cbv
  obtain ⟨-, hload, loaded, hloaded, hsame, -⟩ := report_survives_text hreport (some 2)
  have hshort := hload (by rw [hintegers]; decide)
  refine ⟨_, loaded, hreport, bind_of_eq_ok hshort hloaded, ?_⟩
  rw [hsame]
  cbv

end ComponentCensus
