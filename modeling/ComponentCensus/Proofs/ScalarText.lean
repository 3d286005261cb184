import ComponentCensus.Json.Printer
import ComponentCensus.Json.Reader
import Mathlib.Tactic.Common

/-!
# Texts and integers read back from JSON text

A text between double quotes is read back whatever its characters are: those with an escape of one
letter, those that are written by one 16-bit unit and those that take a pair of units.  An integer
is read back if what follows it cannot continue a number and the limit on digits allows it.

## Main results

* `readString_flatMap_charText` : reading undoes the writing of texts.
* `readScalar_intText` : reading undoes the writing of integers.

## Strategy

* A unit is written by four hexadecimal digits, and their values give it back (`exists_hex_four`).
* A character is no half of a pair itself (`halves_toNat`), so that a unit that stands alone is the
  character, and a pair is put together again (`readString_pairText`).
* Digits are read up to the first character that is none, and `EndsNumber` says that there is
  neither a fraction nor an exponent behind them.
-/

namespace ComponentCensus.Json

open ComponentCensus.Text

/-! ## Hexadecimal digits -/

theorem hexValue?_digitChar {digit : Nat} (hdigit : digit < 16) :
    hexValue? digit.digitChar = some digit := by
  have hall : ∀ digit < 16, hexValue? (Nat.digitChar digit) = some digit := by decide
  exact hall digit hdigit

/-- The last hexadecimal digit stands behind the others, which are one fewer. -/
theorem hex_add_two (width n : Nat) :
    Quoted.hex (width + 2) n = Quoted.hex (width + 1) (n / 16) ++ [(n % 16).digitChar] := by
  unfold Quoted.hex
  rcases Nat.lt_or_ge n 16 with hsmall | hlarge
  · rw [Nat.toDigits_of_lt_base hsmall, Nat.div_eq_of_lt hsmall, Nat.mod_eq_of_lt hsmall,
      Nat.toDigits_zero]
    simp [List.replicate_succ']
  · rw [Nat.toDigits_of_base_le (by omega) hlarge]
    have hwidth : width + 2 - ((Nat.toDigits 16 (n / 16)).length + 1) =
        width + 1 - (Nat.toDigits 16 (n / 16)).length := by omega
    simp [hwidth]

/-- A 16-bit unit is written with four hexadecimal digits, from which it is found again. -/
theorem exists_hex_four {n : Nat} (hn : n < 0x10000) :
    ∃ a b c d, Quoted.hex 4 n = [a, b, c, d] ∧ unit? a b c d = some n := by
  have hone : Quoted.hex 1 (n / 16 / 16 / 16) = [(n / 16 / 16 / 16).digitChar] := by
    unfold Quoted.hex
    rw [Nat.toDigits_of_lt_base (by omega)]
    rfl
  have hhex : Quoted.hex 4 n = [(n / 16 / 16 / 16).digitChar, (n / 16 / 16 % 16).digitChar,
      (n / 16 % 16).digitChar, (n % 16).digitChar] := by
    rw [hex_add_two, hex_add_two, hex_add_two, hone]
    rfl
  refine ⟨_, _, _, _, hhex, ?_⟩
  unfold unit?
  rw [hexValue?_digitChar (by omega), hexValue?_digitChar (by omega),
    hexValue?_digitChar (by omega), hexValue?_digitChar (by omega)]
  simp only [Option.bind_eq_bind, Option.bind_some, Option.pure_def, Option.some.injEq]
  omega

/-! ## Characters -/

/-- The number of a character is neither half of a pair. -/
theorem halves_toNat (c : Char) : isHighHalf c.toNat = false ∧ isLowHalf c.toNat = false := by
  have hvalid : c.toNat < 0xD800 ∨ 0xDFFF < c.toNat ∧ c.toNat < 0x110000 := c.valid
  simp only [isHighHalf, isLowHalf, Bool.and_eq_false_iff, decide_eq_false_iff_not]
  omega

theorem loneUnit_toNat (c : Char) : loneUnit c.toNat = c := by
  obtain ⟨hhigh, hlow⟩ := halves_toNat c
  simp [loneUnit, hhigh, hlow, Char.ofNat_toNat]

/-- A unit that is not the first half of a pair spells a character of its own, whatever follows. -/
theorem readString_unit (start : List Char) {a b c d last : Char} {n : Nat} (rest : List Char)
    (hunit : unit? a b c d = some n) (hhigh : isHighHalf n = false) :
    readString start ('\\' :: 'u' :: a :: b :: c :: d :: last :: rest) =
      prepend (loneUnit n) (readString start (last :: rest)) := by
  by_cases hpair : ∃ e f g h after tail,
      last = '\\' ∧ rest = 'u' :: e :: f :: g :: h :: after :: tail
  · obtain ⟨e, f, g, h, after, tail, rfl, rfl⟩ := hpair
    rw [readString.eq_3, hunit]
    simp [hhigh]
  · rw [readString.eq_4 _ _ _ _ _ _ _ fun e f g h after tail hlast hrest =>
      hpair ⟨e, f, g, h, after, tail, hlast, hrest⟩, hunit]

/-- The two halves of a pair spell one character. -/
theorem readString_pair (start : List Char) {a b c d e f g h last : Char} {high low : Nat}
    (rest : List Char) (hunit : unit? a b c d = some high) (hunit' : unit? e f g h = some low)
    (hhigh : isHighHalf high = true) (hlow : isLowHalf low = true) :
    readString start
        ('\\' :: 'u' :: a :: b :: c :: d :: '\\' :: 'u' :: e :: f :: g :: h :: last :: rest) =
      prepend (pairedUnits high low) (readString start (last :: rest)) := by
  rw [readString.eq_3, hunit]
  simp [hhigh, hunit', hlow]

theorem readString_escaped (start : List Char) {c d : Char} (rest : List Char) (hc : c ≠ 'u')
    (hescaped : escaped? c = some d) :
    readString start ('\\' :: c :: rest) = prepend d (readString start rest) := by
  rw [readString.eq_7 _ _ _ (fun _ _ _ _ _ _ _ _ _ _ h => absurd h hc)
    (fun _ _ _ _ _ _ h => absurd h hc) hc, hescaped]

theorem readString_plain (start : List Char) {c : Char} (rest : List Char) (hquote : c ≠ '"')
    (hbackslash : c ≠ '\\') (hcontrol : 0x1F < c.toNat) :
    readString start (c :: rest) = prepend c (readString start rest) := by
  rw [readString.eq_8 _ _ _ hquote (fun _ _ _ _ _ _ _ _ _ _ h => absurd h hbackslash)
    (fun _ _ _ _ _ _ h => absurd h hbackslash) (fun _ h => absurd h hbackslash)
    (fun h => absurd h hbackslash) (fun _ _ h => absurd h hbackslash), if_neg (by omega)]

/-- A character beyond the 16-bit units is read back from the two halves its number is spread
over. -/
theorem readString_pairText (start : List Char) {c : Char} (hlarge : ¬ c.toNat < 0x10000)
    (last : Char) (rest : List Char) :
    readString start (unitText (0xD800 + (c.toNat - 0x10000) / 0x400) ++
        unitText (0xDC00 + (c.toNat - 0x10000) % 0x400) ++ last :: rest) =
      prepend c (readString start (last :: rest)) := by
  have hvalid : c.toNat < 0xD800 ∨ 0xDFFF < c.toNat ∧ c.toNat < 0x110000 := c.valid
  have hhalf : (c.toNat - 0x10000) / 0x400 < 0x400 := by omega
  obtain ⟨a, b, x, d, hhex, hvalue⟩ :=
    @exists_hex_four (0xD800 + (c.toNat - 0x10000) / 0x400) (by omega)
  obtain ⟨e, f, g, h, hhex', hvalue'⟩ :=
    @exists_hex_four (0xDC00 + (c.toNat - 0x10000) % 0x400) (by omega)
  have hhigh : isHighHalf (0xD800 + (c.toNat - 0x10000) / 0x400) = true := by
    simp only [isHighHalf, Bool.and_eq_true, decide_eq_true_eq]
    omega
  have hlow : isLowHalf (0xDC00 + (c.toNat - 0x10000) % 0x400) = true := by
    simp only [isLowHalf, Bool.and_eq_true, decide_eq_true_eq]
    omega
  have hpaired : pairedUnits (0xD800 + (c.toNat - 0x10000) / 0x400)
      (0xDC00 + (c.toNat - 0x10000) % 0x400) = c := by
    have hnumber : 0x10000 + (0xD800 + (c.toNat - 0x10000) / 0x400 - 0xD800) * 0x400 +
        (0xDC00 + (c.toNat - 0x10000) % 0x400 - 0xDC00) = c.toNat := by omega
    rw [pairedUnits, hnumber, Char.ofNat_toNat]
  simp only [unitText, hhex, hhex', List.cons_append, List.nil_append]
  rw [readString_pair start rest hvalue hvalue' hhigh hlow, hpaired]

/-- How a character may be written: with an escape of one letter, as it is, by one unit, or by
two. -/
theorem charText_cases (c : Char) :
    (∃ letter, charText c = ['\\', letter] ∧ letter ≠ 'u' ∧ escaped? letter = some c) ∨
    (charText c = [c] ∧ c ≠ '"' ∧ c ≠ '\\' ∧ 0x1F < c.toNat) ∨
    (charText c = unitText c.toNat ∧ c.toNat < 0x10000) ∨
    (charText c = unitText (0xD800 + (c.toNat - 0x10000) / 0x400) ++
      unitText (0xDC00 + (c.toNat - 0x10000) % 0x400) ∧ ¬ c.toNat < 0x10000) := by
  by_cases hescaped : c ∈ ['"', '\\', '\n', '\r', '\t', '\x0c', '\x08']
  · left
    simp only [List.mem_cons, List.not_mem_nil, or_false] at hescaped
    rcases hescaped with rfl | rfl | rfl | rfl | rfl | rfl | rfl <;>
      exact ⟨_, rfl, by decide, rfl⟩
  · right
    simp only [List.mem_cons, List.not_mem_nil, or_false, not_or] at hescaped
    obtain ⟨hquote, hbackslash, hfeed, hreturn, htab, hform, hback⟩ := hescaped
    rw [charText, if_neg hquote, if_neg hbackslash, if_neg hfeed, if_neg hreturn, if_neg htab,
      if_neg hform, if_neg hback]
    by_cases hplain : (decide (0x20 ≤ c.toNat) && decide (c.toNat < 0x7F)) = true
    · rw [if_pos hplain]
      simp only [Bool.and_eq_true, decide_eq_true_eq] at hplain
      exact .inl ⟨rfl, hquote, hbackslash, by omega⟩
    · rw [if_neg hplain]
      by_cases hunit : c.toNat < 0x10000
      · exact .inr (.inl ⟨if_pos hunit, hunit⟩)
      · exact .inr (.inr ⟨if_neg hunit, hunit⟩)

/-- Whatever a character is, it is read back from its text. -/
theorem readString_charText (start : List Char) (c last : Char) (rest : List Char) :
    readString start (charText c ++ last :: rest) = prepend c (readString start (last :: rest)) := by
  obtain ⟨letter, htext, hletter, hescaped⟩ | ⟨htext, hquote, hbackslash, hcontrol⟩ |
    ⟨htext, hsmall⟩ | ⟨htext, hlarge⟩ := charText_cases c
  · rw [htext]
    exact readString_escaped start _ hletter hescaped
  · rw [htext]
    exact readString_plain start _ hquote hbackslash hcontrol
  · obtain ⟨a, b, x, d, hhex, hvalue⟩ := exists_hex_four hsmall
    rw [htext, unitText, hhex, ← loneUnit_toNat c]
    exact readString_unit start rest hvalue (halves_toNat c).1
  · rw [htext]
    exact readString_pairText start hlarge last rest

/-- A text is read back up to its closing quote, and what follows is left. -/
theorem readString_flatMap_charText (start cs rest : List Char) :
    readString start (cs.flatMap charText ++ '"' :: rest) = .ok (cs, rest) := by
  induction cs with
  | nil => exact readString.eq_2 start rest
  | cons c cs ih =>
      -- what follows a character is never empty, since the closing quote is still to come
      obtain ⟨last, tail, htail⟩ : ∃ last tail, cs.flatMap charText ++ '"' :: rest = last :: tail :=
        List.exists_cons_of_ne_nil (by simp)
      rw [List.flatMap_cons, List.append_assoc, htail, readString_charText, ← htail, ih]
      rfl

/-! ## Integers -/

/-- Whether a text cannot continue a number that stands before it. -/
def EndsNumber (rest : List Char) : Prop :=
  ∀ c ∈ rest.head?, isAsciiDigit c = false ∧ c ≠ '.' ∧ c ≠ 'e' ∧ c ≠ 'E'

theorem isAsciiDigit_of_mem_toDigits {n : Nat} {c : Char} (hc : c ∈ Nat.toDigits 10 n) :
    isAsciiDigit c = true :=
  Nat.isDigit_of_mem_toDigits (by omega) (by omega) hc

theorem digitsValue_toDigits (n : Nat) : digitsValue (Nat.toDigits 10 n) = n := by
  have hvalue := @Nat.ofDigitChars_ten_toDigits n
  rw [Nat.ofDigitChars_eq_foldl] at hvalue
  unfold digitsValue
  simpa only [Nat.mul_comm] using hvalue

/-- Only zero starts with the digit zero. -/
theorem head?_toDigits_ne_zero {n : Nat} (hn : 0 < n) : (Nat.toDigits 10 n).head? ≠ some '0' := by
  induction n using Nat.strongRecOn with
  | ind n ih =>
    rcases Nat.lt_or_ge n 10 with hsmall | hlarge
    · rw [Nat.toDigits_of_lt_base hsmall, List.head?_cons, ne_eq, Option.some.injEq,
        Nat.digitChar_eq_zero]
      omega
    · rw [Nat.toDigits_of_base_le (by omega) hlarge, List.head?_append,
        List.head?_eq_some_head Nat.toDigits_ne_nil, Option.some_or,
        ← List.head?_eq_some_head Nat.toDigits_ne_nil]
      exact ih (n / 10) (by omega) (by omega)

theorem takeWhile_isAsciiDigit_append {digits rest : List Char}
    (hdigits : ∀ c ∈ digits, isAsciiDigit c = true) (hrest : EndsNumber rest) :
    (digits ++ rest).takeWhile isAsciiDigit = digits ∧
      (digits ++ rest).dropWhile isAsciiDigit = rest := by
  rw [List.takeWhile_append_of_pos hdigits, List.dropWhile_append_of_pos hdigits]
  cases rest with
  | nil => simp
  | cons c rest =>
      have hc := (hrest c rfl).1
      simp [hc]

/-- All digits of a number are read, and nothing more. -/
theorem wholePart?_toDigits (n : Nat) {rest : List Char} (hrest : EndsNumber rest) :
    wholePart? (Nat.toDigits 10 n ++ rest) = some (Nat.toDigits 10 n, rest) := by
  rcases Nat.eq_zero_or_pos n with rfl | hn
  · rw [Nat.toDigits_zero]
    rfl
  · have hfirst := head?_toDigits_ne_zero hn
    obtain ⟨c, digits, hdigits⟩ := List.exists_cons_of_ne_nil (@Nat.toDigits_ne_nil n 10)
    have hall : ∀ d ∈ c :: digits, isAsciiDigit d = true := fun d hd =>
      isAsciiDigit_of_mem_toDigits (hdigits ▸ hd)
    rw [hdigits, List.head?_cons, ne_eq, Option.some.injEq] at hfirst
    obtain ⟨htake, hdrop⟩ := takeWhile_isAsciiDigit_append
      (fun d hd => hall d (List.mem_cons_of_mem c hd)) hrest
    rw [hdigits, List.cons_append, wholePart?, if_neg hfirst,
      if_pos (hall c List.mem_cons_self), htake, hdrop]

theorem fractionPart_of_endsNumber {rest : List Char} (hrest : EndsNumber rest) :
    fractionPart rest = ([], rest) := by
  unfold fractionPart
  split
  · exact absurd rfl (hrest '.' rfl).2.1
  · rfl

theorem exponentPart_of_endsNumber {rest : List Char} (hrest : EndsNumber rest) :
    exponentPart rest = (none, rest) := by
  cases rest with
  | nil => rfl
  | cons c rest =>
      obtain ⟨-, -, hlower, hupper⟩ := hrest c rfl
      simp [exponentPart, hlower, hupper]

/-- The number of decimal digits of an integer. -/
def digitCount (i : Int) : Nat :=
  (Nat.toDigits 10 i.natAbs).length

/-- The text of an integer: a minus sign before the digits if it is negative. -/
theorem toList_toString_int (i : Int) :
    (toString i).toList = (if i < 0 then ['-'] else []) ++ Nat.toDigits 10 i.natAbs := by
  change i.repr.toList = _
  rw [Int.repr_eq_if]
  split_ifs with hnonneg hneg hneg
  · omega
  · have habs : i.toNat = i.natAbs := by omega
    rw [Nat.repr_eq_ofList_toDigits, String.toList_ofList, List.nil_append, habs]
  · have habs : (-i).toNat = i.natAbs := by omega
    rw [Nat.repr_eq_ofList_toDigits, String.toList_append, habs,
      @String.toList_ofList (Nat.toDigits 10 i.natAbs)]
    rfl
  · omega

/-- The sign of an integer is told from its digits. -/
theorem splitSign_intText (i : Int) (rest : List Char) :
    splitSign ((toString i).toList ++ rest) = (decide (i < 0), Nat.toDigits 10 i.natAbs ++ rest) := by
  rw [toList_toString_int]
  split_ifs with hneg
  · simp [splitSign, hneg]
  · obtain ⟨c, digits, hdigits⟩ := List.exists_cons_of_ne_nil (@Nat.toDigits_ne_nil i.natAbs 10)
    have hc : c ≠ '-' := by
      rintro rfl
      have := isAsciiDigit_of_mem_toDigits (hdigits ▸ List.mem_cons_self)
      contradiction
    rw [hdigits]
    unfold splitSign
    split
    · next heq => simp_all
    · simp [hneg]

theorem readNumber_intText (i : Int) {rest : List Char} (hrest : EndsNumber rest) :
    readNumber ((toString i).toList ++ rest) = some (.int i, rest) := by
  have hsign : (if decide (i < 0) = true then -(i.natAbs : Int) else i.natAbs) = i := by
    simp only [decide_eq_true_eq]
    omega
  unfold readNumber
  rw [splitSign_intText]
  simp only [wholePart?_toDigits _ hrest, fractionPart_of_endsNumber hrest,
    exponentPart_of_endsNumber hrest, digitsValue_toDigits, hsign]
  rfl

theorem integerLength_intText (i : Int) {rest : List Char} (hrest : EndsNumber rest) :
    integerLength ((toString i).toList ++ rest) = digitCount i := by
  rw [integerLength, splitSign_intText, wholePart?_toDigits _ hrest]
  rfl

/-- An integer is not spelled by a name. -/
theorem readName_intText (i : Int) (rest : List Char) :
    readName ((toString i).toList ++ rest) = none := by
  obtain ⟨c, digits, hdigits⟩ := List.exists_cons_of_ne_nil (@Nat.toDigits_ne_nil i.natAbs 10)
  have hc : isAsciiDigit c = true := isAsciiDigit_of_mem_toDigits (hdigits ▸ List.mem_cons_self)
  have hne : ∀ other, isAsciiDigit other = false → other ≠ c := by
    rintro other hother rfl
    simp [hc] at hother
  rw [toList_toString_int, hdigits]
  split_ifs with hneg
  · simp [readName, names, hne 'I' rfl]
  · simp [readName, names, hne 'n' rfl, hne 't' rfl, hne 'f' rfl, hne 'N' rfl,
      hne 'I' rfl, hne '-' rfl]

/-- An integer within the limit is read back if what follows cannot continue it. -/
theorem readScalar_intText {limit : Option Nat} {i : Int} {rest : List Char}
    (hlimit : ∀ bound ∈ limit, digitCount i ≤ bound) (hrest : EndsNumber rest) :
    readScalar limit ((toString i).toList ++ rest) = .ok (.int i, rest) := by
  have hexceeds : exceeds limit ((toString i).toList ++ rest) = false := by
    rw [exceeds, integerLength_intText i hrest]
    cases limit with
    | none => rfl
    | some bound => simpa using hlimit bound rfl
  rw [readScalar, readName_intText, readNumber_intText i hrest]
  simp only [hexceeds, Bool.false_eq_true, if_false]

end ComponentCensus.Json
