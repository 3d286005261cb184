import ComponentCensus.Text.Blank
import ComponentCensus.Text.Lines
import ComponentCensus.Text.Split
import Mathlib.Data.List.Basic
import Mathlib.Data.List.Induction

/-!
# Cutting what was put together

Pieces without a separator come back when the text that joins them is cut there, and lines come
back from a text that puts line feeds between them.  Trimming stops at the first character that it
leaves.

The functions are those of the model, on lists of characters: `splitOn` cuts at every separator and
always gives a piece, `lines` cuts at line ends and gives no empty last line, and `trimBoth` takes
characters off both ends.

## Main results

* `splitOn_join` : cutting undoes joining.
* `foldl_lines_join` : a fold that ignores empty lines sees the lines that were joined.
* `trimBoth_append` : trimming keeps all from the first to the last character that is left.

## Strategy

* The texts here are built up piece by piece, so the lemmas say what one more piece does: at the
  front (`splitOn_append`, `linesFrom_append`), or at the end (`exists_splitOn_concat`,
  `exists_join_concat`).
* Reading lines carries the line so far, in reverse, and whether one has begun; the lemmas are
  about any such state.
-/

namespace ComponentCensus.Text

/-! ## Pieces -/

section Pieces

variable {sep : Char} {cs : List Char}

theorem splitOn_of_not_mem (hsep : sep ∉ cs) : splitOn sep cs = [cs] := by
  induction cs with
  | nil => rfl
  | cons c rest ih =>
      obtain ⟨hc, hrest⟩ := List.ne_and_not_mem_of_not_mem_cons hsep
      rw [splitOn, if_neg (Ne.symm hc), ih hrest]

/-- Cutting at a separator that is put between two texts cuts each of them. -/
theorem splitOn_append_cons (sep : Char) (cs rest : List Char) :
    splitOn sep (cs ++ sep :: rest) = splitOn sep cs ++ splitOn sep rest := by
  induction cs with
  | nil =>
      show splitOn sep (sep :: rest) = [] :: splitOn sep rest
      rw [splitOn, if_pos rfl]
  | cons c cs ih =>
      rw [List.cons_append, splitOn, ih, splitOn]
      split
      · rfl
      · -- the character goes to the first piece, and there is always one
        obtain ⟨piece, pieces, hpieces⟩ := List.exists_cons_of_ne_nil (splitOn_ne_nil sep cs)
        rw [hpieces]
        rfl

theorem splitOn_append (hsep : sep ∉ cs) (rest : List Char) :
    splitOn sep (cs ++ sep :: rest) = cs :: splitOn sep rest := by
  rw [splitOn_append_cons, splitOn_of_not_mem hsep, List.singleton_append]

/-- A character in front that makes no difference to a piece makes none to the pieces. -/
theorem map_splitOn_cons {α : Type} {f : List Char → α} {c : Char}
    (hf : ∀ piece, f (c :: piece) = f piece) (hc : c ≠ sep) (cs : List Char) :
    (splitOn sep (c :: cs)).map f = (splitOn sep cs).map f := by
  obtain ⟨piece, pieces, hpieces⟩ := List.exists_cons_of_ne_nil (splitOn_ne_nil sep cs)
  rw [splitOn, if_neg hc, hpieces]
  simp [hf]

/-- A character at the end goes to the last piece. -/
theorem exists_splitOn_concat {c : Char} (hc : c ≠ sep) (cs : List Char) :
    ∃ front last, splitOn sep cs = front ++ [last] ∧
      splitOn sep (cs ++ [c]) = front ++ [last ++ [c]] := by
  induction cs with
  | nil => exact ⟨[], [], rfl, by simp [splitOn, hc]⟩
  | cons d cs ih =>
      obtain ⟨front, last, hpieces, hconcat⟩ := ih
      rw [List.cons_append, splitOn, splitOn, hpieces, hconcat]
      split
      · exact ⟨[] :: front, last, rfl, rfl⟩
      · -- the first piece may be the last one as well
        cases front with
        | nil => exact ⟨[], d :: last, rfl, rfl⟩
        | cons first front => exact ⟨(d :: first) :: front, last, rfl, rfl⟩

/-- A character at the end that makes no difference to a piece makes none to the pieces. -/
theorem map_splitOn_concat {α : Type} {f : List Char → α} {c : Char}
    (hf : ∀ piece, f (piece ++ [c]) = f piece) (hc : c ≠ sep) (cs : List Char) :
    (splitOn sep (cs ++ [c])).map f = (splitOn sep cs).map f := by
  obtain ⟨front, last, hpieces, hconcat⟩ := exists_splitOn_concat hc cs
  rw [hconcat, hpieces, List.map_append, List.map_append, List.map_singleton, List.map_singleton, hf]

theorem not_mem_of_mem_splitOn {piece : List Char} (hpiece : piece ∈ splitOn sep cs) : sep ∉ piece := by
  induction cs generalizing piece with
  | nil =>
      rw [splitOn, List.mem_singleton] at hpiece
      rw [hpiece]
      exact List.not_mem_nil
  | cons c rest ih =>
      rw [splitOn] at hpiece
      -- a separator starts a new piece, any other character goes to the first
      split at hpiece
      · rcases List.mem_cons.mp hpiece with rfl | hrest
        · exact List.not_mem_nil
        · exact ih hrest
      · next hc =>
        split at hpiece
        · next hnil => exact absurd hnil (splitOn_ne_nil sep rest)
        · next first others hsplit =>
          rw [hsplit] at ih
          rcases List.mem_cons.mp hpiece with rfl | hothers
          · exact List.not_mem_cons_of_ne_of_not_mem (Ne.symm hc) (ih (List.mem_cons_self ..))
          · exact ih (List.mem_cons_of_mem _ hothers)

theorem join_cons {piece : List Char} {pieces : List (List Char)} (hpieces : pieces ≠ []) :
    join sep (piece :: pieces) = piece ++ sep :: join sep pieces := by
  rw [join]
  exact hpieces

/-- Pieces without the separator come back from the text that they are joined to. -/
theorem splitOn_join {pieces : List (List Char)} (hpieces : pieces ≠ [])
    (hsep : ∀ piece ∈ pieces, sep ∉ piece) :
    splitOn sep (join sep pieces) = pieces := by
  induction pieces with
  | nil => exact absurd rfl hpieces
  | cons first rest ih =>
      obtain ⟨hfirst, hrest⟩ := List.forall_mem_cons.mp hsep
      cases rest with
      | nil => exact splitOn_of_not_mem hfirst
      | cons next rest =>
          have hne := List.cons_ne_nil next rest
          rw [join_cons hne, splitOn_append hfirst, ih hne hrest]

theorem join_append {above below : List (List Char)} (habove : above ≠ []) (hbelow : below ≠ []) :
    join sep (above ++ below) = join sep above ++ sep :: join sep below := by
  induction above with
  | nil => exact absurd rfl habove
  | cons first rest ih =>
      cases rest with
      | nil => exact join_cons hbelow
      | cons next rest =>
          have hne := List.cons_ne_nil next rest
          rw [List.cons_append, join_cons (List.append_ne_nil_of_left_ne_nil hne below), ih hne,
            join_cons hne]
          simp

theorem join_eq_intercalate (sep : Char) (pieces : List (List Char)) :
    join sep pieces = [sep].intercalate pieces := by
  induction pieces with
  | nil => rfl
  | cons piece rest ih =>
      cases rest with
      | nil => rw [join, List.intercalate_singleton]
      | cons next rest =>
          rw [join, ih, List.intercalate_cons_cons, List.append_assoc, List.singleton_append]
          exact List.cons_ne_nil next rest

/-- What stands before the last of some pieces does not depend on it, and ends with the separator
unless there is nothing. -/
theorem exists_join_concat (sep : Char) (pieces : List (List Char)) :
    ∃ lead, (∀ piece, join sep (pieces ++ [piece]) = lead ++ piece) ∧
      (lead = [] ∨ ∃ front, lead = front ++ [sep]) := by
  induction pieces with
  | nil => exact ⟨[], fun _ => rfl, Or.inl rfl⟩
  | cons first rest ih =>
      obtain ⟨lead, hjoin, hend⟩ := ih
      refine ⟨first ++ sep :: lead, fun piece => ?_, Or.inr ?_⟩
      · rw [List.cons_append, join, hjoin]
        · simp
        · simp
      · rcases hend with rfl | ⟨front, rfl⟩
        · exact ⟨first, rfl⟩
        · exact ⟨first ++ sep :: front, by simp⟩

/-- Words with a separator and a space between them, after some lead. -/
theorem splitOn_intercalate {lead word : List Char} {words : List (List Char)} (hspace : sep ≠ ' ')
    (hlead : sep ∉ lead) (hwords : ∀ word' ∈ word :: words, sep ∉ word') :
    splitOn sep (lead ++ [sep, ' '].intercalate (word :: words)) =
      (lead ++ word) :: words.map (' ' :: ·) := by
  induction words generalizing lead word with
  | nil =>
      rw [List.intercalate_singleton]
      exact splitOn_of_not_mem (List.not_mem_append hlead (hwords word (List.mem_cons_self ..)))
  | cons next words ih =>
      obtain ⟨hword, hrest⟩ := List.forall_mem_cons.mp hwords
      have hnext := @ih [' '] next (mt List.mem_singleton.mp hspace) hrest
      rw [List.intercalate_cons_cons, ← List.append_assoc, ← List.append_assoc,
        List.append_assoc (lead ++ word)]
      show splitOn sep (lead ++ word ++ sep :: ([' '] ++ [sep, ' '].intercalate (next :: words))) = _
      rw [splitOn_append (List.not_mem_append hlead hword), hnext]
      rfl

end Pieces

/-! ## Pairs of characters -/

theorem collapsePairs_append {c : Char} {word : List Char} (hword : c ∉ word) (rest : List Char) :
    collapsePairs c (word ++ rest) = word ++ collapsePairs c rest := by
  induction word with
  | nil => rfl
  | cons d word ih =>
      obtain ⟨hd, hword⟩ := List.ne_and_not_mem_of_not_mem_cons hword
      have hstep (cs : List Char) : collapsePairs c (d :: cs) = d :: collapsePairs c cs := by
        cases cs with
        | nil => rfl
        | cons e cs => simp [collapsePairs, Ne.symm hd]
      rw [List.cons_append, hstep, ih hword, List.cons_append]

/-! ## Lines -/

section Lines

/-- A text without the characters that end lines. -/
def IsLine (line : List Char) : Prop :=
  line.all (fun c => !isLineEnd c) = true

theorem isLine_iff {line : List Char} : IsLine line ↔ ∀ c ∈ line, isLineEnd c = false := by
  simp [IsLine]

theorem isLine_cons {c : Char} {line : List Char} :
    IsLine (c :: line) ↔ isLineEnd c = false ∧ IsLine line := by
  simp [IsLine]

theorem isLine_append {line other : List Char} :
    IsLine (line ++ other) ↔ IsLine line ∧ IsLine other := by
  simp [IsLine]

theorem isBlank_of_isLineEnd {c : Char} (hc : isLineEnd c = true) : isBlank c = true := by
  rw [isLineEnd, inRanges_iff] at hc
  rw [isBlank, inRanges_iff]
  obtain ⟨range, hrange, hlow, hhigh⟩ := hc
  simp only [lineEndRanges, List.mem_cons, List.not_mem_nil, or_false] at hrange
  rcases hrange with rfl | rfl | rfl | rfl
  · exact ⟨(0x9, 0xD), by decide, by omega, by omega⟩
  · exact ⟨(0x1C, 0x20), by decide, by omega, by omega⟩
  · exact ⟨(0x85, 0x85), by decide, by omega, by omega⟩
  · exact ⟨(0x2028, 0x2029), by decide, by omega, by omega⟩

theorem isLine_intercalate {sep : List Char} (hsep : IsLine sep) {words : List (List Char)}
    (hwords : ∀ word ∈ words, IsLine word) : IsLine (sep.intercalate words) := by
  induction words with
  | nil => rfl
  | cons word words ih =>
      obtain ⟨hword, hrest⟩ := List.forall_mem_cons.mp hwords
      cases words with
      | nil =>
          rw [List.intercalate_singleton]
          exact hword
      | cons next words =>
          rw [List.intercalate_cons_cons]
          exact isLine_append.mpr ⟨isLine_append.mpr ⟨hword, hsep⟩, ih hrest⟩

theorem linesFrom_cons {c : Char} (hc : isLineEnd c = false) (current rest : List Char)
    (started : Bool) :
    linesFrom current started (c :: rest) = linesFrom (c :: current) true rest := by
  have hreturn : c ≠ '\r' := by
    rintro rfl
    exact absurd hc (by decide)
  rw [linesFrom]
  · rw [if_neg (by rw [hc]; decide)]
  · rintro rest' rfl -
    exact hreturn rfl

theorem linesFrom_append {line : List Char} (hline : IsLine line) (current rest : List Char)
    (started : Bool) :
    linesFrom current started (line ++ '\n' :: rest) =
      (current.reverse ++ line) :: linesFrom [] false rest := by
  induction line generalizing current started with
  | nil =>
      rw [List.nil_append, List.append_nil, linesFrom]
      · rw [if_pos (by decide)]
      · rintro rest' h -
        exact absurd h (by decide)
  | cons c line ih =>
      obtain ⟨hc, hline⟩ := isLine_cons.mp hline
      rw [List.cons_append, linesFrom_cons hc, ih hline]
      simp

theorem linesFrom_last {line : List Char} (hline : IsLine line) (current : List Char) :
    linesFrom current true line = [current.reverse ++ line] := by
  induction line generalizing current with
  | nil =>
      rw [linesFrom, List.append_nil]
      rfl
  | cons c line ih =>
      obtain ⟨hc, hline⟩ := isLine_cons.mp hline
      rw [linesFrom_cons hc, ih hline]
      simp

/-- A pass over the lines of a text is a pass over the lines that it was made of, if an empty line
makes no difference to it: only one at the very end can be lost. -/
theorem foldl_lines_join {σ : Type} {step : σ → List Char → σ} (hempty : ∀ state, step state [] = state)
    {parts : List (List Char)} (hparts : ∀ line ∈ parts, IsLine line) (state : σ) :
    (lines (join '\n' parts)).foldl step state = parts.foldl step state := by
  induction parts generalizing state with
  | nil => rfl
  | cons line parts ih =>
      obtain ⟨hline, hrest⟩ := List.forall_mem_cons.mp hparts
      cases parts with
      | nil =>
          -- an empty last line is not read at all
          cases line with
          | nil => exact (hempty state).symm
          | cons c line =>
              obtain ⟨hc, hline⟩ := isLine_cons.mp hline
              rw [join, lines, linesFrom_cons hc, linesFrom_last hline]
              rfl
      | cons next parts =>
          rw [join, lines, linesFrom_append hline, List.foldl_cons]
          · exact ih hrest _
          · exact List.cons_ne_nil _ _

end Lines

/-! ## Trimming -/

section Trimming

variable {drop : Char → Bool}

theorem trimBoth_cons {c : Char} (hc : drop c = true) (cs : List Char) :
    trimBoth drop (c :: cs) = trimBoth drop cs := by
  rw [trimBoth, List.dropWhile_cons_of_pos hc, trimBoth]

theorem trimBoth_concat {c : Char} (hc : drop c = true) (cs : List Char) :
    trimBoth drop (cs ++ [c]) = trimBoth drop cs := by
  unfold trimBoth
  rw [List.dropWhile_append]
  split
  · next hempty => simp [List.isEmpty_iff.mp hempty, hc]
  · rw [List.reverse_append, List.reverse_singleton, List.singleton_append,
      List.dropWhile_cons_of_pos hc]

theorem trimBoth_of_forall {cs : List Char} (hcs : ∀ c ∈ cs, drop c = false) :
    trimBoth drop cs = cs := by
  have hstop (ds : List Char) (hds : ∀ c ∈ ds, drop c = false) : ds.dropWhile drop = ds := by
    cases ds with
    | nil => rfl
    | cons d ds =>
        refine List.dropWhile_cons_of_neg ?_
        rw [hds d List.mem_cons_self]
        decide
  unfold trimBoth
  rw [hstop cs hcs, hstop cs.reverse fun c hc => hcs c (List.mem_reverse.mp hc), List.reverse_reverse]

/-- Trimming drops what it takes off on both sides of a text of which it takes nothing. -/
theorem trimBoth_surrounded {front cs back : List Char} (hfront : ∀ c ∈ front, drop c = true)
    (hback : ∀ c ∈ back, drop c = true) (hcs : ∀ c ∈ cs, drop c = false) :
    trimBoth drop (front ++ cs ++ back) = cs := by
  -- first off the front, one character at a time, and then off the back
  induction front with
  | nil =>
      induction back using List.reverseRecOn with
      | nil => simpa using trimBoth_of_forall hcs
      | append_singleton back c ih =>
          obtain ⟨hback, hc⟩ := List.forall_mem_append.mp hback
          rw [← List.append_assoc, trimBoth_concat (hc c List.mem_cons_self), ih hback]
  | cons c front ih =>
      obtain ⟨hc, hfront⟩ := List.forall_mem_cons.mp hfront
      rw [List.cons_append, List.cons_append, trimBoth_cons hc, ih hfront]

theorem trimEnd_append_cons {c : Char} (hc : drop c = false) (cs rest : List Char) :
    trimEnd drop (cs ++ c :: rest) = cs ++ c :: trimEnd drop rest := by
  have hstop : (c :: cs.reverse).dropWhile drop = c :: cs.reverse :=
    List.dropWhile_cons_of_neg (by rw [hc]; decide)
  have hreverse : (cs ++ c :: rest).reverse = rest.reverse ++ c :: cs.reverse := by simp
  unfold trimEnd
  rw [hreverse, List.dropWhile_append]
  split
  · next hempty => simp [hstop, List.isEmpty_iff.mp hempty]
  · simp

/-- Trimming drops a lead, and stops at a character that it leaves. -/
theorem trimBoth_append {lead : List Char} (hlead : ∀ c ∈ lead, drop c = true) {first last : Char}
    (hfirst : drop first = false) (hlast : drop last = false) (cs rest : List Char) :
    trimBoth drop (lead ++ first :: cs ++ last :: rest) =
      first :: cs ++ last :: trimEnd drop rest := by
  have hstart : (lead ++ first :: cs ++ last :: rest).dropWhile drop =
      first :: cs ++ last :: rest := by
    rw [List.append_assoc, List.dropWhile_append_of_pos hlead]
    exact List.dropWhile_cons_of_neg (by rw [hfirst]; decide)
  unfold trimBoth
  rw [hstart]
  exact trimEnd_append_cons hlast (first :: cs) rest

end Trimming

end ComponentCensus.Text
