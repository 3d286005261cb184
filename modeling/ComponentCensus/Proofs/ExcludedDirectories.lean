import ComponentCensus.Files.Discovery
import ComponentCensus.Proofs.Cuts
import Mathlib.Data.List.Infix
import Mathlib.Tactic.Common

/-!
# Excluded directories

An exclusion `**/D/**` is not matched part by part.  It becomes two wildcards, whose stars run
across slashes, for the text of the path and two more for the texts of the directories above it.
All the same it excludes the files with a directory of this name above them, and no others, as long
as the name has no special characters (`IsPlainName`).

## Main results

* `exclusion_of_directories` : an exclusion of a plain name excludes what lies in a directory of
  this name, and several exclusions exclude what one of them does.

## Strategy

* For a name without special characters each of the four wildcards asks for a stretch of text at
  one end or anywhere (`matches?_word` and the lemmas behind it).
* With a slash put in front of the path the first two together ask for the name between slashes
  (`infix_rooted_join_iff`), and cutting there shows that it is a whole part, and not the last one.
* The other two ask the same of the directories above, which adds nothing
  (`mem_dropLast_of_suffix_directory`).
-/

namespace ComponentCensus

/-! ## Pieces between separators -/

namespace Text

section Joined

variable {sep : Char} {piece : List Char} {pieces : List (List Char)}

/-- A separator in a text that starts with one stands before some of the pieces. -/
theorem exists_above_of_rooted (hpieces : pieces ≠ []) (hsep : ∀ piece ∈ pieces, sep ∉ piece)
    {front rest : List Char} (htext : front ++ sep :: rest = sep :: join sep pieces) :
    ∃ above, pieces = above ++ splitOn sep rest := by
  have hcut : splitOn sep front ++ splitOn sep rest = [] :: pieces := by
    rw [← splitOn_append_cons, htext, splitOn, if_pos rfl, splitOn_join hpieces hsep]
  obtain ⟨first, above, hfront⟩ := List.exists_cons_of_ne_nil (splitOn_ne_nil sep front)
  rw [hfront, List.cons_append] at hcut
  exact ⟨above, (List.cons.inj hcut).2.symm⟩

/-- With a separator put in front, the pieces but the last are those between two separators. -/
theorem infix_rooted_join_iff (hpiece : sep ∉ piece) (hpieces : pieces ≠ [])
    (hsep : ∀ piece ∈ pieces, sep ∉ piece) :
    sep :: piece ++ [sep] <:+: sep :: join sep pieces ↔ piece ∈ pieces.dropLast := by
  constructor
  · rintro ⟨front, back, htext⟩
    -- the name stands behind a separator, so what is before it is made of whole pieces
    have hbehind : front ++ sep :: (piece ++ sep :: back) = sep :: join sep pieces := by
      rw [← htext]
      simp
    obtain ⟨above, rfl⟩ := exists_above_of_rooted hpieces hsep hbehind
    rw [splitOn_append hpiece, List.dropLast_append_of_ne_nil (List.cons_ne_nil _ _),
      List.dropLast_cons_of_ne_nil (splitOn_ne_nil sep back)]
    simp
  · intro hmem
    obtain ⟨above, below, hsplit⟩ := List.append_of_mem hmem
    -- the last piece stands behind this one, so a separator follows it
    have hlast : pieces = above ++ piece :: (below ++ [pieces.getLast hpieces]) := by
      conv_lhs => rw [← List.dropLast_append_getLast hpieces, hsplit]
      simp
    generalize pieces.getLast hpieces = last at hlast
    have hrest : below ++ [last] ≠ [] := by simp
    refine ⟨join sep ([] :: above), join sep (below ++ [last]), ?_⟩
    calc join sep ([] :: above) ++ (sep :: piece ++ [sep]) ++ join sep (below ++ [last])
        = join sep ([] :: above) ++ sep :: join sep (piece :: (below ++ [last])) := by
          rw [join_cons hrest]
          simp
      _ = join sep ([] :: pieces) := by
          rw [hlast, ← join_append (List.cons_ne_nil _ _) (List.cons_ne_nil _ _), List.cons_append]
      _ = sep :: join sep pieces := by rw [join_cons hpieces, List.nil_append]

/-- What ends the text behind a separator and holds none is one of the pieces. -/
theorem mem_of_suffix_rooted_join (hpiece : sep ∉ piece) (hpieces : pieces ≠ [])
    (hsep : ∀ piece ∈ pieces, sep ∉ piece) (hsuffix : sep :: piece <:+ sep :: join sep pieces) :
    piece ∈ pieces := by
  obtain ⟨front, htext⟩ := hsuffix
  obtain ⟨above, rfl⟩ := exists_above_of_rooted hpieces hsep htext
  simp [splitOn_of_not_mem hpiece]

end Joined

end Text

namespace Files

open ComponentCensus.Text

/-! ## Wildcards with stars at their ends -/

namespace Wildcard

section Pieces

variable {pieces : List Piece} {cs : List Char}

theorem accepted_nil : accepted [] cs = true ↔ cs = [] := by
  cases cs <;> simp [accepted]

theorem accepted_star :
    accepted (.star :: pieces) cs = true ↔ ∃ back, back <:+ cs ∧ accepted pieces back = true := by
  induction cs with
  | nil => simp [accepted, List.suffix_nil]
  | cons c cs ih =>
      rw [accepted, Bool.or_eq_true, ih]
      simp [List.suffix_cons_iff, or_and_right, exists_or]

theorem accepted_word (word : List Char) :
    accepted (word.map .char ++ pieces) cs = true ↔
      ∃ back, cs = word ++ back ∧ accepted pieces back = true := by
  induction word generalizing cs with
  | nil => simp
  | cons c word ih =>
      cases cs with
      | nil => simp [accepted]
      | cons d cs =>
          rw [List.map_cons, List.cons_append, accepted, Bool.and_eq_true, ih]
          · simp [accepts, @eq_comm _ d c, and_assoc]
          · simp

end Pieces

section Words

variable {word text : String}

theorem isPattern_eq_false_iff :
    isPattern word = false ↔ ∀ c ∈ word.toList, c ≠ '*' ∧ c ≠ '?' ∧ c ≠ '[' := by
  simp only [isPattern, hasChar, Bool.or_eq_false_iff, List.contains_eq_mem,
    decide_eq_false_iff_not]
  grind

/-- A text without special characters stands for itself. -/
theorem piecesFrom_word {word : List Char} (hword : ∀ c ∈ word, c ≠ '*' ∧ c ≠ '?' ∧ c ≠ '[')
    (fuel : Nat) (rest : List Char) :
    piecesFrom (word.length + fuel) (word ++ rest) = word.map .char ++ piecesFrom fuel rest := by
  induction word with
  | nil => simp
  | cons c word ih =>
      obtain ⟨⟨hstar, hmark, hbracket⟩, hword⟩ := List.forall_mem_cons.mp hword
      rw [List.length_cons, Nat.add_right_comm, List.cons_append, piecesFrom, if_neg hstar,
        if_neg hmark, if_neg hbracket, ih hword, List.map_cons, List.cons_append]

theorem matches?_word (hword : isPattern word = false) :
    matches? word text = true ↔ text = word := by
  have hpieces := piecesFrom_word (isPattern_eq_false_iff.mp hword) 0 []
  rw [List.append_nil, Nat.add_zero, String.length_toList] at hpieces
  rw [matches?, hpieces, accepted_word]
  simp [piecesFrom, accepted_nil, String.toList_inj]

theorem matches?_word_star (hword : isPattern word = false) :
    matches? (word ++ "*") text = true ↔ word.toList <+: text.toList := by
  have hpieces : piecesFrom (word ++ "*").length (word ++ "*").toList =
      word.toList.map .char ++ [.star] := by
    rw [String.length_append, String.toList_append, ← String.length_toList]
    exact piecesFrom_word (isPattern_eq_false_iff.mp hword) 1 ['*']
  have hstar (cs : List Char) : accepted [.star] cs = true :=
    accepted_star.mpr ⟨[], List.nil_suffix, accepted_nil.mpr rfl⟩
  rw [matches?, hpieces, accepted_word]
  simp [hstar, List.IsPrefix, eq_comm]

theorem matches?_star (pattern text : String) :
    matches? ("*" ++ pattern) text = true ↔
      ∃ back, back.toList <:+ text.toList ∧ matches? pattern back = true := by
  have hpieces : piecesFrom ("*" ++ pattern).length ("*" ++ pattern).toList =
      .star :: piecesFrom pattern.length pattern.toList := by
    rw [String.length_append, String.toList_append, Nat.add_comm]
    rfl
  rw [matches?, hpieces, accepted_star]
  constructor
  · rintro ⟨back, hback, haccepted⟩
    refine ⟨String.ofList back, ?_, ?_⟩
    · rwa [String.toList_ofList]
    · rwa [matches?, String.toList_ofList]
  · rintro ⟨back, hback, haccepted⟩
    exact ⟨back.toList, hback, haccepted⟩

theorem matches?_star_word (hword : isPattern word = false) :
    matches? ("*" ++ word) text = true ↔ word.toList <:+ text.toList := by
  simp [matches?_star, matches?_word hword]

theorem matches?_star_word_star (hword : isPattern word = false) :
    matches? ("*" ++ (word ++ "*")) text = true ↔ word.toList <:+: text.toList := by
  rw [matches?_star, List.infix_iff_prefix_suffix]
  constructor
  · rintro ⟨back, hback, hmatches⟩
    exact ⟨back.toList, (matches?_word_star hword).mp hmatches, hback⟩
  · rintro ⟨back, hprefix, hback⟩
    refine ⟨String.ofList back, ?_, (matches?_word_star hword).mpr ?_⟩
    · rwa [String.toList_ofList]
    · rwa [String.toList_ofList]

end Words

end Wildcard

/-! ## Paths as texts -/

namespace Path

/-- The parts that the text of a relative path shows; the empty path shows a dot. -/
def shownParts (parts : List String) : List String :=
  if parts.isEmpty then ["."] else parts

theorem shownParts_ne_nil (parts : List String) : shownParts parts ≠ [] := by
  cases parts <;> simp [shownParts]

theorem dropLast_shownParts (parts : List String) :
    (shownParts parts).dropLast = parts.dropLast := by
  cases parts <;> simp [shownParts]

theorem toList_text (parts : List String) :
    (text { parts := parts }).toList = join '/' ((shownParts parts).map String.toList) := by
  cases parts with
  | nil => rfl
  | cons part rest =>
      rw [join_eq_intercalate]
      simp [text, joinWith, shownParts, String.toList_intercalate]

theorem mem_directories {path directory : Path} :
    directory ∈ path.directories ↔
      ∃ n < path.parts.length, directory = { path with parts := path.parts.take n } := by
  simp [directories, eq_comm]

end Path

/-! ## The exclusion of a directory -/

/-- The pattern that excludes what lies below a directory of some name. -/
def directoryPattern (name : String) : String :=
  "**/" ++ name ++ "/**"

/-- A name that a directory may have and that a wildcard matches literally. -/
structure IsPlainName (name : String) : Prop where
  ne_empty : name ≠ ""
  ne_dot : name ≠ "."
  slashless : hasChar '/' name = false
  literal : Wildcard.isPattern name = false

section Directory

variable {name : String}

theorem IsPlainName.not_mem_slash (hname : IsPlainName name) : '/' ∉ name.toList := by
  simpa [hasChar] using hname.slashless

theorem IsPlainName.not_mem_star (hname : IsPlainName name) : '*' ∉ name.toList := fun hmem =>
  (Wildcard.isPattern_eq_false_iff.mp hname.literal '*' hmem).1 rfl

/-- A name stays literal with slashes at its ends. -/
theorem IsPlainName.literal_append (hname : IsPlainName name) {front back : String}
    (hfront : Wildcard.isPattern front = false) (hback : Wildcard.isPattern back = false) :
    Wildcard.isPattern (front ++ name ++ back) = false := by
  simp only [Wildcard.isPattern_eq_false_iff, String.toList_append, List.mem_append] at *
  rintro c ((hc | hc) | hc)
  · exact hfront c hc
  · exact Wildcard.isPattern_eq_false_iff.mp hname.literal c hc
  · exact hback c hc

theorem singleStars_word_stars {word : String} (hword : '*' ∉ word.toList) :
    singleStars (word ++ "**") = word ++ "*" := by
  rw [← String.toList_inj, singleStars, String.toList_ofList, String.toList_append,
    collapsePairs_append hword, String.toList_append]
  rfl

theorem toList_directoryPattern (name : String) :
    (directoryPattern name).toList = '*' :: '*' :: '/' :: (name ++ "/" ++ "**").toList := by
  simp [directoryPattern]

theorem exclusionWildcards_directoryPattern (hname : IsPlainName name) :
    exclusionWildcards (directoryPattern name) =
      ["*" ++ ("/" ++ name ++ "/" ++ "*"), "" ++ name ++ "/" ++ "*"] := by
  have hstart : startsWith (directoryPattern name) "**/" = true := by
    simp [startsWith, toList_directoryPattern]
  have hrest : String.ofList ((directoryPattern name).toList.drop 3) =
      "" ++ name ++ "/" ++ "**" := by
    rw [toList_directoryPattern, ← String.toList_inj, String.toList_ofList]
    simp
  have hrooted : singleStars (directoryPattern name) = "*" ++ ("/" ++ name ++ "/" ++ "*") := by
    have hword : '*' ∉ ("/" ++ name ++ "/").toList := by simp [hname.not_mem_star]
    rw [← singleStars_word_stars hword, singleStars, toList_directoryPattern]
    simp [singleStars, collapsePairs]
  rw [exclusionWildcards, if_pos hstart, hrest, hrooted, singleStars_word_stars]
  simp [hname.not_mem_star]

/-- The slash and the star behind a name are trimmed, and nothing of the name. -/
theorem directoryWildcard_word (hname : IsPlainName name) (front : String) :
    directoryWildcard (front ++ name ++ "/" ++ "*") = front ++ name := by
  -- trimming stops at the last character of the name
  obtain ⟨init, last, hsplit⟩ : ∃ init last, name.toList = init ++ [last] := by
    have hne : name.toList ≠ [] := by simpa using hname.ne_empty
    exact ⟨_, _, (List.dropLast_append_getLast hne).symm⟩
  have hslash : last ≠ '/' := by
    rintro rfl
    exact hname.not_mem_slash (by simp [hsplit])
  have hstar : last ≠ '*' := by
    rintro rfl
    exact hname.not_mem_star (by simp [hsplit])
  have htext : (front ++ name ++ "/" ++ "*").toList =
      (front.toList ++ init) ++ last :: ['/', '*'] := by
    simp [hsplit]
  rw [directoryWildcard, htext, trimEnd_append_cons (by simp [hslash, hstar]),
    ← String.toList_inj, String.toList_ofList]
  simp [hsplit, trimEnd]

/-- The two wildcards for a path ask for the name between slashes, the one in front of the path
included. -/
theorem matches?_either_iff (hname : IsPlainName name) (text : String) :
    (Wildcard.matches? ("*" ++ ("/" ++ name ++ "/" ++ "*")) text = true ∨
        Wildcard.matches? ("" ++ name ++ "/" ++ "*") text = true) ↔
      '/' :: name.toList ++ ['/'] <:+: '/' :: text.toList := by
  have hrooted := hname.literal_append (by decide : Wildcard.isPattern "/" = false)
    (by decide : Wildcard.isPattern "/" = false)
  have hfirst := hname.literal_append (by decide : Wildcard.isPattern "" = false)
    (by decide : Wildcard.isPattern "/" = false)
  rw [Wildcard.matches?_star_word_star hrooted, Wildcard.matches?_word_star hfirst,
    List.infix_cons_iff, or_comm]
  simp [List.cons_prefix_cons]

/-- The two wildcards for a directory ask for the name behind a slash at the end. -/
theorem matches?_either_directory_iff (hname : IsPlainName name) (text : String) :
    (Wildcard.matches? (directoryWildcard ("*" ++ ("/" ++ name ++ "/" ++ "*"))) text = true ∨
        Wildcard.matches? (directoryWildcard ("" ++ name ++ "/" ++ "*")) text = true) ↔
      '/' :: name.toList <:+ '/' :: text.toList := by
  have hrooted : directoryWildcard ("*" ++ ("/" ++ name ++ "/" ++ "*")) =
      "*" ++ ("/" ++ name ++ "") := by
    simpa only [String.append_assoc, String.append_empty] using
      directoryWildcard_word hname ("*" ++ "/")
  have hfirst : directoryWildcard ("" ++ name ++ "/" ++ "*") = name := by
    rw [directoryWildcard_word hname, String.empty_append]
  have hliteral := hname.literal_append (by decide : Wildcard.isPattern "/" = false)
    (by decide : Wildcard.isPattern "" = false)
  rw [hrooted, hfirst, Wildcard.matches?_star_word hliteral, Wildcard.matches?_word hname.literal,
    List.suffix_cons_iff, or_comm]
  simp [String.toList_inj, eq_comm]

/-- What the exclusion of a directory asks of the texts of a path and of the directories above. -/
theorem isExcludedBy_iff_texts (hname : IsPlainName name) (relative : Path) :
    isExcludedBy (directoryPattern name) relative = true ↔
      '/' :: name.toList ++ ['/'] <:+: '/' :: relative.text.toList ∨
        ∃ directory ∈ relative.directories,
          '/' :: name.toList <:+ '/' :: directory.text.toList := by
  rw [← matches?_either_iff hname]
  simp only [← matches?_either_directory_iff hname, isExcludedBy,
    exclusionWildcards_directoryPattern hname, List.any_cons, List.any_nil, Bool.or_false,
    Bool.or_eq_true, List.any_eq_true, and_or_left, exists_or]
  exact or_or_or_comm

section Parts

variable {parts : List String}

theorem not_mem_slash_shownParts (hparts : ∀ part ∈ parts, hasChar '/' part = false) :
    ∀ piece ∈ (Path.shownParts parts).map String.toList, '/' ∉ piece := by
  intro piece hpiece
  obtain ⟨part, hpart, rfl⟩ := List.mem_map.mp hpiece
  cases parts with
  | nil =>
      obtain rfl := List.mem_singleton.mp hpart
      decide
  | cons first rest => simpa [hasChar] using hparts part hpart

/-- With a slash in front, the text of a path holds a name between slashes exactly if the path has a
directory of that name. -/
theorem infix_text_iff (hname : IsPlainName name)
    (hparts : ∀ part ∈ parts, hasChar '/' part = false) :
    '/' :: name.toList ++ ['/'] <:+: '/' :: (Path.text { parts := parts }).toList ↔
      name ∈ parts.dropLast := by
  have hne : (Path.shownParts parts).map String.toList ≠ [] := by simp [Path.shownParts_ne_nil]
  rw [Path.toList_text, infix_rooted_join_iff hname.not_mem_slash hne
    (not_mem_slash_shownParts hparts), ← List.map_dropLast, Path.dropLast_shownParts,
    List.mem_map_of_injective fun _ _ => String.toList_inj.mp]

theorem mem_of_suffix_text (hname : IsPlainName name)
    (hparts : ∀ part ∈ parts, hasChar '/' part = false)
    (hsuffix : '/' :: name.toList <:+ '/' :: (Path.text { parts := parts }).toList) :
    name ∈ parts := by
  have hne : (Path.shownParts parts).map String.toList ≠ [] := by simp [Path.shownParts_ne_nil]
  rw [Path.toList_text] at hsuffix
  have hmem := mem_of_suffix_rooted_join hname.not_mem_slash hne (not_mem_slash_shownParts hparts)
    hsuffix
  rw [List.mem_map_of_injective fun _ _ => String.toList_inj.mp] at hmem
  cases parts with
  | nil => exact absurd (List.mem_singleton.mp hmem) hname.ne_dot
  | cons first rest => exact hmem

/-- The directories above a path add nothing: each of them is one of its directories. -/
theorem mem_dropLast_of_suffix_directory (hname : IsPlainName name)
    (hparts : ∀ part ∈ parts, hasChar '/' part = false) {directory : Path}
    (hdirectory : directory ∈ Path.directories { parts := parts })
    (hsuffix : '/' :: name.toList <:+ '/' :: directory.text.toList) : name ∈ parts.dropLast := by
  obtain ⟨n, hn, rfl⟩ := Path.mem_directories.mp hdirectory
  -- a directory above the path lacks at least the last part, so its parts are all directories
  have hmem : name ∈ parts.take n :=
    mem_of_suffix_text hname (fun part hpart => hparts part (List.mem_of_mem_take hpart)) hsuffix
  have hle : n ≤ parts.length - 1 := Nat.le_sub_one_of_lt hn
  rw [List.dropLast_eq_take]
  exact (List.take_isPrefix_take.mpr (Or.inl hle)).subset hmem

/-- Exactly what lies below a directory of the name is excluded. -/
theorem isExcludedBy_directoryPattern (hname : IsPlainName name)
    (hparts : ∀ part ∈ parts, hasChar '/' part = false) :
    isExcludedBy (directoryPattern name) { parts := parts } = true ↔ name ∈ parts.dropLast := by
  rw [isExcludedBy_iff_texts hname, infix_text_iff hname hparts]
  constructor
  · rintro (hmem | ⟨directory, hdirectory, hsuffix⟩)
    · exact hmem
    · exact mem_dropLast_of_suffix_directory hname hparts hdirectory hsuffix
  · exact Or.inl

end Parts

end Directory

/-! ## Lists of exclusions -/

/-- Patterns that are texts are tried without fault, and one that matches is enough. -/
theorem isExcludedByAny_texts (patterns : List String) (relative : Path) :
    isExcludedByAny relative (patterns.map .str) =
      .ok (patterns.any fun pattern => isExcludedBy pattern relative) := by
  induction patterns with
  | nil => rfl
  | cons pattern rest ih =>
      rw [List.map_cons, isExcludedByAny, List.any_cons]
      show (if isExcludedBy pattern relative = true then _ else _) = _
      split
      · next hmatches =>
        rw [hmatches]
        rfl
      · next hmatches =>
        rw [Bool.eq_false_iff.mpr hmatches, Bool.false_or]
        exact ih

theorem isExcluded_texts (root : Path) (patterns endings : List String) (file : Path) :
    (Discovery.mk root (patterns.map .str) endings).isExcluded file =
      .ok ((file.relativeTo? root).any fun relative =>
        patterns.any fun pattern => isExcludedBy pattern relative) := by
  rw [Discovery.isExcluded]
  cases file.relativeTo? root with
  | none => rfl
  | some relative => exact isExcludedByAny_texts patterns relative

theorem relativeTo?_append (root : Path) (parts : List String) :
    (root.append { parts := parts }).relativeTo? root = some { parts := parts } := by
  simp [Path.append, Path.isAbsolute, Path.relativeTo?]

/-- **Exclusion of directories.**  A file at some path below the project root is left out by the
pattern `**/D/**` exactly if `D` is one of the directories on that path; the name of the file itself
does not count.  With several patterns a file is left out exactly if one of them alone leaves it
out. -/
theorem exclusion_of_directories (root : Path) (endings : List String) :
    (∀ name, IsPlainName name → ∀ parts : List String,
      (∀ part ∈ parts, hasChar '/' part = false) →
        (Discovery.mk root [.str (directoryPattern name)] endings).isExcluded
          (root.append { parts := parts }) = .ok (decide (name ∈ parts.dropLast))) ∧
    ∀ (patterns : List String) (file : Path), ∃ excluded,
      (Discovery.mk root (patterns.map .str) endings).isExcluded file = .ok excluded ∧
      (excluded = true ↔ ∃ pattern ∈ patterns,
        (Discovery.mk root [.str pattern] endings).isExcluded file = .ok true) := by
  have hsingle (pattern : String) (file : Path) :
      (Discovery.mk root [.str pattern] endings).isExcluded file =
        .ok ((file.relativeTo? root).any fun relative => isExcludedBy pattern relative) := by
    simpa using isExcluded_texts root [pattern] endings file
  constructor
  · intro name hname parts hparts
    rw [hsingle, relativeTo?_append]
    congr 1
    rw [Bool.eq_iff_iff, decide_eq_true_iff]
    exact isExcludedBy_directoryPattern hname hparts
  · intro patterns file
    refine ⟨_, isExcluded_texts root patterns endings file, ?_⟩
    simp only [hsingle, Except.ok.injEq]
    cases file.relativeTo? root with
    | none => simp
    | some relative => simp

/-- A directory `dist` below the root is left out with all below it, unlike a file of that name and
a directory whose name only ends like it. -/
theorem exclusion_of_dist :
    IsPlainName "dist" ∧
      (∀ part ∈ ["lib", "dist", "a.js"], hasChar '/' part = false) ∧
      (Discovery.mk (Path.ofText "/p") [.str "**/dist/**"] []).isExcluded
        (Path.ofText "/p/lib/dist/a.js") = .ok true ∧
      (Discovery.mk (Path.ofText "/p") [.str "**/dist/**"] []).isExcluded
        (Path.ofText "/p/my-dist/dist") = .ok false := by
  have hname : IsPlainName "dist" := ⟨by decide, by decide, by decide, by decide⟩
  have hparts : ∀ part ∈ ["lib", "dist", "a.js"], hasChar '/' part = false := by decide
  obtain ⟨hexact, -⟩ := exclusion_of_directories (Path.ofText "/p") []
  refine ⟨hname, hparts, ?_, ?_⟩
  · exact hexact "dist" hname ["lib", "dist", "a.js"] hparts
  · exact hexact "dist" hname ["my-dist", "dist"] (by decide)

end Files

end ComponentCensus
