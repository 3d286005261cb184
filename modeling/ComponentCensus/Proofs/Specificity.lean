import ComponentCensus.Package.Attribution
import Mathlib.Data.List.Infix
import Mathlib.Tactic.Common

/-!
# The most specific package

An import source is a path, and a package owns the sources at its own path and below it.  The
search for the owner never looks at paths as such: it compares texts and takes the longest package
that fits.  Here both are put in terms of the segments between slashes.

## Main results

* `most_specific_package_wins` : a source that is no local path belongs to the package with the
  most segments among those that own it (`IsMostSpecific`), and to none if there is no such
  package; neither the order nor the repetition of packages matters.

## Strategy

* A package owns a source if its segments start those of the source
  (`matchesLibrary_iff_segments`): the text of the package starts that of the source, and a slash
  or nothing follows.
* Of the packages that own a source each starts the next longer one, so the longest one is the one
  with the most segments (`length_segments_lt`).
* The search takes the first owner in a list that is sorted by length (`isMostSpecific_of_find?`),
  and there is only one such package (`IsMostSpecific.unique`).
-/

namespace ComponentCensus

/-! ## Pieces at the start -/

namespace Text

variable {sep : Char}

theorem splitOn_cons_of_ne {c : Char} (hc : c ≠ sep) (rest : List Char) :
    ∃ piece pieces, splitOn sep rest = piece :: pieces ∧
      splitOn sep (c :: rest) = (c :: piece) :: pieces := by
  obtain ⟨piece, pieces, hpieces⟩ := List.exists_cons_of_ne_nil (splitOn_ne_nil sep rest)
  exact ⟨piece, pieces, hpieces, by rw [splitOn, if_neg hc, hpieces]⟩

theorem splitOn_cons_self (rest : List Char) :
    splitOn sep (sep :: rest) = [] :: splitOn sep rest := by
  rw [splitOn, if_pos rfl]

/-- The pieces of a text start those of another one if the texts are equal or a separator
follows. -/
theorem splitOn_isPrefix_iff {cs ds : List Char} :
    splitOn sep cs <+: splitOn sep ds ↔ cs = ds ∨ cs ++ [sep] <+: ds := by
  induction cs generalizing ds with
  | nil =>
      cases ds with
      | nil => simp [splitOn]
      | cons d ds =>
          by_cases hd : d = sep
          · subst hd
            simp [splitOn]
          · obtain ⟨piece, pieces, -, hcut⟩ := splitOn_cons_of_ne hd ds
            have hne : ¬ sep = d := fun heq => hd heq.symm
            rw [hcut]
            simp [splitOn, List.cons_prefix_cons, hne]
  | cons c cs ih =>
      cases ds with
      | nil =>
          -- a text that is not empty has a first piece that is not, or more than one piece
          by_cases hc : c = sep
          · subst hc
            simp [splitOn, List.cons_prefix_cons, splitOn_ne_nil]
          · obtain ⟨piece, pieces, -, hcut⟩ := splitOn_cons_of_ne hc cs
            rw [hcut]
            simp [splitOn, List.cons_prefix_cons]
      | cons d ds =>
          have hright : (c :: cs = d :: ds ∨ (c :: cs) ++ [sep] <+: d :: ds) ↔
              c = d ∧ (cs = ds ∨ cs ++ [sep] <+: ds) := by
            rw [List.cons_append, List.cons_prefix_cons, List.cons.injEq, ← and_or_left]
          rw [hright, ← ih]
          by_cases hc : c = sep
          · subst hc
            by_cases hd : d = c
            · subst hd
              simp [splitOn_cons_self, List.cons_prefix_cons]
            · obtain ⟨piece, pieces, -, hcut⟩ := splitOn_cons_of_ne hd ds
              have hne : ¬ c = d := fun heq => hd heq.symm
              simp [splitOn_cons_self, hcut, List.cons_prefix_cons, hne]
          · obtain ⟨piece, pieces, hrest, hcut⟩ := splitOn_cons_of_ne hc cs
            by_cases hd : d = sep
            · subst hd
              simp [splitOn_cons_self, hcut, List.cons_prefix_cons, hc]
            · obtain ⟨piece', pieces', hrest', hcut'⟩ := splitOn_cons_of_ne hd ds
              simp [hcut, hcut', hrest, hrest', List.cons_prefix_cons, and_assoc]

end Text

/-- A source belongs to a library if it is the library or starts with the library and a slash. -/
theorem Report.matchesLibrary_iff {source library : String} :
    Report.matchesLibrary source library = true ↔
      source = library ∨ (library ++ "/").toList <+: source.toList := by
  unfold Report.matchesLibrary Text.startsWith
  rw [Bool.or_eq_true, decide_eq_true_iff, List.isPrefixOf_iff_prefix]

namespace Package

open ComponentCensus.Text

/-! ## Segments -/

/-- The segments of a path. -/
def segments (path : String) : List String :=
  pieces '/' path

section Segments

variable {source library package other : String}

/-- A package owns the sources whose segments start with its own. -/
theorem matchesLibrary_iff_segments :
    Report.matchesLibrary source library = true ↔ segments library <+: segments source := by
  have hslash : ['/'] = "/".toList := rfl
  rw [segments, segments, pieces, pieces,
    List.prefix_map_iff_of_injective fun _ _ => String.ofList_injective, splitOn_isPrefix_iff,
    hslash, ← String.toList_append, String.toList_inj, Report.matchesLibrary_iff,
    @eq_comm _ source library]

theorem eq_of_segments_eq (hsegments : segments package = segments other) : package = other := by
  have hpieces : splitOn '/' package.toList = splitOn '/' other.toList :=
    List.map_injective_iff.mpr (fun _ _ => String.ofList_injective) hsegments
  rw [← String.toList_inj, ← join_splitOn '/' package.toList, hpieces, join_splitOn]

/-- What has more segments is longer. -/
theorem length_lt_of_segments (hsegments : segments package <+: segments other)
    (hne : package ≠ other) : package.length < other.length := by
  have hmatches := Report.matchesLibrary_iff.mp (matchesLibrary_iff_segments.mpr hsegments)
  have hlength := (hmatches.resolve_left fun heq => hne heq.symm).length_le
  rw [String.toList_append, List.length_append, String.length_toList,
    String.length_toList] at hlength
  exact hlength

/-- Of two packages that own a source, the one that is not shorter has more segments. -/
theorem length_segments_lt (hpackage : segments package <+: segments source)
    (hother : segments other <+: segments source) (hlength : other.length ≤ package.length)
    (hne : other ≠ package) : (segments other).length < (segments package).length := by
  rcases List.prefix_or_prefix_of_prefix hother hpackage with hbelow | habove
  · refine lt_of_le_of_ne hbelow.length_le fun hsame => hne ?_
    exact eq_of_segments_eq (hbelow.eq_of_length hsame)
  · have hlonger := length_lt_of_segments habove hne.symm
    omega

end Segments

/-! ## The search for the owner -/

/-- The package that owns a source and has more segments than all others that do. -/
structure IsMostSpecific (source : String) (packages : List String) (package : String) : Prop where
  available : package ∈ packages
  owns : segments package <+: segments source
  deepest : ∀ other ∈ packages, segments other <+: segments source → other ≠ package →
    (segments other).length < (segments package).length

section Search

variable {source package other : String} {packages others : List String}

theorem IsMostSpecific.unique (hpackage : IsMostSpecific source packages package)
    (hother : IsMostSpecific source packages other) : other = package := by
  by_contra hne
  have hless := hpackage.deepest other hother.available hother.owns hne
  have hmore := hother.deepest package hpackage.available hpackage.owns (Ne.symm hne)
  omega

theorem IsMostSpecific.congr (hsame : ∀ name, name ∈ packages ↔ name ∈ others)
    (hpackage : IsMostSpecific source packages package) : IsMostSpecific source others package where
  available := (hsame package).mp hpackage.available
  owns := hpackage.owns
  deepest := fun other hother => hpackage.deepest other ((hsame other).mpr hother)

theorem pairwise_longestFirst (names : List String) :
    (longestFirst names).Pairwise fun first second => second.length ≤ first.length := by
  have hsorted := @List.pairwise_mergeSort String (fun a b => decide (b.length ≤ a.length))
    (fun a b c hab hbc => by simp only [decide_eq_true_eq] at hab hbc ⊢; omega)
    (fun a b => by simp only [Bool.or_eq_true, decide_eq_true_eq]; omega) names
  exact hsorted.imp fun hle => of_decide_eq_true hle

/-- The first owner in the order of length is the most specific one. -/
theorem isMostSpecific_of_find?
    (hfound : (longestFirst packages).find? (Report.matchesLibrary source) = some package) :
    IsMostSpecific source packages package := by
  obtain ⟨howns, longer, shorter, hsplit, hlonger⟩ := List.find?_eq_some_iff_append.mp hfound
  have hmem : ∀ name, name ∈ packages ↔ name ∈ longer ++ package :: shorter := fun name => by
    rw [← hsplit, longestFirst, List.mem_mergeSort]
  have hsorted := pairwise_longestFirst packages
  rw [hsplit] at hsorted
  refine ⟨(hmem package).mpr (by simp), matchesLibrary_iff_segments.mp howns, ?_⟩
  intro other hother hsegments hne
  have hlength : other.length ≤ package.length := by
    rcases List.mem_append.mp ((hmem other).mp hother) with hbefore | hafter
    · have hnot := hlonger other hbefore
      rw [matchesLibrary_iff_segments.mpr hsegments] at hnot
      cases hnot
    · have hrest := (List.mem_cons.mp hafter).resolve_left hne
      exact (List.pairwise_cons.mp (List.pairwise_append.mp hsorted).2.1).1 other hrest
  exact length_segments_lt (matchesLibrary_iff_segments.mp howns) hsegments hlength hne

theorem resolve_of_not_isLocal (hlocal : isLocal source = false) :
    resolve source packages =
      ((longestFirst packages).find? (Report.matchesLibrary source)).getD unknownPackage := by
  rw [resolve, hlocal]
  rfl

theorem isMostSpecific_resolve (hlocal : isLocal source = false) (hmem : other ∈ packages)
    (howns : segments other <+: segments source) :
    IsMostSpecific source packages (resolve source packages) := by
  rw [resolve_of_not_isLocal hlocal]
  cases hfound : (longestFirst packages).find? (Report.matchesLibrary source) with
  | none =>
      have hnone := List.find?_eq_none.mp hfound other (List.mem_mergeSort.mpr hmem)
      exact absurd (matchesLibrary_iff_segments.mpr howns) hnone
  | some package => exact isMostSpecific_of_find? hfound

theorem resolve_eq_unknownPackage (hlocal : isLocal source = false)
    (hnone : ∀ name ∈ packages, ¬ segments name <+: segments source) :
    resolve source packages = unknownPackage := by
  have hfound : (longestFirst packages).find? (Report.matchesLibrary source) = none := by
    refine List.find?_eq_none.mpr fun name hname hmatches => ?_
    exact hnone name (List.mem_mergeSort.mp hname) (matchesLibrary_iff_segments.mp hmatches)
  rw [resolve_of_not_isLocal hlocal, hfound]
  rfl

end Search

/-- **The most specific package wins.**  A library owns a source if its segments start those of the
source.  A source that is no local path belongs to the one package that owns it with the most
segments, and to none if no package owns it, whatever the order and the repetition of packages. -/
theorem most_specific_package_wins :
    (∀ source library : String,
      Report.matchesLibrary source library = true ↔ segments library <+: segments source) ∧
    ∀ source : String, startsWith source "." = false → startsWith source "/" = false →
      ∀ packages : List String,
        ((∃ name ∈ packages, segments name <+: segments source) →
          ∀ package, resolve source packages = package ↔ IsMostSpecific source packages package) ∧
        ((¬ ∃ name ∈ packages, segments name <+: segments source) →
          resolve source packages = unknownPackage) ∧
        ∀ others : List String, (∀ name, name ∈ packages ↔ name ∈ others) →
          resolve source packages = resolve source others := by
  refine ⟨fun source library => matchesLibrary_iff_segments, fun source hdot hslash packages => ?_⟩
  have hlocal : isLocal source = false := by rw [isLocal, hdot, hslash]; rfl
  refine ⟨?_, fun hnone => ?_, fun others hsame => ?_⟩
  · rintro ⟨name, hname, howns⟩ package
    have hresolved := isMostSpecific_resolve hlocal hname howns
    exact ⟨fun heq => heq ▸ hresolved, fun hpackage => hpackage.unique hresolved⟩
  · exact resolve_eq_unknownPackage hlocal fun name hname howns => hnone ⟨name, hname, howns⟩
  · by_cases howner : ∃ name ∈ packages, segments name <+: segments source
    · obtain ⟨name, hname, howns⟩ := howner
      have hfirst := isMostSpecific_resolve hlocal hname howns
      have hsecond := isMostSpecific_resolve hlocal ((hsame name).mp hname) howns
      exact hsecond.unique (hfirst.congr hsame)
    · have hnone : ∀ name ∈ packages, ¬ segments name <+: segments source :=
        fun name hname howns => howner ⟨name, hname, howns⟩
      rw [resolve_eq_unknownPackage hlocal hnone, resolve_eq_unknownPackage hlocal
        fun name hname => hnone name ((hsame name).mpr hname)]

/-- Of a scope, a package in it and one with a longer name that looks alike, the package wins,
wherever it stands. -/
theorem most_specific_package_of_scope :
    startsWith "@a/u/B" "." = false ∧ startsWith "@a/u/B" "/" = false ∧
      resolve "@a/u/B" ["@a", "@a/u", "@a/u-i"] = "@a/u" ∧
      resolve "@a/u/B" ["@a/u-i", "@a/u", "@a", "@a/u"] = "@a/u" := by
  have hdot : startsWith "@a/u/B" "." = false := by cbv
  have hslash : startsWith "@a/u/B" "/" = false := by cbv
  have hsource : segments "@a/u/B" = ["@a", "u", "B"] := by cbv
  have hscope : segments "@a" = ["@a"] := by cbv
  have hpackage : segments "@a/u" = ["@a", "u"] := by cbv
  have halike : segments "@a/u-i" = ["@a", "u-i"] := by cbv
  obtain ⟨hresolve, -, hsame⟩ :=
    most_specific_package_wins.2 "@a/u/B" hdot hslash ["@a", "@a/u", "@a/u-i"]
  have howns : segments "@a/u" <+: segments "@a/u/B" := by simp [hsource, hpackage]
  have hspecific : IsMostSpecific "@a/u/B" ["@a", "@a/u", "@a/u-i"] "@a/u" :=
    ⟨by simp, howns, by simp [hsource, hscope, hpackage, halike]⟩
  have hresolved := (hresolve ⟨"@a/u", by simp, howns⟩ "@a/u").mpr hspecific
  have hagain := hsame ["@a/u-i", "@a/u", "@a", "@a/u"] fun name => by simp; tauto
  exact ⟨hdot, hslash, hresolved, hagain ▸ hresolved⟩

end Package

end ComponentCensus
