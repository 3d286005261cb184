import ComponentCensus.Lockfile.Npm
import ComponentCensus.Proofs.Entries
import Mathlib.Data.List.Infix

/-!
# Which install of a package counts

A flat lockfile maps install paths to packages, and a package may be installed at many paths.  An
install is unnested if its path has one install directory, and then it wins over nested copies.
The install at the top of the project is unnested, but so is one in the directory of a workspace
package, and of two unnested installs the one that is listed first wins.

## Main results

* `version_of_first_unnested_install` : the install at the top counts unless an unnested one with a
  version is listed before it, and then the first of those counts.
* `version_taken_from_workspace` : a lockfile in which the install of a workspace package comes
  first.

## Strategy

* The text of the install directory cannot overlap itself, for its last character stands nowhere
  else in it.  So the rest after the first occurrence is known once nothing occurs before it
  (`afterOccurrence?_append`), and the unnested installs are those whose paths are some directory,
  the install directory and a name (`installs_eq_singleton_iff`).
* The table of the unnested installs keeps the first version of each name, and nested installs only
  fill its gaps (`get?_flatVersions`).
-/

namespace ComponentCensus

/-! ## Occurrences -/

namespace Text

variable {part cs rest : List Char}

theorem afterOccurrence?_eq_none_iff (hpart : part ≠ []) :
    afterOccurrence? part cs = none ↔ ¬ part <:+: cs := by
  induction cs with
  | nil => simp [afterOccurrence?, hpart]
  | cons c cs ih =>
      rw [afterOccurrence?, List.infix_cons_iff, ← List.isPrefixOf_iff_prefix]
      split
      · next hstart => simp [hstart]
      · next hstart => simp [hstart, ih]

/-- Nothing occurs before the first occurrence. -/
theorem exists_of_afterOccurrence? (hpart : part ≠ [])
    (hrest : afterOccurrence? part cs = some rest) :
    ∃ lead, cs = lead ++ (part ++ rest) ∧ ¬ part <:+: lead := by
  induction cs with
  | nil => simp [afterOccurrence?, hpart] at hrest
  | cons c cs ih =>
      rw [afterOccurrence?] at hrest
      split at hrest
      · next hstart =>
        obtain ⟨tail, htail⟩ := List.isPrefixOf_iff_prefix.mp hstart
        refine ⟨[], ?_, by simpa using hpart⟩
        rw [← htail, List.drop_left, Option.some.injEq] at hrest
        rw [List.nil_append, ← hrest, htail]
      · next hstart =>
        obtain ⟨lead, hsplit, hlead⟩ := ih hrest
        refine ⟨c :: lead, by rw [hsplit, List.cons_append], fun hinfix => ?_⟩
        -- an occurrence that starts here would have been found here
        rcases List.infix_cons_iff.mp hinfix with hprefix | hinside
        · refine hstart (List.isPrefixOf_iff_prefix.mpr ?_)
          rw [hsplit, ← List.cons_append]
          exact hprefix.trans (List.prefix_append _ _)
        · exact hlead hinside

/-- A text whose last character stands nowhere else in it cannot start inside a lead and end in its
own next occurrence. -/
theorem not_isPrefix_of_lead {stem lead : List Char} {last : Char} (hlast : last ∉ stem)
    (hlead : ¬ (stem ++ [last]) <:+: lead) (hne : lead ≠ []) :
    ¬ (stem ++ [last]) <+: lead ++ (stem ++ [last] ++ rest) := by
  intro hprefix
  -- the occurrence lies within the lead, or it reaches into the next one
  by_cases hlength : (stem ++ [last]).length ≤ lead.length
  · have hinside := List.prefix_of_prefix_length_le hprefix (List.prefix_append _ _) hlength
    exact hlead hinside.isInfix
  · have hover := List.prefix_of_prefix_length_le (List.prefix_append _ _) hprefix (by omega)
    obtain ⟨tail, htail⟩ := hover
    have hlengths := congrArg List.length htail
    simp only [List.length_append, List.length_singleton] at hlengths hlength
    have hpositive := List.length_pos_iff.mpr hne
    -- what reaches into the next occurrence is a start of it that ends with its last character
    have hend : last ∈ tail := by
      have htails := congrArg List.getLast? htail
      rw [List.getLast?_append_of_ne_nil _ (by rintro rfl; simp at hlengths; omega),
        List.getLast?_concat] at htails
      exact List.mem_of_getLast? htails
    rw [← htail, List.prefix_append_right_inj, htail, List.append_assoc] at hprefix
    have hstart := List.prefix_of_prefix_length_le hprefix (List.prefix_append _ _) (by omega)
    exact hlast (hstart.subset hend)

theorem afterOccurrence?_append {stem lead : List Char} {last : Char} (hlast : last ∉ stem)
    (hlead : ¬ (stem ++ [last]) <:+: lead) :
    afterOccurrence? (stem ++ [last]) (lead ++ (stem ++ [last] ++ rest)) = some rest := by
  induction lead with
  | nil =>
      obtain ⟨c, cs, hcons⟩ := List.exists_cons_of_ne_nil
        (show stem ++ [last] ++ rest ≠ [] by simp)
      have hstart : (stem ++ [last]).isPrefixOf (c :: cs) = true :=
        List.isPrefixOf_iff_prefix.mpr (hcons ▸ List.prefix_append _ _)
      rw [List.nil_append, hcons, afterOccurrence?, if_pos hstart, ← hcons, List.drop_left]
  | cons c lead ih =>
      have hstart := @not_isPrefix_of_lead rest _ _ _ hlast hlead (List.cons_ne_nil _ _)
      rw [List.cons_append] at hstart ⊢
      rw [afterOccurrence?, if_neg (mt List.isPrefixOf_iff_prefix.mp hstart)]
      exact ih fun hinside => hlead (hinside.trans (List.suffix_cons c lead).isInfix)

end Text

namespace Lockfile.Npm

open ComponentCensus.Text

/-! ## Paths -/

/-- The path of an install of a package that is not inside another install. -/
def IsUnnested (name path : String) : Prop :=
  ∃ directory, occursIn installDirectory directory = false ∧
    path = directory ++ installDirectory ++ name

section Paths

variable {part cs : List Char} {name path : String} {fuel : Nat}

theorem restsAfter_eq_nil_iff (hpart : part ≠ []) (hfuel : cs.length ≤ fuel) :
    restsAfter part fuel cs = [] ↔ ¬ part <:+: cs := by
  rw [← afterOccurrence?_eq_none_iff hpart]
  cases fuel with
  | zero =>
      have hnil : cs = [] := List.length_eq_zero_iff.mp (by omega)
      simp [restsAfter, hnil, afterOccurrence?, hpart]
  | succ fuel =>
      rw [restsAfter]
      cases afterOccurrence? part cs <;> simp

theorem restsAfter_eq_singleton_iff {stem : List Char} {last : Char} (hlast : last ∉ stem)
    (hfuel : cs.length ≤ fuel) {rest : List Char} :
    restsAfter (stem ++ [last]) fuel cs = [rest] ↔
      ¬ (stem ++ [last]) <:+: rest ∧
        ∃ lead, ¬ (stem ++ [last]) <:+: lead ∧ cs = lead ++ (stem ++ [last] ++ rest) := by
  have hpart : stem ++ [last] ≠ [] := by simp
  constructor
  · intro hrests
    cases fuel with
    | zero => simp [restsAfter] at hrests
    | succ fuel =>
        rw [restsAfter] at hrests
        cases hafter : afterOccurrence? (stem ++ [last]) cs with
        | none => simp [hafter] at hrests
        | some found =>
            obtain ⟨lead, hsplit, hlead⟩ := exists_of_afterOccurrence? hpart hafter
            simp only [hafter, List.cons.injEq] at hrests
            obtain ⟨rfl, hnone⟩ := hrests
            -- each occurrence takes characters away, so the fuel lasts
            have hshorter : found.length ≤ fuel := by
              simp only [hsplit, List.length_append, List.length_singleton] at hfuel
              omega
            exact ⟨(restsAfter_eq_nil_iff hpart hshorter).mp hnone, lead, hlead, hsplit⟩
  · rintro ⟨hrest, lead, hlead, rfl⟩
    simp only [List.length_append, List.length_singleton] at hfuel
    obtain ⟨fuel, rfl⟩ := Nat.exists_eq_succ_of_ne_zero (show fuel ≠ 0 by omega)
    rw [restsAfter, afterOccurrence?_append hlast hlead]
    have hnone := (restsAfter_eq_nil_iff hpart (show rest.length ≤ fuel by omega)).mpr hrest
    simp [hnone]

theorem occursIn_installDirectory {text : String} :
    occursIn installDirectory text = false ↔ ¬ installDirectory.toList <:+: text.toList := by
  rw [← afterOccurrence?_eq_none_iff (by decide), occursIn, Option.isSome_eq_false_iff,
    Option.isNone_iff_eq_none]

/-- A path has one install directory if it is that of an unnested install. -/
theorem installs_eq_singleton_iff :
    installs path = [name.toList] ↔
      occursIn installDirectory name = false ∧ IsUnnested name path := by
  have hdirectory : installDirectory.toList = "node_modules".toList ++ ['/'] := by decide
  have hlength : path.toList.length ≤ path.length := String.length_toList.le
  rw [installs, hdirectory, restsAfter_eq_singleton_iff (by decide) hlength, ← hdirectory,
    ← occursIn_installDirectory]
  refine and_congr_right fun _ => ⟨?_, ?_⟩
  · rintro ⟨lead, hlead, hpath⟩
    refine ⟨String.ofList lead, occursIn_installDirectory.mpr (by simpa using hlead), ?_⟩
    rw [← String.toList_inj, hpath]
    simp
  · rintro ⟨directory, hlead, rfl⟩
    exact ⟨directory.toList, occursIn_installDirectory.mp hlead, by simp⟩

end Paths

/-! ## Tables -/

/-- The entry that an unnested install has in the table of versions. -/
def unnested? (entry : String × Value) : Option (String × String) :=
  match versionOf? entry.2, installs entry.1 with
  | some version, [name] => some (String.ofList name, version)
  | _, _ => none

section Tables

variable {packages before after : List (String × Value)} {entry : String × Value}
  {name version : String}

theorem unnested?_eq_some_iff :
    unnested? entry = some (name, version) ↔
      occursIn installDirectory name = false ∧ IsUnnested name entry.1 ∧
        versionOf? entry.2 = some version := by
  rw [← and_assoc, ← installs_eq_singleton_iff]
  unfold unnested?
  generalize versionOf? entry.2 = found
  generalize installs entry.1 = names
  cases found with
  | none => simp
  | some found =>
      rcases names with _ | ⟨first, _ | ⟨second, others⟩⟩
      · simp
      · have htext : String.ofList first = name ↔ first = name.toList := by
          rw [← String.toList_inj, String.toList_ofList]
        simp [htext]
      · simp

theorem hoisted_add (installed : Installed) (entry : String × Value) :
    (installed.add entry).hoisted = installed.hoisted.keepAll (unnested? entry).toList := by
  unfold Installed.add unnested?
  generalize versionOf? entry.2 = found
  generalize installs entry.1 = names
  cases found with
  | none => rfl
  | some found => rcases names with _ | ⟨first, _ | ⟨second, others⟩⟩ <;> rfl

theorem hoisted_foldl_add (installed : Installed) (packages : List (String × Value)) :
    (packages.foldl Installed.add installed).hoisted =
      installed.hoisted.keepAll (packages.filterMap unnested?) := by
  induction packages generalizing installed with
  | nil => rfl
  | cons entry rest ih =>
      rw [List.foldl_cons, ih, hoisted_add, List.filterMap_cons]
      cases unnested? entry <;> rfl

/-- Unnested installs come first, and nested ones only fill the gaps. -/
theorem get?_flatVersions (packages : List (String × Value)) (name : String) :
    (flatVersions packages).get? name =
      (Entries.get? name (packages.filterMap unnested?)).or
        (Entries.get? name (packages.foldl Installed.add {}).nested) := by
  rw [flatVersions, Entries.get?_keepAll, hoisted_foldl_add, Entries.get?_keepAll]
  rfl

/-- The first unnested install that has a version gives the version of its package. -/
theorem get?_flatVersions_of_unnested (hname : occursIn installDirectory name = false)
    (hbefore : ∀ earlier ∈ before, IsUnnested name earlier.1 → versionOf? earlier.2 = none)
    (hentry : IsUnnested name entry.1) (hversion : versionOf? entry.2 = some version) :
    (flatVersions (before ++ entry :: after)).get? name = some version := by
  -- nothing before the entry gives the name a version
  have hnone : Entries.get? name (before.filterMap unnested?) = none := by
    by_contra hsome
    obtain ⟨found, hfound⟩ := Option.ne_none_iff_exists'.mp hsome
    obtain ⟨earlier, hearlier, hread⟩ :=
      List.mem_filterMap.mp (Entries.mem_of_get?_eq_some hfound)
    obtain ⟨-, hunnested, hits⟩ := unnested?_eq_some_iff.mp hread
    rw [hbefore earlier hearlier hunnested] at hits
    cases hits
  have hread : unnested? entry = some (name, version) :=
    unnested?_eq_some_iff.mpr ⟨hname, hentry, hversion⟩
  rw [get?_flatVersions, List.filterMap_append, List.filterMap_cons, hread, Entries.get?_append,
    hnone]
  simp [Entries.get?]

end Tables

/-- The install of a package at the top of the project is unnested. -/
theorem isUnnested_top (name : String) : IsUnnested name (installDirectory ++ name) :=
  ⟨"", by decide, by rw [String.empty_append]⟩

/-- **The first unnested install wins.**  Whatever nested copies of a package there are, the install
at the top of the project gives the version unless an unnested copy with a version is listed before
it; then the first of these copies gives the version. -/
theorem version_of_first_unnested_install {name version : String} {info : Value}
    (hname : occursIn installDirectory name = false) (hversion : versionOf? info = some version)
    (before after : List (String × Value)) :
    ((∀ entry ∈ before, IsUnnested name entry.1 → versionOf? entry.2 = none) →
      (flatVersions (before ++ (installDirectory ++ name, info) :: after)).get? name =
        some version) ∧
    ∀ (earlier between : List (String × Value)) (copy : String × Value) (copied : String),
      before = earlier ++ copy :: between →
      (∀ entry ∈ earlier, IsUnnested name entry.1 → versionOf? entry.2 = none) →
      IsUnnested name copy.1 → versionOf? copy.2 = some copied →
      (flatVersions (before ++ (installDirectory ++ name, info) :: after)).get? name =
        some copied := by
  constructor
  · intro hbefore
    exact get?_flatVersions_of_unnested hname hbefore (isUnnested_top name) hversion
  · rintro earlier between copy copied rfl hearlier hcopy hcopied
    rw [List.append_assoc, List.cons_append]
    exact get?_flatVersions_of_unnested hname hearlier hcopy hcopied

/-- The information on a package of which only the version is given. -/
def ofVersion (version : String) : Value :=
  .object [("version", .str version)]

/-- A package that is installed at the top of the project and, in another version, for a workspace
package. -/
def installedForWorkspace : List (String × Value) :=
  [("apps/web/node_modules/n", ofVersion "1"), ("node_modules/n", ofVersion "2")]

theorem isUnnested_workspace : IsUnnested "n" "apps/web/node_modules/n" :=
  ⟨"apps/web/", by decide, by decide⟩

/-- A copy that is nested in another package does not count, though it is listed first; the copy of
a workspace package does. -/
theorem version_of_first_unnested_install_twice :
    (flatVersions [("node_modules/m/node_modules/n", ofVersion "1"),
      ("node_modules/n", ofVersion "2")]).get? "n" = some "2" ∧
    (flatVersions installedForWorkspace).get? "n" = some "1" := by
  have hname : occursIn installDirectory "n" = false := by decide
  have hnested : ¬ IsUnnested "n" "node_modules/m/node_modules/n" := by
    intro hunnested
    have hone := installs_eq_singleton_iff.mpr ⟨hname, hunnested⟩
    have htwo : (installs "node_modules/m/node_modules/n").length = 2 := by decide
    rw [hone] at htwo
    cases htwo
  constructor
  · refine (version_of_first_unnested_install hname rfl [_] []).1 ?_
    exact List.forall_mem_singleton.mpr fun hunnested => absurd hunnested hnested
  · exact (version_of_first_unnested_install hname rfl [_] []).2 [] [] _ "1" rfl (by simp)
      isUnnested_workspace rfl

/-- The install at the top has a version, and the copy of a workspace package gives another one. -/
theorem version_taken_from_workspace :
    occursIn installDirectory "n" = false ∧ (installedForWorkspace.map (·.1)).Nodup ∧
      (installDirectory ++ "n", ofVersion "2") ∈ installedForWorkspace ∧
      versionOf? (ofVersion "2") = some "2" ∧
      (flatVersions installedForWorkspace).get? "n" ≠ some "2" := by
  have hname : occursIn installDirectory "n" = false := by decide
  have hversion : (flatVersions ([] ++ installedForWorkspace)).get? "n" = some "1" :=
    get?_flatVersions_of_unnested hname (by simp) isUnnested_workspace rfl
  rw [List.nil_append] at hversion
  refine ⟨hname, by decide, by simp [installedForWorkspace, installDirectory], rfl, ?_⟩
  rw [hversion]
  decide

end Lockfile.Npm

end ComponentCensus
