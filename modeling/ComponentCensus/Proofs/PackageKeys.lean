import ComponentCensus.Lockfile.Pnpm
import ComponentCensus.Proofs.Cuts
import ComponentCensus.Text.Word

/-!
# What a package key stands for

The keys of the packages section of a pnpm lockfile are written in three layouts: `name@version`,
the same behind a slash, and `/name/version`.  Each of them has the name of a package, its version
and a suffix that names its peers, and splitting a key should give the name and the version back.

It does so exactly if the name holds no underscore and the suffix no line feed.  The peers are cut
off at the first underscore or parenthesis of the last line, wherever it stands, so an underscore
in the name takes the rest of the name and the version away; and what is above a line feed is not
cut.

## Main results

* `splitKey_decodes_iff` : a key is split into its name and its version exactly if there is no
  underscore in the name and no line feed in the part of the suffix that is looked at.
* `underscored_key_not_decoded` : a package with an underscore in its name, which is lost.

## Strategy

* Cutting the peers off leaves the lines above the last one and a line feed at the very end as they
  are (`exists_withoutPeers_eq`).
* Whatever a key is split into, what is left of the key is these two parts with a separator between
  them (`exists_of_splitKey`).  So the parts cannot be the name and the version if something else
  was cut off than the suffix.
* Conversely, no slash inside a name has a version behind it, because a name does not start with
  three numbers (`splitAtSlash_of_name`).
-/

namespace ComponentCensus.Lockfile.Pnpm

open ComponentCensus.Text

/-! ## Keys -/

/-- Characters of package names: letters and numbers of any script, underscores and three others. -/
def isNameChar (c : Char) : Bool :=
  isWord c || c = '-' || c = '.' || c = '~'

/-- Characters of versions: letters and numbers of any script and three others. -/
def isVersionChar (c : Char) : Bool :=
  (isWord c && c ≠ '_') || c = '.' || c = '-' || c = '+'

/-- A number, written with the digits of any script. -/
def IsNumber (cs : List Char) : Prop :=
  cs ≠ [] ∧ cs.all isDigit = true

/-- A text that starts with three numbers with dots between them. -/
def StartsWithNumbers (cs : List Char) : Prop :=
  ∃ major minor patch rest, IsNumber major ∧ IsNumber minor ∧ IsNumber patch ∧
    cs = major ++ '.' :: (minor ++ '.' :: (patch ++ rest))

/-- The name of a package, which may have a scope. -/
structure PackageName where
  scope : Option (List Char)
  base : List Char
  base_ne_nil : base ≠ []
  base_plain : base.all isNameChar = true
  base_not_version : ¬ StartsWithNumbers base
  scope_plain : ∀ owner ∈ scope, owner.all isNameChar = true

/-- The name of a package as a text. -/
def PackageName.text (name : PackageName) : List Char :=
  match name.scope with
  | some owner => '@' :: (owner ++ '/' :: name.base)
  | none => name.base

/-- A version of a package. -/
structure Version where
  text : List Char
  numbers : StartsWithNumbers text
  plain : text.all isVersionChar = true

/-- A suffix that names peers: it is empty or starts with a parenthesis or an underscore. -/
def IsPeers (suffix : List Char) : Prop :=
  ∀ c ∈ suffix.head?, c = '(' ∨ c = '_'

/-- The layouts of package keys. -/
inductive Layout where
  /-- `name@version` -/
  | bare
  /-- `/name@version` -/
  | rooted
  /-- `/name/version` -/
  | slashed
deriving DecidableEq, Repr

namespace Layout

/-- What stands between the name and the version. -/
def separator : Layout → Char
  | .bare => '@'
  | .rooted => '@'
  | .slashed => '/'

/-- A name, a version and a suffix written as a key. -/
def key (layout : Layout) (name version suffix : List Char) : List Char :=
  match layout with
  | .bare => name ++ '@' :: (version ++ suffix)
  | .rooted => '/' :: (name ++ '@' :: (version ++ suffix))
  | .slashed => '/' :: (name ++ '/' :: (version ++ suffix))

/-- The part of a suffix that may not hold a line feed.  Behind a slash, a line feed at the very end
does no harm. -/
def inspected (layout : Layout) (suffix : List Char) : List Char :=
  match layout with
  | .slashed => suffix.dropLast
  | _ => suffix

end Layout

theorem not_mem_of_all {accepted : Char → Bool} {cs : List Char} (hcs : cs.all accepted = true)
    {c : Char} (hc : accepted c = false) : c ∉ cs := by
  intro hmem
  rw [List.all_eq_true.mp hcs c hmem] at hc
  cases hc

theorem not_mem_of_isNameChar {cs : List Char} (hcs : cs.all isNameChar = true) {c : Char}
    (hc : c ∈ ['@', '/', '(', '\n']) : c ∉ cs := by
  have hother : ['@', '/', '(', '\n'].all (fun c => !isNameChar c) = true := by decide +kernel
  exact not_mem_of_all hcs (by simpa using List.all_eq_true.mp hother c hc)

theorem Version.not_mem_text (version : Version) {c : Char} (hc : c ∈ ['@', '(', '_', '\n']) :
    c ∉ version.text := by
  have hother : ['@', '(', '_', '\n'].all (fun c => !isVersionChar c) = true := by decide +kernel
  exact not_mem_of_all version.plain (by simpa using List.all_eq_true.mp hother c hc)

namespace PackageName

theorem not_mem_text (name : PackageName) {c : Char} (hc : c ∈ ['(', '\n']) : c ∉ name.text := by
  have hplain : c ∈ ['@', '/', '(', '\n'] := List.mem_cons_of_mem _ (List.mem_cons_of_mem _ hc)
  have hbase := not_mem_of_isNameChar name.base_plain hplain
  have hother : c ≠ '@' ∧ c ≠ '/' := by
    simp only [List.mem_cons, List.not_mem_nil, or_false] at hc
    rcases hc with rfl | rfl <;> decide
  unfold text
  cases hscope : name.scope with
  | none => exact hbase
  | some owner =>
      have howner := not_mem_of_isNameChar (name.scope_plain owner hscope) hplain
      simp [hbase, howner, hother]

theorem exists_text_eq (name : PackageName) :
    ∃ first rest, name.text = first :: rest ∧ first ≠ '/' ∧ '@' ∉ rest := by
  have hat : '@' ∉ name.base := not_mem_of_isNameChar name.base_plain (by simp)
  have hslash : '/' ∉ name.base := not_mem_of_isNameChar name.base_plain (by simp)
  unfold text
  cases hscope : name.scope with
  | none =>
      obtain ⟨first, rest, hbase⟩ := List.exists_cons_of_ne_nil name.base_ne_nil
      rw [hbase] at hat hslash
      exact ⟨first, rest, hbase, (List.ne_of_not_mem_cons hslash).symm,
        List.not_mem_of_not_mem_cons hat⟩
  -- the sign in front of the owner is the first character, so it is not among the rest
  | some owner =>
      have howner : '@' ∉ owner :=
        not_mem_of_isNameChar (name.scope_plain owner hscope) (by simp)
      exact ⟨'@', owner ++ '/' :: name.base, rfl, by decide, by simp [hat, howner]⟩

end PackageName

theorem Layout.dropWhile_key (layout : Layout) (name : PackageName) (version suffix : List Char) :
    (layout.key name.text version suffix).dropWhile (· = '/') =
      name.text ++ layout.separator :: (version ++ suffix) := by
  obtain ⟨first, rest, htext, hfirst, -⟩ := name.exists_text_eq
  cases layout <;> simp [key, separator, htext, hfirst]

/-! ## Versions -/

section Versions

variable {cs front tail : List Char}

theorem isNumber_takeWhile (hhead : cs.head?.any isDigit = true) :
    IsNumber (cs.takeWhile isDigit) := by
  cases cs with
  | nil => cases hhead
  | cons c rest =>
      have hc : isDigit c = true := hhead
      refine ⟨by simp [hc], List.all_takeWhile⟩

theorem head?_of_isNumber (hfront : IsNumber front) (rest : List Char) :
    (front ++ rest).head?.any isDigit = true := by
  obtain ⟨hne, hdigits⟩ := hfront
  obtain ⟨c, others, rfl⟩ := List.exists_cons_of_ne_nil hne
  exact List.all_eq_true.mp hdigits c (List.mem_cons_self ..)

theorem dropWhile_of_isNumber (hfront : IsNumber front) (rest : List Char) :
    (front ++ '.' :: rest).dropWhile isDigit = '.' :: rest := by
  rw [List.dropWhile_append_of_pos (List.all_eq_true.mp hfront.2)]
  exact List.dropWhile_cons_of_neg (by decide)

/-- A number at the start of a text, and what follows it. -/
theorem exists_number_of_ite {rest : List Char}
    (hrest : (if cs.head?.any isDigit = true then some (cs.dropWhile isDigit) else none) = some rest) :
    ∃ number, IsNumber number ∧ cs = number ++ rest := by
  split at hrest
  · next hhead =>
    rw [← Option.some.inj hrest]
    exact ⟨cs.takeWhile isDigit, isNumber_takeWhile hhead, List.takeWhile_append_dropWhile.symm⟩
  · cases hrest

theorem afterNumbers?_iff : (afterNumbers? cs).isSome = true ↔ StartsWithNumbers cs := by
  constructor
  · intro hsome
    obtain ⟨found, hfound⟩ := Option.isSome_iff_exists.mp hsome
    simp only [afterNumbers?, Option.bind_eq_bind, Option.bind_eq_some_iff] at hfound
    obtain ⟨first, hfirst, second, hsecond, third, hthird, fourth, hfourth, hlast⟩ := hfound
    obtain ⟨major, hmajor, rfl⟩ := exists_number_of_ite hfirst
    obtain ⟨minor, hminor, rfl⟩ := exists_number_of_ite hthird
    obtain ⟨patch, hpatch, rfl⟩ := exists_number_of_ite hlast
    split at hsecond <;> cases hsecond
    split at hfourth <;> cases hfourth
    exact ⟨major, minor, patch, found, hmajor, hminor, hpatch, rfl⟩
  · rintro ⟨major, minor, patch, rest, hmajor, hminor, hpatch, rfl⟩
    simp only [afterNumbers?, if_pos (head?_of_isNumber hmajor _), dropWhile_of_isNumber hmajor,
      if_pos (head?_of_isNumber hminor _), dropWhile_of_isNumber hminor,
      if_pos (head?_of_isNumber hpatch _), Option.bind_eq_bind, Option.bind_some, Option.isSome_some]

/-- Three numbers at the start of a text cannot reach beyond a slash. -/
theorem startsWithNumbers_of_append (hcs : StartsWithNumbers (front ++ '/' :: tail)) :
    StartsWithNumbers front := by
  obtain ⟨major, minor, patch, rest, hmajor, hminor, hpatch, htext⟩ := hcs
  -- the three numbers hold no slash, so they end before the one that is there
  have hslash : '/' ∉ major ++ '.' :: (minor ++ '.' :: patch) := by
    have hdigit : isDigit '/' = false := by decide
    simp [not_mem_of_all hmajor.2 hdigit, not_mem_of_all hminor.2 hdigit,
      not_mem_of_all hpatch.2 hdigit]
  have hsplit : front ++ '/' :: tail = (major ++ '.' :: (minor ++ '.' :: patch)) ++ rest := by
    simpa using htext
  -- either the front ends within the numbers, or the numbers end within the front
  rcases List.append_eq_append_iff.mp hsplit with ⟨extra, hextra, hrest⟩ | ⟨extra, hextra, -⟩
  · cases extra with
    | nil => exact ⟨major, minor, patch, [], hmajor, hminor, hpatch, by simpa using hextra.symm⟩
    | cons c extra =>
        obtain ⟨rfl, -⟩ := List.cons.inj hrest
        exact absurd (hextra ▸ List.mem_append_right front (List.mem_cons_self ..)) hslash
  · exact ⟨major, minor, patch, extra, hmajor, hminor, hpatch, by simpa using hextra⟩

end Versions

/-! ## Peers -/

section Peers

variable {cs : List Char}

theorem splitFinalFeed_of_line (hcs : '\n' ∉ cs) {feed : List Char}
    (hfeed : feed = [] ∨ feed = ['\n']) : splitFinalFeed (cs ++ feed) = (cs, feed) := by
  rcases hfeed with rfl | rfl
  · unfold splitFinalFeed
    rw [List.append_nil]
    split
    · next hlast => exact absurd (List.mem_of_getLast? hlast) hcs
    · rfl
  · simp [splitFinalFeed]

/-- A text is its body and the line feed at its very end, if it has one. -/
theorem exists_splitFinalFeed_eq (cs : List Char) :
    ∃ body feed, splitFinalFeed cs = (body, feed) ∧ cs = body ++ feed ∧
      (feed = [] ∨ feed = ['\n']) := by
  unfold splitFinalFeed
  split
  · next hlast => exact ⟨_, _, rfl, (List.dropLast_append_getLast? _ hlast).symm, Or.inr rfl⟩
  · exact ⟨_, _, rfl, (List.append_nil cs).symm, Or.inl rfl⟩

/-- Cutting the peers off a text on one line, which a line feed may end. -/
theorem withoutPeers_of_line (hcs : '\n' ∉ cs) {feed : List Char}
    (hfeed : feed = [] ∨ feed = ['\n']) :
    withoutPeers (cs ++ feed) = (cs.takeWhile fun c => !startsPeers c) ++ feed := by
  simp [withoutPeers, splitFinalFeed_of_line hcs hfeed, splitOn_of_not_mem hcs, join]

/-- Cutting the peers off leaves the lines above the last one and a line feed at the very end as
they are. -/
theorem exists_withoutPeers_eq (cs : List Char) :
    ∃ above last feed, cs = above ++ (last ++ feed) ∧
      withoutPeers cs = above ++ ((last.takeWhile fun c => !startsPeers c) ++ feed) ∧
      '\n' ∉ last ∧ (above = [] ∨ ∃ front, above = front ++ ['\n']) ∧
      (feed = [] ∨ feed = ['\n']) := by
  obtain ⟨body, feed, hsplit, hcs, hfeed⟩ := exists_splitFinalFeed_eq cs
  -- the last line is cut, and the others are put back in front of it
  obtain ⟨lines, last, hlines⟩ :=
    (List.eq_nil_or_concat' (splitOn '\n' body)).resolve_left (splitOn_ne_nil '\n' body)
  obtain ⟨above, hjoin, habove⟩ := exists_join_concat '\n' lines
  have hbody : body = above ++ last := by rw [← hjoin, ← hlines, join_splitOn]
  have hlast : '\n' ∉ last :=
    not_mem_of_mem_splitOn (by rw [hlines]; exact List.mem_append_right _ (List.mem_singleton_self _))
  refine ⟨above, last, feed, ?_, ?_, hlast, habove, hfeed⟩
  · rw [hcs, hbody, List.append_assoc]
  · simp [withoutPeers, hsplit, hlines, hjoin]

/-- A name, a separator and a version are left if nothing else is cut off than the peers. -/
theorem takeWhile_of_isPeers {lead suffix : List Char} (hlead : ∀ c ∈ lead, startsPeers c = false)
    (hsuffix : IsPeers suffix) :
    ((lead ++ suffix).takeWhile fun c => !startsPeers c) = lead := by
  rw [List.takeWhile_append_of_pos (by simpa using hlead)]
  cases suffix with
  | nil => simp
  | cons c rest =>
      have hc : startsPeers c = true := by
        rcases hsuffix c rfl with rfl | rfl <;> decide
      rw [List.takeWhile_cons_of_neg (by simp [hc]), List.append_nil]

end Peers

/-! ## Splitting -/

section Splitting

variable {cs name rest version : List Char} {key found shown : String}

theorem versionText?_of_numbers (hnumbers : StartsWithNumbers version) (hversion : '\n' ∉ version)
    {feed : List Char} (hfeed : feed = [] ∨ feed = ['\n']) :
    versionText? (version ++ feed) = some version := by
  simp [versionText?, splitFinalFeed_of_line hversion hfeed, afterNumbers?_iff.mpr hnumbers, hversion]

theorem exists_of_versionText? (hversion : versionText? cs = some version) :
    StartsWithNumbers version ∧ ∃ feed, cs = version ++ feed ∧ (feed = [] ∨ feed = ['\n']) := by
  obtain ⟨body, feed, hsplit, hcs, hfeed⟩ := exists_splitFinalFeed_eq cs
  simp only [versionText?, hsplit, Option.ite_none_right_eq_some, Option.some.injEq,
    Bool.and_eq_true] at hversion
  obtain ⟨⟨hnumbers, -⟩, rfl⟩ := hversion
  exact ⟨afterNumbers?_iff.mp hnumbers, feed, hcs, hfeed⟩

/-- The slash behind a scope has no version behind it. -/
theorem versionText?_of_base {base : List Char} (hbase : ¬ StartsWithNumbers base)
    (tail : List Char) : versionText? (base ++ '/' :: tail) = none := by
  by_contra hsome
  obtain ⟨version, hversion⟩ := Option.ne_none_iff_exists'.mp hsome
  obtain ⟨⟨major, minor, patch, rest, hmajor, hminor, hpatch, rfl⟩, feed, htext, -⟩ :=
    exists_of_versionText? hversion
  have hnumbers : StartsWithNumbers (base ++ '/' :: tail) :=
    ⟨major, minor, patch, rest ++ feed, hmajor, hminor, hpatch, by simp [htext]⟩
  exact hbase (startsWithNumbers_of_append hnumbers)

/-- A piece without slashes and line feeds goes to the name. -/
theorem splitAtSlash_append (hslash : '/' ∉ cs) (hfeed : '\n' ∉ cs) (before rest : List Char) :
    splitAtSlash before (cs ++ rest) = splitAtSlash (cs.reverse ++ before) rest := by
  induction cs generalizing before with
  | nil => rfl
  | cons c cs ih =>
      obtain ⟨hc, hcs⟩ := List.ne_and_not_mem_of_not_mem_cons hslash
      obtain ⟨hline, hlines⟩ := List.ne_and_not_mem_of_not_mem_cons hfeed
      rw [List.cons_append, splitAtSlash, if_neg (Ne.symm hline), if_neg (by simp [Ne.symm hc]),
        ih hcs hlines]
      simp

theorem splitAtSlash_slash {before : List Char} (hbefore : before ≠ []) (rest : List Char) :
    splitAtSlash before ('/' :: rest) =
      (versionText? rest).elim (splitAtSlash ('/' :: before) rest) fun version =>
        some (String.ofList before.reverse, String.ofList version) := by
  rw [splitAtSlash, if_neg (by decide), if_pos (by simpa using hbefore)]
  cases versionText? rest <;> rfl

/-- A key is split behind the name, for a name does not start with a version. -/
theorem splitAtSlash_of_name (name : PackageName) {tail : List Char}
    (htail : versionText? tail = some version) :
    splitAtSlash [] (name.text ++ '/' :: tail) =
      some (String.ofList name.text, String.ofList version) := by
  have hslash : '/' ∉ name.base := not_mem_of_isNameChar name.base_plain (by simp)
  have hfeed : '\n' ∉ name.base := not_mem_of_isNameChar name.base_plain (by simp)
  have hne := name.base_ne_nil
  unfold PackageName.text
  cases hscope : name.scope with
  | none =>
      rw [splitAtSlash_append hslash hfeed, splitAtSlash_slash (by simpa using hne), htail]
      simp
  | some owner =>
      have howner : '/' ∉ '@' :: owner := List.not_mem_cons_of_ne_of_not_mem (by decide)
        (not_mem_of_isNameChar (name.scope_plain owner hscope) (by simp))
      have hline : '\n' ∉ '@' :: owner := List.not_mem_cons_of_ne_of_not_mem (by decide)
        (not_mem_of_isNameChar (name.scope_plain owner hscope) (by simp))
      have htext : '@' :: (owner ++ '/' :: name.base) ++ '/' :: tail =
          ('@' :: owner) ++ '/' :: (name.base ++ '/' :: tail) := by simp
      -- the slash behind the owner is passed: no version follows it
      rw [htext, splitAtSlash_append howner hline, splitAtSlash_slash (by simp),
        versionText?_of_base name.base_not_version, Option.elim_none,
        splitAtSlash_append hslash hfeed, splitAtSlash_slash (by simp), htail]
      simp

/-- Splitting at a slash loses nothing but the slash and a line feed at the very end. -/
theorem exists_of_splitAtSlash {before : List Char}
    (hsplit : splitAtSlash before cs = some (found, shown)) :
    ∃ feed, before.reverse ++ cs = found.toList ++ '/' :: (shown.toList ++ feed) ∧
      (feed = [] ∨ feed = ['\n']) := by
  induction cs generalizing before with
  | nil => cases hsplit
  | cons c rest ih =>
      -- going on with one more character of the name
      have hnext (hrest : splitAtSlash (c :: before) rest = some (found, shown)) :
          ∃ feed, before.reverse ++ c :: rest = found.toList ++ '/' :: (shown.toList ++ feed) ∧
            (feed = [] ∨ feed = ['\n']) := by
        simpa using ih hrest
      rw [splitAtSlash] at hsplit
      split at hsplit
      · cases hsplit
      split at hsplit
      · next hslash =>
        have hc : c = '/' := by
          simp only [Bool.and_eq_true, decide_eq_true_eq] at hslash
          exact hslash.1
        split at hsplit
        · next version hversion =>
          obtain ⟨-, feed, hrest, hfeed⟩ := exists_of_versionText? hversion
          cases hsplit
          exact ⟨feed, by simp [hc, hrest], hfeed⟩
        · exact hnext hsplit
      · exact hnext hsplit

theorem splitKey_of_at {first : Char}
    (hleft : withoutPeers (key.toList.dropWhile (· = '/')) = first :: (rest ++ '@' :: version))
    (hrest : '@' ∉ rest) :
    splitKey key = some (String.ofList (first :: rest), String.ofList version) := by
  have hpos : ∀ c ∈ rest, decide (c ≠ '@') = true := fun c hc =>
    decide_eq_true fun heq => hrest (heq ▸ hc)
  have htake : (rest ++ '@' :: version).takeWhile (· ≠ '@') = rest := by
    rw [List.takeWhile_append_of_pos hpos, List.takeWhile_cons_of_neg (by decide), List.append_nil]
  have hdrop : (rest ++ '@' :: version).dropWhile (· ≠ '@') = '@' :: version := by
    rw [List.dropWhile_append_of_pos hpos, List.dropWhile_cons_of_neg (by decide)]
  simp only [splitKey, hleft, htake, hdrop]
  simp

theorem splitKey_of_no_at {first : Char}
    (hleft : withoutPeers (key.toList.dropWhile (· = '/')) = first :: rest) (hrest : '@' ∉ rest) :
    splitKey key = splitAtSlash [] (first :: rest) := by
  simp [splitKey, hleft, hrest]

/-- What is left of a key is the two parts that it is split into with a separator between them.
Only behind a slash a line feed at the very end may be lost. -/
theorem exists_of_splitKey (hsplit : splitKey key = some (found, shown)) :
    ∃ separator feed, withoutPeers (key.toList.dropWhile (· = '/')) =
        found.toList ++ separator :: (shown.toList ++ feed) ∧
      (separator = '@' ∧ feed = [] ∨ separator = '/' ∧ (feed = [] ∨ feed = ['\n'])) := by
  rcases hleft : withoutPeers (key.toList.dropWhile (· = '/')) with _ | ⟨first, rest⟩
  · simp [splitKey, hleft] at hsplit
  by_cases hat : '@' ∈ rest
  · obtain ⟨name, version, rfl, hname⟩ := List.eq_append_cons_of_mem hat
    rw [splitKey_of_at hleft hname] at hsplit
    cases hsplit
    exact ⟨'@', [], by simp, Or.inl ⟨rfl, rfl⟩⟩
  · rw [splitKey_of_no_at hleft hat] at hsplit
    obtain ⟨feed, hparts, hfeed⟩ := exists_of_splitAtSlash hsplit
    exact ⟨'/', feed, hparts, Or.inr ⟨rfl, hfeed⟩⟩

end Splitting

/-! ## Decoding -/

section Decoding

variable {name : PackageName} {version : Version} {layout : Layout} {suffix : List Char}

theorem lineFeed_not_mem_lead (name : PackageName) (version : Version) {separator : Char}
    (hseparator : separator ≠ '\n') : '\n' ∉ name.text ++ separator :: version.text := by
  have hname : '\n' ∉ name.text := name.not_mem_text (by simp)
  have hversion : '\n' ∉ version.text := version.not_mem_text (by simp)
  simp [hname, hversion, Ne.symm hseparator]

theorem startsPeers_of_mem_lead (hname : '_' ∉ name.text) {c : Char}
    (hc : c ∈ name.text ++ layout.separator :: version.text) : startsPeers c = false := by
  have hopen : '(' ∉ name.text ++ layout.separator :: version.text := by
    have hfirst : '(' ∉ name.text := name.not_mem_text (by simp)
    have hsecond : '(' ∉ version.text := version.not_mem_text (by simp)
    cases layout <;> simp [Layout.separator, hfirst, hsecond]
  have hlow : '_' ∉ name.text ++ layout.separator :: version.text := by
    have hsecond : '_' ∉ version.text := version.not_mem_text (by simp)
    cases layout <;> simp [Layout.separator, hname, hsecond]
  have hne : c ≠ '(' ∧ c ≠ '_' := ⟨fun heq => hopen (heq ▸ hc), fun heq => hlow (heq ▸ hc)⟩
  simp [startsPeers, hne]

/-- The body of a suffix in which a layout finds no line feed, and the line feed that it passes
over. -/
theorem exists_suffix_eq (hinspected : '\n' ∉ layout.inspected suffix) (hsuffix : IsPeers suffix) :
    ∃ body feed, suffix = body ++ feed ∧ IsPeers body ∧ '\n' ∉ body ∧
      (feed = [] ∨ feed = ['\n'] ∧ layout = .slashed) := by
  by_cases hline : '\n' ∈ suffix
  · have hslashed : layout = .slashed := by
      cases layout with
      | bare => exact absurd hline hinspected
      | rooted => exact absurd hline hinspected
      | slashed => rfl
    subst hslashed
    obtain ⟨body, last, rfl⟩ := (List.eq_nil_or_concat' suffix).resolve_left (List.ne_nil_of_mem hline)
    rw [Layout.inspected, List.dropLast_concat] at hinspected
    -- a line feed that is not looked at is the last character
    have hlast : last = '\n' := by
      rcases List.mem_append.mp hline with hbody | hlast
      · exact absurd hbody hinspected
      · exact (List.mem_singleton.mp hlast).symm
    subst hlast
    refine ⟨body, ['\n'], rfl, ?_, hinspected, Or.inr ⟨rfl, rfl⟩⟩
    cases body with
    | nil => exact fun c hc => nomatch hc
    | cons c body => exact hsuffix
  · exact ⟨suffix, [], (List.append_nil suffix).symm, hsuffix, hline, Or.inl rfl⟩

/-- Cutting off the peers of a key leaves the name, the version and a line feed at the very end. -/
theorem withoutPeers_key {body feed : List Char} (hname : '_' ∉ name.text) (hbody : IsPeers body)
    (hline : '\n' ∉ body) (hfeed : feed = [] ∨ feed = ['\n']) :
    withoutPeers
        ((String.ofList (layout.key name.text version.text (body ++ feed))).toList.dropWhile (· = '/')) =
      name.text ++ layout.separator :: version.text ++ feed := by
  have hseparator : layout.separator ≠ '\n' := by cases layout <;> decide
  have hlead := lineFeed_not_mem_lead name version hseparator
  have hkey : name.text ++ layout.separator :: (version.text ++ (body ++ feed)) =
      (name.text ++ layout.separator :: version.text ++ body) ++ feed := by simp
  rw [String.toList_ofList, Layout.dropWhile_key, hkey,
    withoutPeers_of_line (List.not_mem_append hlead hline) hfeed,
    takeWhile_of_isPeers (fun c hc => startsPeers_of_mem_lead hname hc) hbody]

/-- A key is decoded if its name has no underscore and its suffix no line feed. -/
theorem splitKey_key (hsuffix : IsPeers suffix) (hname : '_' ∉ name.text)
    (hinspected : '\n' ∉ layout.inspected suffix) :
    splitKey (String.ofList (layout.key name.text version.text suffix)) =
      some (String.ofList name.text, String.ofList version.text) := by
  obtain ⟨body, feed, rfl, hbody, hline, hfeed⟩ := exists_suffix_eq hinspected hsuffix
  have hleft := @withoutPeers_key name version layout _ _ hname hbody hline (hfeed.imp_right And.left)
  obtain ⟨first, rest, htext, -, hat⟩ := name.exists_text_eq
  have hversion : '@' ∉ version.text := version.not_mem_text (by simp)
  cases layout with
  -- the separator is a slash, and there must be no at sign that would win over it
  | slashed =>
      have hfeed := hfeed.imp_right And.left
      have hrest : '@' ∉ rest ++ '/' :: (version.text ++ feed) := by
        rcases hfeed with rfl | rfl <;> simp [hat, hversion]
      have hshown :=
        versionText?_of_numbers version.numbers (version.not_mem_text (by simp)) hfeed
      have hparts : name.text ++ Layout.slashed.separator :: version.text ++ feed =
          first :: (rest ++ '/' :: (version.text ++ feed)) := by simp [htext, Layout.separator]
      rw [splitKey_of_no_at (hleft.trans hparts) hrest, ← splitAtSlash_of_name name hshown, htext]
      rfl
  | bare | rooted =>
      obtain rfl : feed = [] := hfeed.resolve_right fun h => nomatch h.2
      rw [htext]
      refine splitKey_of_at ?_ hat
      simpa [Layout.separator, htext] using hleft

/-- Texts without line feeds that may be followed by one each are told apart by what stands before
it. -/
theorem eq_of_append_feed {front other feed ending : List Char} (hfront : '\n' ∉ front)
    (hother : '\n' ∉ other) (hfeed : feed = [] ∨ feed = ['\n'])
    (hending : ending = [] ∨ ending = ['\n']) (hsame : front ++ feed = other ++ ending) :
    front = other ∧ feed = ending := by
  have hmem : '\n' ∈ front ++ feed ↔ '\n' ∈ other ++ ending := by rw [hsame]
  rcases hfeed with rfl | rfl <;> rcases hending with rfl | rfl
  · exact ⟨by simpa using hsame, rfl⟩
  · simp [hfront] at hmem
  · simp [hother] at hmem
  · exact ⟨List.append_cancel_right hsame, rfl⟩

/-- If what is left of a key is a name, a separator and a version, then the peers were cut off on
the only line of the key. -/
theorem exists_line_of_withoutPeers {separator : Char} (hsuffix : IsPeers suffix)
    (hseparator : separator ≠ '\n') {ending : List Char} (hending : ending = [] ∨ ending = ['\n'])
    (hleft : withoutPeers (name.text ++ layout.separator :: (version.text ++ suffix)) =
      name.text ++ separator :: (version.text ++ ending)) :
    ∃ last, name.text ++ layout.separator :: (version.text ++ suffix) = last ++ ending ∧
      '\n' ∉ last ∧
      (last.takeWhile fun c => !startsPeers c) = name.text ++ separator :: version.text := by
  obtain ⟨above, last, feed, hkey, hcut, hlast, habove, hfeed⟩ :=
    exists_withoutPeers_eq (name.text ++ layout.separator :: (version.text ++ suffix))
  have hlead := lineFeed_not_mem_lead name version hseparator
  have hparts : name.text ++ separator :: version.text ++ ending =
      above ++ ((last.takeWhile fun c => !startsPeers c) ++ feed) := by
    rw [← hcut, hleft]
    simp
  rcases habove with rfl | ⟨front, rfl⟩
  · have htake : '\n' ∉ last.takeWhile fun c => !startsPeers c := fun hmem =>
      hlast (List.takeWhile_subset _ hmem)
    obtain ⟨hsame, rfl⟩ := eq_of_append_feed hlead htake hending hfeed hparts
    exact ⟨last, hkey, hlast, hsame.symm⟩
  · -- a line above the last one would have to end right behind the version
    exfalso
    rcases hending with rfl | rfl
    · rw [List.append_nil] at hparts
      exact hlead (hparts ▸ by simp)
    · rw [List.append_assoc front, List.singleton_append,
        List.append_cons_inj_of_notMem hlead List.not_mem_nil] at hparts
      obtain ⟨rfl, -, hnil⟩ := hparts
      obtain ⟨-, rfl⟩ := List.append_eq_nil_iff.mp hnil.symm
      simp only [List.append_assoc, List.cons_append, List.append_nil, List.nil_append,
        List.append_cancel_left_eq, List.cons.injEq] at hkey
      rw [hkey.2] at hsuffix
      exact absurd (hsuffix '\n' rfl) (by decide)

/-- Nothing but a key whose name has no underscore and whose suffix has no line feed is decoded. -/
theorem of_splitKey_key (hsuffix : IsPeers suffix)
    (hsplit : splitKey (String.ofList (layout.key name.text version.text suffix)) =
      some (String.ofList name.text, String.ofList version.text)) :
    '_' ∉ name.text ∧ '\n' ∉ layout.inspected suffix := by
  obtain ⟨separator, ending, hleft, hends⟩ := exists_of_splitKey hsplit
  simp only [String.toList_ofList, Layout.dropWhile_key] at hleft
  have hseparator : separator ≠ '\n' := by
    rcases hends with ⟨rfl, -⟩ | ⟨rfl, -⟩ <;> decide
  have hending : ending = [] ∨ ending = ['\n'] := hends.elim (fun h => Or.inl h.2) And.right
  obtain ⟨last, hkey, hlast, htake⟩ :=
    exists_line_of_withoutPeers hsuffix hseparator hending hleft
  -- the last line is name, separator and version, and then what was cut off
  have hwhole : last = name.text ++ separator :: (version.text ++
      last.dropWhile fun c => !startsPeers c) := by
    rw [← List.cons_append, ← List.append_assoc, ← htake, List.takeWhile_append_dropWhile]
  rw [hwhole] at hkey
  simp only [List.append_assoc, List.cons_append, List.append_cancel_left_eq, List.cons.injEq] at hkey
  obtain ⟨hlayout, hsuffixes⟩ := hkey
  have hdrop : '\n' ∉ last.dropWhile fun c => !startsPeers c := fun hmem =>
    hlast (List.dropWhile_subset _ hmem)
  refine ⟨fun hlow => ?_, ?_⟩
  · -- an underscore in the name would have ended the part that is left
    have hmem : '_' ∈ last.takeWhile fun c => !startsPeers c := by
      rw [htake]
      exact List.mem_append_left _ hlow
    exact absurd (List.all_eq_true.mp List.all_takeWhile _ hmem) (by decide)
  · -- what was cut off is the suffix, apart from a line feed at its end
    rcases hends with ⟨rfl, rfl⟩ | ⟨rfl, rfl | rfl⟩
    · rw [hsuffixes, List.append_nil]
      cases layout with
      | bare | rooted => exact hdrop
      | slashed => cases hlayout
    · rw [hsuffixes, List.append_nil]
      cases layout with
      | bare | rooted => cases hlayout
      | slashed => exact fun hmem => hdrop (List.dropLast_subset _ hmem)
    · rw [hsuffixes]
      cases layout with
      | bare | rooted => cases hlayout
      | slashed =>
          rw [Layout.inspected, List.dropLast_concat]
          exact hdrop

end Decoding

/-- **Package keys are decoded unless the name has an underscore.**  In each of the three layouts,
splitting the key of a package gives its name and its version back exactly if the name holds no
underscore and the suffix no line feed. -/
theorem splitKey_decodes_iff (layout : Layout) (name : PackageName) (version : Version)
    {suffix : List Char} (hsuffix : IsPeers suffix) :
    splitKey (String.ofList (layout.key name.text version.text suffix)) =
        some (String.ofList name.text, String.ofList version.text) ↔
      '_' ∉ name.text ∧ '\n' ∉ layout.inspected suffix :=
  ⟨of_splitKey_key hsuffix, fun ⟨hname, hline⟩ => splitKey_key hsuffix hname hline⟩

/-- The version that the following keys are about. -/
def release : Version where
  text := "2.4.0".toList
  numbers := ⟨['2'], ['4'], ['0'], [], ⟨by simp, rfl⟩, ⟨by simp, rfl⟩, ⟨by simp, rfl⟩, rfl⟩
  plain := by decide +kernel

/-- A name with a scope. -/
def scopedName : PackageName where
  scope := some "acme".toList
  base := "ui".toList
  base_ne_nil := by simp
  base_plain := by decide +kernel
  base_not_version := mt afterNumbers?_iff.mpr (by decide)
  scope_plain := by
    rintro owner howner
    cases howner
    decide +kernel

/-- The key of a package with a scope, written with slashes and with a peer. -/
theorem splitKey_decodes_scopedName :
    splitKey "/@acme/ui/2.4.0_react@18.2.0" = some ("@acme/ui", "2.4.0") := by
  have hsuffix : IsPeers "_react@18.2.0".toList := by
    rintro c hc
    cases hc
    exact Or.inr rfl
  exact (splitKey_decodes_iff .slashed scopedName release hsuffix).mpr ⟨by decide, by decide⟩

/-- A name with an underscore. -/
def underscoredName : PackageName where
  scope := none
  base := "string_decoder".toList
  base_ne_nil := by simp
  base_plain := by decide +kernel
  base_not_version := mt afterNumbers?_iff.mpr (by decide)
  scope_plain := nofun

/-- The key of a package whose name has an underscore is not decoded, though it has no peers. -/
theorem underscored_key_not_decoded :
    IsPeers [] ∧ underscoredName.text = "string_decoder".toList ∧
      splitKey (String.ofList (Layout.bare.key underscoredName.text release.text [])) = none := by
  refine ⟨nofun, rfl, ?_⟩
  decide

end ComponentCensus.Lockfile.Pnpm
