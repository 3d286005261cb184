import ComponentCensus.Proofs.Cuts
import ComponentCensus.Repository.Reference
import Mathlib.Data.List.Infix
import Mathlib.Tactic.Common

/-!
# Ways to refer to a repository

A reference is an owner and a name with something before and after them.  What comes before tells
the forms apart: none of the three addresses starts another one, and each holds a colon, which no
owner does.  What comes after is an ending that does not belong to the name.  The longest one that
fits is taken, so an address gives back a name that ends in `.git` itself only if a further `.git`
follows it.

## Main results

* `ofText_of_refers` : every way to write a reference (`Refers`), with blanks around it, is read
  back as the reference; and what is read is proper, and the address to clone from refers to it.

## Strategy

* Characters first: those of names are neither blanks nor slashes nor colons
  (`isBlank_of_isNameChar`), which is decided over the whole of the tables at once.
* Then endings: a name is found before an ending if no ending that is tried earlier fits
  (`nameBefore?_append`).
* Then forms: a text in one of the forms is not taken for one in an earlier form
  (`not_startsWith_written`, `not_startsWith_shorthand`), so it is read as its own
  (`ofText_written`).
-/

namespace ComponentCensus

open ComponentCensus.Text

namespace Text

theorem disjoint_word_blank :
    (wordRanges.all fun word => blankRanges.all fun blank =>
      decide (word.2 < blank.1) || decide (blank.2 < word.1)) = true := by
  decide +kernel

theorem isBlank_of_isWord {c : Char} (hword : isWord c = true) : isBlank c = false := by
  rw [isWord, Bool.or_eq_true, decide_eq_true_iff] at hword
  rcases hword with rfl | hword
  · rfl
  · rw [Bool.eq_false_iff]
    intro hblank
    obtain ⟨word, hwords, hlow, hhigh⟩ := inRanges_iff.mp hword
    obtain ⟨blank, hblanks, hstart, hend⟩ := inRanges_iff.mp hblank
    have hapart := List.all_eq_true.mp (List.all_eq_true.mp disjoint_word_blank word hwords)
      blank hblanks
    simp only [Bool.or_eq_true, decide_eq_true_iff] at hapart
    omega

theorem strip_surrounded {front text back : String} (hfront : front.toList.all isBlank = true)
    (hback : back.toList.all isBlank = true) (htext : ∀ c ∈ text.toList, isBlank c = false) :
    strip (front ++ text ++ back) = text := by
  rw [strip, String.toList_append, String.toList_append,
    trimBoth_surrounded (List.all_eq_true.mp hfront) (List.all_eq_true.mp hback) htext,
    String.ofList_toList]

end Text

namespace Repository

/-! ## Names -/

theorem isBlank_of_isNameChar {c : Char} (hc : isNameChar c = true) : isBlank c = false := by
  simp only [isNameChar, Bool.or_eq_true, decide_eq_true_iff] at hc
  rcases hc with (hword | rfl) | rfl
  · exact isBlank_of_isWord hword
  · rfl
  · rfl

theorem isNameChar_slash : isNameChar '/' = false := by decide +kernel

theorem isNameChar_colon : isNameChar ':' = false := by decide +kernel

section Names

variable {name owner : List Char} {ending : String} {endings : List String}

theorem forall_of_isName (hname : isName name = true) : ∀ c ∈ name, isNameChar c = true := by
  simp only [isName, Bool.and_eq_true] at hname
  exact List.all_eq_true.mp hname.2

theorem not_mem_of_isName (hname : isName name = true) {c : Char} (hc : isNameChar c = false) :
    c ∉ name := by
  intro hmem
  rw [forall_of_isName hname c hmem] at hc
  cases hc

theorem nameBefore?_cons (ending : String) (endings : List String) (cs : List Char) :
    nameBefore? (ending :: endings) cs =
      if ending.toList.isSuffixOf cs && isName (cs.take (cs.length - ending.length)) then
        some (cs.take (cs.length - ending.length))
      else nameBefore? endings cs := by
  cases htest : ending.toList.isSuffixOf cs && isName (cs.take (cs.length - ending.length)) with
  | true => simp only [nameBefore?, List.findSome?_cons, htest, if_true]
  | false => simp only [nameBefore?, List.findSome?_cons, htest, Bool.false_eq_true, if_false]

theorem nameBefore?_cons_append (hname : isName name = true) :
    nameBefore? (ending :: endings) (name ++ ending.toList) = some name := by
  have hlength : (name ++ ending.toList).length - ending.length = name.length := by
    rw [List.length_append, String.length_toList, Nat.add_sub_cancel]
  have hsuffix : ending.toList.isSuffixOf (name ++ ending.toList) = true := by simp
  rw [nameBefore?_cons, hlength, List.take_left, hname, hsuffix]
  rfl

theorem nameBefore?_cons_of_not_suffix {cs : List Char} (hending : ¬ ending.toList <:+ cs) :
    nameBefore? (ending :: endings) cs = nameBefore? endings cs := by
  rw [nameBefore?_cons, if_neg]
  simp [hending]

/-- Behind a name, an ending is taken off if no longer one comes with it. -/
theorem nameBefore?_append (before after : List String) (hname : isName name = true)
    (hbefore : ∀ other ∈ before, ¬ other.toList <:+ name ++ ending.toList) :
    nameBefore? (before ++ ending :: after) (name ++ ending.toList) = some name := by
  induction before with
  | nil => exact nameBefore?_cons_append hname
  | cons other before ih =>
      obtain ⟨hother, hrest⟩ := List.forall_mem_cons.mp hbefore
      rw [List.cons_append, nameBefore?_cons_of_not_suffix hother, ih hrest]

theorem ofPair?_append (howner : isName owner = true) (rest : List Char) :
    ofPair? endings (owner ++ '/' :: rest) =
      (nameBefore? endings rest).map fun name => ⟨String.ofList owner, String.ofList name⟩ := by
  have hslash : ∀ c ∈ owner, decide (c ≠ '/') = true := by
    intro c hc
    refine decide_eq_true ?_
    rintro rfl
    exact not_mem_of_isName howner isNameChar_slash hc
  -- the first slash is the one behind the owner
  have htake : (owner ++ '/' :: rest).takeWhile (· ≠ '/') = owner := by
    rw [List.takeWhile_append_of_pos hslash]
    simp
  have hdrop : (owner ++ '/' :: rest).dropWhile (· ≠ '/') = '/' :: rest := by
    rw [List.dropWhile_append_of_pos hslash]
    simp
  rw [ofPair?, htake, hdrop]
  simp [howner]

/-- What a reference is read from holds an owner and a name. -/
theorem isName_of_nameBefore? {cs : List Char} (hname : nameBefore? endings cs = some name) :
    isName name = true := by
  obtain ⟨ending, -, htest⟩ := List.exists_of_findSome?_eq_some hname
  simp only [Option.ite_none_right_eq_some, Bool.and_eq_true, Option.some.injEq] at htest
  rw [← htest.2]
  exact htest.1.2

theorem not_suffix_of_slash (hname : isName name = true) (hslash : '/' ∈ ending.toList) :
    ¬ ending.toList <:+ name := fun hsuffix =>
  not_mem_of_isName hname isNameChar_slash (hsuffix.subset hslash)

/-- A name is read before `.git` whatever it ends in itself. -/
theorem nameBefore?_git (hname : isName name = true) :
    nameBefore? [".git/", ".git", "/", ""] (name ++ ".git".toList) = some name := by
  refine nameBefore?_append [".git/"] ["/", ""] hname (List.forall_mem_singleton.mpr ?_)
  rw [← List.reverse_prefix]
  simp [List.cons_prefix_cons]

/-- A name that does not end in `.git` is read before each ending of a web address. -/
theorem nameBefore?_web (hname : isName name = true) (hgit : ¬ ".git".toList <:+ name)
    (hending : ending ∈ [".git/", ".git", "/", ""]) :
    nameBefore? [".git/", ".git", "/", ""] (name ++ ending.toList) = some name := by
  simp only [List.mem_cons, List.not_mem_nil, or_false] at hending
  rcases hending with rfl | rfl | rfl | rfl
  · exact nameBefore?_append [] [".git", "/", ""] hname (List.forall_mem_nil _)
  · exact nameBefore?_git hname
  · -- with the slash `.git/` would be an ending too, were it not for the name
    refine nameBefore?_append [".git/", ".git"] [""] hname ?_
    rw [← List.reverse_prefix] at hgit
    simp only [← List.reverse_prefix, List.forall_mem_cons]
    simpa [List.cons_prefix_cons] using hgit
  · refine nameBefore?_append [".git/", ".git", "/"] [] hname ?_
    simp only [String.toList_empty, List.append_nil, List.forall_mem_cons]
    exact ⟨not_suffix_of_slash hname (by decide), hgit, not_suffix_of_slash hname (by decide),
      List.forall_mem_nil _⟩

theorem nameBefore?_shell (hname : isName name = true) (hgit : ¬ ".git".toList <:+ name) :
    nameBefore? [".git", ""] (name ++ "".toList) = some name := by
  refine nameBefore?_append [".git"] [] hname (List.forall_mem_singleton.mpr ?_)
  rwa [String.toList_empty, List.append_nil]

end Names

/-! ## Forms -/

namespace Reference

/-- A reference that can be written down: owner and name are names. -/
structure Proper (reference : Reference) : Prop where
  owner : isName reference.owner.toList = true
  name : isName reference.name.toList = true

/-- A reference with something before and after it. -/
def written (reference : Reference) (start ending : String) : String :=
  start ++ (reference.owner ++ "/" ++ reference.name ++ ending)

/-- The ways to refer to a repository.  With its own `.git` behind it any name will do; otherwise a
name may not end in `.git`. -/
inductive Refers (reference : Reference) : String → Prop
  | cloneUrl : Refers reference reference.cloneUrl
  | shellGit : Refers reference (reference.written "git@github.com:" ".git")
  | shorthand (hgit : endsWith reference.name ".git" = false) :
      Refers reference reference.shorthand
  | web (hgit : endsWith reference.name ".git" = false) {scheme ending : String}
      (hscheme : scheme ∈ ["http", "https"]) (hending : ending ∈ [".git/", ".git", "/", ""]) :
      Refers reference (reference.written (scheme ++ "://github.com/") ending)
  | shell (hgit : endsWith reference.name ".git" = false) :
      Refers reference (reference.written "git@github.com:" "")

variable {reference : Reference} {text : String}

section Reading

variable {n : Nat} {start ending : String} {endings : List String}

/-- The form of a text is the first one with its start. -/
theorem ofTrimmed?_of_form (hform : forms[n]? = some (start, endings))
    (hearlier : ∀ form ∈ forms.take n, startsWith text form.1 = false) {rest : String}
    (htext : text = start ++ rest) (hpair : ofPair? endings rest.toList = some reference) :
    ofTrimmed? text = some reference := by
  have hforms : forms = forms.take n ++ (start, endings) :: forms.drop (n + 1) := by
    obtain ⟨hn, hget⟩ := List.getElem?_eq_some_iff.mp hform
    rw [← hget, ← List.drop_eq_getElem_cons hn, List.take_append_drop]
  -- the earlier forms find nothing
  have hnone : (forms.take n).findSome? (fun form =>
      if startsWith text form.1 then ofPair? form.2 (text.toList.drop form.1.length) else none) =
      none := by
    rw [List.findSome?_eq_none_iff]
    intro form hform
    rw [hearlier form hform]
    rfl
  have hstart : startsWith text start = true := by simp [startsWith, htext]
  have hdrop : text.toList.drop start.length = rest.toList := by
    rw [htext, String.toList_append, ← String.length_toList, List.drop_left]
  rw [ofTrimmed?, hforms, List.findSome?_append, hnone, List.findSome?_cons, hstart, if_pos rfl,
    hdrop, hpair]
  rfl

theorem forms_not_blank : (forms.all fun form => (form.1 :: form.2).all fun part =>
    part.toList.all fun c => !isBlank c) = true := by
  decide

theorem not_blank_written (hproper : reference.Proper) (hform : (start, endings) ∈ forms)
    (hending : ending ∈ endings) :
    ∀ c ∈ (written reference start ending).toList, isBlank c = false := by
  have hparts := List.all_eq_true.mp (List.all_eq_true.mp forms_not_blank _ hform)
  have hpart (part : String) (hmem : part ∈ start :: endings) :
      ∀ c ∈ part.toList, isBlank c = false := by
    simpa using hparts part hmem
  have hname (name : String) (hname : isName name.toList = true) :
      ∀ c ∈ name.toList, isBlank c = false :=
    fun c hc => isBlank_of_isNameChar (forall_of_isName hname c hc)
  have hslash : ∀ c ∈ "/".toList, isBlank c = false := List.forall_mem_singleton.mpr rfl
  -- none of the five parts of the text has a blank
  simp only [written, String.toList_append, List.forall_mem_append]
  exact ⟨hpart start List.mem_cons_self,
    ⟨⟨hname _ hproper.owner, hslash⟩, hname _ hproper.name⟩,
    hpart ending (List.mem_cons_of_mem _ hending)⟩

/-- A reference is read by the form that starts and ends like it, with any blanks around it. -/
theorem ofText_written (hproper : reference.Proper)
    (hform : forms[n]? = some (start, endings)) (hending : ending ∈ endings)
    (hearlier : ∀ form ∈ forms.take n, startsWith (written reference start ending) form.1 = false)
    (hname : nameBefore? endings (reference.name.toList ++ ending.toList) =
      some reference.name.toList) {front back : String} (hfront : front.toList.all isBlank = true)
    (hback : back.toList.all isBlank = true) :
    ofText (front ++ written reference start ending ++ back) = .ok reference := by
  have hpair : ofPair? endings (reference.owner ++ "/" ++ reference.name ++ ending).toList =
      some reference := by
    have htext : (reference.owner ++ "/" ++ reference.name ++ ending).toList =
        reference.owner.toList ++ '/' :: (reference.name.toList ++ ending.toList) := by simp
    rw [htext, ofPair?_append hproper.owner, hname]
    simp
  have hblank := not_blank_written hproper (List.mem_of_getElem? hform) hending
  unfold ofText
  rw [strip_surrounded hfront hback hblank, ofTrimmed?_of_form hform hearlier rfl hpair]

end Reading

theorem proper_of_ofPair? {endings : List String} {cs : List Char}
    (hread : ofPair? endings cs = some reference) : reference.Proper := by
  rw [ofPair?] at hread
  split at hread
  · split at hread
    · next howner =>
      obtain ⟨name, hname, rfl⟩ := Option.map_eq_some_iff.mp hread
      exact ⟨by rwa [String.toList_ofList],
        by rw [String.toList_ofList]; exact isName_of_nameBefore? hname⟩
    · cases hread
  · cases hread

/-- What is read can be written down. -/
theorem proper_of_ofText (hread : ofText text = .ok reference) : reference.Proper := by
  unfold ofText at hread
  split at hread
  · next found hfound =>
    obtain rfl := Except.ok.inj hread
    obtain ⟨form, -, hform⟩ := List.exists_of_findSome?_eq_some hfound
    split at hform
    · exact proper_of_ofPair? hform
    · cases hform
  · cases hread

theorem cloneUrl_eq_written (reference : Reference) :
    reference.cloneUrl = reference.written "https://github.com/" ".git" := by
  have hurl : reference.cloneUrl =
      "https://github.com/" ++ reference.owner ++ "/" ++ reference.name ++ ".git" := rfl
  simp only [hurl, written, String.append_assoc]

theorem shorthand_eq_written (reference : Reference) :
    reference.shorthand = reference.written "" "" := by
  have hpair : reference.shorthand = reference.owner ++ "/" ++ reference.name := rfl
  simp only [hpair, written, String.append_assoc, String.empty_append, String.append_empty]

/-- A text does not start in two ways of which neither starts the other. -/
theorem not_startsWith_written {n : Nat} {start ending : String}
    (hapart : ((forms.take n).all fun form =>
      !startsWith start form.1 && !startsWith form.1 start) = true) :
    ∀ form ∈ forms.take n, startsWith (written reference start ending) form.1 = false := by
  intro form hform
  have hneither := List.all_eq_true.mp hapart form hform
  simp only [startsWith, Bool.and_eq_true, Bool.not_eq_true', Bool.eq_false_iff, ne_eq,
    List.isPrefixOf_iff_prefix] at hneither ⊢
  intro hstarts
  rw [written, String.toList_append] at hstarts
  -- of two starts of one text one would start the other
  rcases List.prefix_or_prefix_of_prefix hstarts (List.prefix_append _ _) with hother | hother
  · exact hneither.1 hother
  · exact hneither.2 hother

/-- No address is a pair of names: the colon that each of them holds is in no name. -/
theorem not_startsWith_shorthand (hproper : reference.Proper) :
    ∀ form ∈ forms.take 3, startsWith (reference.written "" "") form.1 = false := by
  intro form hform
  have hcolon : ':' ∈ form.1.toList := by
    revert form
    decide
  rw [startsWith, Bool.eq_false_iff, ne_eq, List.isPrefixOf_iff_prefix]
  intro hstarts
  -- the colon of the address would have to stand in the owner or in the name
  have hmem := hstarts.subset hcolon
  simp only [written, String.toList_append, List.mem_append] at hmem
  have howner := not_mem_of_isName hproper.owner isNameChar_colon
  have hname := not_mem_of_isName hproper.name isNameChar_colon
  simp [howner, hname] at hmem

theorem Refers.ofText_eq (hproper : reference.Proper) (hrefers : Refers reference text)
    {front back : String} (hfront : front.toList.all isBlank = true)
    (hback : back.toList.all isBlank = true) :
    ofText (front ++ text ++ back) = .ok reference := by
  have hsuffix (hgit : endsWith reference.name ".git" = false) :
      ¬ ".git".toList <:+ reference.name.toList := by
    rw [endsWith, Bool.eq_false_iff] at hgit
    exact fun hends => hgit (List.isSuffixOf_iff_suffix.mpr hends)
  -- one case for each form; they differ in the ending and in what comes earlier
  cases hrefers with
  | cloneUrl =>
      rw [cloneUrl_eq_written]
      exact ofText_written hproper (rfl : forms[0]? = _) (by decide) (List.forall_mem_nil _)
        (nameBefore?_git hproper.name) hfront hback
  | shellGit =>
      exact ofText_written hproper (rfl : forms[2]? = _) (by decide)
        (not_startsWith_written (by decide))
        (nameBefore?_append [] [""] hproper.name (List.forall_mem_nil _)) hfront hback
  | shorthand hgit =>
      rw [shorthand_eq_written]
      exact ofText_written hproper (rfl : forms[3]? = _) (by decide)
        (not_startsWith_shorthand hproper)
        (nameBefore?_append [] [] hproper.name (List.forall_mem_nil _)) hfront hback
  | web hgit hscheme hending =>
      have hname := nameBefore?_web hproper.name (hsuffix hgit) hending
      simp only [List.mem_cons, List.not_mem_nil, or_false] at hscheme
      rcases hscheme with rfl | rfl
      · exact ofText_written hproper (rfl : forms[1]? = _) hending
          (not_startsWith_written (by decide)) hname hfront hback
      · exact ofText_written hproper (rfl : forms[0]? = _) hending (List.forall_mem_nil _) hname
          hfront hback
  | shell hgit =>
      exact ofText_written hproper (rfl : forms[2]? = _) (by decide)
        (not_startsWith_written (by decide)) (nameBefore?_shell hproper.name (hsuffix hgit)) hfront
        hback

/-- **References are read back.**  Each way to refer to a repository is read as that repository,
with any blanks around it.  So the address to clone from stands for whatever can be read: a
reference that is read from some text is read from its address as well. -/
theorem ofText_of_refers :
    (∀ reference : Reference, reference.Proper → ∀ text, Refers reference text →
      ∀ front back : String, front.toList.all isBlank = true → back.toList.all isBlank = true →
        ofText (front ++ text ++ back) = .ok reference) ∧
    ∀ text reference, ofText text = .ok reference →
      reference.Proper ∧ ofText reference.cloneUrl = .ok reference := by
  refine ⟨fun reference hproper text hrefers front back => hrefers.ofText_eq hproper, ?_⟩
  intro text reference hread
  have hproper := proper_of_ofText hread
  have hempty : "".toList.all isBlank = true := rfl
  have hurl := Refers.cloneUrl.ofText_eq hproper hempty hempty
  rw [String.empty_append, String.append_empty] at hurl
  exact ⟨hproper, hurl⟩

/-- A name that ends in `.git` behind a blank, and one that almost does before a slash. -/
theorem ofText_of_refers_git :
    (Reference.mk "o" "a.git").Proper ∧ (Reference.mk "o" ".gi").Proper ∧
      ofText " https://github.com/o/a.git.git\n" = .ok ⟨"o", "a.git"⟩ ∧
      ofText "http://github.com/o/.gi.git/" = .ok ⟨"o", ".gi"⟩ := by
  have hgit : (Reference.mk "o" "a.git").Proper := ⟨by decide +kernel, by decide +kernel⟩
  have hplain : (Reference.mk "o" ".gi").Proper := ⟨by decide +kernel, by decide +kernel⟩
  refine ⟨hgit, hplain, ?_, ?_⟩
  · exact ofText_of_refers.1 _ hgit _ .cloneUrl " " "\n" rfl rfl
  · exact ofText_of_refers.1 _ hplain _
      (@Refers.web _ rfl "http" ".git/" (by decide) (by decide)) "" "" rfl rfl

end Reference

end Repository

end ComponentCensus
