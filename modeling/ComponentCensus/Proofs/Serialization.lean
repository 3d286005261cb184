import ComponentCensus.Proofs.Cuts
import ComponentCensus.Proofs.Documents
import ComponentCensus.Proofs.Monotonicity

/-!
# Serialized values are settled

Serializing a value writes its member names in camel case, leaves out members that are null and
lets the last of several members with one name win.  A value that is settled (`Value.Settled`) has
nothing left to do, at any depth: its names have no underscore and are told apart, and none of its
members is null.

## Main results

* `serialized_idempotent_and_keeps_reports` : serializing twice is serializing once, it leaves the
  patterns of a report alone, and an analysis lists the entries of the buckets as they are.

## Strategy

* Serializing settles every value (`Value.settled_serialized`).  No case map leads to an underscore
  (`not_mem_camelCase`), so a name in camel case is not cut again.  The case maps are tables of
  runs and of expansions, and that none of their images is an underscore is decided over the tables
  (`avoidsCode_lower`, `avoidsCode_title`).
* Serializing leaves settled values alone (`Value.serialized_of_settled`), and no others
  (`Value.settled_iff`).
* What a census reports is settled from the start (`Usage.Census.settled_patterns`), and so is
  every part of it.  The examples that an analysis takes from a bucket are therefore listed as they
  are (`listsEntries_of_settled`).
-/

namespace ComponentCensus

open ComponentCensus.Text

/-! ## Names in camel case -/

namespace Text

/-- Whether a run leads to no character with the given code. -/
def CaseRun.avoids (code : Nat) (run : CaseRun) : Bool :=
  (code : Int) < run.first + run.shift || run.last + run.shift < (code : Int)

/-- Whether a case map leads to no character with the given code. -/
def avoidsCode (code : Nat) (runs : List CaseRun) (expansions : List (Nat × List Nat)) : Bool :=
  runs.all (CaseRun.avoids code) && expansions.all fun entry => !entry.2.contains code

theorem avoidsCode_lower : avoidsCode 95 lowerRuns lowerExpansions = true := by
  decide +kernel

theorem avoidsCode_title : avoidsCode 95 titleRuns titleExpansions = true := by
  decide +kernel

theorem eq_of_ofNat_eq_underscore {code : Nat} (hcode : Char.ofNat code = '_') : code = 95 := by
  have htoNat : (Char.ofNat code).toNat = 95 := congrArg Char.toNat hcode
  unfold Char.ofNat at htoNat
  by_cases hvalid : code.isValidChar
  · rw [dif_pos hvalid] at htoNat
    exact htoNat
  · rw [dif_neg hvalid] at htoNat
    cases htoNat

theorem CaseRun.image?_ne {run : CaseRun} {code image : Nat} (hpos : 0 < image)
    (havoids : run.avoids image = true) : run.image? code ≠ some image := by
  unfold CaseRun.image?
  split
  · next hin =>
    intro himage
    simp only [Bool.and_eq_true, decide_eq_true_eq] at hin
    simp only [CaseRun.avoids, Bool.or_eq_true, decide_eq_true_eq] at havoids
    have htoNat : ((code : Int) + run.shift).toNat = image := Option.some.inj himage
    omega
  · rintro ⟨⟩

section Underscores

variable {runs : List CaseRun} {expansions : List (Nat × List Nat)} {c : Char} {cs : List Char}

theorem not_mem_changeCase (havoids : avoidsCode 95 runs expansions = true) (hc : c ≠ '_') :
    '_' ∉ changeCase runs expansions c := by
  obtain ⟨hruns, hexpansions⟩ := Bool.and_eq_true_iff.mp havoids
  intro hmem
  unfold changeCase at hmem
  split at hmem
  · next codes hcodes =>
    obtain ⟨before, after, hsplit, -⟩ := List.lookup_eq_some_iff.mp hcodes
    have hentry : (c.toNat, codes) ∈ expansions := by simp [hsplit]
    obtain ⟨code, hcode, hunderscore⟩ := List.mem_map.mp hmem
    rw [eq_of_ofNat_eq_underscore hunderscore] at hcode
    have hnone := List.all_eq_true.mp hexpansions _ hentry
    simp [hcode] at hnone
  · rw [List.mem_singleton] at hmem
    -- outside the expansions a character has one image, or none and stays
    cases himage : runs.findSome? (·.image? c.toNat) with
    | none =>
        rw [himage] at hmem
        exact hc hmem.symm
    | some image =>
        rw [himage] at hmem
        rw [eq_of_ofNat_eq_underscore hmem.symm] at himage
        obtain ⟨run, hrun, hrunImage⟩ := List.exists_of_findSome?_eq_some himage
        exact CaseRun.image?_ne (by decide) (List.all_eq_true.mp hruns run hrun) hrunImage

theorem not_mem_lowerFrom (hcs : '_' ∉ cs) (afterCased : Bool) : '_' ∉ lowerFrom afterCased cs := by
  induction cs generalizing afterCased with
  | nil => exact hcs
  | cons c rest ih =>
      obtain ⟨hc, hrest⟩ := not_or.mp (mt List.mem_cons.mpr hcs)
      rw [lowerFrom, List.mem_append]
      rintro (himage | hlater)
      · split at himage
        · exact absurd himage (by decide)
        · exact not_mem_changeCase avoidsCode_lower (Ne.symm hc) himage
      · exact ih hrest _ hlater

theorem not_mem_capitalize {s : String} (hs : '_' ∉ s.toList) : '_' ∉ (capitalize s).toList := by
  unfold capitalize
  split
  · exact List.not_mem_nil
  · next c rest hsplit =>
    rw [hsplit] at hs
    obtain ⟨hc, hrest⟩ := not_or.mp (mt List.mem_cons.mpr hs)
    rw [String.toList_ofList, List.mem_append]
    rintro (hfirst | hlater)
    · exact not_mem_changeCase avoidsCode_title (Ne.symm hc) hfirst
    · exact not_mem_lowerFrom hrest _ hlater

end Underscores

end Text

theorem not_mem_camelCase (name : String) : '_' ∉ (camelCase name).toList := by
  -- the name is cut at the underscores, so no piece has one
  have hpieces : ∀ piece ∈ pieces '_' name, '_' ∉ piece.toList := by
    intro piece hpiece
    obtain ⟨cs, hcs, rfl⟩ := List.mem_map.mp hpiece
    rw [String.toList_ofList]
    exact not_mem_of_mem_splitOn hcs
  unfold camelCase
  split
  · exact List.not_mem_nil
  · next head rest hsplit =>
    rw [hsplit, List.forall_mem_cons] at hpieces
    obtain ⟨hhead, hrest⟩ := hpieces
    rw [String.toList_append, List.mem_append, String.toList_join]
    rintro (hfirst | hlater)
    · exact hhead hfirst
    · obtain ⟨word, hword, hmem⟩ := List.mem_flatMap.mp hlater
      obtain ⟨piece, hpiece, rfl⟩ := List.mem_map.mp hword
      exact not_mem_capitalize (hrest piece hpiece) hmem

theorem isCamelCased_camelCase (name : String) : isCamelCased (camelCase name) = true :=
  isCamelCased_iff.mpr (not_mem_camelCase name)

theorem camelCase_of_isCamelCased {name : String} (hname : isCamelCased name = true) :
    camelCase name = name := by
  have hpieces : pieces '_' name = [name] := by
    rw [pieces, splitOn_of_not_mem (isCamelCased_iff.mp hname), List.map_singleton,
      String.ofList_toList]
  rw [camelCase, hpieces]
  exact String.append_empty

/-! ## Settled values -/

namespace Value

variable {value : Value} {items : List Value} {members done : List (String × Value)}

/-- A value that serializing does not change: in every object the names are in camel case and told
apart, and no member is null. -/
inductive Settled : Value → Prop
  | scalar {value : Value} (hscalar : value.isScalar = true) : Settled value
  | list {items : List Value} (hitems : ∀ item ∈ items, Settled item) : Settled (.list items)
  | object {members : List (String × Value)} (hkeys : (Entries.keys members).Nodup)
      (hnames : ∀ member ∈ members, isCamelCased member.1 = true)
      (hpresent : ∀ member ∈ members, member.2.isNull = false)
      (hvalues : ∀ member ∈ members, Settled member.2) : Settled (.object members)

theorem settled_list_iff : (Value.list items).Settled ↔ ∀ item ∈ items, item.Settled := by
  constructor
  · intro hsettled
    cases hsettled with
    | scalar hscalar => cases hscalar
    | list hitems => exact hitems
  · exact .list

theorem settled_object_iff : (Value.object members).Settled ↔
    (Entries.keys members).Nodup ∧ ∀ member ∈ members,
      isCamelCased member.1 = true ∧ member.2.isNull = false ∧ member.2.Settled := by
  constructor
  · intro hsettled
    cases hsettled with
    | scalar hscalar => cases hscalar
    | object hkeys hnames hpresent hvalues =>
        exact ⟨hkeys, fun member hmember =>
          ⟨hnames member hmember, hpresent member hmember, hvalues member hmember⟩⟩
  · rintro ⟨hkeys, hmembers⟩
    exact .object hkeys (fun member hmember => (hmembers member hmember).1)
      (fun member hmember => (hmembers member hmember).2.1)
      fun member hmember => (hmembers member hmember).2.2

/-! ### Serializing settles -/

theorem isNull_serialized (value : Value) : value.serialized.isNull = value.isNull := by
  cases value <;> simp [serialized, isNull]

theorem Settled.put (hdone : (Value.object done).Settled) {name : String}
    (hname : isCamelCased name = true) (hpresent : value.isNull = false) (hvalue : value.Settled) :
    (Value.object (Entries.put name value done)).Settled := by
  rw [settled_object_iff] at hdone ⊢
  obtain ⟨hkeys, hmembers⟩ := hdone
  refine ⟨Entries.nodup_keys_put hkeys name value, ?_⟩
  intro member hmember
  rcases Entries.mem_of_mem_put hmember with rfl | hbefore
  · exact ⟨hname, hpresent, hvalue⟩
  · exact hmembers member hbefore

mutual

/-- Every serialized value is settled. -/
theorem settled_serialized : ∀ value : Value, value.serialized.Settled
  | .list items => by
      rw [serialized]
      exact .list (settled_serializedItems items)
  | .object members => by
      rw [serialized]
      exact settled_serializedMembers members (settled_object_iff.mpr ⟨List.nodup_nil, by simp⟩)
  | .null => .scalar rfl
  | .bool _ => .scalar rfl
  | .int _ => .scalar rfl
  | .float _ => .scalar rfl
  | .str _ => .scalar rfl
  | .other _ => .scalar rfl

theorem settled_serializedItems : ∀ items : List Value, ∀ item ∈ serializedItems items, item.Settled
  | [] => by simp [serializedItems]
  | first :: rest => by
      rw [serializedItems, List.forall_mem_cons]
      exact ⟨settled_serialized first, settled_serializedItems rest⟩

/-- Members that are written after settled ones leave them settled. -/
theorem settled_serializedMembers : ∀ (members : List (String × Value))
    {done : List (String × Value)}, (Value.object done).Settled →
      (Value.object (serializedMembers done members)).Settled
  | [], _, hdone => by rwa [serializedMembers]
  | (name, value) :: rest, done, hdone => by
      rw [serializedMembers]
      apply settled_serializedMembers rest
      split
      · exact hdone
      · next hpresent =>
        refine hdone.put (isCamelCased_camelCase name) ?_ (settled_serialized value)
        rw [isNull_serialized]
        exact Bool.eq_false_iff.mpr hpresent

end

/-! ### Settled values stay as they are -/

theorem serializedItems_eq_map (items : List Value) : serializedItems items = items.map serialized := by
  induction items with
  | nil => simp [serializedItems]
  | cons item rest ih => rw [serializedItems, ih, List.map_cons]

/-- Members that need no change and have new names are appended. -/
theorem serializedMembers_of_settled (hkeys : (Entries.keys (done ++ members)).Nodup)
    (hmembers : ∀ member ∈ members, isCamelCased member.1 = true ∧ member.2.isNull = false ∧
      member.2.serialized = member.2) : serializedMembers done members = done ++ members := by
  induction members generalizing done with
  | nil => rw [serializedMembers, List.append_nil]
  | cons member rest ih =>
      obtain ⟨name, value⟩ := member
      obtain ⟨⟨hname, hpresent, hvalue⟩, hrest⟩ := List.forall_mem_cons.mp hmembers
      -- names are told apart, so no member that is done is written over
      have hfresh : name ∉ Entries.keys done := by
        intro hdone
        rw [Entries.keys, List.map_append] at hkeys
        exact List.disjoint_of_nodup_append hkeys hdone List.mem_cons_self
      have hshift : done ++ (name, value) :: rest = done ++ [(name, value)] ++ rest := by simp
      rw [hshift] at hkeys ⊢
      rw [serializedMembers, camelCase_of_isCamelCased hname, hvalue, hpresent,
        if_neg Bool.false_ne_true, Entries.put_of_not_mem_keys hfresh, ih hkeys hrest]

theorem serialized_of_settled (hsettled : value.Settled) : value.serialized = value := by
  induction hsettled with
  | @scalar value hscalar =>
      cases value with
      | list items => cases hscalar
      | object members => cases hscalar
      | _ => simp only [serialized]
  | @list items _ ih =>
      rw [serialized, serializedItems_eq_map]
      exact congrArg Value.list ((List.map_congr_left ih).trans (List.map_id' items))
  | @object members hkeys hnames hpresent _ ih =>
      have hmembers : ∀ member ∈ members, isCamelCased member.1 = true ∧ member.2.isNull = false ∧
          member.2.serialized = member.2 := by
        intro member hmember
        exact ⟨hnames member hmember, hpresent member hmember, ih member hmember⟩
      rw [serialized, @serializedMembers_of_settled members [] hkeys hmembers, List.nil_append]

/-- The settled values are those that serializing leaves alone. -/
theorem settled_iff : value.Settled ↔ value.serialized = value := by
  constructor
  · exact serialized_of_settled
  · intro hfixed
    rw [← hfixed]
    exact settled_serialized value

/-- What is read from a settled object is settled. -/
theorem Settled.lookupD {default found : Value} {name : String} (hvalue : value.Settled)
    (hdefault : default.Settled) (hfound : value.lookupD name default = .ok found) :
    found.Settled := by
  cases value with
  | object members =>
      cases hfound
      cases hget : Entries.get? name members with
      | none => exact hdefault
      | some part =>
          exact ((settled_object_iff.mp hvalue).2 _ (Entries.mem_of_get?_eq_some hget)).2.2
  | _ => cases hfound

theorem Document.isNull_eq_false (hdocument : value.Document) : value.isNull = false := by
  cases hdocument <;> rfl

theorem Document.settled (hdocument : value.Document) : value.Settled := by
  induction hdocument with
  | bool b => exact .scalar rfl
  | int i => exact .scalar rfl
  | str s => exact .scalar rfl
  | list _ ih => exact .list ih
  | object hkeys hnames hmembers ih =>
      exact .object hkeys hnames (fun member hmember => (hmembers member hmember).isNull_eq_false) ih

end Value

theorem Usage.Census.settled_patterns (census : Usage.Census) : census.report.patterns.Settled :=
  census.findings.document_toValue.settled

/-! ## Examples -/

namespace Complexity

variable {classifier : Classifier} {analysis : Analysis} {patterns : Value} {category : Category}

/-- The examples that the document of an analysis lists for a category. -/
def examplesIn (name : String) (document : Value) : Except Fault Value := do
  (← (← document.member "foundPatterns").member name).member "examples"

theorem mem_of_mem_takeSigned {α : Type} {count : Int} {items : List α} {item : α}
    (hitem : item ∈ Value.takeSigned count items) : item ∈ items := by
  unfold Value.takeSigned at hitem
  split at hitem
  · exact List.mem_of_mem_take hitem
  · exact List.mem_of_mem_take hitem

theorem settled_of_mem_bucket {entries : List Value} (hpatterns : patterns.Settled)
    (hbucket : category.bucketIn patterns = .ok (.list entries)) {item : Value}
    (hitem : item ∈ entries) : item.Settled := by
  obtain ⟨group, hgroup, hlist⟩ := exists_of_bind_eq_ok hbucket
  have hempty : (Value.object []).Settled := .object List.nodup_nil (by simp) (by simp) (by simp)
  have hentries := (hpatterns.lookupD hempty hgroup).lookupD (.list (by simp)) hlist
  exact Value.settled_list_iff.mp hentries item hitem

/-- Settled examples are listed as they are. -/
theorem Found.toValue_of_settled {found : Found} (hexamples : ∀ item ∈ found.examples, item.Settled) :
    found.toValue = .object
      [("count", .int found.count), ("complexity", .int found.weight),
       ("examples", .list found.examples)] := by
  have hcount : (Value.int found.count).Settled := .scalar rfl
  have hweight : (Value.int found.weight).Settled := .scalar rfl
  apply Value.serialized_of_settled
  rw [Value.settled_object_iff]
  refine ⟨by simp [Entries.keys], ?_⟩
  simp [Value.isNull, hcount, hweight, Value.Settled.list hexamples]

/-- The names that are found lead to examples, as long as these are settled. -/
theorem examplesIn_toValue_iff (hsettled : ∀ entry ∈ analysis.found, ∀ item ∈ entry.2.examples,
      item.Settled) {name : String} {listed : Value} :
    examplesIn name analysis.toValue = .ok listed ↔
      ∃ found, analysis.found.get? name = some found ∧ listed = .list found.examples := by
  -- reading the examples of a name is looking the name up among the categories found
  have hexamples : examplesIn name analysis.toValue =
      (((analysis.found.get? name).map Found.toValue).elim (.error (.missingMember name)) .ok >>=
        Value.member "examples") := by
    rw [← Entries.get?_map_values]
    unfold examplesIn
    refine bind_of_eq_ok (show analysis.toValue.member "foundPatterns" = .ok _ from rfl) ?_
    rw [Value.member]
    cases Entries.get? name (analysis.found.map fun entry => (entry.1, entry.2.toValue)) with
    | none => rfl
    | some value => rfl
  rw [hexamples]
  cases hget : analysis.found.get? name with
  | none =>
      constructor
      · rintro ⟨⟩
      · rintro ⟨found, ⟨⟩, -⟩
  | some found =>
      have htoValue := Found.toValue_of_settled (hsettled _ (Entries.mem_of_get?_eq_some hget))
      have hmember : found.toValue.member "examples" = .ok (.list found.examples) := by
        rw [htoValue]
        rfl
      constructor
      · intro hlisted
        exact ⟨found, rfl, Except.ok.inj (hlisted.symm.trans hmember)⟩
      · rintro ⟨other, ⟨⟩, rfl⟩
        exact hmember

theorem mem_foundIn_iff (examples : Int) {name : String} {found : Found} :
    (name, found) ∈ foundIn examples patterns ↔
      ∃ category ∈ catalog, category.name = name ∧ category.itemsIn patterns ≠ [] ∧
        found = ⟨(category.itemsIn patterns).length, category.weight,
          Value.takeSigned examples (category.itemsIn patterns)⟩ := by
  unfold foundIn
  rw [List.mem_filterMap]
  refine exists_congr fun category => and_congr_right fun _ => ?_
  unfold Category.entryIn
  split
  next hempty => simp [hempty]
  next hfilled =>
      rw [Option.some_inj, Prod.mk.injEq, eq_comm (b := found)]
      exact and_congr_right fun _ => (and_iff_right hfilled).symm

/-- The document of an analysis lists examples for the categories that have entries, and for those
the first entries of the bucket, as they stand there. -/
def ListsEntries (classifier : Classifier) (patterns document : Value) : Prop :=
  ∀ name listed, examplesIn name document = .ok listed ↔
    ∃ category ∈ catalog, category.name = name ∧ ∃ entries,
      category.bucketIn patterns = .ok (.list entries) ∧ entries ≠ [] ∧
      listed = .list (Value.takeSigned classifier.examples entries) ∧
      ∀ item ∈ Value.takeSigned classifier.examples entries, item ∈ entries

theorem listsEntries_of_settled (hpatterns : patterns.Settled) (hlists : HasLists patterns)
    (hfound : analysis.found = foundIn classifier.examples patterns) :
    ListsEntries classifier patterns analysis.toValue := by
  -- examples come from a bucket, and parts of settled values are settled
  have hsettled : ∀ entry ∈ analysis.found, ∀ item ∈ entry.2.examples, item.Settled := by
    rintro ⟨name, found⟩ hentry item hitem
    rw [hfound, mem_foundIn_iff] at hentry
    obtain ⟨category, hcategory, -, -, rfl⟩ := hentry
    exact settled_of_mem_bucket hpatterns (hlists category hcategory) (mem_of_mem_takeSigned hitem)
  intro name listed
  rw [examplesIn_toValue_iff hsettled, hfound]
  constructor
  · rintro ⟨found, hget, rfl⟩
    obtain ⟨category, hcategory, hname, hfilled, rfl⟩ :=
      (mem_foundIn_iff _).mp (Entries.mem_of_get?_eq_some hget)
    exact ⟨category, hcategory, hname, category.itemsIn patterns, hlists category hcategory,
      hfilled, rfl, fun item => mem_of_mem_takeSigned⟩
  · rintro ⟨category, hcategory, hname, entries, hbucket, hfilled, rfl, -⟩
    -- the bucket that the catalog leads to is the one that was classified
    rw [hlists category hcategory, Except.ok.injEq, Value.list.injEq] at hbucket
    subst hbucket
    have hentry := (mem_foundIn_iff classifier.examples).mpr
      ⟨category, hcategory, hname, hfilled, rfl⟩
    exact ⟨_, Entries.get?_of_mem (nodup_keys_found _ _) hentry, rfl⟩

/-- **Serializing once.**  Serializing settles every value, so that serializing once more changes
nothing.  It leaves the patterns of every report alone.  Every report can be classified, and
whatever the score, the document lists entries of the buckets as they stand there; so does the
document of an analysis. -/
theorem serialized_idempotent_and_keeps_reports :
    (∀ value : Value, value.serialized.Settled ∧ value.serialized.serialized = value.serialized) ∧
    (∀ census : Usage.Census, census.report.patterns.serialized = census.report.patterns) ∧
    ∀ (classifier : Classifier) (census : Usage.Census),
      (∃ found, classifier.classify census.report.patterns = .ok found ∧
        ∀ score advice, ListsEntries classifier census.report.patterns
          (Analysis.toValue ⟨found, score, advice⟩)) ∧
      ∀ analysis, classifier.analyze census.report = .ok analysis →
        ListsEntries classifier census.report.patterns analysis.toValue := by
  refine ⟨?_, ?_, ?_⟩
  · intro value
    have hsettled := Value.settled_serialized value
    exact ⟨hsettled, Value.serialized_of_settled hsettled⟩
  · intro census
    exact Value.serialized_of_settled census.settled_patterns
  · intro classifier census
    have hlists := hasLists_report census
    constructor
    · refine ⟨_, classify_eq hlists, ?_⟩
      intro score advice
      exact listsEntries_of_settled census.settled_patterns hlists rfl
    · intro analysis hanalyze
      obtain ⟨hfound, -⟩ := analyze_cases hlists hanalyze
      exact listsEntries_of_settled census.settled_patterns hlists hfound

/-- The one portal of a census is listed as its report has it. -/
theorem serialized_keeps_portalOnly :
    ∃ analysis, ({} : Classifier).analyze portalOnly.report = .ok analysis ∧
      examplesIn "Portal Usage" analysis.toValue = .ok (.list [.object [("line", .int 1)]]) := by
  have hbound : ∀ category ∈ catalog,
      (category.itemsIn portalOnly.report.patterns).length ≤ Number.twoTo 64 := by
    decide
  obtain ⟨analysis, hanalyze⟩ := exists_analyze (hasLists_report _) hbound
  refine ⟨analysis, hanalyze, ?_⟩
  obtain ⟨-, -, hexamples⟩ := serialized_idempotent_and_keeps_reports
  apply ((hexamples {} portalOnly).2 analysis hanalyze _ _).mpr
  exact ⟨catalog.get ⟨14, by decide⟩, List.get_mem _ _, rfl, [.object [("line", .int 1)]], rfl,
    List.cons_ne_nil _ _, rfl, fun _ => mem_of_mem_takeSigned⟩

end Complexity

end ComponentCensus
