import ComponentCensus.Proofs.Entries
import ComponentCensus.Report.Findings
import ComponentCensus.Text.Split

/-!
# What reports are made of

The value of a report is a document (`Value.Document`): it has nothing but texts, truth values,
integers, lists and objects, and the names in each object are told apart and have no underscore.
What a record does not have is left out, so nothing in a document is null.

This is all that is known of reports when they are written to a text or serialized again.

## Main results

* `Census.document_report` : the report of every census is a document.

## Strategy

* Whether a list or an object is a document is told by its parts, and the lemmas that say so are
  for `simp`, so that records with fixed members need no argument of their own.
* A record with an optional member is settled by `document_object_optionalMember`, and a group of
  buckets by `document_groupValue`, from the entries of the buckets.
-/

namespace ComponentCensus

open ComponentCensus.Text

/-! ## Documents -/

/-- Whether a name is in camel case: it has no underscore. -/
def isCamelCased (name : String) : Bool :=
  !hasChar '_' name

@[simp] theorem isCamelCased_iff {name : String} : isCamelCased name = true ↔ '_' ∉ name.toList := by
  simp [isCamelCased, hasChar]

namespace Value

/-- A value of texts, truth values, integers, lists and objects, in which the names of each object
are told apart and in camel case. -/
inductive Document : Value → Prop
  | bool (b : Bool) : Document (.bool b)
  | int (i : Int) : Document (.int i)
  | str (s : String) : Document (.str s)
  | list {items : List Value} (hitems : ∀ item ∈ items, Document item) : Document (.list items)
  | object {members : List (String × Value)} (hkeys : (Entries.keys members).Nodup)
      (hnames : ∀ member ∈ members, isCamelCased member.1 = true)
      (hmembers : ∀ member ∈ members, Document member.2) : Document (.object members)

attribute [simp] Document.bool Document.int Document.str

@[simp] theorem document_list_iff {items : List Value} :
    (Value.list items).Document ↔ ∀ item ∈ items, item.Document := by
  constructor
  · intro hdocument
    cases hdocument with
    | list hitems => exact hitems
  · exact .list

@[simp] theorem document_object_iff {members : List (String × Value)} :
    (Value.object members).Document ↔ (Entries.keys members).Nodup ∧
      ∀ member ∈ members, isCamelCased member.1 = true ∧ member.2.Document := by
  constructor
  · intro hdocument
    cases hdocument with
    | object hkeys hnames hmembers =>
        exact ⟨hkeys, fun member hmember => ⟨hnames member hmember, hmembers member hmember⟩⟩
  · rintro ⟨hkeys, hmembers⟩
    exact .object hkeys (fun member hmember => (hmembers member hmember).1)
      fun member hmember => (hmembers member hmember).2

end Value

/-! ## Records -/

namespace Usage

@[simp] theorem document_textsValue (texts : List String) : (textsValue texts).Document := by
  simp [textsValue]

@[simp] theorem document_lineValue (line : Nat) : (lineValue line).Document :=
  .int line

/-- A member that may be absent has to have a name of its own. -/
theorem document_object_optionalMember {members : List (String × Value)} {name : String}
    (value : Option String) (hmembers : (Value.object members).Document)
    (hfresh : name ∉ Entries.keys members) (hname : isCamelCased name = true) :
    (Value.object (members ++ optionalMember name value)).Document := by
  cases value with
  | none => rwa [optionalMember, List.append_nil]
  | some text =>
      rw [Value.document_object_iff] at hmembers ⊢
      obtain ⟨hkeys, hdocuments⟩ := hmembers
      unfold Entries.keys at hkeys hfresh ⊢
      rw [optionalMember, List.map_append, List.forall_mem_append, List.forall_mem_singleton]
      exact ⟨hkeys.append (List.nodup_singleton name) (by simpa using hfresh), hdocuments, hname,
        .str text⟩

theorem PropDetail.document_toValue (detail : PropDetail) : detail.toValue.Document :=
  document_object_optionalMember _ (by simp [Entries.keys]) (by simp [Entries.keys]) (by simp)

theorem PropsSummary.document_toValue (summary : PropsSummary) : summary.toValue.Document := by
  simp [PropsSummary.toValue, Entries.keys, PropDetail.document_toValue]

theorem Rendering.document_toValue (item : Rendering) : item.toValue.Document := by
  simp [Rendering.toValue, Occurrence.toValue, Entries.keys, PropsSummary.document_toValue]

/-! ## Findings -/

namespace Findings

theorem document_destructuringValue (item : Destructuring) : (destructuringValue item).Document :=
  document_object_optionalMember _ (by simp [Entries.keys]) (by simp [Entries.keys]) (by simp)

theorem document_objectValue (item : ObjectMapping) : (objectValue item).Document :=
  document_object_optionalMember _ (by simp [Entries.keys, mappedValue]) (by simp [Entries.keys])
    (by simp)

/-- A group is a document if its buckets have distinct names in camel case and hold documents. -/
theorem document_groupValue {buckets : List (String × List Value)}
    (hkeys : (buckets.map (·.1)).Nodup) (hnames : ∀ bucket ∈ buckets, isCamelCased bucket.1 = true)
    (hitems : ∀ bucket ∈ buckets, ∀ item ∈ bucket.2, item.Document) :
    (groupValue buckets).Document := by
  have hbucketKeys : Entries.keys (buckets.map fun bucket => (bucket.1, Value.list bucket.2)) =
      buckets.map (·.1) := by
    simp [Entries.keys, Function.comp_def]
  rw [groupValue, Value.document_object_iff, hbucketKeys]
  refine ⟨hkeys, ?_⟩
  intro member hmember
  obtain ⟨bucket, hbucket, rfl⟩ := List.mem_map.mp hmember
  exact ⟨hnames bucket hbucket, .list (hitems bucket hbucket)⟩

theorem document_importBuckets (f : Findings) : (groupValue f.importBuckets).Document := by
  refine document_groupValue (by simp [importBuckets]) (by simp [importBuckets]) ?_
  simp [importBuckets, ImportRecord.toValue, AliasedImport.toValue, Entries.keys]

theorem document_usageBuckets (f : Findings) : (groupValue f.usageBuckets).Document := by
  refine document_groupValue (by simp [usageBuckets]) (by simp [usageBuckets]) ?_
  simp [usageBuckets, ↓List.forall_mem_map, Rendering.document_toValue, assignmentValue,
    document_destructuringValue, choiceValue, arrayValue, document_objectValue, lookupValue,
    contextValue, Entries.keys]

theorem document_advancedBuckets (f : Findings) : (groupValue f.advancedBuckets).Document := by
  refine document_groupValue (by simp [advancedBuckets]) (by simp [advancedBuckets]) ?_
  simp [advancedBuckets, sourceValue, wrappingValue, memoValue, placeValue, Entries.keys]

theorem document_toValue (f : Findings) : f.toValue.Document := by
  simp [Findings.toValue, ↓List.forall_mem_map, document_importBuckets, document_usageBuckets,
    document_advancedBuckets, propsValue, PropsSummary.document_toValue, Entries.keys]

end Findings

/-- The value of the report of a census is a document. -/
theorem Census.document_report (census : Census) : census.report.toValue.Document := by
  simp [Report.toValue, Report.summaryValue, Census.report, Findings.document_toValue, Entries.keys]

end Usage

end ComponentCensus
