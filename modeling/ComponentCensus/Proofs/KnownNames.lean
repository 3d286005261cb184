import ComponentCensus.Proofs.Growth
import ComponentCensus.Proofs.Lines

/-!
# Two runs that know different names

Two runs over the same tree, the second of which starts with more names and more findings, stay
that way.  The tree of the second run may stand on other lines, since findings are compared by
their number.  Names that only the second run knows may make it write down something that the first
one passes over, and they may change what a record says.  They never keep it from writing a record
that the first run writes, since every condition of the census asks for a name to be known and none
for a name to be unknown.

The one place with two conditions in a row is a pattern that takes something out of a value; the
value is either a name or a call, so that the second condition is never reached by a name.

## Main results

* `Within.visit` : what is within another census before a visit is within it after the visit.

## Strategy

* Conditions first: what the first run knows, the second one knows too (`Within.knows`,
  `Within.isKnownReference`).
* Then one lemma for each note.  Either both runs write, or the first one writes nothing and what
  the second one writes only adds to its findings (`Within.of_unchanged`).
* The calls that are set aside do not depend on names, so the two runs set aside the same ones
  (`ProgressWithin`).
-/

namespace ComponentCensus.Usage

open ComponentCensus.Syntax ComponentCensus.Text

variable {census census' : Census}

/-! ## Conditions -/

namespace Within

section Conditions

variable (hwithin : Within census census')

include hwithin

theorem hasComponent {name : String} (hknown : census.hasComponent name = true) :
    census'.hasComponent name = true := by
  rw [Census.hasComponent_iff] at hknown ⊢
  exact hwithin.components hknown

theorem hasNamespace {name : String} (hknown : census.hasNamespace name = true) :
    census'.hasNamespace name = true := by
  rw [Census.hasNamespace_iff] at hknown ⊢
  exact hwithin.namespaces hknown

theorem hasMapping {name : String} (hknown : census.hasMapping name = true) :
    census'.hasMapping name = true := by
  rw [Census.hasMapping_iff] at hknown ⊢
  exact hwithin.mappings hknown

theorem knows {name : String} (hknown : census.knows name = true) :
    census'.knows name = true := by
  rcases Bool.or_eq_true_iff.mp hknown with hcomponent | hnamespace
  · exact Bool.or_eq_true_iff.mpr (Or.inl (hwithin.hasComponent hcomponent))
  · exact Bool.or_eq_true_iff.mpr (Or.inr (hwithin.hasNamespace hnamespace))

theorem renders {name : String} (hrenders : census.renders name = true) :
    census'.renders name = true := by
  simp only [Census.renders, Bool.or_eq_true, Bool.and_eq_true] at hrenders ⊢
  exact hrenders.imp hwithin.hasComponent fun hroot => ⟨hroot.1, hwithin.knows hroot.2⟩

theorem isKnownReference {node : Node} (hknown : isKnownReference census node = true) :
    isKnownReference census' node = true := by
  induction node using node_induction with
  | step label children ih =>
      rw [isKnownReference_eq] at hknown ⊢
      -- wrappers and branches lead to children, for which it holds by induction
      have hpart : ∀ part : Option Node, (∀ child ∈ part, child ∈ children) →
          part.elim false (Usage.isKnownReference census) = true →
          part.elim false (Usage.isKnownReference census') = true := by
        intro part hchild hpart
        cases part with
        | none => exact hpart
        | some child => exact ih child (hchild child rfl) hpart
      split at hknown
      · next hwrapper =>
        rw [if_pos hwrapper]
        exact hpart _ (fun child hchild => mem_children_of_wrappedContent? hchild) hknown
      · next hwrapper =>
        rw [if_neg hwrapper]
        split at hknown
        · exact hwithin.knows hknown
        · split at hknown
          · rcases Bool.or_eq_true_iff.mp hknown with hdotted | hroot
            · exact Bool.or_eq_true_iff.mpr (Or.inl (hwithin.hasComponent hdotted))
            · exact Bool.or_eq_true_iff.mpr (Or.inr (hwithin.knows hroot))
          · cases hknown
        · rcases Bool.or_eq_true_iff.mp hknown with hbranch | hbranch
          · exact Bool.or_eq_true_iff.mpr
              (Or.inl (hpart _ (fun child hchild => mem_children_of_child? hchild) hbranch))
          · exact Bool.or_eq_true_iff.mpr
              (Or.inr (hpart _ (fun child hchild => mem_children_of_child? hchild) hbranch))
        · cases hknown

theorem mappedComponent? {property : Node} {entry : MappingEntry}
    (hentry : mappedComponent? census property = some entry) :
    mappedComponent? census' property = some entry := by
  unfold Usage.mappedComponent? at hentry ⊢
  split at hentry
  · split at hentry
    · split at hentry
      · next hknown => simpa [hwithin.hasComponent hknown] using hentry
      · cases hentry
    · cases hentry
  · split at hentry
    · next hknown => simpa [hwithin.hasComponent hknown] using hentry
    · cases hentry
  · cases hentry

end Conditions

/-! ## Imports -/

section Notes

variable (hwithin : Within census census') (lineOf : Label → Nat)

include hwithin

/-- Where the first census stays as it is, the second may grow. -/
theorem of_unchanged {next next' : Census} (hleft : next = census) (hright : Edits census' next') :
    Within next next' :=
  hleft ▸ hwithin.trans hright.steps.within

theorem bindDefault (source : String) (line line' : Nat) (name : String) :
    Within (census.bindDefault source line name) (census'.bindDefault source line' name) :=
  (hwithin.record
    { hwithin.findings with
      defaultImports := length_concat_le hwithin.findings.defaultImports _ _ }).addComponent name

theorem bindNamespace (source : String) (line line' : Nat) (name : String) :
    Within (census.bindNamespace source line name) (census'.bindNamespace source line' name) :=
  (hwithin.record
    { hwithin.findings with
      namespaceImports :=
        length_concat_le hwithin.findings.namespaceImports _ _ }).addNamespace name

theorem bindNamed (source : String) (line line' : Nat) (imported localName : String) :
    Within (census.bindNamed source line imported localName)
      (census'.bindNamed source line' imported localName) := by
  let listed (line : Nat) (f : Findings) : Findings :=
    { f with namedImports := f.namedImports ++ [⟨imported, source, line⟩] }
  have hnamed : Within (census.record (listed line)) (census'.record (listed line')) :=
    hwithin.record
      { hwithin.findings with
        namedImports := length_concat_le hwithin.findings.namedImports _ _ }
  unfold Census.bindNamed
  -- both runs rename, or neither does
  by_cases hlocal : localName = imported
  · simp only [if_pos hlocal]
    exact hnamed.addComponent localName
  · simp only [if_neg hlocal]
    refine (hnamed.record ?_).addComponent localName
    exact
      { hnamed.findings with
        aliasedImports := keys_put_subset hnamed.findings.aliasedImports _ _ _ }

theorem bindSpecifier (source : String) (line line' : Nat) (specifier : Node) :
    Within (Census.bindSpecifier source line census specifier)
      (Census.bindSpecifier source line' census' (relined lineOf specifier)) := by
  unfold Census.bindSpecifier
  rw [kind_relined, child?_relined, child?_relined]
  by_cases hkind : specifier.kind = .importSpecifier
  · rw [if_pos hkind, if_pos hkind]
    cases specifier.child? .name with
    | none => exact hwithin
    | some imported =>
        simp only [Option.map_some, nameOf_relined]
        cases specifier.child? .alias with
        | none => exact hwithin.bindNamed ..
        | some aliasNode =>
            simp only [Option.map_some, text_relined]
            exact hwithin.bindNamed ..
  · rw [if_neg hkind, if_neg hkind]
    exact hwithin

theorem bindPart (source : String) (line line' : Nat) (part : Node) :
    Within (Census.bindPart source line census part)
      (Census.bindPart source line' census' (relined lineOf part)) := by
  unfold Census.bindPart
  rw [kind_relined, text_relined, firstContent?_relined, contents_relined, List.foldl_map]
  generalize part.kind = kind
  split
  · exact hwithin.bindDefault ..
  · cases part.firstContent? with
    | none => exact hwithin
    | some name =>
        simp only [Option.map_some, text_relined]
        exact hwithin.bindNamespace ..
  · exact foldl
      (fun specifier hwithin => hwithin.bindSpecifier lineOf source line line' specifier) _ hwithin
  · exact hwithin

theorem bindClause (source : Option String) (line line' : Nat) (clause : Node) :
    Within (Census.bindClause source line census clause)
      (Census.bindClause source line' census' (relined lineOf clause)) := by
  unfold Census.bindClause
  rw [kind_relined, firstContent?_relined, contents_relined, childValue?_relined]
  generalize clause.kind = kind
  split
  · generalize (clause.child? .source).bind Node.stringValue? = required
    cases clause.firstContent? with
    | none => exact hwithin
    | some name =>
        cases required with
        | none => exact hwithin
        | some required =>
            simp only [Option.map_some, text_relined]
            exact hwithin.bindDefault ..
  · rw [List.foldl_map]
    exact foldl (fun part hwithin => hwithin.bindPart lineOf _ line line' part) _ hwithin
  · exact hwithin

theorem noteImport (statement : Node) :
    Within (census.noteImport statement) (census'.noteImport (relined lineOf statement)) := by
  unfold Census.noteImport
  rw [contents_relined, childValue?_relined, List.foldl_map]
  exact foldl (fun clause hwithin => hwithin.bindClause lineOf _ _ _ clause) _ hwithin

/-! ## Variables -/

theorem noteAlias (line line' : Nat) (variableName : String) (value : Node) :
    Within (census.noteAlias line variableName value)
      (census'.noteAlias line' variableName (relined lineOf value)) := by
  by_cases hknown : Usage.isKnownReference census value = true
  · cases hreference : assignmentText? value with
    | none =>
        simp only [Census.noteAlias, assignmentText?_relined, hreference, ite_self]
        exact hwithin
    | some reference =>
        simp only [Census.noteAlias, assignmentText?_relined, isKnownReference_relined,
          kind_relined, text_relined, hreference, hknown, hwithin.isKnownReference hknown, if_true]
        let assigned (line : Nat) (f : Findings) : Findings :=
          { f with assignments := f.assignments.put variableName ⟨reference, line⟩ }
        have hassigned : Within ((census.record (assigned line)).addComponent variableName)
            ((census'.record (assigned line')).addComponent variableName) :=
          (hwithin.record
            { hwithin.findings with
              assignments := keys_put_subset hwithin.findings.assignments _ _ _ }).addComponent
                variableName
        -- only the second run may know that the value is a namespace, and makes the variable one
        refine ite (fun hguard => ?_) (hassigned.addNamespace variableName) hassigned
          { Within.refl _ with namespaces := subset_addName _ variableName }
        obtain ⟨hkind, hspace⟩ := Bool.and_eq_true_iff.mp hguard
        exact Bool.and_eq_true_iff.mpr ⟨hkind, hassigned.hasNamespace hspace⟩
  · refine hwithin.of_unchanged ?_ (Census.noteAlias_edits ..)
    rw [Census.noteAlias, if_neg hknown]

theorem noteProperty (space : String) (line line' : Nat) (binding : String × String) :
    Within (Census.noteProperty space line census binding)
      (Census.noteProperty space line' census' binding) :=
  ((hwithin.record
    { hwithin.findings with
      destructurings := length_concat_le hwithin.findings.destructurings _ _ }).addComponent
        binding.1).addComponent binding.2

theorem noteContext (line line' : Nat) (context context' : Node)
    (bindings : List (String × String)) :
    Within (census.noteContext line context bindings)
      (census'.noteContext line' context' bindings) :=
  (hwithin.record
    { hwithin.findings with
      contexts := length_concat_le hwithin.findings.contexts _ _ }).addComponents _

theorem notePattern (line line' : Nat) (pattern value : Node) :
    Within (census.notePattern line pattern value)
      (census'.notePattern line' (relined lineOf pattern) (relined lineOf value)) := by
  cases hspace : value.identifierName?.filter census.hasNamespace with
  | some space =>
      obtain ⟨hname, hknown⟩ := Option.filter_eq_some_iff.mp hspace
      have hspace' : value.identifierName?.filter census'.hasNamespace = some space :=
        Option.filter_eq_some_iff.mpr ⟨hname, hwithin.hasNamespace hknown⟩
      simp only [Census.notePattern, identifierName?_relined, patternBindings_relined, hspace,
        hspace']
      exact foldl (fun binding hwithin => hwithin.noteProperty space line line' binding) _ hwithin
  | none =>
      cases hspace' : value.identifierName?.filter census'.hasNamespace with
      | some space =>
          -- a value that is a name is no call, so the first run takes neither branch
          have hname := (Option.filter_eq_some_iff.mp hspace').1
          have hcall : value.kind ≠ .callExpression := by
            intro hkind
            rw [Node.identifierName?, Node.unwrap_of_not_isWrapper (by rw [hkind]; rfl)] at hname
            simp [hkind] at hname
          refine hwithin.of_unchanged ?_ (Census.notePattern_edits ..)
          simp [Census.notePattern, hspace, hcall]
      | none =>
          simp only [Census.notePattern, identifierName?_relined, patternBindings_relined,
            kind_relined, calleeName?_relined, arguments_relined, hspace, hspace']
          split
          · cases value.arguments with
            | nil => exact hwithin
            | cons context others =>
                cases patternBindings pattern with
                | nil => exact hwithin
                | cons binding rest => exact hwithin.noteContext ..
          · exact hwithin

theorem noteDeclarator (declarator : Node) :
    Within (census.noteDeclarator declarator)
      (census'.noteDeclarator (relined lineOf declarator)) := by
  unfold Census.noteDeclarator
  rw [kind_relined, child?_relined, field?_relined]
  by_cases hkind : declarator.kind = .variableDeclarator
  · rw [if_pos hkind, if_pos hkind]
    cases declarator.child? .name with
    | none => exact hwithin
    | some target =>
        cases declarator.field? .value with
        | none => exact hwithin
        | some value =>
            simp only [Option.map_some, kind_relined, text_relined]
            generalize target.kind = kind
            split
            · exact hwithin.noteAlias ..
            · exact hwithin.notePattern ..
            · exact hwithin
  · rw [if_neg hkind, if_neg hkind]
    exact hwithin

theorem noteDeclaration (declaration : Node) :
    Within (census.noteDeclaration declaration)
      (census'.noteDeclaration (relined lineOf declaration)) := by
  unfold Census.noteDeclaration
  rw [contents_relined, List.foldl_map]
  exact foldl (fun declarator hwithin => hwithin.noteDeclarator lineOf declarator) _ hwithin

/-! ## Collections and choices -/

theorem noteArray (site : Site) :
    Within (census.noteArray site) (census'.noteArray (relinedSite lineOf site)) := by
  by_cases hany : (site.node.contents.filterMap Node.identifierName?).any census.hasComponent = true
  · have hany' : (site.node.contents.filterMap Node.identifierName?).any census'.hasComponent =
        true := by
      obtain ⟨name, hname, hknown⟩ := List.any_eq_true.mp hany
      exact List.any_eq_true.mpr ⟨name, hname, hwithin.hasComponent hknown⟩
    simp only [Census.noteArray, node_relinedSite, contents_relined, List.filterMap_map,
      identifierName?_comp_relined, mappingVariable?_relinedSite, if_pos hany, if_pos hany']
    refine (hwithin.record ?_).addMapping _
    exact { hwithin.findings with arrays := length_concat_le hwithin.findings.arrays _ _ }
  · refine hwithin.of_unchanged ?_ (Census.noteArray_edits ..)
    simp only [Census.noteArray, if_neg hany]

theorem noteObject (site : Site) :
    Within (census.noteObject site) (census'.noteObject (relinedSite lineOf site)) := by
  cases hentries : site.node.contents.filterMap (Usage.mappedComponent? census) with
  | nil =>
      refine hwithin.of_unchanged ?_ (Census.noteObject_edits ..)
      simp only [Census.noteObject, hentries]
  | cons entry rest =>
      -- an entry that the first run sees is seen by the second
      have hentry : entry ∈ site.node.contents.filterMap (Usage.mappedComponent? census') := by
        have hfirst : entry ∈ site.node.contents.filterMap (Usage.mappedComponent? census) := by
          rw [hentries]
          exact List.mem_cons_self ..
        obtain ⟨property, hproperty, hmapped⟩ := List.mem_filterMap.mp hfirst
        exact List.mem_filterMap.mpr ⟨property, hproperty, hwithin.mappedComponent? hmapped⟩
      cases hentries' : site.node.contents.filterMap (Usage.mappedComponent? census') with
      | nil => simp [hentries'] at hentry
      | cons entry' rest' =>
          simp only [Census.noteObject, node_relinedSite, contents_relined, List.filterMap_map,
            mappedComponent?_comp_relined, mappingVariable?_relinedSite, hentries, hentries']
          refine (hwithin.record ?_).addMapping _
          exact { hwithin.findings with objects := length_concat_le hwithin.findings.objects _ _ }

theorem noteSubscript (subscript : Node) :
    Within (census.noteSubscript subscript)
      (census'.noteSubscript (relined lineOf subscript)) := by
  unfold Census.noteSubscript
  rw [childName?_relined, field?_relined]
  cases (subscript.child? .object).bind Node.identifierName? with
  | none => exact hwithin
  | some mapping =>
      cases subscript.field? .index with
      | none => exact hwithin
      | some index =>
          simp only [Option.map_some, kind_relined, text_relined, stringValue?_relined]
          refine ite (fun hguard => ?_) (hwithin.record ?_) hwithin
            { Within.refl _ with findings := { FindingsWithin.refl _ with lookups := by simp } }
          · simp only [Bool.and_eq_true] at hguard ⊢
            exact ⟨⟨⟨hwithin.hasMapping hguard.1.1.1, hguard.1.1.2⟩, hguard.1.2⟩, hguard.2⟩
          · exact
              { hwithin.findings with lookups := length_concat_le hwithin.findings.lookups _ _ }

theorem noteChoice (choice : Node) :
    Within (census.noteChoice choice) (census'.noteChoice (relined lineOf choice)) := by
  have hany (branch : Option String) (hknown : branch.any census.hasComponent = true) :
      branch.any census'.hasComponent = true := by
    obtain ⟨name, hname, hcomponent⟩ := (Option.any_eq_true ..).mp hknown
    exact (Option.any_eq_true ..).mpr ⟨name, hname, hwithin.hasComponent hcomponent⟩
  by_cases hguard : (((choice.child? .consequence).bind Node.identifierName?).any
      census.hasComponent || ((choice.child? .alternative).bind Node.identifierName?).any
      census.hasComponent) = true
  · have hguard' := Bool.or_eq_true_iff.mpr
      ((Bool.or_eq_true_iff.mp hguard).imp (hany _) (hany _))
    simp only [Census.noteChoice, childName?_relined, if_pos hguard, if_pos hguard']
    exact hwithin.record
      { hwithin.findings with choices := length_concat_le hwithin.findings.choices _ _ }
  · refine hwithin.of_unchanged ?_ (Census.noteChoice_edits ..)
    simp only [Census.noteChoice, if_neg hguard]

/-! ## Calls and members -/

theorem noteLazy (site : Site) (module : String) :
    Within (census.noteLazy site module)
      (census'.noteLazy (relinedSite lineOf site) module) := by
  let listed (line : Nat) (f : Findings) : Findings :=
    { f with lazyImports := f.lazyImports ++ [⟨module, line⟩] }
  have hlazy : Within (census.record (listed site.node.line))
      (census'.record (listed (relined lineOf site.node).line)) :=
    hwithin.record
      { hwithin.findings with
        lazyImports := length_concat_le hwithin.findings.lazyImports _ _ }
  unfold Census.noteLazy
  rw [container?_relinedSite]
  cases site.container? with
  | none => exact hlazy
  | some container =>
      simp only [Option.map_some, kind_relined, childName?_relined]
      by_cases hkind : container.kind = .variableDeclarator
      · rw [if_pos hkind, if_pos hkind]
        cases (container.child? .name).bind Node.identifierName? with
        | none => exact hlazy
        | some name => exact hlazy.addComponent name
      · rw [if_neg hkind, if_neg hkind]
        exact hlazy

theorem noteDynamicImport (call : Node) :
    Within (census.noteDynamicImport call)
      (census'.noteDynamicImport (relined lineOf call)) := by
  unfold Census.noteDynamicImport
  rw [importedModule?_relined]
  cases importedModule? call with
  | none => exact hwithin
  | some module =>
      exact hwithin.record
        { hwithin.findings with
          dynamicImports := length_concat_le hwithin.findings.dynamicImports _ _ }

theorem noteWrapping (call : Node) :
    Within (census.noteWrapping call) (census'.noteWrapping (relined lineOf call)) := by
  cases hfound : (call.arguments.filterMap Node.identifierName?).find? census.hasComponent with
  | none =>
      refine hwithin.of_unchanged ?_ (Census.noteWrapping_edits ..)
      simp only [Census.noteWrapping, hfound, ite_self]
      cases call.field? .function <;> rfl
  | some component =>
      -- the second run may find another component, but it does find one
      obtain ⟨component', hfound'⟩ : ∃ component',
          (call.arguments.filterMap Node.identifierName?).find? census'.hasComponent =
            some component' := by
        refine Option.isSome_iff_exists.mp (List.find?_isSome.mpr ?_)
        exact ⟨component, List.mem_of_find?_eq_some hfound,
          hwithin.hasComponent (List.find?_some hfound)⟩
      unfold Census.noteWrapping
      rw [field?_relined, arguments_relined, List.filterMap_map, identifierName?_comp_relined]
      cases call.field? .function with
      | none => exact hwithin
      | some function =>
          simp only [Option.map_some, kind_relined]
          by_cases hkind : function.kind = .identifier
          · rw [if_pos hkind, if_pos hkind, hfound, hfound']
            exact hwithin.record
              { hwithin.findings with
                wrappings := length_concat_le hwithin.findings.wrappings _ _ }
          · rw [if_neg hkind, if_neg hkind]
            exact hwithin

theorem noteLibraryCall (call : Node) :
    Within (census.noteLibraryCall call) (census'.noteLibraryCall (relined lineOf call)) := by
  unfold Census.noteLibraryCall
  rw [calleeName?_relined, arguments_relined, List.head?_map, Option.bind_map,
    identifierName?_comp_relined]
  generalize call.calleeName? = name
  split
  · cases call.arguments.head?.bind Node.identifierName? with
    | none => exact hwithin
    | some component =>
        refine ite hwithin.hasComponent (hwithin.record ?_) hwithin
          { Within.refl _ with findings := { FindingsWithin.refl _ with memos := by simp } }
        exact { hwithin.findings with memos := length_concat_le hwithin.findings.memos _ _ }
  · exact hwithin.record
      { hwithin.findings with
        forwardedRefs := length_concat_le hwithin.findings.forwardedRefs _ _ }
  · exact hwithin.record
      { hwithin.findings with portals := length_concat_le hwithin.findings.portals _ _ }
  · exact hwithin

theorem noteMember (member : Node) :
    Within (census.noteMember member) (census'.noteMember (relined lineOf member)) := by
  unfold Census.noteMember
  rw [children_relined, memberParts?_relined]
  cases Node.memberParts? member.children with
  | none => exact hwithin
  | some parts =>
      obtain ⟨place, property⟩ := parts
      simp only [Option.map_some, List.getElem?_map, Option.bind_map,
        identifierName?_comp_relined, kind_relined, text_relined]
      cases (member.children[place]?).bind Node.identifierName? with
      | none => exact hwithin
      | some space =>
          refine ite (fun hguard => ?_) (hwithin.addComponent property.text) hwithin
            (Edit.promote ..).within
          obtain ⟨hspace, hpublic⟩ := Bool.and_eq_true_iff.mp hguard
          exact Bool.and_eq_true_iff.mpr ⟨hwithin.hasNamespace hspace, hpublic⟩

/-! ## Elements -/

theorem promoteMember (name : String) :
    Within (census.promoteMember name) (census'.promoteMember name) := by
  refine ite (fun hguard => ?_) (hwithin.addComponent _) hwithin (Edit.promote ..).within
  simp only [Bool.and_eq_true] at hguard ⊢
  exact ⟨⟨hguard.1.1, hwithin.hasNamespace hguard.1.2⟩, hguard.2⟩

theorem noteElement (opening : Site) :
    Within (census.noteElement opening)
      (census'.noteElement (relinedSite lineOf opening)) := by
  unfold Census.noteElement
  rw [node_relinedSite, elementName?_relined]
  cases elementName? opening.node with
  | none => exact hwithin
  | some name =>
      refine ite hwithin.renders ((hwithin.addRendering name _ _ _ _).promoteMember name) hwithin ?_
      exact (within_addRendering census' name _ _).trans
        (Census.promoteMember_edits _ name).steps.within

end Notes

end Within

/-! ## Whole walks -/

/-- Two walks, the second of which knows and has found at least as much; the loading calls set aside
are the same. -/
structure ProgressWithin (progress progress' : Progress) : Prop where
  census : Within progress.census progress'.census
  consumed : progress'.consumed = progress.consumed

namespace ProgressWithin

variable {progress progress' : Progress} (hprogress : ProgressWithin progress progress')
  (lineOf : Label → Nat)

include hprogress

theorem update {change change' : Census → Census}
    (hchange : ∀ {census census'}, Within census census' →
      Within (change census) (change' census')) :
    ProgressWithin (progress.update change) (progress'.update change') :=
  ⟨hchange hprogress.census, hprogress.consumed⟩

theorem visitCall (site : Site) :
    ProgressWithin (progress.visitCall site)
      (progress'.visitCall (relinedSite lineOf site)) := by
  have hlazy : ProgressWithin (progress.visitLazy site)
      (progress'.visitLazy (relinedSite lineOf site)) := by
    unfold Progress.visitLazy
    rw [node_relinedSite, lazyImport?_relined]
    cases lazyImport? site.node with
    | none => exact hprogress
    | some found =>
        exact ⟨hprogress.census.noteLazy lineOf site found.2, by simp [hprogress.consumed]⟩
  unfold Progress.visitCall
  rw [node_relinedSite, number_relined, hprogress.consumed]
  split
  · exact hprogress
  · exact hlazy.update fun hwithin =>
      ((hwithin.noteDynamicImport lineOf site.node).noteWrapping lineOf
        site.node).noteLibraryCall lineOf site.node

/-- A visit to the same site, on whatever line, keeps the second walk ahead. -/
theorem visitSite (site : Site) :
    ProgressWithin (progress.visitSite site)
      (progress'.visitSite (relinedSite lineOf site)) := by
  unfold Progress.visitSite
  rw [node_relinedSite, kind_relined]
  generalize site.node.kind = kind
  split
  · exact hprogress.update fun hwithin => hwithin.noteImport lineOf site.node
  · exact hprogress.update fun hwithin => hwithin.noteDeclaration lineOf site.node
  · exact hprogress.update fun hwithin => hwithin.noteDeclaration lineOf site.node
  · exact hprogress.update fun hwithin => hwithin.noteElement lineOf site
  · exact hprogress.update fun hwithin => hwithin.noteElement lineOf site
  · exact hprogress.visitCall lineOf site
  · exact hprogress.update fun hwithin => hwithin.noteArray lineOf site
  · exact hprogress.update fun hwithin => hwithin.noteObject lineOf site
  · exact hprogress.update fun hwithin => hwithin.noteChoice lineOf site.node
  · exact hprogress.update fun hwithin => hwithin.noteMember lineOf site.node
  · exact hprogress.update fun hwithin => hwithin.noteMember lineOf site.node
  · exact hprogress.update fun hwithin => hwithin.noteSubscript lineOf site.node
  · exact hprogress

theorem foldl_visitSite (sites : List Site) :
    ProgressWithin (sites.foldl Progress.visitSite progress)
      ((sites.map (relinedSite lineOf)).foldl Progress.visitSite progress') := by
  induction sites generalizing progress progress' with
  | nil => exact hprogress
  | cons site rest ih => exact ih (hprogress.visitSite lineOf site)

end ProgressWithin

/-- A walk through a tree keeps the second census ahead. -/
theorem Within.visit (hwithin : Within census census') (tree : Node) :
    Within (census.visit tree) (census'.visit tree) := by
  unfold Census.visit
  rw [Progress.visit_eq_foldl, Progress.visit_eq_foldl]
  have hstart : ProgressWithin ⟨census, []⟩ ⟨census', []⟩ := ⟨hwithin, rfl⟩
  have hwalk := hstart.foldl_visitSite Label.line (visitOrder (Site.root tree))
  rw [funext relinedSite_line, List.map_id'] at hwalk
  exact hwalk.census

end ComponentCensus.Usage
