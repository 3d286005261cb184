import ComponentCensus.Proofs.Readings
import Mathlib.Logic.Relator

/-!
# Alike sites leave the same notes

One site after the other, a walk reads something off a node and changes the census.  This file
shows that each of these changes is the same at alike sites.  A site is a node with the nodes above
it; of those only the nearest that is no wrapper is ever looked at, so that a wrapper more between
them does no harm.  The one exception is the opening half of an element, which belongs to the node
right above it (`SiteAlike.direct`).

The numbers of nodes are compared in three places: to tell the name of an element from its
attributes, to tell whether a collection is the whole value of a variable, and to leave out the
loading calls of lazy components.  For these, `same` has to be one-to-one.

## Strategy

* There is one lemma for each note that is taken, and it follows the definition of the note: what
  is read is related by the lemmas about likeness, the two readings are generalized, and their
  relation is split into its cases.
* Children that cannot be operands are alike themselves (`Alike.contents_alike`,
  `Alike.child?_alike`); of the others only what stands inside their wrappers is read.
-/

namespace ComponentCensus.Usage

open ComponentCensus.Syntax ComponentCensus.Text

variable {same : Nat → Nat → Prop} {node node' : Node}

/-- The contents of alike nodes without operands are alike. -/
theorem Alike.contents_alike (halike : Alike same node node')
    (hparent : ∀ child, ¬ StandsAsOperand node.kind child) :
    List.Forall₂ (Alike same) node.contents node'.contents :=
  halike.contents.imp fun child _ hshown =>
    hshown.alike fun hoperand => hparent child hoperand.stands

/-- Only the value of a declarator or a pair is an operand. -/
theorem not_standsAsOperand_of_field {parent : Kind} {child : Node} {field : Field}
    (hparent : parent = .variableDeclarator ∨ parent = .pair)
    (hfield : field ∈ child.label.fields) (hvalue : field ≠ .value) :
    ¬ StandsAsOperand parent child := by
  intro hstands
  have hfields : child.label.fields = [.value] := by
    rcases hparent with rfl | rfl
    · exact hstands
    · exact hstands
  rw [hfields] at hfield
  exact hvalue (List.mem_singleton.mp hfield)

theorem Alike.childName?_eq (halike : Alike same node node') (field : Field) :
    (node'.child? field).bind Node.identifierName? =
      (node.child? field).bind Node.identifierName? :=
  bind_eq_of_rel (halike.child? field) fun _ _ _ hshown => hshown.sameInside.identifierName?_eq

theorem Alike.childString?_eq (halike : Alike same node node') (field : Field) :
    (node'.child? field).bind Node.stringValue? = (node.child? field).bind Node.stringValue? :=
  bind_eq_of_rel (halike.child? field) fun _ _ _ hshown => hshown.sameInside.stringValue?_eq

/-! ## Imports -/

namespace Census

theorem bindSpecifier_alike (source : String) (line : Nat) (census : Census)
    (halike : Alike same node node') :
    bindSpecifier source line census node' = bindSpecifier source line census node := by
  have hname := halike.child? .name
  have halias := halike.child? .alias
  unfold bindSpecifier
  rw [halike.kind_eq]
  generalize node.child? .name = name, node'.child? .name = name' at hname ⊢
  generalize node.child? .alias = other, node'.child? .alias = other' at halias ⊢
  cases hname with
  | none => rfl
  | some hname =>
      cases halias with
      | none => simp only [hname.sameInside.nameOf_eq hname.text_eq]
      | some halias => simp only [hname.sameInside.nameOf_eq hname.text_eq, halias.text_eq]

theorem bindPart_alike (source : String) (line : Nat) (census : Census)
    (halike : Alike same node node') :
    bindPart source line census node' = bindPart source line census node := by
  unfold bindPart
  rw [halike.kind_eq, halike.text_eq]
  split
  · rfl
  · have hfirst := halike.firstContent?
    generalize node.firstContent? = first, node'.firstContent? = first' at hfirst ⊢
    cases hfirst with
    | none => rfl
    | some hfirst => simp only [hfirst.text_eq]
  · next hkind =>
    have hparts := halike.contents_alike fun _ => by simp [hkind, StandsAsOperand]
    exact foldl_eq_of_forall₂ hparts
      (fun census _ _ halike => bindSpecifier_alike source line census halike) census
  · rfl

theorem bindClause_alike (source : Option String) (line : Nat) (census : Census)
    (halike : Alike same node node') :
    bindClause source line census node' = bindClause source line census node := by
  unfold bindClause
  rw [halike.kind_eq]
  split
  · have hfirst := halike.firstContent?
    rw [halike.childString?_eq]
    generalize node.firstContent? = first, node'.firstContent? = first' at hfirst ⊢
    cases hfirst with
    | none => rfl
    | some hfirst =>
        cases (node.child? .source).bind Node.stringValue? with
        | none => rfl
        | some required => simp only [hfirst.text_eq]
  · next source hkind =>
    have hparts := halike.contents_alike fun _ => by simp [hkind, StandsAsOperand]
    exact foldl_eq_of_forall₂ hparts
      (fun census _ _ halike => bindPart_alike source line census halike) census
  · rfl

theorem noteImport_alike (census : Census) (halike : Alike same node node')
    (hkind : node.kind = .importStatement) : census.noteImport node' = census.noteImport node := by
  unfold noteImport
  rw [halike.childString?_eq, halike.line_eq]
  have hclauses := halike.contents_alike fun _ => by simp [hkind, StandsAsOperand]
  exact foldl_eq_of_forall₂ hclauses
    (fun census _ _ halike => bindClause_alike _ _ census halike) census

end Census

/-! ## Variables -/

theorem Alike.rel_patternTarget? (halike : Alike same node node') :
    Option.Rel (SameInside same) (patternTarget? node) (patternTarget? node') := by
  unfold patternTarget?
  rw [halike.kind_eq]
  split
  · have hleft := halike.child? .left
    generalize node.child? .left = left, node'.child? .left = left' at hleft ⊢
    cases hleft with
    | none => exact .none
    | some hshown => exact .some hshown.sameInside
  · exact .some halike.sameInside

theorem Alike.bindingOf?_eq (halike : Alike same node node') :
    bindingOf? node' = bindingOf? node := by
  unfold bindingOf?
  rw [halike.kind_eq, halike.text_eq]
  split
  · rfl
  · next hkind =>
    have hleft := halike.child?_alike .left fun _ _ => by simp [hkind, StandsAsOperand]
    generalize node.child? .left = left, node'.child? .left = left' at hleft ⊢
    cases hleft with
    | none => rfl
    | some hleft => simp only [hleft.kind_eq, hleft.text_eq]
  · next hkind =>
    have hkey := halike.child?_alike .key fun _ _ => by simp [hkind, StandsAsOperand]
    have hvalue := halike.child?_alike .value fun _ _ => by simp [hkind, StandsAsOperand]
    -- the local name is looked for inside defaults and wrappers
    have hlocal : ((node'.child? .value).bind patternTarget?).bind Node.identifierName? =
        ((node.child? .value).bind patternTarget?).bind Node.identifierName? :=
      bind_eq_of_rel (rel_bind hvalue fun _ _ _ halike => halike.rel_patternTarget?)
        fun _ _ _ hinside => hinside.identifierName?_eq
    rw [hlocal]
    generalize node.child? .key = key, node'.child? .key = key' at hkey ⊢
    cases hkey with
    | none => rfl
    | some hkey => simp only [hkey.kind_eq, hkey.sameInside.nameOf_eq hkey.text_eq]
  · rfl

theorem Alike.patternBindings_eq (halike : Alike same node node')
    (hkind : node.kind = .objectPattern) : patternBindings node' = patternBindings node := by
  have hparts := halike.contents_alike fun _ => by simp [hkind, StandsAsOperand]
  exact filterMap_eq_of_forall₂ hparts fun _ _ halike => halike.bindingOf?_eq

namespace Census

theorem noteAlias_alike (census : Census) (line : Nat) (name : String)
    (halike : Alike same node node') :
    census.noteAlias line name node' = census.noteAlias line name node := by
  unfold noteAlias
  rw [halike.sameInside.isKnownReference_eq, halike.sameInside.assignmentText?_eq, halike.kind_eq,
    halike.text_eq]

theorem noteContext_passed (census : Census) (line : Nat) (bindings : List (String × String))
    (hpassed : Passed same node node') :
    census.noteContext line node' bindings = census.noteContext line node bindings := by
  unfold noteContext
  rw [hpassed.sameInside.dottedName?_eq, hpassed.text_eq]

theorem notePattern_alike (census : Census) (line : Nat) {pattern pattern' : Node}
    (hpattern : Alike same pattern pattern') (hkind : pattern.kind = .objectPattern)
    (halike : Alike same node node') :
    census.notePattern line pattern' node' = census.notePattern line pattern node := by
  unfold notePattern
  rw [halike.sameInside.identifierName?_eq, hpattern.patternBindings_eq hkind, halike.kind_eq,
    halike.calleeName?_eq]
  split
  · rfl
  · split
    · next hcall =>
      -- a context is taken out of a call, and its arguments are alike
      have hcallKind : node.kind = .callExpression := by simp_all
      have harguments := halike.arguments hcallKind
      generalize node.arguments = arguments, node'.arguments = arguments' at harguments ⊢
      cases harguments with
      | nil => rfl
      | cons hcontext _ =>
          -- a context may be an empty wrapper, which is shown by its text
          cases patternBindings pattern with
          | nil => rfl
          | cons binding rest => exact noteContext_passed census line _ hcontext
    · rfl

theorem noteDeclarator_alike (census : Census) (halike : Alike same node node') :
    census.noteDeclarator node' = census.noteDeclarator node := by
  unfold noteDeclarator
  rw [halike.kind_eq, halike.line_eq]
  split
  · next hkind =>
    -- the target is no operand, the value may be wrapped
    have htarget := halike.child?_alike .name fun child hfield =>
      not_standsAsOperand_of_field (Or.inl hkind) hfield (by simp)
    have hvalue := halike.field? .value
    generalize node.child? .name = target, node'.child? .name = target' at htarget ⊢
    generalize node.field? .value = value, node'.field? .value = value' at hvalue ⊢
    cases htarget with
    | none => rfl
    | some htarget =>
        cases hvalue with
        | none => rfl
        | some hvalue =>
            simp only [htarget.kind_eq, htarget.text_eq]
            split
            · exact noteAlias_alike census _ _ hvalue
            · next hpattern => exact notePattern_alike census _ htarget hpattern hvalue
            · rfl
  · rfl

theorem noteDeclaration_alike (census : Census) (halike : Alike same node node')
    (hparent : ∀ child, ¬ StandsAsOperand node.kind child) :
    census.noteDeclaration node' = census.noteDeclaration node :=
  foldl_eq_of_forall₂ (halike.contents_alike hparent)
    (fun census _ _ halike => noteDeclarator_alike census halike) census

end Census

/-! ## Attributes of elements -/

/-- What stands in the braces of an attribute. -/
theorem Alike.rel_braced (halike : Alike same node node') :
    Option.Rel (Alike same) (node.firstContent?.bind Node.unwrap)
      (node'.firstContent?.bind Node.unwrap) :=
  rel_bind halike.firstContent? fun _ _ _ hshown => hshown.sameInside

theorem propType_alike {value value' : Option Node}
    (hvalue : Option.Rel (Alike same) value value') : propType value' = propType value := by
  cases hvalue with
  | none => rfl
  | @some value value' halike =>
      have hbraced := halike.rel_braced
      simp only [propType, halike.kind_eq]
      generalize value.firstContent?.bind Node.unwrap = inner,
        value'.firstContent?.bind Node.unwrap = inner' at hbraced ⊢
      cases hbraced with
      | none => rfl
      | some hinner => simp only [hinner.kind_eq]

theorem isComplexValue_alike {value value' : Option Node}
    (hvalue : Option.Rel (Alike same) value value') :
    isComplexValue value' = isComplexValue value := by
  cases hvalue with
  | none => rfl
  | @some value value' halike =>
      have hbraced := halike.rel_braced
      simp only [isComplexValue, halike.kind_eq]
      generalize value.firstContent?.bind Node.unwrap = inner,
        value'.firstContent?.bind Node.unwrap = inner' at hbraced ⊢
      cases hbraced with
      | none => rfl
      | some hinner => simp only [Option.any_some, hinner.kind_eq]

theorem addAttribute_alike (summary : PropsSummary) (halike : Alike same node node') :
    addAttribute summary node' = addAttribute summary node := by
  unfold addAttribute
  rw [halike.kind_eq]
  split
  · next hkind =>
    have hfirst := halike.firstContent?
    generalize node.firstContent? = first, node'.firstContent? = first' at hfirst ⊢
    cases hfirst with
    | none => rfl
    | some hshown =>
        -- a spread in braces is never wrapped
        have hspread := hshown.kind_eq_iff .spreadElement rfl fun hoperand => by
          have hstands := hoperand.stands
          rw [hkind] at hstands
          exact hstands
        simp only [Option.any_some, hspread]
  · next hkind =>
    have hcontents := halike.contents_alike fun _ => by simp [hkind, StandsAsOperand]
    generalize node.contents = contents, node'.contents = contents' at hcontents ⊢
    cases hcontents with
    | nil => rfl
    | cons hname hrest =>
        simp only [hname.text_eq, propType_alike (rel_head? hrest),
          isComplexValue_alike (rel_head? hrest)]
  · rfl

theorem not_standsAsOperand_of_isTag {parent : Kind} (hparent : isTag parent = true)
    (child : Node) : ¬ StandsAsOperand parent child := by
  cases parent <;> simp_all [isTag, StandsAsOperand]

theorem propsOf_alike (hsame : Relator.BiUnique same) (halike : Alike same node node')
    (hkind : isTag node.kind = true) : propsOf node' = propsOf node := by
  have hparent := not_standsAsOperand_of_isTag hkind
  have hname := halike.child?_alike .name fun child _ => hparent child
  have hcontents := halike.contents_alike hparent
  unfold propsOf
  generalize node.child? .name = name, node'.child? .name = name' at hname ⊢
  -- the name of the element is told from its attributes by its number
  have hisName : ∀ prop prop', Alike same prop prop' →
      name'.any (fun other => decide (prop'.number = other.number)) =
        name.any (fun other => decide (prop.number = other.number)) := by
    intro prop prop' hprop
    cases hname with
    | none => rfl
    | some hname =>
        have hiff := Relator.rel_eq hsame hprop.number_same hname.number_same
        simp only [Option.any_some, hiff]
  refine foldl_eq_of_forall₂ (List.rel_filter ?_ hcontents)
    (fun summary _ _ hprop => addAttribute_alike summary hprop) {}
  intro prop prop' hprop
  simp only [hisName prop prop' hprop]

/-! ## Alike sites -/

/-- The nodes above two alike sites: alike, but for wrappers that stand above the second site
only. -/
inductive Above (same : Nat → Nat → Prop) : List Node → List Node → Prop
  | nil : Above same [] []
  | cons {node node' : Node} {above above' : List Node} (halike : Alike same node node')
      (habove : Above same above above') : Above same (node :: above) (node' :: above')
  | wrapper {wrapper : Node} {above above' : List Node} (hwrapper : wrapper.kind.isWrapper = true)
      (habove : Above same above above') : Above same above (wrapper :: above')

/-- Two sites that say the same. -/
structure SiteAlike (same : Nat → Nat → Prop) (site site' : Site) : Prop where
  node : Alike same site.node site'.node
  above : Above same site.above site'.above
  /-- The opening half of an element stands right below the element. -/
  direct : site.node.kind = .jsxOpeningElement →
    Above same (site.above.drop 1) (site'.above.drop 1)

theorem Above.find?_not_isWrapper {above above' : List Node} (habove : Above same above above') :
    Option.Rel (Alike same) (above.find? fun node => !node.kind.isWrapper)
      (above'.find? fun node => !node.kind.isWrapper) := by
  induction habove with
  | nil => exact .none
  | @cons node node' above above' halike _ ih =>
      rw [List.find?_cons, List.find?_cons, halike.kind_eq]
      split
      · exact .some halike
      · exact ih
  | wrapper hwrapper _ ih =>
      rw [List.find?_cons_of_neg (by simp [hwrapper])]
      exact ih

variable {site site' : Site}

theorem SiteAlike.container? (halike : SiteAlike same site site') :
    Option.Rel (Alike same) site.container? site'.container? :=
  halike.above.find?_not_isWrapper

/-- The nodes above the whole element of a tag. -/
theorem container?_wholeElement (opening : Site) :
    (wholeElement opening).container? =
      (if opening.node.kind = .jsxOpeningElement then opening.above.drop 1
        else opening.above).find? fun node => !node.kind.isWrapper := by
  obtain ⟨node, above⟩ := opening
  unfold wholeElement Site.container?
  split
  · next element rest hkind habove =>
    simp_all
  · next hkind =>
    by_cases hopening : node.kind = .jsxOpeningElement
    · cases above with
      | nil => simp
      | cons element rest => exact absurd rfl (hkind element rest hopening)
    · rw [if_neg hopening]

theorem elementContext_alike (halike : SiteAlike same site site') :
    elementContext site' = elementContext site := by
  have hcontainer : Option.Rel (Alike same) (wholeElement site).container?
      (wholeElement site').container? := by
    rw [container?_wholeElement, container?_wholeElement, halike.node.kind_eq]
    split
    · next hopening => exact (halike.direct hopening).find?_not_isWrapper
    · exact halike.above.find?_not_isWrapper
  unfold elementContext
  generalize (wholeElement site).container? = container,
    (wholeElement site').container? = container' at hcontainer ⊢
  cases hcontainer with
  | none => rfl
  | some hcontainer => simp only [hcontainer.kind_eq]

theorem elementName?_alike (halike : Alike same node node') (hkind : isTag node.kind = true) :
    elementName? node' = elementName? node := by
  have hparent := not_standsAsOperand_of_isTag hkind
  have hname := halike.child?_alike .name fun child _ => hparent child
  unfold elementName?
  generalize node.child? .name = name, node'.child? .name = name' at hname ⊢
  cases hname with
  | none => rfl
  | some hname => simp only [hname.kind_eq, hname.text_eq, hname.sameInside.dottedName?_eq]

theorem Census.noteElement_alike (census : Census) (hsame : Relator.BiUnique same)
    (halike : SiteAlike same site site') (hkind : isTag site.node.kind = true) :
    census.noteElement site' = census.noteElement site := by
  unfold noteElement
  rw [elementName?_alike halike.node hkind, halike.node.line_eq, elementContext_alike halike,
    propsOf_alike hsame halike.node hkind]

/-! ## Collections and choices -/

theorem mappingVariable?_alike (hsame : Relator.BiUnique same)
    (halike : SiteAlike same site site') : mappingVariable? site' = mappingVariable? site := by
  have hcontainer := halike.container?
  unfold mappingVariable?
  generalize site.container? = container, site'.container? = container' at hcontainer ⊢
  cases hcontainer with
  | none => rfl
  | @some container container' hcontainer =>
      have hvalue := hcontainer.field? .value
      simp only [hcontainer.kind_eq, hcontainer.childName?_eq]
      generalize container.field? .value = value, container'.field? .value = value' at hvalue ⊢
      cases hvalue with
      | none => rfl
      | some hvalue =>
          -- the collection is the whole value of the variable on both sides or on neither
          have hiff := Relator.rel_eq hsame hvalue.number_same halike.node.number_same
          simp only [hiff]

theorem propertyKey_alike {key key' : Option Node} (hkey : Option.Rel (Alike same) key key') :
    propertyKey key' = propertyKey key := by
  cases hkey with
  | none => rfl
  | some halike =>
      simp only [propertyKey, halike.kind_eq, halike.sameInside.nameOf_eq halike.text_eq]

theorem mappedComponent?_alike (census : Census) (halike : Alike same node node') :
    mappedComponent? census node' = mappedComponent? census node := by
  unfold mappedComponent?
  rw [halike.kind_eq, halike.text_eq]
  split
  · next hkind =>
    have hkey := halike.child?_alike .key fun child hfield =>
      not_standsAsOperand_of_field (Or.inr hkind) hfield (by simp)
    rw [halike.childName?_eq, propertyKey_alike hkey]
  · rfl
  · rfl

namespace Census

theorem noteArray_alike (census : Census) (hsame : Relator.BiUnique same)
    (halike : SiteAlike same site site') : census.noteArray site' = census.noteArray site := by
  have hnames : site'.node.contents.filterMap Node.identifierName? =
      site.node.contents.filterMap Node.identifierName? :=
    filterMap_eq_of_forall₂ halike.node.contents fun _ _ hshown =>
      hshown.sameInside.identifierName?_eq
  unfold noteArray
  rw [hnames, halike.node.line_eq, mappingVariable?_alike hsame halike]

theorem noteObject_alike (census : Census) (hsame : Relator.BiUnique same)
    (halike : SiteAlike same site site') (hkind : site.node.kind = .objectLiteral) :
    census.noteObject site' = census.noteObject site := by
  have hentries : site'.node.contents.filterMap (mappedComponent? census) =
      site.node.contents.filterMap (mappedComponent? census) :=
    filterMap_eq_of_forall₂
      (halike.node.contents_alike fun _ => by simp [hkind, StandsAsOperand])
      fun _ _ halike => mappedComponent?_alike census halike
  unfold noteObject
  rw [hentries, halike.node.line_eq, mappingVariable?_alike hsame halike]

theorem noteSubscript_alike (census : Census) (halike : Alike same node node') :
    census.noteSubscript node' = census.noteSubscript node := by
  have hindex := halike.field? .index
  unfold noteSubscript
  rw [halike.childName?_eq, halike.line_eq]
  generalize node.field? .index = index, node'.field? .index = index' at hindex ⊢
  cases hindex with
  | none => rfl
  | some hindex =>
      cases (node.child? .object).bind Node.identifierName? with
      | none => rfl
      | some mapping =>
          simp only [hindex.kind_eq, hindex.text_eq, hindex.sameInside.stringValue?_eq]

theorem noteChoice_alike (census : Census) (halike : Alike same node node') :
    census.noteChoice node' = census.noteChoice node := by
  unfold noteChoice
  rw [halike.childName?_eq, halike.childName?_eq, halike.line_eq]

end Census

/-! ## Calls and members -/

/-- An import call that stands for itself is a call. -/
theorem kind_of_isImportCall (hinside : node.unwrap = some node)
    (hcall : node.isImportCall = true) : node.kind = .callExpression := by
  unfold Node.isImportCall at hcall
  rw [hinside] at hcall
  simp_all

/-- What stands inside wrappers is no wrapper itself. -/
theorem unwrap_of_unwrap {inner : Node} (hinner : node.unwrap = some inner) :
    inner.unwrap = some inner := by
  induction node using node_induction with
  | step label children ih =>
      rw [unwrap_eq] at hinner
      by_cases hkind : (Node.mk label children).kind.isWrapper = true
      · rw [if_pos hkind] at hinner
        obtain ⟨content, hcontent, hinside⟩ := Option.bind_eq_some_iff.mp hinner
        exact ih content (mem_children_of_wrappedContent? hcontent) hinside
      · rw [if_neg hkind] at hinner
        cases hinner
        exact Node.unwrap_of_not_isWrapper (Bool.eq_false_iff.mpr hkind)

/-- The module that a call names first. -/
theorem Alike.firstString?_eq (halike : Alike same node node')
    (hcall : node.kind = .callExpression) :
    node'.arguments.head?.bind Node.stringValue? = node.arguments.head?.bind Node.stringValue? :=
  bind_eq_of_rel (rel_head? (halike.arguments hcall)) fun _ _ _ hpassed =>
    hpassed.sameInside.stringValue?_eq

theorem importedModule?_eq (call : Node) :
    importedModule? call =
      if call.isImportCall then call.arguments.head?.bind Node.stringValue? else none := by
  unfold importedModule?
  cases call.arguments <;> rfl

theorem importedModule?_alike (halike : Alike same node node') (hinside : node.unwrap = some node) :
    importedModule? node' = importedModule? node := by
  rw [importedModule?_eq, importedModule?_eq, halike.sameInside.isImportCall_eq]
  split
  · next hcall => exact halike.firstString?_eq (kind_of_isImportCall hinside hcall)
  · rfl

/-- The loading call that the body of a function is. -/
def loadedBy? (loader : Node) : Option (Node × String) :=
  if loader.kind.isFunction then
    (loader.field? .body).bind fun body => (importedModule? body).map fun module => (body, module)
  else
    none

theorem lazyImport?_eq (call : Node) :
    lazyImport? call =
      if call.calleeName? = some "lazy" then call.arguments.head?.bind loadedBy? else none := by
  unfold lazyImport?
  refine if_congr Iff.rfl ?_ rfl
  cases call.arguments with
  | nil => rfl
  | cons loader rest =>
      simp only [List.head?_cons, Option.bind_some, loadedBy?]
      refine if_congr Iff.rfl ?_ rfl
      cases loader.field? .body with
      | none => rfl
      | some body =>
          simp only [Option.bind_some, importedModule?_eq]
          split
          · cases body.arguments <;> rfl
          · rfl

/-- Two loading calls that say the same. -/
def LoadingAlike (same : Nat → Nat → Prop) (loading loading' : Node × String) : Prop :=
  Alike same loading.1 loading'.1 ∧ loading'.2 = loading.2

theorem Alike.rel_loadedBy? (halike : Alike same node node') :
    Option.Rel (LoadingAlike same) (loadedBy? node) (loadedBy? node') := by
  unfold loadedBy?
  rw [halike.kind_eq]
  split
  · refine rel_bind (halike.field? .body) fun body body' hbody hpair => ?_
    -- the body has been looked at through its wrappers, so it is a call if it loads anything
    obtain ⟨_, _, hinner⟩ := Option.bind_eq_some_iff.mp hbody
    rw [importedModule?_alike hpair (unwrap_of_unwrap hinner)]
    cases importedModule? body with
    | none => exact .none
    | some module => exact .some ⟨hpair, rfl⟩
  · exact .none

/-- An empty wrapper is no function. -/
theorem loadedBy?_of_unwrap_eq_none (hempty : node.unwrap = none) : loadedBy? node = none := by
  have hfunction : ¬ node.kind.isFunction = true := by
    intro hfunction
    have hplain : node.kind.isWrapper = false := by
      cases hkind : node.kind <;> simp_all [Kind.isFunction, Kind.isWrapper]
    rw [Node.unwrap_of_not_isWrapper hplain] at hempty
    cases hempty
  unfold loadedBy?
  rw [if_neg hfunction]

theorem Alike.rel_lazyImport? (halike : Alike same node node')
    (hcall : node.kind = .callExpression) :
    Option.Rel (LoadingAlike same) (lazyImport? node) (lazyImport? node') := by
  rw [lazyImport?_eq, lazyImport?_eq, halike.calleeName?_eq]
  split
  · refine rel_bind (rel_head? (halike.arguments hcall)) fun loader loader' _ hpassed => ?_
    cases hpassed with
    | plain halike => exact halike.rel_loadedBy?
    | empty hempty hempty' _ =>
        rw [loadedBy?_of_unwrap_eq_none hempty, loadedBy?_of_unwrap_eq_none hempty']
        exact .none
  · exact .none

namespace Census

theorem noteLazy_alike (census : Census) (halike : SiteAlike same site site') (module : String) :
    census.noteLazy site' module = census.noteLazy site module := by
  have hcontainer := halike.container?
  unfold noteLazy
  rw [halike.node.line_eq]
  generalize site.container? = container, site'.container? = container' at hcontainer ⊢
  cases hcontainer with
  | none => rfl
  | some hcontainer => simp only [hcontainer.kind_eq, hcontainer.childName?_eq]

theorem noteDynamicImport_alike (census : Census) (halike : Alike same node node')
    (hcall : node.kind = .callExpression) :
    census.noteDynamicImport node' = census.noteDynamicImport node := by
  have hinside : node.unwrap = some node := Node.unwrap_of_not_isWrapper (by rw [hcall]; rfl)
  unfold noteDynamicImport
  rw [importedModule?_alike halike hinside, halike.line_eq]

theorem noteWrapping_alike (census : Census) (halike : Alike same node node')
    (hcall : node.kind = .callExpression) :
    census.noteWrapping node' = census.noteWrapping node := by
  have hfunction := halike.field? .function
  have hnames : node'.arguments.filterMap Node.identifierName? =
      node.arguments.filterMap Node.identifierName? :=
    filterMap_eq_of_forall₂ (halike.arguments hcall) fun _ _ hpassed =>
      hpassed.sameInside.identifierName?_eq
  unfold noteWrapping
  rw [hnames, halike.line_eq]
  generalize node.field? .function = function, node'.field? .function = function' at hfunction ⊢
  cases hfunction with
  | none => rfl
  | some hfunction => simp only [hfunction.kind_eq, hfunction.text_eq]

theorem noteLibraryCall_alike (census : Census) (halike : Alike same node node')
    (hcall : node.kind = .callExpression) :
    census.noteLibraryCall node' = census.noteLibraryCall node := by
  have hfirst : node'.arguments.head?.bind Node.identifierName? =
      node.arguments.head?.bind Node.identifierName? :=
    bind_eq_of_rel (rel_head? (halike.arguments hcall)) fun _ _ _ hpassed =>
      hpassed.sameInside.identifierName?_eq
  unfold noteLibraryCall
  rw [halike.calleeName?_eq, hfirst, halike.line_eq]

/-- Makes a property a component when its object is a namespace. -/
def notePropertyOf (census : Census) (object property : Node) : Census :=
  match object.identifierName? with
  | some space =>
    if census.hasNamespace space && property.kind ≠ .privatePropertyIdentifier then
      census.addComponent property.text
    else
      census
  | none => census

theorem noteMember_eq (census : Census) (member : Node) :
    census.noteMember member =
      (memberPair? member).elim census fun parts => census.notePropertyOf parts.1 parts.2 := by
  unfold noteMember
  rcases memberParts?_cases member with
    ⟨hparts, hpair⟩ | ⟨place, object, property, hparts, hobject, hpair⟩
  · rw [hparts, hpair]
    rfl
  · simp only [hparts, hpair, hobject, Option.bind_some, Option.elim_some]
    rfl

theorem noteMember_alike (census : Census) (halike : Alike same node node') :
    census.noteMember node' = census.noteMember node := by
  rw [noteMember_eq, noteMember_eq]
  refine elim_eq_of_rel halike.rel_memberPair? ?_
  rintro ⟨object, property⟩ ⟨object', property'⟩ _ ⟨hobject, hproperty⟩
  simp only [notePropertyOf, hobject.sameInside.identifierName?_eq, ne_eq, hproperty.isPrivate_iff,
    hproperty.text_eq]

end Census

end ComponentCensus.Usage
