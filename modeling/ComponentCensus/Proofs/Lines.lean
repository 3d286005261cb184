import ComponentCensus.Proofs.Readings

/-!
# Lines are only written down

A line put into a source moves everything below it.  `relined` gives the nodes of a tree other
lines, and the lemmas here say that no reading of a tree looks at them: what a reading finds is the
same, and the nodes it comes upon are the same nodes on other lines.  Lines go into the records of
a census and nowhere else.

The new line of a node may depend on its whole label, so that moving everything from some line on
by one and giving all nodes one and the same line are both cases of `relined`.

## Strategy

* There is one lemma for each reading, and they are `simp` lemmas: a reading that is composed of
  others is taken through `relined` by those of its parts.
* Readings that recur, such as `dottedName?` and `assignmentText?`, are treated by induction over
  the tree.  They recur to children only, so that the hypothesis of the induction applies.
* Walks come last: the sites of the relined tree are the relined sites of the tree
  (`visitedFrom_relined`).
-/

namespace ComponentCensus.Usage

open ComponentCensus.Syntax

mutual

/-- A tree on other lines. -/
def relined (lineOf : Label → Nat) : Node → Node
  | ⟨label, children⟩ => ⟨{ label with line := lineOf label }, relinedAll lineOf children⟩

/-- Several trees on other lines. -/
def relinedAll (lineOf : Label → Nat) : List Node → List Node
  | [] => []
  | child :: rest => relined lineOf child :: relinedAll lineOf rest

end

/-- A site on other lines. -/
def relinedSite (lineOf : Label → Nat) (site : Site) : Site :=
  ⟨relined lineOf site.node, site.above.map (relined lineOf)⟩

variable (lineOf : Label → Nat)

theorem relinedAll_eq_map (nodes : List Node) :
    relinedAll lineOf nodes = nodes.map (relined lineOf) := by
  induction nodes with
  | nil => rfl
  | cons node rest ih => rw [relinedAll, ih, List.map_cons]

/-- The lines of a tree are one way to put it on lines. -/
theorem relined_line (node : Node) : relined Label.line node = node := by
  induction node using node_induction with
  | step label children ih =>
      rw [relined, relinedAll_eq_map, List.map_congr_left ih, List.map_id']

theorem relinedSite_line (site : Site) : relinedSite Label.line site = site := by
  simp [relinedSite, relined_line, funext relined_line]

@[simp] theorem node_relinedSite (site : Site) :
    (relinedSite lineOf site).node = relined lineOf site.node := rfl

/-! ## Labels and children -/

theorem label_relined (node : Node) :
    (relined lineOf node).label = { node.label with line := lineOf node.label } := by
  obtain ⟨label, children⟩ := node
  rfl

@[simp] theorem named_relined (node : Node) :
    (relined lineOf node).label.named = node.label.named := by
  rw [label_relined]

@[simp] theorem fields_relined (node : Node) :
    (relined lineOf node).label.fields = node.label.fields := by
  rw [label_relined]

@[simp] theorem kind_relined (node : Node) : (relined lineOf node).kind = node.kind := by
  rw [Node.kind, label_relined, Node.kind]

@[simp] theorem text_relined (node : Node) : (relined lineOf node).text = node.text := by
  rw [Node.text, label_relined, Node.text]

@[simp] theorem number_relined (node : Node) : (relined lineOf node).number = node.number := by
  rw [Node.number, label_relined, Node.number]

@[simp] theorem children_relined (node : Node) :
    (relined lineOf node).children = node.children.map (relined lineOf) := by
  obtain ⟨label, children⟩ := node
  exact relinedAll_eq_map lineOf children

@[simp] theorem isContent_relined (node : Node) :
    (relined lineOf node).isContent = node.isContent := by
  simp [Node.isContent]

@[simp] theorem namedChildren_relined (node : Node) :
    (relined lineOf node).namedChildren = node.namedChildren.map (relined lineOf) := by
  simp [Node.namedChildren, List.filter_map, Function.comp_def]

@[simp] theorem contents_relined (node : Node) :
    (relined lineOf node).contents = node.contents.map (relined lineOf) := by
  simp [Node.contents, List.filter_map, Function.comp_def]

@[simp] theorem firstContent?_relined (node : Node) :
    (relined lineOf node).firstContent? = node.firstContent?.map (relined lineOf) := by
  simp only [Node.firstContent?, children_relined, List.find?_map, Function.comp_def,
    isContent_relined]

@[simp] theorem child?_relined (node : Node) (field : Field) :
    (relined lineOf node).child? field = (node.child? field).map (relined lineOf) := by
  simp only [Node.child?, children_relined, List.find?_map, Function.comp_def, fields_relined]

mutual

/-- Numbers do not depend on lines. -/
theorem numbers_relined : ∀ node, numbers (relined lineOf node) = numbers node
  | ⟨label, children⟩ => by rw [relined, numbers, numbers, numbersAmong_relinedAll children]

theorem numbersAmong_relinedAll : ∀ nodes,
    numbersAmong (relinedAll lineOf nodes) = numbersAmong nodes
  | [] => rfl
  | node :: rest => by
      rw [relinedAll, numbersAmong, numbersAmong, numbers_relined node,
        numbersAmong_relinedAll rest]

end

/-! ## Looking through wrappers -/

@[simp] theorem wrappedContent?_relined (node : Node) :
    wrappedContent? (relined lineOf node) = (wrappedContent? node).map (relined lineOf) := by
  simp only [wrappedContent?, kind_relined, contents_relined, List.getLast?_map, List.head?_map]
  split <;> rfl

@[simp] theorem unwrap_relined (node : Node) :
    (relined lineOf node).unwrap = node.unwrap.map (relined lineOf) := by
  induction node using node_induction with
  | step label children ih =>
      rw [unwrap_eq, unwrap_eq ⟨label, children⟩, kind_relined, wrappedContent?_relined]
      split
      · cases hcontent : wrappedContent? ⟨label, children⟩ with
        | none => rfl
        | some content => exact ih content (mem_children_of_wrappedContent? hcontent)
      · rfl

@[simp] theorem field?_relined (node : Node) (field : Field) :
    (relined lineOf node).field? field = (node.field? field).map (relined lineOf) := by
  unfold Node.field?
  rw [child?_relined]
  cases node.child? field with
  | none => rfl
  | some child => exact unwrap_relined lineOf child

@[simp] theorem identifierName?_relined (node : Node) :
    (relined lineOf node).identifierName? = node.identifierName? := by
  unfold Node.identifierName?
  rw [unwrap_relined]
  cases node.unwrap <;> simp

@[simp] theorem stringValue?_relined (node : Node) :
    (relined lineOf node).stringValue? = node.stringValue? := by
  unfold Node.stringValue?
  rw [unwrap_relined]
  cases node.unwrap <;> simp [List.any_map, Function.comp_def]

theorem identifierName?_comp_relined :
    Node.identifierName? ∘ relined lineOf = Node.identifierName? :=
  funext (identifierName?_relined lineOf)

theorem childName?_relined (node : Node) (field : Field) :
    ((relined lineOf node).child? field).bind Node.identifierName? =
      (node.child? field).bind Node.identifierName? := by
  rw [child?_relined, Option.bind_map, identifierName?_comp_relined]

theorem childValue?_relined (node : Node) (field : Field) :
    ((relined lineOf node).child? field).bind Node.stringValue? =
      (node.child? field).bind Node.stringValue? := by
  rw [child?_relined, Option.bind_map]
  exact congrArg _ (funext (stringValue?_relined lineOf))

@[simp] theorem innerText_relined (node : Node) :
    innerText (relined lineOf node) = innerText node := by
  unfold innerText
  rw [unwrap_relined]
  cases node.unwrap <;> simp

@[simp] theorem nameOf_relined (node : Node) : nameOf (relined lineOf node) = nameOf node := by
  simp only [nameOf, stringValue?_relined, text_relined]

/-! ## Member chains and calls -/

@[simp] theorem memberParts?_relined (children : List Node) :
    Node.memberParts? (children.map (relined lineOf)) =
      (Node.memberParts? children).map fun parts => (parts.1, relined lineOf parts.2) := by
  -- which children count, and which have a field, is the same
  have hcontent : Node.isContent ∘ relined lineOf = Node.isContent :=
    funext (isContent_relined lineOf)
  simp only [Node.memberParts?, List.findIdx?_map, List.find?_map, List.filter_map, hcontent]
  simp only [Function.comp_def, fields_relined]
  generalize children.findIdx? (fun child => decide (Field.object ∈ child.label.fields)) = object,
    children.find? (fun child => decide (Field.property ∈ child.label.fields)) = property,
    children.filter Node.isContent = contents, children.findIdx? Node.isContent = first
  rcases contents with _ | ⟨_, _ | ⟨_, _ | _⟩⟩ <;> cases object <;> cases property <;>
    cases first <;> rfl

@[simp] theorem memberPair?_relined (node : Node) :
    memberPair? (relined lineOf node) =
      (memberPair? node).map fun parts => (relined lineOf parts.1, relined lineOf parts.2) := by
  simp only [memberPair?, child?_relined, contents_relined]
  generalize node.child? .object = object, node.child? .property = property,
    node.contents = contents
  rcases contents with _ | ⟨_, _ | ⟨_, _ | _⟩⟩ <;> cases object <;> cases property <;> rfl

@[simp] theorem dottedName?_relined (node : Node) :
    (relined lineOf node).dottedName? = node.dottedName? := by
  induction node using node_induction with
  | step label children ih =>
      rw [dottedName?_eq, dottedName?_eq ⟨label, children⟩, kind_relined, text_relined,
        wrappedContent?_relined, memberPair?_relined]
      -- a wrapper recurs to its content, a member access to its object
      refine if_congr Iff.rfl ?_ (if_congr Iff.rfl rfl (if_congr Iff.rfl ?_ rfl))
      · cases hcontent : wrappedContent? ⟨label, children⟩ with
        | none => rfl
        | some content => exact ih content (mem_children_of_wrappedContent? hcontent)
      · cases hpair : memberPair? ⟨label, children⟩ with
        | none => rfl
        | some parts =>
            have hobject := ih parts.1 (mem_children_of_memberPair? hpair)
            simp only [Option.map_some, Option.bind_some, joined?, hobject, kind_relined,
              text_relined]

@[simp] theorem calleeName?_relined (call : Node) :
    (relined lineOf call).calleeName? = call.calleeName? := by
  unfold Node.calleeName?
  rw [field?_relined]
  cases call.field? .function <;> simp [Function.comp_def]

@[simp] theorem arguments_relined (call : Node) :
    (relined lineOf call).arguments = call.arguments.map (relined lineOf) := by
  unfold Node.arguments
  rw [child?_relined]
  cases call.child? .arguments with
  | none => rfl
  | some list =>
      simp only [Option.map_some, kind_relined, contents_relined, List.map_map]
      split
      · refine (List.map_congr_left fun argument _ => ?_).trans (List.map_map ..).symm
        simp only [Function.comp_apply, unwrap_relined]
        cases argument.unwrap <;> rfl
      · rfl

@[simp] theorem isImportCall_relined (node : Node) :
    (relined lineOf node).isImportCall = node.isImportCall := by
  unfold Node.isImportCall
  rw [unwrap_relined]
  cases node.unwrap <;> simp [Option.any_map]

@[simp] theorem importedModule?_relined (call : Node) :
    importedModule? (relined lineOf call) = importedModule? call := by
  unfold importedModule?
  rw [isImportCall_relined, arguments_relined]
  cases call.arguments <;> simp

@[simp] theorem lazyImport?_relined (call : Node) :
    lazyImport? (relined lineOf call) =
      (lazyImport? call).map fun found => (relined lineOf found.1, found.2) := by
  unfold lazyImport?
  rw [calleeName?_relined, arguments_relined]
  split
  · cases call.arguments with
    | nil => rfl
    | cons loader rest =>
        simp only [List.map_cons, kind_relined, field?_relined]
        split
        · cases loader.field? .body with
          | none => rfl
          | some body =>
              simp only [Option.map_some, isImportCall_relined, arguments_relined]
              split
              · cases body.arguments <;> simp [Function.comp_def]
              · rfl
        · rfl
  · rfl

/-! ## References and patterns -/

@[simp] theorem assignmentText?_relined (node : Node) :
    assignmentText? (relined lineOf node) = assignmentText? node := by
  induction node using node_induction with
  | step label children ih =>
      -- the two branches of a conditional are children too
      have hbranch (field : Field) :
          ((relined lineOf ⟨label, children⟩).child? field).elim "" textOfBranch =
            ((Node.mk label children).child? field).elim "" textOfBranch := by
        rw [child?_relined]
        cases hchild : (Node.mk label children).child? field with
        | none => rfl
        | some branch =>
            simp only [Option.map_some, Option.elim_some, textOfBranch, innerText_relined,
              ih branch (mem_children_of_child? hchild)]
      rw [assignmentText?_eq, assignmentText?_eq ⟨label, children⟩, kind_relined, text_relined,
        dottedName?_relined, wrappedContent?_relined, hbranch, hbranch]
      refine if_congr Iff.rfl ?_ rfl
      cases hcontent : wrappedContent? ⟨label, children⟩ with
      | none => rfl
      | some content => exact ih content (mem_children_of_wrappedContent? hcontent)

@[simp] theorem isKnownReference_relined (census : Census) (node : Node) :
    isKnownReference census (relined lineOf node) = isKnownReference census node := by
  induction node using node_induction with
  | step label children ih =>
      -- as for the text of an assignment: the branches are children
      have hbranch (field : Field) :
          ((relined lineOf ⟨label, children⟩).child? field).elim false (isKnownReference census) =
            ((Node.mk label children).child? field).elim false (isKnownReference census) := by
        rw [child?_relined]
        cases hchild : (Node.mk label children).child? field with
        | none => rfl
        | some branch => exact ih branch (mem_children_of_child? hchild)
      rw [isKnownReference_eq, isKnownReference_eq census ⟨label, children⟩, kind_relined,
        text_relined, dottedName?_relined, wrappedContent?_relined, hbranch, hbranch]
      refine if_congr Iff.rfl ?_ rfl
      cases hcontent : wrappedContent? ⟨label, children⟩ with
      | none => rfl
      | some content => exact ih content (mem_children_of_wrappedContent? hcontent)

@[simp] theorem patternTarget?_relined (value : Node) :
    patternTarget? (relined lineOf value) = (patternTarget? value).map (relined lineOf) := by
  simp only [patternTarget?, kind_relined, child?_relined]
  split <;> rfl

@[simp] theorem bindingOf?_relined (part : Node) :
    bindingOf? (relined lineOf part) = bindingOf? part := by
  unfold bindingOf?
  simp only [kind_relined, text_relined, child?_relined]
  have htarget : ∀ value : Option Node,
      ((value.map (relined lineOf)).bind patternTarget?).bind Node.identifierName? =
        (value.bind patternTarget?).bind Node.identifierName? := by
    rintro (_ | value)
    · rfl
    · simp only [Option.map_some, Option.bind_some, patternTarget?_relined, Option.bind_map,
        Function.comp_def, identifierName?_relined]
  cases part.child? .left <;> cases part.child? .key <;> simp [htarget]

@[simp] theorem patternBindings_relined (pattern : Node) :
    patternBindings (relined lineOf pattern) = patternBindings pattern := by
  simp [patternBindings, List.filterMap_map]

/-! ## Collections and elements -/

@[simp] theorem propertyKey_relined (key : Option Node) :
    propertyKey (key.map (relined lineOf)) = propertyKey key := by
  cases key <;> simp [propertyKey]

@[simp] theorem mappedComponent?_relined (census : Census) (property : Node) :
    mappedComponent? census (relined lineOf property) = mappedComponent? census property := by
  simp only [mappedComponent?, kind_relined, text_relined, child?_relined, propertyKey_relined,
    Option.bind_map, Function.comp_def, identifierName?_relined]

theorem mappedComponent?_comp_relined (census : Census) :
    mappedComponent? census ∘ relined lineOf = mappedComponent? census :=
  funext (mappedComponent?_relined lineOf census)

@[simp] theorem elementName?_relined (opening : Node) :
    elementName? (relined lineOf opening) = elementName? opening := by
  unfold elementName?
  rw [child?_relined]
  cases opening.child? .name <;> simp

@[simp] theorem container?_relinedSite (site : Site) :
    (relinedSite lineOf site).container? = site.container?.map (relined lineOf) := by
  simp only [Site.container?, relinedSite, List.find?_map, Function.comp_def, kind_relined]

@[simp] theorem mappingVariable?_relinedSite (site : Site) :
    mappingVariable? (relinedSite lineOf site) = mappingVariable? site := by
  unfold mappingVariable?
  rw [container?_relinedSite]
  cases site.container? with
  | none => rfl
  | some container =>
      simp only [Option.map_some, kind_relined, field?_relined, child?_relined, relinedSite,
        number_relined]
      cases container.field? .value <;>
        simp only [Option.map_none, Option.map_some, number_relined, Option.bind_map,
          Function.comp_def, identifierName?_relined]

/-! ## The sites of a walk -/

mutual

/-- A walk comes upon the same sites on other lines. -/
theorem visitedFrom_relined (above : List Node) : ∀ node,
    visitedFrom (above.map (relined lineOf)) (relined lineOf node) =
      (visitedFrom above node).map (relinedSite lineOf)
  | ⟨label, children⟩ => by
      have hchildren := visitedAmong_relined (⟨label, children⟩ :: above) children
      rw [List.map_cons] at hchildren
      rw [relined] at hchildren ⊢
      rw [visitedFrom, visitedFrom, List.map_cons, hchildren]
      refine congrArg₂ List.cons rfl ?_
      split <;> rfl

theorem visitedAmong_relined (above : List Node) : ∀ nodes,
    visitedAmong (above.map (relined lineOf)) (relinedAll lineOf nodes) =
      (visitedAmong above nodes).map (relinedSite lineOf)
  | [] => rfl
  | node :: rest => by
      rw [relinedAll, visitedAmong, visitedAmong, List.map_append, named_relined,
        visitedFrom_relined above node, visitedAmong_relined above rest]
      split <;> rfl

end

end ComponentCensus.Usage
