import ComponentCensus.Proofs.Likeness
import ComponentCensus.Usage.Binding
import ComponentCensus.Usage.Call
import ComponentCensus.Usage.Collection
import ComponentCensus.Usage.Element

/-!
# What is read off alike nodes

Everything a census notes about a node is put together from a few readings: names and dotted names,
string values, callees and arguments, references to components, and the attributes of elements.
This file goes through them and shows that alike nodes give the same.

A reading that looks through wrappers gives the same if what stands inside is the same
(`SameInside`); one that does not needs nodes that are alike.

## Strategy

* Readings without recursion are unfolded: the two nodes have the same kind and text, and what the
  reading looks for is generalized and split into its cases.
* The recursive readings find their way by places among the children.  Each is first restated by
  what stands there (`memberPair?`, `dottedName?_eq`, `assignmentText?_eq`, `isKnownReference_eq`);
  as they look through wrappers, `LooksThrough.eq_of_sameInside` then carries the induction.
* An argument is passed without its wrappers, unless it is an empty wrapper (`Passed`).
-/

namespace ComponentCensus.Usage

open ComponentCensus.Syntax ComponentCensus.Text

variable {same : Nat → Nat → Prop} {parent : Kind} {node node' child child' : Node}

/-! ## Names and strings -/

namespace SameInside

theorem identifierName?_eq (hinside : SameInside same node node') :
    node'.identifierName? = node.identifierName? := by
  unfold SameInside at hinside
  unfold Node.identifierName?
  generalize node.unwrap = inner, node'.unwrap = inner' at hinside ⊢
  cases hinside with
  | none => rfl
  | some halike => simp only [halike.kind_eq, halike.text_eq]

theorem stringValue?_eq (hinside : SameInside same node node') :
    node'.stringValue? = node.stringValue? := by
  unfold SameInside at hinside
  unfold Node.stringValue?
  generalize node.unwrap = inner, node'.unwrap = inner' at hinside ⊢
  cases hinside with
  | none => rfl
  | @some inner inner' halike =>
      simp only [halike.kind_eq, halike.text_eq]
      split
      · rfl
      · next hkind =>
        -- the substitutions of a template are looked for among all named children
        have hany := halike.matched.any_named_kind .templateSubstitution (by simp) fun child => by
          rw [hkind]
          exact fun hoperand => hoperand.stands
        exact if_congr (by rw [Node.namedChildren, hany, Node.namedChildren]) rfl rfl
      · rfl

theorem innerText_eq (hinside : SameInside same node node') : innerText node' = innerText node := by
  unfold SameInside at hinside
  unfold innerText
  generalize node.unwrap = inner, node'.unwrap = inner' at hinside ⊢
  cases hinside with
  | none => rfl
  | some halike => exact halike.text_eq

end SameInside

theorem SameInside.nameOf_eq (hinside : SameInside same node node')
    (htext : node'.text = node.text) : nameOf node' = nameOf node := by
  unfold nameOf
  rw [hinside.stringValue?_eq, htext]

/-! ## Member chains -/

/-- The only two nodes of a list. -/
def onlyTwo? : List Node → Option (Node × Node)
  | [first, second] => some (first, second)
  | _ => none

/-- The object and the property of a member chain: by their fields, or else the only two
contents. -/
def memberPair? (node : Node) : Option (Node × Node) :=
  match node.child? .object, node.child? .property with
  | some object, some property => some (object, property)
  | _, _ => onlyTwo? node.contents

/-- Where something is found there is a place for it. -/
theorem find?_cases (p : Node → Bool) (children : List Node) :
    (children.findIdx? p = none ∧ children.find? p = none) ∨
      ∃ place child, children.findIdx? p = some place ∧ children[place]? = some child ∧
        children.find? p = some child := by
  have hfind : children.find? p = (children.findIdx? p).bind fun place => children[place]? :=
    List.find?_eq_bind_findIdx?_getElem?
  cases hplace : children.findIdx? p with
  | none =>
      rw [hplace] at hfind
      exact .inl ⟨rfl, hfind⟩
  | some place =>
      rw [hplace] at hfind
      obtain ⟨hlt, _⟩ := List.findIdx?_eq_some_iff_getElem.mp hplace
      have hchild := List.getElem?_eq_getElem hlt
      exact .inr ⟨place, children[place], rfl, hchild, hfind.trans hchild⟩

/-- The parts of a member chain stand at the places where they are looked for. -/
theorem memberParts?_cases (node : Node) :
    (Node.memberParts? node.children = none ∧ memberPair? node = none) ∨
      ∃ place object property, Node.memberParts? node.children = some (place, property) ∧
        node.children[place]? = some object ∧ memberPair? node = some (object, property) := by
  unfold Node.memberParts? memberPair? onlyTwo? Node.child? Node.contents
  have hobject :=
    find?_cases (fun child => decide (Field.object ∈ child.label.fields)) node.children
  have hcontent := find?_cases Node.isContent node.children
  rw [← List.head?_filter] at hcontent
  -- without both fields, the contents decide; a first content has a place
  have hcontents : ∀ first second, node.children.filter Node.isContent = [first, second] →
      ∃ place, node.children.findIdx? Node.isContent = some place ∧
        node.children[place]? = some first := by
    intro first second hpair
    rw [hpair] at hcontent
    rcases hcontent with ⟨_, hnone⟩ | ⟨place, child, hplace, hchild, hfirst⟩
    · cases hnone
    · cases hfirst
      exact ⟨place, hplace, hchild⟩
  grind

/-- Two parts that are shown alike one by one. -/
def ShownPair (same : Nat → Nat → Prop) (parent : Kind) (parts parts' : Node × Node) : Prop :=
  Shown same parent parts.1 parts'.1 ∧ Shown same parent parts.2 parts'.2

/-- The parts of alike member chains are shown alike. -/
theorem Alike.rel_memberPair? (halike : Alike same node node') :
    Option.Rel (ShownPair same node.kind) (memberPair? node) (memberPair? node') := by
  have hobject := halike.child? .object
  have hproperty := halike.child? .property
  have hcontents := halike.contents
  unfold memberPair?
  generalize node.child? .object = object, node'.child? .object = object' at hobject ⊢
  generalize node.child? .property = property, node'.child? .property = property' at hproperty ⊢
  generalize node.contents = contents, node'.contents = contents' at hcontents ⊢
  have honly : Option.Rel (ShownPair same node.kind) (onlyTwo? contents) (onlyTwo? contents') := by
    rcases hcontents with _ | ⟨hfirst, _ | ⟨hsecond, _ | _⟩⟩
    · exact .none
    · exact .none
    · exact .some ⟨hfirst, hsecond⟩
    · exact .none
  cases hobject with
  | none => exact honly
  | some hobject =>
      cases hproperty with
      | none => exact honly
      | some hproperty => exact .some ⟨hobject, hproperty⟩

/-- The objects of member chains are children. -/
theorem mem_children_of_memberPair? {object property : Node}
    (hpair : memberPair? node = some (object, property)) : object ∈ node.children := by
  unfold memberPair? at hpair
  split at hpair
  · next hobject _ =>
    cases hpair
    exact List.mem_of_find?_eq_some hobject
  · unfold onlyTwo? at hpair
    split at hpair
    · next hcontents =>
      cases hpair
      exact (List.mem_filter.mp (hcontents ▸ List.mem_cons_self ..)).1
    · cases hpair

/-- The dotted path of an object, continued by a property. -/
def joined? (object property : Node) : Option String :=
  object.dottedName?.bind fun head =>
    if property.kind = .privatePropertyIdentifier then none
    else some (head ++ "." ++ property.text)

theorem dottedName?_eq (node : Node) :
    node.dottedName? =
      if node.kind.isWrapper then (wrappedContent? node).bind Node.dottedName?
      else if node.kind.isName then some node.text
      else if node.kind.isMember then (memberPair? node).bind fun parts => joined? parts.1 parts.2
      else none := by
  obtain ⟨label, children⟩ := node
  rw [Node.dottedName?, ← getElem?_wrappedPlace?]
  refine if_congr Iff.rfl ?_ (if_congr Iff.rfl rfl (if_congr Iff.rfl ?_ rfl))
  · cases Node.wrappedPlace? label.kind children with
    | none => rfl
    | some place => exact Node.dottedNameAt?_eq children place
  · rcases memberParts?_cases ⟨label, children⟩ with
      ⟨hparts, hpair⟩ | ⟨place, object, property, hparts, hobject, hpair⟩
    · rw [hpair]
      simp only [Node.children_mk] at hparts
      rw [hparts]
      rfl
    · simp only [Node.children_mk] at hparts hobject
      rw [hpair]
      simp only [hparts, Node.dottedNameAt?_eq, hobject, Option.bind_some, joined?]
      cases object.dottedName? <;> rfl

theorem looksThrough_dottedName? : LooksThrough Node.dottedName? none := by
  intro node hwrapper
  rw [dottedName?_eq, if_pos hwrapper]
  cases wrappedContent? node <;> rfl

/-- Being a private name is seen from outside: private names are never wrapped. -/
theorem Shown.isPrivate_iff (hshown : Shown same parent child child') :
    child'.kind = .privatePropertyIdentifier ↔ child.kind = .privatePropertyIdentifier := by
  refine hshown.kind_eq_iff _ rfl fun hoperand hkind => ?_
  have hoperandKind := hoperand.kind
  rw [hkind] at hoperandKind
  cases hoperandKind

theorem SameInside.dottedName?_eq (hinside : SameInside same node node') :
    node'.dottedName? = node.dottedName? := by
  refine looksThrough_dottedName?.eq_of_sameInside ?_ hinside
  intro node node' hwrapper halike ih
  rw [Usage.dottedName?_eq, Usage.dottedName?_eq node, halike.kind_eq, halike.text_eq]
  simp only [hwrapper, Bool.false_eq_true, if_false]
  refine if_congr Iff.rfl rfl (if_congr Iff.rfl ?_ rfl)
  -- the paths of the objects agree by induction, the properties by what is seen of them
  refine bind_eq_of_rel halike.rel_memberPair? ?_
  rintro ⟨object, property⟩ ⟨object', property'⟩ hparts ⟨hobject, hproperty⟩
  unfold joined?
  rw [ih object (mem_children_of_memberPair? hparts) object' hobject.sameInside]
  simp only [hproperty.isPrivate_iff, hproperty.text_eq]

/-! ## Calls -/

theorem Alike.field? (halike : Alike same node node') (field : Field) :
    Option.Rel (Alike same) (node.field? field) (node'.field? field) :=
  rel_bind (halike.child? field) fun _ _ _ hshown => hshown.sameInside

/-- What fills a field that no operand fills is alike. -/
theorem Alike.child?_alike (halike : Alike same node node') (field : Field)
    (hfield : ∀ child, field ∈ child.label.fields → ¬ StandsAsOperand node.kind child) :
    Option.Rel (Alike same) (node.child? field) (node'.child? field) := by
  have hchild := halike.child? field
  generalize hfound : node.child? field = found, node'.child? field = found' at hchild ⊢
  cases hchild with
  | none => exact .none
  | @some child child' hshown =>
      have hmem : field ∈ child.label.fields := by
        unfold Node.child? at hfound
        simpa using List.find?_some hfound
      exact .some (hshown.alike fun hoperand => hfield child hmem hoperand.stands)

theorem Alike.calleeName?_eq (halike : Alike same node node') :
    node'.calleeName? = node.calleeName? := by
  have hcallee := halike.field? .function
  unfold Node.calleeName?
  generalize node.field? .function = callee, node'.field? .function = callee' at hcallee ⊢
  cases hcallee with
  | none => rfl
  | @some callee callee' hcallee =>
      have hproperty := hcallee.child? .property
      simp only [hcallee.kind_eq, hcallee.text_eq]
      generalize callee.child? .property = property, callee'.child? .property = property'
        at hproperty ⊢
      cases hproperty with
      | none => rfl
      | some hshown => rw [Option.map_some, Option.map_some, hshown.text_eq]

/-- Being a call of the keyword `import` is seen through wrappers: the keyword is never wrapped. -/
theorem SameInside.isImportCall_eq (hinside : SameInside same node node') :
    node'.isImportCall = node.isImportCall := by
  unfold SameInside at hinside
  unfold Node.isImportCall
  generalize node.unwrap = inner, node'.unwrap = inner' at hinside ⊢
  cases hinside with
  | none => rfl
  | @some inner inner' halike =>
      simp only [halike.kind_eq]
      -- only in a call is the callee known to be no wrapped keyword
      by_cases hcall : inner.kind = .callExpression
      · have hfunction := halike.child? .function
        generalize inner.child? .function = function, inner'.child? .function = function'
          at hfunction ⊢
        cases hfunction with
        | none => rfl
        | some hshown =>
            have hkeyword := hshown.kind_eq_iff .importKeyword rfl fun hoperand => by
              have hstands := hoperand.stands
              rw [hcall] at hstands
              exact hstands.2
            simp only [Option.any_some, hkeyword]
      · simp [hcall]

/-- Two arguments as a call sees them: alike, or empty wrappers with the same text. -/
inductive Passed (same : Nat → Nat → Prop) : Node → Node → Prop
  | plain {argument argument' : Node} (halike : Alike same argument argument') :
      Passed same argument argument'
  | empty {argument argument' : Node} (hempty : argument.unwrap = none)
      (hempty' : argument'.unwrap = none) (htext : argument'.text = argument.text) :
      Passed same argument argument'

namespace Passed

variable {argument argument' : Node}

theorem sameInside (hpassed : Passed same argument argument') :
    SameInside same argument argument' := by
  cases hpassed with
  | plain halike => exact halike.sameInside
  | empty hempty hempty' _ =>
      unfold SameInside
      rw [hempty, hempty']
      exact .none

theorem text_eq (hpassed : Passed same argument argument') : argument'.text = argument.text := by
  cases hpassed with
  | plain halike => exact halike.text_eq
  | empty _ _ htext => exact htext

end Passed

theorem Shown.passed (hshown : Shown same parent child child') :
    Passed same (child.unwrap.getD child) (child'.unwrap.getD child') := by
  have hinside := hshown.sameInside
  unfold SameInside at hinside
  generalize hinner : child.unwrap = inner, hinner' : child'.unwrap = inner' at hinside ⊢
  cases hinside with
  | none => exact .empty hinner hinner' hshown.text_eq
  | some halike => exact .plain halike

/-- Alike calls pass the same arguments. -/
theorem Alike.arguments (halike : Alike same node node') (hcall : node.kind = .callExpression) :
    List.Forall₂ (Passed same) node.arguments node'.arguments := by
  have hlist := halike.child?_alike .arguments fun child hfield hstands => by
    rw [hcall] at hstands
    simp [hstands.1] at hfield
  unfold Node.arguments
  generalize node.child? .arguments = list, node'.child? .arguments = list' at hlist ⊢
  cases hlist with
  | none => exact .nil
  | some hlist =>
      simp only [hlist.kind_eq]
      split
      · rw [List.forall₂_map_left_iff, List.forall₂_map_right_iff]
        exact hlist.contents.imp fun _ _ hshown => hshown.passed
      · exact .nil

/-! ## References to components -/

theorem assignmentTextAt?_eq (children : List Node) (place : Nat) :
    assignmentTextAt? children place = children[place]?.bind assignmentText? := by
  induction children generalizing place with
  | nil => simp [assignmentTextAt?]
  | cons child rest ih =>
      cases place with
      | zero => simp [assignmentTextAt?]
      | succ place => simp [assignmentTextAt?, ih]

theorem isKnownReferenceAt_eq (census : Census) (children : List Node) (place : Nat) :
    isKnownReferenceAt census children place =
      children[place]?.elim false (isKnownReference census) := by
  induction children generalizing place with
  | nil => simp [isKnownReferenceAt]
  | cons child rest ih =>
      cases place with
      | zero => simp [isKnownReferenceAt]
      | succ place => simp [isKnownReferenceAt, ih]

/-- The reference that a branch of a conditional is, or else its text. -/
def textOfBranch (branch : Node) : String :=
  (assignmentText? branch).getD (innerText branch)

theorem branchText_eq (node : Node) (field : Field) :
    branchText node.children (fieldPlace? field node.children) =
      (node.child? field).elim "" textOfBranch := by
  unfold fieldPlace? Node.child?
  rcases find?_cases (fun child => decide (field ∈ child.label.fields)) node.children with
    ⟨hplace, hfind⟩ | ⟨place, child, hplace, hchild, hfind⟩
  · rw [hplace, hfind, branchText]
    rfl
  · simp only [hplace, hfind, branchText, assignmentTextAt?_eq, hchild, Option.bind_some,
      Option.elim_some, textOfBranch]
    cases assignmentText? child <;> rfl

theorem isKnownBranch_eq (census : Census) (node : Node) (field : Field) :
    isKnownBranch census node.children (fieldPlace? field node.children) =
      (node.child? field).elim false (isKnownReference census) := by
  unfold fieldPlace? Node.child?
  rcases find?_cases (fun child => decide (field ∈ child.label.fields)) node.children with
    ⟨hplace, hfind⟩ | ⟨place, child, hplace, hchild, hfind⟩
  · rw [hplace, hfind, isKnownBranch]
    rfl
  · rw [hplace, hfind, isKnownBranch, isKnownReferenceAt_eq, hchild]

theorem assignmentText?_eq (node : Node) :
    assignmentText? node =
      if node.kind.isWrapper then (wrappedContent? node).elim none assignmentText?
      else
        match node.kind with
        | .identifier => some node.text
        | .memberExpression => node.dottedName?
        | .ternaryExpression =>
          some ((node.child? .consequence).elim "" textOfBranch ++ " | " ++
            (node.child? .alternative).elim "" textOfBranch)
        | _ => none := by
  rw [← branchText_eq, ← branchText_eq]
  obtain ⟨label, children⟩ := node
  rw [assignmentText?, ← getElem?_wrappedPlace?]
  refine if_congr Iff.rfl ?_ rfl
  cases Node.wrappedPlace? label.kind children with
  | none => rfl
  | some place =>
      simp only [assignmentTextAt?_eq, Option.bind_some]
      cases children[place]? <;> rfl

theorem isKnownReference_eq (census : Census) (node : Node) :
    isKnownReference census node =
      if node.kind.isWrapper then (wrappedContent? node).elim false (isKnownReference census)
      else
        match node.kind with
        | .identifier => census.knows node.text
        | .memberExpression =>
          match node.dottedName? with
          | some dotted => census.hasComponent dotted || census.knows (beforeFirst '.' dotted)
          | none => false
        | .ternaryExpression =>
          (node.child? .consequence).elim false (isKnownReference census) ||
            (node.child? .alternative).elim false (isKnownReference census)
        | _ => false := by
  rw [← isKnownBranch_eq, ← isKnownBranch_eq]
  obtain ⟨label, children⟩ := node
  rw [isKnownReference, ← getElem?_wrappedPlace?]
  refine if_congr Iff.rfl ?_ rfl
  cases Node.wrappedPlace? label.kind children with
  | none => rfl
  | some place => exact isKnownReferenceAt_eq census children place

theorem mem_children_of_child? {field : Field} (hchild : node.child? field = some child) :
    child ∈ node.children :=
  List.mem_of_find?_eq_some hchild

namespace SameInside

theorem assignmentText?_eq (hinside : SameInside same node node') :
    assignmentText? node' = assignmentText? node := by
  have hlooks : LooksThrough assignmentText? none := fun node hwrapper => by
    rw [Usage.assignmentText?_eq, if_pos hwrapper]
  refine hlooks.eq_of_sameInside ?_ hinside
  intro node node' hwrapper halike ih
  -- a branch that is no reference is shown by its text, which wrappers do not change either
  have hbranch (field : Field) : (node'.child? field).elim "" textOfBranch =
      (node.child? field).elim "" textOfBranch := by
    refine elim_eq_of_rel (halike.child? field) fun branch branch' hfound hshown => ?_
    unfold textOfBranch
    rw [ih branch (mem_children_of_child? hfound) branch' hshown.sameInside,
      hshown.sameInside.innerText_eq]
  have hplain := Bool.eq_false_iff.mp hwrapper
  rw [Usage.assignmentText?_eq, Usage.assignmentText?_eq node, halike.kind_eq, if_neg hplain,
    if_neg hplain, halike.text_eq, halike.sameInside.dottedName?_eq, hbranch, hbranch]

theorem isKnownReference_eq (census : Census) (hinside : SameInside same node node') :
    isKnownReference census node' = isKnownReference census node := by
  have hlooks : LooksThrough (isKnownReference census) false := fun node hwrapper => by
    rw [Usage.isKnownReference_eq, if_pos hwrapper]
  refine hlooks.eq_of_sameInside ?_ hinside
  intro node node' hwrapper halike ih
  have hbranch (field : Field) : (node'.child? field).elim false (isKnownReference census) =
      (node.child? field).elim false (isKnownReference census) :=
    elim_eq_of_rel (halike.child? field) fun branch branch' hfound hshown =>
      ih branch (mem_children_of_child? hfound) branch' hshown.sameInside
  have hplain := Bool.eq_false_iff.mp hwrapper
  rw [Usage.isKnownReference_eq, Usage.isKnownReference_eq census node, halike.kind_eq,
    if_neg hplain, if_neg hplain, halike.text_eq, halike.sameInside.dottedName?_eq, hbranch,
    hbranch]

end SameInside

end ComponentCensus.Usage
