import ComponentCensus.Proofs.Descent
import ComponentCensus.Proofs.Rows

/-!
# Looking up undoes looking down

`Node.field?` looks down through wrappers: past comments to the first content of a wrapper, or to
the last one of a type assertion.  `Site.container?` looks up past every wrapper, whichever of its
contents it comes from.

A collection asks the nearest node above that is no wrapper for its value, and compares numbers.
It should find the declarator that it initializes, and no other.

## Main results

* `looking_up_undoes_looking_down` : in a tree whose numbers tell its nodes apart, a collection
  finds a variable exactly if its declarator holds the collection.
* `mappingVariable?_castTree` : a collection inside a type assertion.

## Strategy

* What a field holds has one place in such a tree (`IsPlace.eq_of_number_eq`), and the way up from
  there ends where the way down began (`IsPlace.parent?_of_field?`).
* The numbers are no restriction: in the trees that rows describe, every node has a number of its
  own (`nodup_numbers_ofRows?`).
-/

namespace ComponentCensus.Usage

open ComponentCensus.Syntax

variable {root node : Node} {site inner outer : Site} {field : Field}

/-! ## The places of a tree -/

/-- The places of a tree: the root, and every child of a place, named or not. -/
inductive IsPlace (root : Node) : Site → Prop
  | root : IsPlace root (Site.root root)
  | child {site : Site} {node : Node} (hsite : IsPlace root site)
      (hchild : node ∈ site.node.children) : IsPlace root ⟨node, site.node :: site.above⟩

theorem IsPlace.reached (hsite : IsPlace root site) (hreached : Reached site inner) :
    IsPlace root inner := by
  induction hreached with
  | start => exact hsite
  | child _ _ hchild ih =>
      obtain ⟨node, hnode, rfl⟩ := List.mem_map.mp hchild
      exact ih.child (List.mem_filter.mp hnode).1

theorem IsPlace.above (hsite : IsPlace root site) {above : List Node}
    (habove : node :: above <:+ site.above) : IsPlace root ⟨node, above⟩ := by
  induction hsite with
  | root => simp [Site.root] at habove
  | child hsite _ ih =>
      rcases List.suffix_cons_iff.mp habove with hself | hfurther
      · cases hself
        exact hsite
      · exact ih hfurther

theorem IsPlace.of_parent? (hsite : IsPlace root site) (hparent : parent? site = some outer) :
    IsPlace root outer :=
  hsite.above (suffix_of_parent? hparent)

/-! ## A number for every place -/

mutual

/-- The places of a tree below given nodes, in document order. -/
def placesFrom (above : List Node) : Node → List Site
  | ⟨label, children⟩ =>
    ⟨⟨label, children⟩, above⟩ :: placesAmong (⟨label, children⟩ :: above) children

/-- The places of several trees below given nodes, in document order. -/
def placesAmong (above : List Node) : List Node → List Site
  | [] => []
  | node :: rest => placesFrom above node ++ placesAmong above rest

end

theorem placesAmong_eq_flatMap (above nodes : List Node) :
    placesAmong above nodes = nodes.flatMap (placesFrom above) := by
  induction nodes with
  | nil => rfl
  | cons node rest ih => rw [placesAmong, ih, List.flatMap_cons]

theorem placesFrom_eq (above : List Node) (node : Node) :
    placesFrom above node =
      ⟨node, above⟩ :: node.children.flatMap (placesFrom (node :: above)) := by
  obtain ⟨label, children⟩ := node
  rw [placesFrom, placesAmong_eq_flatMap]
  rfl

mutual

theorem map_number_placesFrom (above : List Node) :
    ∀ node, (placesFrom above node).map (·.node.number) = numbers node
  | ⟨label, children⟩ => by
      rw [placesFrom, numbers, List.map_cons, map_number_placesAmong _ children]
      rfl

theorem map_number_placesAmong (above : List Node) :
    ∀ nodes, (placesAmong above nodes).map (·.node.number) = numbersAmong nodes
  | [] => rfl
  | node :: rest => by
      rw [placesAmong, numbersAmong, List.map_append, map_number_placesFrom above node,
        map_number_placesAmong above rest]

end

/-- The listing is closed under going down to a child. -/
theorem child_mem_placesFrom {child : Node} {above : List Node} (hsite : site ∈ placesFrom above node)
    (hchild : child ∈ site.node.children) :
    ⟨child, site.node :: site.above⟩ ∈ placesFrom above node := by
  induction node using node_induction generalizing above with
  | step label children ih =>
      rw [placesFrom_eq] at hsite ⊢
      apply List.mem_cons_of_mem
      rw [List.mem_flatMap]
      rcases List.mem_cons.mp hsite with rfl | hbelow
      · refine ⟨child, hchild, ?_⟩
        rw [placesFrom_eq]
        exact List.mem_cons_self
      · obtain ⟨between, hbetween, hmem⟩ := List.mem_flatMap.mp hbelow
        exact ⟨between, hbetween, ih between hbetween hmem⟩

theorem IsPlace.mem_placesFrom (hsite : IsPlace root site) : site ∈ placesFrom [] root := by
  induction hsite with
  | root =>
      rw [placesFrom_eq]
      exact List.mem_cons_self
  | child _ hchild ih => exact child_mem_placesFrom ih hchild

/-- Two places with the same number are one place. -/
theorem IsPlace.eq_of_number_eq (hnumbers : (numbers root).Nodup) (hsite : IsPlace root site)
    (hinner : IsPlace root inner) (heq : site.node.number = inner.node.number) : site = inner := by
  rw [← map_number_placesFrom []] at hnumbers
  exact List.inj_on_of_nodup_map hnumbers hsite.mem_placesFrom hinner.mem_placesFrom heq

/-! ## Down and up again -/

/-- What a field holds has a place, from which the way up leads back. -/
theorem IsPlace.exists_of_field? (hsite : IsPlace root site)
    (hplain : site.node.kind.isWrapper = false) (hfield : site.node.field? field = some node) :
    ∃ inner, IsPlace root inner ∧ inner.node = node ∧ parent? inner = some site := by
  obtain ⟨held, hheld, hinside⟩ := Option.bind_eq_some_iff.mp hfield
  have hchild : IsPlace root ⟨held, site.node :: site.above⟩ :=
    hsite.child (mem_children_of_child? hheld)
  obtain ⟨wrappers, hall, hreached⟩ :=
    @exists_reached_of_unwrap ⟨held, site.node :: site.above⟩ node hinside
  exact ⟨_, hchild.reached hreached, rfl, parent?_of_forall_isWrapper hplain hall⟩

theorem IsPlace.parent?_of_field? (hnumbers : (numbers root).Nodup) (hsite : IsPlace root site)
    (hplain : site.node.kind.isWrapper = false) (hinner : IsPlace root inner)
    (hfield : site.node.field? field = some inner.node) : parent? inner = some site := by
  obtain ⟨place, hplace, hnode, hparent⟩ := hsite.exists_of_field? hplain hfield
  have hsame : place = inner := hplace.eq_of_number_eq hnumbers hinner (by rw [hnode])
  rwa [hsame] at hparent

/-! ## Declarators -/

/-- A declarator gives a value to a variable.  The value and the name are looked at through
wrappers, and the name is an identifier. -/
structure Declares (declarator value : Node) (name : String) : Prop where
  kind : declarator.kind = .variableDeclarator
  value : declarator.field? .value = some value
  name : ∃ identifier, declarator.field? .name = some identifier ∧
    identifier.kind = .identifier ∧ identifier.text = name

theorem identifierName?_eq_some_iff {name : String} :
    node.identifierName? = some name ↔
      ∃ identifier, node.unwrap = some identifier ∧
        identifier.kind = .identifier ∧ identifier.text = name := by
  unfold Node.identifierName?
  cases node.unwrap with
  | none => simp
  | some inner => simp

theorem bind_identifierName?_eq_some_iff {name : String} :
    (node.child? field).bind Node.identifierName? = some name ↔
      ∃ identifier, node.field? field = some identifier ∧
        identifier.kind = .identifier ∧ identifier.text = name := by
  unfold Node.field?
  cases node.child? field with
  | none => simp
  | some child => exact identifierName?_eq_some_iff

/-- A collection asks the nearest node above that is no wrapper, and compares numbers. -/
theorem mappingVariable?_eq_some_iff {name : String} :
    mappingVariable? site = some name ↔
      ∃ container value, site.container? = some container ∧
        value.number = site.node.number ∧ Declares container value name := by
  unfold mappingVariable?
  constructor
  · intro hname
    split at hname
    · next container hcontainer =>
      split at hname
      · next hkind =>
        split at hname
        · next value hvalue =>
          split at hname
          · next hnumber =>
            exact ⟨container, value, hcontainer, hnumber,
              hkind, hvalue, bind_identifierName?_eq_some_iff.mp hname⟩
          · cases hname
        · cases hname
      · cases hname
    · cases hname
  · rintro ⟨container, value, hcontainer, hnumber, hdeclares⟩
    simp only [hcontainer, hdeclares.kind, hdeclares.value, hnumber, if_true]
    exact bind_identifierName?_eq_some_iff.mpr hdeclares.name

theorem IsPlace.container?_of_field? (hnumbers : (numbers root).Nodup) (houter : IsPlace root outer)
    (hplain : outer.node.kind.isWrapper = false) (hinner : IsPlace root inner)
    (hfield : outer.node.field? field = some inner.node) : inner.container? = some outer.node := by
  rw [container?_eq, houter.parent?_of_field? hnumbers hplain hinner hfield]
  rfl

/-- A place finds the declarator that it is the value of. -/
theorem IsPlace.mappingVariable?_eq_some_iff (hnumbers : (numbers root).Nodup)
    (hsite : IsPlace root site) {name : String} :
    mappingVariable? site = some name ↔
      ∃ declarator, IsPlace root declarator ∧ Declares declarator.node site.node name := by
  rw [Usage.mappingVariable?_eq_some_iff]
  constructor
  · rintro ⟨container, value, hcontainer, hnumber, hdeclares⟩
    rw [container?_eq] at hcontainer
    obtain ⟨declarator, hparent, rfl⟩ := Option.map_eq_some_iff.mp hcontainer
    have hdeclarator : IsPlace root declarator := hsite.of_parent? hparent
    have hplain : declarator.node.kind.isWrapper = false := by
      rw [hdeclares.kind]
      rfl
    -- the value stands in the tree, so its number is that of no other place
    obtain ⟨place, hplace, rfl, -⟩ := hdeclarator.exists_of_field? hplain hdeclares.value
    rw [hplace.eq_of_number_eq hnumbers hsite hnumber] at hdeclares
    exact ⟨declarator, hdeclarator, hdeclares⟩
  · rintro ⟨declarator, hdeclarator, hdeclares⟩
    have hplain : declarator.node.kind.isWrapper = false := by
      rw [hdeclares.kind]
      rfl
    have hcontainer := hdeclarator.container?_of_field? hnumbers hplain hsite hdeclares.value
    exact ⟨declarator.node, site.node, hcontainer, rfl, hdeclares⟩

/-- **Down and up through wrappers.**  What a field of a node that is no wrapper holds stands in the
tree, and the nearest node above it that is no wrapper is the one whose field it is.  So a place is
known to initialize a variable exactly if some declarator of the tree has it as its value and
the variable as its name. -/
theorem looking_up_undoes_looking_down (hnumbers : (numbers root).Nodup) :
    (∀ outer, IsPlace root outer → outer.node.kind.isWrapper = false →
      ∀ field node, outer.node.field? field = some node →
        (∃ inner, IsPlace root inner ∧ inner.node = node) ∧
          ∀ inner, IsPlace root inner → inner.node = node →
            inner.container? = some outer.node) ∧
      ∀ site, IsPlace root site → ∀ name,
        (mappingVariable? site = some name ↔
          ∃ declarator, IsPlace root declarator ∧ Declares declarator.node site.node name) := by
  constructor
  · intro outer houter hplain field node hfield
    constructor
    · obtain ⟨inner, hinner, hnode, -⟩ := houter.exists_of_field? hplain hfield
      exact ⟨inner, hinner, hnode⟩
    · rintro inner hinner rfl
      exact houter.container?_of_field? hnumbers hplain hinner hfield
  · intro site hsite name
    exact hsite.mappingVariable?_eq_some_iff hnumbers

/-- The rows of `const m = (<T>[]) as U`, with comments inside each of the wrappers. -/
def castRows : List Row :=
  [⟨0, "program", 0, 0, "", ""⟩, ⟨1, "lexical_declaration", 0, 0, "", ""⟩,
   ⟨2, "variable_declarator", 0, 0, "", ""⟩, ⟨3, "identifier", 0, 1, "name", ""⟩,
   ⟨3, "as_expression", 0, 0, "value", ""⟩, ⟨4, "comment", 0, 0, "", ""⟩,
   ⟨4, "parenthesized_expression", 0, 0, "", ""⟩, ⟨5, "type_assertion", 0, 0, "", ""⟩,
   ⟨6, "type_arguments", 0, 0, "", ""⟩, ⟨6, "array", 0, 0, "", ""⟩, ⟨6, "comment", 0, 0, "", ""⟩,
   ⟨5, "comment", 0, 0, "", ""⟩, ⟨4, "type_identifier", 0, 0, "", ""⟩]

/-- A source that has nothing but the name of the variable. -/
def nameSource : Source := ⟨⟨#[109]⟩, #[0, 0]⟩

theorem slice_nameSource : nameSource.slice 0 1 = "m" := by
  have hbytes : nameSource.bytes.toList = [109] := by cbv
  change String.ofList (Text.Utf8.lenient (nameSource.bytes.toList.map _)) = "m"
  rw [hbytes]
  rfl

/-- The tree of the rows. -/
def castTree : Node :=
  (Node.ofRows? nameSource castRows).getD default

/-- The declarator in the tree, with what is above it. -/
def castDeclarator : Site :=
  let declaration := castTree.children.head?.getD default
  ⟨declaration.children.head?.getD default, [declaration, castTree]⟩

/-- The array behind three wrappers and three comments initializes the variable. -/
theorem mappingVariable?_castTree :
    (numbers castTree).Nodup ∧ ∃ site, IsPlace castTree site ∧ site.node.kind = .arrayLiteral ∧
      site.container? = some castDeclarator.node ∧ mappingVariable? site = some "m" := by
  have hnumbers : (numbers castTree).Nodup :=
    nodup_numbers_ofRows? (show Node.ofRows? nameSource castRows = some castTree from rfl)
  have hdeclarator : IsPlace castTree castDeclarator :=
    (IsPlace.root.child List.mem_cons_self).child List.mem_cons_self
  obtain ⟨array, harray, hkind⟩ : ∃ array, castDeclarator.node.field? .value = some array ∧
      array.kind = .arrayLiteral := ⟨_, rfl, rfl⟩
  obtain ⟨hfields, hvariables⟩ := looking_up_undoes_looking_down hnumbers
  obtain ⟨⟨site, hsite, rfl⟩, hcontainers⟩ := hfields _ hdeclarator rfl _ _ harray
  refine ⟨hnumbers, site, hsite, hkind, hcontainers site hsite rfl, ?_⟩
  exact (hvariables site hsite "m").mpr
    ⟨castDeclarator, hdeclarator, rfl, harray, _, rfl, rfl, slice_nameSource⟩

end ComponentCensus.Usage
