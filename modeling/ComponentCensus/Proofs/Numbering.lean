import ComponentCensus.Proofs.Walks

/-!
# Numbers only tell nodes apart

The number of a node is its place in document order, so that a change near the top of a tree gives
other numbers to everything below.  None of this is seen in a census.  `unnumbered` forgets the
numbers of a tree; two trees that are equal without them have the same census, as long as the
numbers of each tell its nodes apart.

## Main results

* `visit_of_unnumbered_eq` : trees that are equal without numbers have the same census.

## Strategy

* The numbers of two such trees go together in pairs (`Paired`): those of the first node, of its
  first child, and so on.  The trees are alike over every relation that holds of the pairs
  (`alike_of_unnumbered_eq`).
* A pairing of two lists without repetition is one-to-one (`biUnique_paired`), which is all that
  walks through alike trees ask for.
-/

namespace ComponentCensus.Usage

open ComponentCensus.Syntax

/-- A tree whose numbers say nothing. -/
def unnumbered : Node → Node :=
  renumbered fun _ => 0

/-- Several trees whose numbers say nothing. -/
def unnumberedAll : List Node → List Node :=
  renumberedAll fun _ => 0

theorem numbersAmong_sublist {nodes others : List Node} (hnodes : nodes.Sublist others) :
    (numbersAmong nodes).Sublist (numbersAmong others) := by
  induction hnodes with
  | slnil => exact List.Sublist.refl _
  | cons node _ ih => exact List.Sublist.trans ih (List.sublist_append_right (numbers node) _)
  | cons_cons node _ ih => exact List.Sublist.append (List.Sublist.refl _) ih

mutual

theorem length_numbers_unnumbered : ∀ node, (numbers (unnumbered node)).length =
    (numbers node).length
  | ⟨label, children⟩ => by
      have hchildren := length_numbersAmong_unnumberedAll children
      simp only [unnumbered, renumbered, numbers, List.length_cons]
      rw [← hchildren, unnumberedAll]

theorem length_numbersAmong_unnumberedAll : ∀ nodes, (numbersAmong (unnumberedAll nodes)).length =
    (numbersAmong nodes).length
  | [] => rfl
  | node :: rest => by
      have hnode := length_numbers_unnumbered node
      have hrest := length_numbersAmong_unnumberedAll rest
      simp only [unnumberedAll, renumberedAll, numbersAmong, List.length_append]
      rw [← hnode, ← hrest, unnumbered, unnumberedAll]

end

/-! ## Numbers in pairs -/

/-- A number and the one at the same place of another list. -/
def Paired (firsts seconds : List Nat) (first second : Nat) : Prop :=
  ∃ place : Nat, firsts[place]? = some first ∧ seconds[place]? = some second

theorem Paired.symm {firsts seconds : List Nat} {first second : Nat}
    (hpaired : Paired firsts seconds first second) : Paired seconds firsts second first :=
  hpaired.imp fun _ hplace => hplace.symm

theorem Paired.cons {firsts seconds : List Nat} {first second : Nat} (head head' : Nat)
    (hpaired : Paired firsts seconds first second) :
    Paired (head :: firsts) (head' :: seconds) first second := by
  obtain ⟨place, hplace⟩ := hpaired
  exact ⟨place + 1, by simpa using hplace⟩

theorem Paired.append_left {firsts seconds : List Nat} {first second : Nat}
    (hpaired : Paired firsts seconds first second) (more more' : List Nat) :
    Paired (firsts ++ more) (seconds ++ more') first second := by
  obtain ⟨place, hfirst, hsecond⟩ := hpaired
  refine ⟨place, ?_, ?_⟩
  · rw [List.getElem?_append_left (List.getElem?_eq_some_iff.mp hfirst).1, hfirst]
  · rw [List.getElem?_append_left (List.getElem?_eq_some_iff.mp hsecond).1, hsecond]

theorem Paired.append_right {firsts seconds : List Nat} {first second : Nat}
    (hpaired : Paired firsts seconds first second) {less less' : List Nat}
    (hlength : less'.length = less.length) :
    Paired (less ++ firsts) (less' ++ seconds) first second := by
  obtain ⟨place, hfirst, hsecond⟩ := hpaired
  refine ⟨less.length + place, ?_, ?_⟩
  · rw [List.getElem?_append_right (Nat.le_add_right ..), Nat.add_sub_cancel_left, hfirst]
  · rw [← hlength, List.getElem?_append_right (Nat.le_add_right ..), Nat.add_sub_cancel_left,
      hsecond]

theorem eq_of_paired_left {firsts seconds : List Nat} (hseconds : seconds.Nodup)
    {first other second : Nat} (hfirst : Paired firsts seconds first second)
    (hother : Paired firsts seconds other second) : first = other := by
  obtain ⟨place, hplace, hsecond⟩ := hfirst
  obtain ⟨place', hplace', hsecond'⟩ := hother
  have hbound : place < seconds.length := (List.getElem?_eq_some_iff.mp hsecond).1
  have hsame : place = place' :=
    (List.getElem?_inj hbound hseconds).mp (hsecond.trans hsecond'.symm)
  rw [← hsame, hplace] at hplace'
  exact Option.some.inj hplace'

/-- Lists without repetition pair numbers one to one. -/
theorem biUnique_paired {firsts seconds : List Nat} (hfirsts : firsts.Nodup)
    (hseconds : seconds.Nodup) : Relator.BiUnique (Paired firsts seconds) := by
  constructor
  · intro first other second hfirst hother
    exact eq_of_paired_left hseconds hfirst hother
  · intro first second other hsecond hother
    exact eq_of_paired_left hfirsts hsecond.symm hother.symm

/-! ## Trees that differ in their numbers -/

theorem length_numbers_of_unnumbered_eq {node node' : Node}
    (hequal : unnumbered node' = unnumbered node) :
    (numbers node').length = (numbers node).length := by
  rw [← length_numbers_unnumbered, hequal, length_numbers_unnumbered]

/-- A label without its number is the same in both trees. -/
theorem label_of_unnumbered_eq {node node' : Node} (hequal : unnumbered node' = unnumbered node) :
    { node'.label with number := 0 } = { node.label with number := 0 } := by
  have hlabel := congrArg Node.label hequal
  rwa [unnumbered, label_renumbered, label_renumbered] at hlabel

variable {same : Nat → Nat → Prop}

mutual

/-- Trees that differ in their numbers only say the same. -/
theorem alike_of_unnumbered_eq : ∀ {node node' : Node}, unnumbered node' = unnumbered node →
    (∀ first second, Paired (numbers node) (numbers node') first second → same first second) →
      Alike same node node'
  | ⟨label, children⟩, ⟨label', children'⟩, hequal, hsame => by
      have hlabel : { label' with number := 0 } = { label with number := 0 } :=
        label_of_unnumbered_eq hequal
      have hchildren : unnumberedAll children' = unnumberedAll children :=
        congrArg Node.children hequal
      simp only [Label.mk.injEq] at hlabel
      obtain ⟨_, hkind, hline, htext, _⟩ := hlabel
      refine .mk hkind hline htext (hsame _ _ ⟨0, rfl, rfl⟩) ?_
      refine matched_of_unnumberedAll_eq hchildren fun first second hpaired => ?_
      exact hsame first second (hpaired.cons _ _)

theorem matched_of_unnumberedAll_eq {parent : Kind} : ∀ {children children' : List Node},
    unnumberedAll children' = unnumberedAll children →
    (∀ first second, Paired (numbersAmong children) (numbersAmong children') first second →
      same first second) → Matched same parent children children'
  | [], [], _, _ => .nil
  | [], _ :: _, hequal, _ => absurd hequal (List.cons_ne_nil _ _)
  | _ :: _, [], hequal, _ => absurd hequal.symm (List.cons_ne_nil _ _)
  | child :: rest, child' :: rest', hequal, hsame => by
      obtain ⟨hchild, hrest⟩ : unnumbered child' = unnumbered child ∧
          unnumberedAll rest' = unnumberedAll rest := List.cons.inj hequal
      have hlabel := label_of_unnumbered_eq hchild
      simp only [Label.mk.injEq] at hlabel
      obtain ⟨_, _, _, _, hfields, hnamed, _⟩ := hlabel
      -- the pairs of the first child come first, and those of the others follow
      refine .cons (.plain (alike_of_unnumbered_eq hchild ?_) hfields hnamed)
        (matched_of_unnumberedAll_eq hrest ?_)
      · intro first second hpaired
        exact hsame first second (hpaired.append_left _ _)
      · intro first second hpaired
        exact hsame first second (hpaired.append_right (length_numbers_of_unnumbered_eq hchild))

end

/-- A census does not depend on the numbers of nodes, as long as they tell nodes apart. -/
theorem visit_of_unnumbered_eq {tree tree' : Node} (hequal : unnumbered tree' = unnumbered tree)
    (hnumbers : (numbers tree).Nodup) (hnumbers' : (numbers tree').Nodup) (census : Census) :
    census.visit tree' = census.visit tree :=
  visit_alike (biUnique_paired hnumbers hnumbers')
    (alike_of_unnumbered_eq hequal fun _ _ hpaired => hpaired) census

end ComponentCensus.Usage
