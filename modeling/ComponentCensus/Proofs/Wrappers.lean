import ComponentCensus.Proofs.Walks

/-!
# Wrappers are invisible

Parentheses and type annotations around an expression do not change a census.  `WrappedOnce` puts
one operand anywhere in a tree into a wrapper.  The tree that comes out is like the first one, so
that walks through the two keep step.

As nodes are numbered in document order, the operand and everything after it get other numbers; the
census does not depend on them as long as they tell nodes apart.  Any injective renumbering is
allowed for, so that the numbers of the wrapped tree may again be those of document order.

## Main results

* `visit_wrapped` : a tree with one wrapper more has the same census, however it is numbered.
* `visit_lazyPanel_parenthesized` : a lazy component whose loading call is put into parentheses.
-/

namespace ComponentCensus.Usage

open ComponentCensus.Syntax

variable {tree wrapped : Node} {renumber : Nat → Nat}

/-- A node that fills other fields. -/
def filling (fields : List Field) : Node → Node
  | ⟨label, children⟩ => ⟨{ label with fields := fields }, children⟩

/-- `WrappedOnce tree wrapped` says that `wrapped` is `tree` with one operand in a wrapper, which
takes over the fields of the operand. -/
inductive WrappedOnce : Node → Node → Prop
  | here {label wrapper : Label} {operand : Node} (before after : List Node) (fields : List Field)
      (hoperand : Operand label.kind operand) (hwrapper : WrapperLabel wrapper operand.label) :
      WrappedOnce ⟨label, before ++ operand :: after⟩
        ⟨label, before ++ ⟨wrapper, [filling fields operand]⟩ :: after⟩
  | inside {label : Label} {child child' : Node} (before after : List Node)
      (hchild : WrappedOnce child child') :
      WrappedOnce ⟨label, before ++ child :: after⟩ ⟨label, before ++ child' :: after⟩

theorem WrappedOnce.label_eq (hwrapped : WrappedOnce tree wrapped) :
    wrapped.label = tree.label := by
  cases hwrapped with
  | here => rfl
  | inside => rfl

/-- Which fields a node fills is of no account to what it says. -/
theorem alike_filling (fields : List Field) (node : Node) :
    Alike (Renumbers renumber) node (renumbered renumber (filling fields node)) := by
  obtain ⟨label, children⟩ := node
  exact .mk rfl rfl rfl rfl (matched_renumbered children)

/-- A tree says the same with an operand in a wrapper. -/
theorem WrappedOnce.alike (hwrapped : WrappedOnce tree wrapped) :
    Alike (Renumbers renumber) tree (renumbered renumber wrapped) := by
  induction hwrapped with
  | @here label wrapper operand before after fields hoperand hwrapper =>
      refine .mk rfl rfl rfl rfl (matched_renumbered_of_shown before after ?_)
      refine .wrapped hoperand ?_ ?_ (alike_filling fields operand)
      · exact ⟨hwrapper.kind, hwrapper.named, hwrapper.text, hwrapper.line, hwrapper.fields⟩
      · cases operand
        exact hoperand.named
  | inside before after hchild ih =>
      refine .mk rfl rfl rfl rfl (matched_renumbered_of_shown before after ?_)
      refine .plain ih ?_ ?_
      · rw [label_renumbered, hchild.label_eq]
      · rw [label_renumbered, hchild.label_eq]

theorem biUnique_renumbers (hrenumber : Function.Injective renumber) :
    Relator.BiUnique (Renumbers renumber) := by
  constructor
  · intro first second number' hfirst hsecond
    exact hrenumber (hfirst.symm.trans hsecond)
  · intro number first second hfirst hsecond
    exact hfirst.trans hsecond.symm

/-- Putting an operand into a wrapper leaves the census of a tree as it is, whatever the numbers of
the nodes are afterwards. -/
theorem visit_wrapped (hwrapped : WrappedOnce tree wrapped)
    (hrenumber : Function.Injective renumber) (census : Census) :
    census.visit (renumbered renumber wrapped) = census.visit tree :=
  visit_alike (biUnique_renumbers hrenumber) hwrapped.alike census

/-- A lazy component whose function has the given body. -/
def lazyPanel (body : Node) : Node :=
  namedNode 0 1 .program "const Panel = lazy(() => import(\"./panel\"))" []
    [namedNode 1 1 .lexicalDeclaration "const Panel = lazy(() => import(\"./panel\"))" []
      [namedNode 2 1 .variableDeclarator "Panel = lazy(() => import(\"./panel\"))" []
        [namedNode 3 1 .identifier "Panel" [.name] [],
         namedNode 4 1 .callExpression "lazy(() => import(\"./panel\"))" [.value]
          [namedNode 5 1 .identifier "lazy" [.function] [],
           namedNode 6 1 .arguments "(() => import(\"./panel\"))" [.arguments]
            [namedNode 7 1 .arrowFunction "() => import(\"./panel\")" [] [body]]]]]]

/-- A call that loads a module. -/
def loadingCall : Node :=
  namedNode 8 1 .callExpression "import(\"./panel\")" [.body]
    [namedNode 9 1 .importKeyword "import" [.function] [],
     namedNode 10 1 .arguments "(\"./panel\")" [.arguments]
      [namedNode 11 1 .stringLiteral "\"./panel\"" [] []]]

/-- The same call in parentheses, which are numbered last. -/
def parenthesizedCall : Node :=
  namedNode 12 1 .parenthesizedExpression "import(\"./panel\")" [.body] [filling [] loadingCall]

/-- Moves the parentheses to their place in document order. -/
def moved (number : Nat) : Nat :=
  if number = 12 then 8 else if 8 ≤ number ∧ number < 12 then number + 1 else number

/-- A loading call in parentheses still belongs to its lazy component: it is found by its number,
which is another one in the two trees. -/
theorem visit_lazyPanel_parenthesized :
    WrappedOnce (lazyPanel loadingCall) (lazyPanel parenthesizedCall) ∧
      Function.Injective moved ∧
      numbers (renumbered moved (lazyPanel parenthesizedCall)) = List.range 13 ∧
      Census.empty.visit (renumbered moved (lazyPanel parenthesizedCall)) =
        Census.empty.visit (lazyPanel loadingCall) ∧
      (Census.empty.visit (lazyPanel loadingCall)).findings.lazyImports = [⟨"./panel", 1⟩] ∧
      (Census.empty.visit (lazyPanel loadingCall)).findings.dynamicImports = [] := by
  have hwrapped : WrappedOnce (lazyPanel loadingCall) (lazyPanel parenthesizedCall) := by
    refine .inside [] [] (.inside [] [] (.inside [_] [] (.inside [_] [] (.inside [] [] ?_))))
    exact .here [] [] [] ⟨rfl, rfl, rfl⟩ ⟨rfl, rfl, rfl, rfl, rfl⟩
  have hmoved : Function.Injective moved := by
    intro first second hequal
    unfold moved at hequal
    split_ifs at hequal <;> omega
  exact ⟨hwrapped, hmoved, by cbv, visit_wrapped hwrapped hmoved Census.empty, by cbv, by cbv⟩

end ComponentCensus.Usage
