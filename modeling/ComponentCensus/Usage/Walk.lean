import ComponentCensus.Usage.Binding
import ComponentCensus.Usage.Call
import ComponentCensus.Usage.Collection
import ComponentCensus.Usage.Element

/-!
# The walk through a tree

The walk binds the imports at the top first, so that everything after them sees all imported names,
and then visits the rest of the tree in document order.  It keeps a list of the sites that are still
to be visited.  Import statements and closing tags are not entered.
-/

namespace ComponentCensus.Usage

open ComponentCensus.Syntax

/-- A census under way, with the numbers of the loading calls that belong to lazy components. -/
structure Progress where
  census : Census := {}
  consumed : List Nat := []
deriving Inhabited

namespace Progress

/-- Changes the census. -/
def update (progress : Progress) (change : Census → Census) : Progress :=
  { progress with census := change progress.census }

/-- Visits a call that may be a lazy component, to which the loading call inside it belongs. -/
def visitLazy (progress : Progress) (site : Site) : Progress :=
  match lazyImport? site.node with
  | some (loading, module) =>
    { census := progress.census.noteLazy site module
      consumed := loading.number :: progress.consumed }
  | none => progress

/-- Visits a call. -/
def visitCall (progress : Progress) (site : Site) : Progress :=
  if site.node.number ∈ progress.consumed then progress
  else
    (progress.visitLazy site).update fun census =>
      ((census.noteDynamicImport site.node).noteWrapping site.node).noteLibraryCall site.node

/-- Visits one site. -/
def visitSite (progress : Progress) (site : Site) : Progress :=
  match site.node.kind with
  | .importStatement => progress.update (·.noteImport site.node)
  | .lexicalDeclaration | .variableDeclaration => progress.update (·.noteDeclaration site.node)
  | .jsxOpeningElement | .jsxSelfClosingElement => progress.update (·.noteElement site)
  | .callExpression => progress.visitCall site
  | .arrayLiteral => progress.update (·.noteArray site)
  | .objectLiteral => progress.update (·.noteObject site)
  | .ternaryExpression => progress.update (·.noteChoice site.node)
  | .memberExpression | .nestedIdentifier => progress.update (·.noteMember site.node)
  | .subscriptExpression => progress.update (·.noteSubscript site.node)
  | _ => progress

end Progress

/-- Whether the walk enters nodes of a kind. -/
def isEntered : Kind → Bool
  | .importStatement | .jsxClosingElement => false
  | _ => true

/-- The number of nodes below several sites, the sites included. -/
def pendingSize (sites : List Site) : Nat :=
  Node.sizeAll (sites.map (·.node))

theorem pendingSize_namedChildren_lt (site : Site) :
    pendingSize site.namedChildren < site.node.size := by
  obtain ⟨⟨label, children⟩, above⟩ := site
  have hmap : (Site.namedChildren ⟨⟨label, children⟩, above⟩).map (·.node) =
      children.filter (·.label.named) := by
    simp [Site.namedChildren, Node.namedChildren, Function.comp_def]
  have hle := Node.sizeAll_filter_le (·.label.named) children
  simp only [pendingSize, hmap, Node.size]
  omega

theorem pendingSize_append (xs ys : List Site) :
    pendingSize (xs ++ ys) = pendingSize xs + pendingSize ys := by
  simp [pendingSize, Node.sizeAll_append]

/-- Visits the sites that are left, each followed by the sites below it. -/
def Progress.walk (progress : Progress) (pending : List Site) : Progress :=
  match pending with
  | [] => progress
  | site :: rest =>
    if isEntered site.node.kind then
      (progress.visitSite site).walk (site.namedChildren ++ rest)
    else
      (progress.visitSite site).walk rest
termination_by pendingSize pending
decreasing_by
  · have hlt := pendingSize_namedChildren_lt site
    rw [pendingSize_append]
    simp only [pendingSize, List.map_cons, Node.sizeAll] at hlt ⊢
    omega
  · have hpos := Node.size_pos site.node
    simp only [pendingSize, List.map_cons, Node.sizeAll]
    omega

namespace Progress

/-- Whether a site is an import statement. -/
def isImport (site : Site) : Bool :=
  site.node.kind = .importStatement

/-- The first phase: binds the import statements at the top. -/
def bindImports (progress : Progress) (root : Site) : Progress :=
  progress.update fun census =>
    (root.namedChildren.filter isImport).foldl (fun census site => census.noteImport site.node) census

/-- The second phase: walks through everything at the top but the import statements. -/
def walkStatements (progress : Progress) (root : Site) : Progress :=
  (root.namedChildren.filter fun site => !isImport site).foldl
    (fun progress site => progress.walk [site]) progress

/-- Visits a whole tree: a program in two phases, anything else in document order. -/
def visit (progress : Progress) (root : Site) : Progress :=
  if root.node.kind = .program then (progress.bindImports root).walkStatements root
  else progress.walk [root]

end Progress

/-- The census of a tree, on top of an earlier one. -/
def Census.visit (census : Census) (tree : Node) : Census :=
  ((Progress.mk census []).visit (Site.root tree)).census

end ComponentCensus.Usage
