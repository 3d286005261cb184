import ComponentCensus.Syntax.Name

/-!
# Nodes in their place

A site is a node together with the nodes above it, the nearest first.  It is what a visit to a tree
looks at: the node itself, and where it stands.
-/

namespace ComponentCensus.Syntax

/-- A node with the nodes above it, the nearest first. -/
structure Site where
  node : Node
  above : List Node
deriving Inhabited

namespace Site

/-- The site of the root of a tree. -/
def root (node : Node) : Site :=
  ⟨node, []⟩

/-- The sites of the named children, in source order. -/
def namedChildren (site : Site) : List Site :=
  site.node.namedChildren.map fun child => ⟨child, site.node :: site.above⟩

/-- The nearest node above a site that is no wrapper. -/
def container? (site : Site) : Option Node :=
  site.above.find? fun node => !node.kind.isWrapper

end Site

mutual

/-- The sites of a tree in document order: the root and everything below it that is named. -/
def Node.sites (above : List Node) : Node → List Site
  | ⟨label, children⟩ =>
    ⟨⟨label, children⟩, above⟩ :: Node.sitesIn (⟨label, children⟩ :: above) children

/-- The sites of the named trees among several, in document order. -/
def Node.sitesIn (above : List Node) : List Node → List Site
  | [] => []
  | child :: rest =>
    (if child.label.named then child.sites above else []) ++ Node.sitesIn above rest

end

end ComponentCensus.Syntax
