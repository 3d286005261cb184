/-!
# The catalog of usage patterns

A category is one way of using components.  Its weight says how hard it is to follow, one being the
simplest, and its group and bucket say where a report keeps its entries.
-/

namespace ComponentCensus.Complexity

/-- A category of usage patterns. -/
structure Category where
  name : String
  weight : Int
  description : String
  sample : String
  group : String
  bucket : String
deriving DecidableEq, Repr

/-- All categories in the order in which they are shown. -/
def catalog : List Category :=
  [⟨"Direct Import & Usage", 1, "Simple import and direct JSX usage",
    "import Button from \"lib\"; <Button />", "imports", "default"⟩,
   ⟨"Named Import with Alias", 2, "Named import with renaming",
    "import \x7b Button as MyButton \x7d from \"lib\"; <MyButton />", "imports", "aliased"⟩,
   ⟨"Namespace Import", 2, "Import entire namespace",
    "import * as Lib from \"lib\"; <Lib.Button />", "imports", "namespace"⟩,
   ⟨"Variable Assignment", 3, "Assigning components to variables",
    "const MyButton = Button; <MyButton />", "usage", "variables"⟩,
   ⟨"Conditional Assignment", 4, "Conditional component selection",
    "const Comp = condition ? Button : Input; <Comp />", "usage", "conditional"⟩,
   ⟨"Object Mapping", 5, "Components stored in objects",
    "const map = \x7b btn: Button \x7d; <map.btn />", "usage", "objects"⟩,
   ⟨"Array Mapping", 5, "Components in arrays",
    "[Button, Input].map(Comp => <Comp />)", "usage", "arrays"⟩,
   ⟨"Dynamic Mapping", 6, "Runtime component selection",
    "components[type]", "usage", "dynamicMappings"⟩,
   ⟨"HOC Wrapping", 7, "Higher-order component patterns",
    "withProps(Button)", "advanced", "hoc"⟩,
   ⟨"Lazy Loading", 6, "Lazy-loaded components",
    "lazy(() => import(\"lib/Button\"))", "advanced", "lazy"⟩,
   ⟨"Dynamic Import", 7, "Runtime dynamic imports",
    "await import(\"lib/Button\")", "advanced", "dynamic"⟩,
   ⟨"Destructuring Usage", 4, "Destructured from objects",
    "const \x7b Button \x7d = Foundation; <Button />", "usage", "destructuring"⟩,
   ⟨"Memoized Components", 5, "React.memo wrapped components",
    "memo(Button)", "advanced", "memo"⟩,
   ⟨"Forward Ref", 6, "forwardRef wrapped components",
    "forwardRef((props, ref) => <Button ref=\x7bref\x7d />)", "advanced", "forwardRef"⟩,
   ⟨"Portal Usage", 8, "Components rendered in portals",
    "createPortal(<Button />, document.body)", "advanced", "portal"⟩,
   ⟨"Context Integration", 7, "Components from React context",
    "const \x7b Button \x7d = useContext(ThemeContext)", "usage", "context"⟩]

/-- The marks of weights up to the given ones. -/
def weightMarks : List (Int × String) :=
  [(2, "🟢"), (4, "🟡"), (6, "🟠")]

/-- The mark of the greatest weights. -/
def heaviestMark : String := "🔴"

/-- The labels of numbers of renderings up to the given ones. -/
def intensityLabels : List (Int × String) :=
  [(10, "Light"), (30, "Moderate"), (60, "Heavy")]

/-- The label of the greatest numbers of renderings. -/
def strongestLabel : String := "Intensive"

/-- The label of the first step that a number does not exceed. -/
def labelFor (steps : List (Int × String)) (last : String) (n : Int) : String :=
  ((steps.find? fun step => n ≤ step.1).map (·.2)).getD last

/-- The mark of a weight. -/
def weightIcon (weight : Int) : String :=
  labelFor weightMarks heaviestMark weight

/-- The label of a number of renderings. -/
def intensity (count : Int) : String :=
  labelFor intensityLabels strongestLabel count

end ComponentCensus.Complexity
