import ComponentCensus.Entries
import ComponentCensus.Usage.Props

/-!
# The census of a file

The census holds the names that are known so far and everything that was found.  Components are
names that may be rendered, namespaces are names whose members are components, and mappings are
variables that hold collections of components.  The findings are nineteen ledgers; four of them have
one entry for each name, the others one entry for each place.
-/

namespace ComponentCensus.Usage

/-- A default, named or namespace import. -/
structure ImportRecord where
  name : String
  source : String
  line : Nat
deriving DecidableEq, Repr

/-- A named import bound to another name. -/
structure AliasedImport where
  imported : String
  localName : String
  source : String
  line : Nat
deriving DecidableEq, Repr

/-- Where an element stands. -/
inductive Context where
  | conditional
  | array
  | object
  | hoc
  | initializer
  | jsx
  | other
deriving DecidableEq, Repr

/-- The name of a context in reports. -/
def Context.name : Context → String
  | .conditional => "conditional"
  | .array => "array"
  | .object => "object"
  | .hoc => "hoc"
  | .initializer => "variable"
  | .jsx => "jsx"
  | .other => "other"

/-- A place where a component is rendered. -/
structure Occurrence where
  line : Nat
  context : Context
deriving DecidableEq, Repr

/-- All renderings of one component; line and context are those of the first. -/
structure Rendering where
  component : String
  line : Nat
  context : Context
  props : List String
  summary : PropsSummary
  count : Nat
  occurrences : List Occurrence
deriving DecidableEq, Repr

/-- A variable bound to a component reference. -/
structure Assignment where
  reference : String
  line : Nat
deriving DecidableEq, Repr

/-- A property taken out of a namespace. -/
structure Destructuring where
  property : String
  source : String
  line : Nat
  /-- The name it is bound to, if that is another one. -/
  localName : Option String
deriving DecidableEq, Repr

/-- A conditional expression between component references. -/
structure Choice where
  consequent : String
  alternate : String
  line : Nat
deriving DecidableEq, Repr

/-- An array of component references. -/
structure ArrayMapping where
  components : List String
  line : Nat
deriving DecidableEq, Repr

/-- A key of an object with the component it leads to. -/
structure MappingEntry where
  key : String
  component : String
deriving DecidableEq, Repr

/-- An object whose keys lead to components. -/
structure ObjectMapping where
  entries : List MappingEntry
  line : Nat
  /-- The variable that holds the object, if one does. -/
  holder : Option String
deriving DecidableEq, Repr

/-- A component taken from a mapping by a computed key. -/
structure MappingLookup where
  mapping : String
  key : String
  line : Nat
deriving DecidableEq, Repr

/-- Values taken out of a context. -/
structure ContextRead where
  context : String
  properties : List String
  line : Nat
deriving DecidableEq, Repr

/-- A module that is loaded when it is needed. -/
structure SourceImport where
  source : String
  line : Nat
deriving DecidableEq, Repr

/-- A call that takes a component. -/
structure Wrapping where
  function : String
  component : String
  line : Nat
deriving DecidableEq, Repr

/-- A memoized component. -/
structure Memo where
  component : String
  line : Nat
deriving DecidableEq, Repr

/-- The ledgers of a census. -/
structure Findings where
  defaultImports : List ImportRecord := []
  namedImports : List ImportRecord := []
  namespaceImports : List ImportRecord := []
  aliasedImports : Entries String AliasedImport := []
  renderings : Entries String Rendering := []
  props : Entries String PropsSummary := []
  assignments : Entries String Assignment := []
  destructurings : List Destructuring := []
  choices : List Choice := []
  arrays : List ArrayMapping := []
  objects : List ObjectMapping := []
  lookups : List MappingLookup := []
  contexts : List ContextRead := []
  lazyImports : List SourceImport := []
  dynamicImports : List SourceImport := []
  wrappings : List Wrapping := []
  memos : List Memo := []
  /-- Lines of calls that forward a reference. -/
  forwardedRefs : List Nat := []
  /-- Lines of calls that open a portal. -/
  portals : List Nat := []
deriving Repr, Inhabited

/-- The number of entries of all ledgers. -/
def Findings.total (findings : Findings) : Nat :=
  findings.defaultImports.length + findings.namedImports.length +
  findings.namespaceImports.length + findings.aliasedImports.length +
  findings.renderings.length + findings.props.length + findings.assignments.length +
  findings.destructurings.length + findings.choices.length + findings.arrays.length +
  findings.objects.length + findings.lookups.length + findings.contexts.length +
  findings.lazyImports.length + findings.dynamicImports.length + findings.wrappings.length +
  findings.memos.length + findings.forwardedRefs.length + findings.portals.length

/-- The names known so far and what was found. -/
structure Census where
  components : List String := []
  namespaces : List String := []
  mappings : List String := []
  findings : Findings := {}
deriving Repr, Inhabited

namespace Census

/-- The census of nothing. -/
def empty : Census := {}

/-- Whether a name is a component. -/
def hasComponent (census : Census) (name : String) : Bool :=
  decide (name ∈ census.components)

/-- Whether a name is a namespace. -/
def hasNamespace (census : Census) (name : String) : Bool :=
  decide (name ∈ census.namespaces)

/-- Whether a name is a mapping. -/
def hasMapping (census : Census) (name : String) : Bool :=
  decide (name ∈ census.mappings)

/-- Whether a name is a component or a namespace. -/
def knows (census : Census) (name : String) : Bool :=
  census.hasComponent name || census.hasNamespace name

/-- Adds a component. -/
def addComponent (census : Census) (name : String) : Census :=
  { census with components := addName census.components name }

/-- Adds components one after the other. -/
def addComponents (census : Census) (names : List String) : Census :=
  names.foldl addComponent census

/-- Adds a namespace. -/
def addNamespace (census : Census) (name : String) : Census :=
  { census with namespaces := addName census.namespaces name }

/-- Adds a mapping, if there is one. -/
def addMapping (census : Census) : Option String → Census
  | some name => { census with mappings := addName census.mappings name }
  | none => census

/-- Writes to the ledgers. -/
def record (census : Census) (write : Findings → Findings) : Census :=
  { census with findings := write census.findings }

end Census

end ComponentCensus.Usage
