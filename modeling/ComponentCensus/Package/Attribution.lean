import ComponentCensus.Report.LibraryFilter
import ComponentCensus.Value.Access

/-!
# Where a component comes from

An import source belongs to the longest available package that is the source or a path above it.
Sources that start with a dot or a slash are local.  A component belongs to the source of the import
that binds its name or, for a member, its namespace.
-/

namespace ComponentCensus.Package

open ComponentCensus.Text

/-- The name under which local sources are listed. -/
def localPackage : String := "local"

/-- The name under which sources without a package are listed. -/
def unknownPackage : String := "unknown"

/-- Whether an import source is a local file. -/
def isLocal (source : String) : Bool :=
  startsWith source "." || startsWith source "/"

/-- Names in descending order of length; names of one length keep their order. -/
def longestFirst (names : List String) : List String :=
  names.mergeSort fun a b => decide (b.length ≤ a.length)

/-- The package that an import source belongs to. -/
def resolve (source : String) (packages : List String) : String :=
  if isLocal source then localPackage
  else ((longestFirst packages).find? (Report.matchesLibrary source)).getD unknownPackage

/-- The text of a name that is one. -/
def nameText? : Value → Option String
  | .str name => some name
  | _ => none

/-- Names of any kind in descending order of length. -/
def longestValuesFirst (names : List Value) : Except Fault (List Value) := do
  let sized ← names.mapM fun name => do return (name, ← name.size)
  return (sized.mergeSort fun a b => decide (b.2 ≤ a.2)).map (·.1)

/-- The first name that is the source or a path above it; only texts can be tried. -/
def firstMatch (source : String) : List Value → Except Fault String
  | [] => .ok unknownPackage
  | .str name :: rest =>
    if Report.matchesLibrary source name then .ok name else firstMatch source rest
  | name :: _ =>
    .error (.wrongType s!"unsupported operand type(s) for +: '{name.typeName}' and 'str'")

/-- The package of an import source among names that need not be texts. -/
def resolveValue (source : Value) (packages : List Value) : Except Fault String := do
  let source ← source.asText "startswith"
  match packages.mapM nameText? with
  | some names => return resolve source names
  | none =>
    if isLocal source then
      return localPackage
    firstMatch source (← longestValuesFirst packages)

/-- The first entry of a bucket with a member equal to a name. -/
def findBinding (member : String) (name : Value) : List Value → Except Fault (Option Value)
  | [] => .ok none
  | item :: rest => do
    if (← item.lookupD member .null).equal name then
      return some item
    findBinding member name rest

/-- Whether a name has a dot in it. -/
def hasDot : Value → Except Fault Bool
  | .str name => .ok (hasChar '.' name)
  | .list items => .ok (items.any fun item => item.same (.str "."))
  | .object members => .ok (Entries.has "." members)
  | value => .error (.wrongType s!"argument of type '{value.typeName}' is not iterable")

/-- The entry of the imports that binds a component. -/
def findImport (component imports : Value) : Except Fault (Option Value) := do
  let search (bucket member : String) (name : Value) : Except Fault (Option Value) := do
    findBinding member name (← (← imports.lookupD bucket (.list [])).items)
  if let some item ← search "named" "name" component then
    return some item
  if let some item ← search "default" "name" component then
    return some item
  if let some item ← search "aliased" "local" component then
    return some item
  if ← hasDot component then
    search "namespace" "name" (.str (beforeFirst '.' (← component.asText "split")))
  else
    return none

/-- The package that a component, which may be any value, was imported from. -/
def componentSourceOf (component patterns : Value) (packages : List Value) :
    Except Fault String := do
  match ← findImport component (← patterns.lookupD "imports" (.object [])) with
  | some item => resolveValue (← item.member "source") packages
  | none => return unknownPackage

/-- The package that a component was imported from. -/
def componentSource (component : String) (patterns : Value) (packages : List Value) :
    Except Fault String :=
  componentSourceOf (.str component) patterns packages

end ComponentCensus.Package
