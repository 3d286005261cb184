import ComponentCensus.Report.Basic
import ComponentCensus.Text.Split
import ComponentCensus.Value.Order

/-!
# A report narrowed to one library

A library owns an import when the source is the library or one of its subpaths.  The names that such
imports bind are followed through destructurings and variables, in the order of the report.
Renderings, attribute summaries and variables are kept when they lead back to a bound name; groups
without an owner stay as they are.
-/

namespace ComponentCensus.Report

open ComponentCensus.Text

/-- Whether an import source is a library or one of its subpaths. -/
def matchesLibrary (source library : String) : Bool :=
  source = library || startsWith source (library ++ "/")

/-- The root names that a reference mentions: bars separate its branches and dots its members. -/
def rootNames (reference : String) : List String :=
  ((pieces '|' reference).map strip |>.filter (· ≠ "")).map (beforeFirst '.')

/-- Whether an import source is a library or one of its subpaths, where both may be any values. -/
def matchesValue (source library : Value) : Except Fault Bool :=
  match source, library with
  | .str source, .str library => .ok (matchesLibrary source library)
  | source, library =>
    if source.equal library then .ok true
    else
      match source with
      | .str _ =>
        .error (.wrongType s!"unsupported operand type(s) for +: '{library.typeName}' and 'str'")
      | _ => .error (.unsupportedAccess source.typeName "startswith")

/-- Whether an entry comes from a library. -/
def isOwned (library item : Value) : Except Fault Bool := do
  matchesValue (← item.lookupD "source" (.str "")) library

/-- The entries of a bucket that come from a library. -/
def ownedItems (library bucket : Value) : Except Fault (List Value) := do
  (← bucket.items).filterM (isOwned library)

/-- Adds a member of each item to a set of names. -/
def addMembers (name : String) (names : List Value) (items : List Value) :
    Except Fault (List Value) :=
  items.foldlM (fun names item => do return Value.addTo names (← (← item.member name).asMember)) names

/-- The names that the imports of a library bind; a named import that has an alias is known under
the alias only. -/
def boundByImports (bucket : String → List Value) : Except Fault (List Value) := do
  let bound ← addMembers "name" [] (bucket "default")
  let bound ← addMembers "name" bound (bucket "namespace")
  let aliased ← addMembers "imported" [] (bucket "aliased")
  let bound ← addMembers "local" bound (bucket "aliased")
  (bucket "named").foldlM
    (fun bound item => do
      let name ← (← item.member "name").asMember
      return if name.isAmong aliased then bound else Value.addTo bound name)
    bound

/-- The names bound after one destructuring record. -/
def followDestructuring (namespaces bound : List Value) (item : Value) :
    Except Fault (List Value) := do
  let source ← (← item.lookupD "source" .null).asMember
  if source.isAmong namespaces then
    let localName ← item.lookupD "local" .null
    let name ← if localName.isTruthy then pure localName else item.member "property"
    return Value.addTo bound (← name.asMember)
  else
    return bound

/-- The names bound and the variables kept after one variable. -/
def followVariable (state : List Value × List Value) (item : Value) :
    Except Fault (List Value × List Value) := do
  let (bound, kept) := state
  let reference ← (← item.lookupD "assignment" (.str "")).asText "split"
  if (rootNames reference).any fun name => (Value.str name).isAmong bound then
    let variableName ← (← item.member "variable").asMember
    return (Value.addTo bound variableName, kept ++ [item])
  else
    return (bound, kept)

/-- The name of a rendered component, and its root. -/
def renderedName (item : Value) : Except Fault (String × String) := do
  let component ← (← item.member "component").asText "split"
  match rootNames component with
  | root :: _ => return (component, root)
  | [] => throw (.missingItem "list index out of range")

/-- Whether a component is bound, or is the last part of a rendered name. -/
def isKeptComponent (bound : List Value) (rendered : List String) (name : Value) :
    Except Fault Bool := do
  if (← name.asMember).isAmong bound then
    return true
  match rendered, name with
  | [], _ => return false
  | _, .str name => return rendered.any fun component => endsWith component ("." ++ name)
  | _, _ =>
    throw (.wrongType s!"can only concatenate str (not \"{name.typeName}\") to str")

/-- Values in ascending order, when they can be compared. -/
def sortValues (values : List Value) : Except Fault (List Value) :=
  let texts := values.filterMap fun value => match value with
    | .str s => some s
    | _ => none
  let isNumber (value : Value) := (value.compareNumbers? value).isSome
  if texts.length = values.length then
    .ok ((texts.mergeSort fun a b => decide (a ≤ b)).map .str)
  else if values.all isNumber then
    .ok (values.mergeSort fun a b => b.compareNumbers? a != some .lt)
  else
    match values with
    | [_] => .ok values
    | _ => .error (.wrongType "values cannot be compared")

/-- The total size of buckets. -/
def totalSize (buckets : List (String × Value)) : Except Fault Nat :=
  buckets.foldlM (fun total bucket => do return total + (← bucket.2.size)) 0

/-- A report narrowed to the bindings of one library, which may be any value. -/
def narrowTo (report : Report) (library : Value) : Except Fault Report := do
  let imports ← report.patterns.lookupD "imports" (.object [])
  let usage ← report.patterns.lookupD "usage" (.object [])
  let advanced ← report.patterns.lookupD "advanced" (.object [])
  let keptImports ← (← imports.members).mapM fun bucket => do
    return (bucket.1, ← ownedItems library bucket.2)
  let bucket (name : String) : List Value := (Entries.get? name keptImports).getD []
  let bound ← boundByImports bucket
  let namespaces ← addMembers "name" [] (bucket "namespace")
  let bound ← (← (← usage.lookupD "destructuring" (.list [])).items).foldlM
    (followDestructuring namespaces) bound
  let (bound, keptVariables) ← (← (← usage.lookupD "variables" (.list [])).items).foldlM
    followVariable (bound, [])
  let jsx ← (← (← usage.lookupD "jsx" (.list [])).items).filterM fun item => do
    return (Value.str (← renderedName item).2).isAmong bound
  let rendered ← jsx.mapM fun item => do return (← renderedName item).1
  let keptUsage := Entries.put "variables" (.list keptVariables)
    (Entries.put "jsx" (.list jsx) (← usage.members))
  let keptAdvanced ← (← advanced.members).mapM fun bucket => do
    if bucket.1 = "lazy" || bucket.1 = "dynamic" then
      return (bucket.1, Value.list (← ownedItems library bucket.2))
    else
      return bucket
  let props ← (← (← report.patterns.lookupD "props" (.list [])).items).filterM fun item => do
    return (← (← item.member "component").asMember).isAmong (rendered.map .str)
  let components ← sortValues
    (← report.components.filterM (isKeptComponent bound rendered))
  let importBuckets := keptImports.map fun bucket => (bucket.1, Value.list bucket.2)
  let total := (← totalSize importBuckets) + (← totalSize keptUsage) +
    (← totalSize keptAdvanced) + props.length
  return {
    summary :=
      { imports := (bucket "default").length + (bucket "named").length +
          (bucket "namespace").length
        components := components.length
        usagePatterns := total }
    patterns := .object
      [("imports", .object importBuckets), ("usage", .object keptUsage),
       ("advanced", .object keptAdvanced), ("props", .list props)]
    components := components }

/-- A report narrowed to the bindings of one library. -/
def narrow (report : Report) (library : String) : Except Fault Report :=
  report.narrowTo (.str library)

end ComponentCensus.Report
