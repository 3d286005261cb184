import ComponentCensus.Files.Home
import ComponentCensus.Value.Access

/-!
# Settings

Settings are a table of tables with defaults.  A settings file is laid over the defaults: tables are
merged, anything else is replaced.  A setting is looked up by a dotted key, and each typed setting
says how it converts what it finds.
-/

namespace ComponentCensus

open ComponentCensus.Files ComponentCensus.Text

namespace Settings

mutual

/-- Members laid over the members of a table. -/
def overlay (base : List (String × Value)) : List (String × Value) → List (String × Value)
  | [] => base
  | (name, value) :: rest =>
    overlay (Entries.put name (overlayValue (Entries.get? name base) value) base) rest

/-- A value laid over what was there: tables are merged, anything else is replaced. -/
def overlayValue (old : Option Value) : Value → Value
  | .object members =>
    match old with
    | some (.object base) => .object (overlay base members)
    | _ => .object members
  | value => value

end

/-- A value looked up along a path of names. -/
def lookup? : List String → Value → Option Value
  | [], value => some value
  | name :: rest, .object members => (Entries.get? name members).bind (lookup? rest)
  | _ :: _, _ => none

/-- The default patterns of files that are left out. -/
def defaultExclusions : List String :=
  ["**/node_modules/**", "**/dist/**", "**/build/**", "**/.git/**", "**/coverage/**", "**/*.d.ts",
   "**/*.min.js"]

/-- The defaults of all settings. -/
def defaults : List (String × Value) :=
  [("scan", .object
      [("pattern", .str "**/*"),
       ("extensions", .list ([".js", ".jsx", ".ts", ".tsx"].map .str)),
       ("exclude_patterns", .list (defaultExclusions.map .str)),
       ("max_files", .null),
       ("jobs", .int 1),
       ("strict_parse", .bool true)]),
   ("complexity", .object
      [("thresholds", .object
          [("simple", .int 10), ("moderate", .int 30), ("complex", .int 60),
           ("very_complex", .int 100)]),
       ("max_instances_per_pattern", .int 10),
       ("examples_per_pattern", .int 3)]),
   ("output", .object [("directory", .str "reports-outputs"), ("color", .bool true)]),
   ("github", .object
      [("api_url", .str "https://api.github.com"), ("branch", .null), ("depth", .int 1),
       ("timeout", .int 120)])]

end Settings

/-- The settings in force. -/
structure Settings where
  table : List (String × Value) := Settings.defaults
deriving Inhabited

namespace Settings

/-- The defaults with a settings file laid over them. -/
def withFile (members : List (String × Value)) : Settings :=
  ⟨overlay defaults members⟩

/-- A setting looked up by its dotted key, or a default. -/
def get (settings : Settings) (key : String) (default : Value) : Value :=
  (lookup? (pieces '.' key) (.object settings.table)).getD default

/-- The endings of source files. -/
def extensions (settings : Settings) : Except Fault (List Value) :=
  (settings.get "scan.extensions" (.list [])).items

/-- The patterns of files that are left out. -/
def exclusions (settings : Settings) : Except Fault (List Value) :=
  (settings.get "scan.exclude_patterns" (.list [])).items

/-- The greatest number of files, if there is a limit. -/
def maxFiles (settings : Settings) : Except Fault (Option Int) :=
  let value := settings.get "scan.max_files" .null
  if value.isTruthy then value.toInteger.map some else .ok none

/-- The name of a value's type without the module that it comes from. -/
def shortTypeName (value : Value) : String :=
  (pieces '.' value.typeName).getLast?.getD ""

/-- The number of files that are analyzed at a time. -/
def jobs (settings : Settings) : Except Fault Int := do
  let jobs ← (settings.get "scan.jobs" (.int 1)).toInteger
  if jobs < 1 then
    throw (.badSetting s!"scan.jobs must be at least 1, got {jobs}")
  return jobs

/-- Whether files with syntax errors are refused. -/
def strict (settings : Settings) : Bool :=
  (settings.get "scan.strict_parse" (.bool true)).isTruthy

/-- One bound of a complexity level. -/
def bound (member : String × Value) : Except Fault (String × Int) :=
  match member.2.toInteger with
  | .ok value => .ok (member.1, value)
  | .error .infinity => .error .infinity
  | .error fault => .error (.badSetting s!"Invalid complexity thresholds: {fault.message}")

/-- The bounds of the complexity levels. -/
def thresholds (settings : Settings) : Except Fault (List (String × Int)) := do
  (← (settings.get "complexity.thresholds" (.object [])).members).mapM bound

/-- The count at which a category reaches its full weight. -/
def maxInstances (settings : Settings) : Except Fault Int :=
  (settings.get "complexity.max_instances_per_pattern" (.int 10)).toInteger

/-- The number of examples shown for a category. -/
def examples (settings : Settings) : Except Fault Int :=
  (settings.get "complexity.examples_per_pattern" (.int 3)).toInteger

/-- The directory of saved reports. -/
def outputDirectory (settings : Settings) (homes : Homes) : Except Fault Path :=
  match settings.get "output.directory" (.str "reports-outputs") with
  | .str s => homes.expand (Path.ofText s)
  | value =>
    .error (.wrongType
      s!"expected str, bytes or os.PathLike object, not {shortTypeName value}")

/-- Whether the console shows colors. -/
def color (settings : Settings) : Bool :=
  (settings.get "output.color" (.bool true)).isTruthy

end Settings

end ComponentCensus
