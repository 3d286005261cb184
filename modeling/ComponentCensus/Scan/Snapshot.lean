import ComponentCensus.Files.Tree
import ComponentCensus.Scan.Readers
import ComponentCensus.Syntax.Row

/-!
# Snapshots

A snapshot holds the files of a project together with what the readers of foreign formats make of
them, so that a project can be analyzed away from its files.  Contents are texts, or bytes in
hexadecimal digits.  Syntax trees are lists of rows.  In YAML and TOML documents the member `$map`
marks a mapping, `$float` a number that is no integer, `$str` a value of any other kind in its text
form, and `$error` a document that could not be read.  The text form of bytes and of sets is read
back into bytes and members.
-/

namespace ComponentCensus.Scan

open ComponentCensus.Files ComponentCensus.Number ComponentCensus.Syntax ComponentCensus.Text

namespace Snapshot

/-- A member of an object, or nothing. -/
def member? (value : Value) (name : String) : Option Value :=
  match value with
  | .object members => Entries.get? name members
  | _ => none

/-- The items of a list, or none. -/
def itemsOf : Value → List Value
  | .list items => items
  | _ => []

/-- The text of a value that is one. -/
def textOf : Value → String
  | .str text => text
  | _ => ""

/-- The number of a value that is not negative. -/
def countOf : Value → Nat
  | .int i => i.toNat
  | _ => 0

/-- The bytes that hexadecimal digits stand for. -/
def bytesOfHex : List Char → List UInt8
  | high :: low :: rest =>
    let digit (c : Char) := (Json.hexValue? c).getD 0
    (digit high * 16 + digit low).toUInt8 :: bytesOfHex rest
  | _ => []

/-- The bytes of a content. -/
def bytesOf : Value → ByteArray
  | .str text => text.toUTF8
  | value => ⟨(bytesOfHex (((member? value "hex").map textOf).getD "").toList).toArray⟩

/-- A row of a syntax tree; what is missing at its end is empty. -/
def rowOf (value : Value) : Row :=
  let item (i : Nat) := ((itemsOf value)[i]?).getD .null
  ⟨countOf (item 0), textOf (item 1), countOf (item 2), countOf (item 3), textOf (item 4),
   textOf (item 5)⟩

/-- The syntax tree of a text whose rows are given. -/
def treeOf (text : String) (rows : Value) : Node :=
  (Node.ofRows? (Source.ofText text) ((itemsOf rows).map rowOf)).getD default

/-- A scalar of a document. -/
def scalarOf : Value → Value
  | .object [("$float", .str text)] => .float ((Value.parseNumber? text).getD .nan)
  | .object [("$str", text)] => .other (textOf text)
  | value => value

/-- The number of hexadecimal digits, and what follows them. -/
def takeHex (width : Nat) (cs : List Char) : Nat × List Char :=
  ((cs.take width).foldl (fun n c => n * 16 + (Json.hexValue? c).getD 0) 0, cs.drop width)

/-- The number of an escaped character, and what follows it. -/
def takeEscape : List Char → Nat × List Char
  | 'x' :: rest => takeHex 2 rest
  | 'u' :: rest => takeHex 4 rest
  | 'U' :: rest => takeHex 8 rest
  | 'n' :: rest => ('\n'.toNat, rest)
  | 'r' :: rest => ('\r'.toNat, rest)
  | 't' :: rest => ('\t'.toNat, rest)
  | c :: rest => (c.toNat, rest)
  | [] => (0, [])

/-- The numbers of the characters up to a closing quote, and what follows it. -/
def takeQuoted (quote : Char) (fuel : Nat) (cs : List Char) : List Nat × List Char :=
  match fuel, cs with
  | 0, _ => ([], cs)
  | _, [] => ([], [])
  | fuel + 1, c :: rest =>
    if c = quote then ([], rest)
    else
      let (number, after) := if c = '\\' then takeEscape rest else (c.toNat, rest)
      let (numbers, last) := takeQuoted quote fuel after
      (number :: numbers, last)

/-- The bytes that a text form stands for. -/
def bytesOfText : List Char → List UInt8
  | 'b' :: quote :: rest => (takeQuoted quote rest.length rest).1.map Nat.toUInt8
  | _ => []

/-- The members that the text form of a set lists, with a comma after each but the last one. -/
def membersOfText (fuel : Nat) (cs : List Char) : List Value :=
  match fuel, cs with
  | 0, _ => []
  | _, [] => []
  | fuel + 1, c :: rest =>
    if c = '\'' || c = '"' then
      let (numbers, after) := takeQuoted c rest.length rest
      .str (String.ofList (numbers.map Char.ofNat)) :: membersOfText fuel (after.drop 2)
    else
      let word := cs.takeWhile (· ≠ ',')
      .other (String.ofList word) :: membersOfText fuel ((cs.drop word.length).drop 2)

/-- A YAML value of a kind of its own, in its text form. -/
def yamlOfText (text : String) : Yaml :=
  match text.toList with
  | 'b' :: rest => .bytes (bytesOfText ('b' :: rest))
  | '\x7b' :: rest => .set (membersOfText rest.length rest.dropLast)
  | _ => if text = "set()" then .set [] else .scalar (.other text)

mutual

/-- A YAML document. -/
def yamlOf : Value → Yaml
  | .list items => .sequence (yamlItems items)
  | .object [("$map", .list entries)] => .mapping (yamlEntries entries)
  | .object [("$str", text)] => yamlOfText (textOf text)
  | value => .scalar (scalarOf value)

/-- The items of a sequence. -/
def yamlItems : List Value → List Yaml
  | [] => []
  | item :: rest => yamlOf item :: yamlItems rest

/-- The entries of a mapping. -/
def yamlEntries : List Value → List (Value × Yaml)
  | [] => []
  | .list [key, value] :: rest => (scalarOf key, yamlOf value) :: yamlEntries rest
  | _ :: rest => yamlEntries rest

end

mutual

/-- A TOML value. -/
def tomlOf : Value → Value
  | .list items => .list (tomlItems items)
  | .object [("$map", .list entries)] => .object (tomlEntries entries)
  | value => scalarOf value

/-- The items of an array. -/
def tomlItems : List Value → List Value
  | [] => []
  | item :: rest => tomlOf item :: tomlItems rest

/-- The entries of a table. -/
def tomlEntries : List Value → List (String × Value)
  | [] => []
  | .list [key, value] :: rest => (textOf key, tomlOf value) :: tomlEntries rest
  | _ :: rest => tomlEntries rest

end

/-- The members of a TOML document. -/
def tomlMembers (value : Value) : List (String × Value) :=
  match tomlOf value with
  | .object members => members
  | _ => []

/-- A document, unless it could not be read; some kinds of failure say that it does not follow its
format. -/
def readingOf (malformed : List String) (value : Value) : Except ReadFailure Value :=
  match member? value "$error" with
  | some kind =>
    .error (if malformed.contains (textOf kind) then .malformed else .other (textOf kind))
  | none => .ok value

end Snapshot

/-- Contents under their paths, and what readers make of them under the same paths. -/
structure Snapshot where
  files : List (String × Value)
  trees : Value := .null
  yaml : Value := .null
  toml : Value := .null
  /-- The kinds of failure of documents that do not follow their format. -/
  malformed : List String := ["malformed"]

namespace Snapshot

/-- A tree with one more content; a path that ends in a slash is an empty directory. -/
def put (base : List String) (tree : Tree) (file : String × Value) : Tree :=
  let place := Tree.collapseParts base (Path.ofText file.1).parts
  if endsWith file.1 "/" then tree.putDirectory place else tree.putFile place (bytesOf file.2)

/-- The file tree of a snapshot below a directory, which is the working directory. -/
def tree (snapshot : Snapshot) (base : List String) : Tree :=
  snapshot.files.foldl (put base) { working := base }

/-- The contents that are texts. -/
def texts (snapshot : Snapshot) : List (String × String) :=
  snapshot.files.filterMap fun file =>
    match Tree.decode (bytesOf file.2) with
    | .ok text => some (file.1, text)
    | .error _ => none

/-- All that is noted under the paths of a text. -/
def notes (texts : List (String × String)) (all : Value) (text : String) : List Value :=
  (texts.filter fun file => file.2 = text).filterMap fun file => member? all file.1

/-- What is noted first under the paths of a text. -/
def noted (texts : List (String × String)) (all : Value) (text : String) : Value :=
  ((notes texts all text).head?).getD .null

/-- The rows for a grammar among trees of one text; a tree that does not depend on the grammar is
noted once. -/
def rowsFor (grammar : Grammar) (trees : List Value) : Value :=
  ((trees.findSome? fun tree => member? tree grammar.name).orElse fun _ =>
    trees.findSome? fun tree => member? tree Grammar.tsx.name).getD .null

/-- The readers of a snapshot. -/
def readers (snapshot : Snapshot) : Readers :=
  let texts := snapshot.texts
  { tree := fun grammar text => treeOf text (rowsFor grammar (notes texts snapshot.trees text))
    yaml := fun text =>
      (readingOf snapshot.malformed (noted texts snapshot.yaml text)).map yamlOf
    toml := fun text =>
      (readingOf snapshot.malformed (noted texts snapshot.toml text)).map tomlMembers
    brackets := Json.usualBrackets
    -- values are written level by level as they are read, so there is room for as many levels
    tooDeep := fun value => Json.usualBrackets < value.levels }

/-- Reads a snapshot. -/
def ofValue (value : Value) : Snapshot where
  files :=
    match member? value "files" with
    | some (.object members) => members
    | _ => []
  trees := (member? value "trees").getD .null
  yaml := (member? value "yaml").getD .null
  toml := (member? value "toml").getD .null

end Snapshot

end ComponentCensus.Scan
