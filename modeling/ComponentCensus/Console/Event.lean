import ComponentCensus.Value.Basic

/-!
# Console events

What a command shows is a list of events.  A print event holds markup, styled text, panels and
tables; how they are laid out on a screen is not decided here.
-/

namespace ComponentCensus.Console

/-- The alignment of a column. -/
inductive Align where
  | left
  | center
  | right
deriving DecidableEq, Repr

/-- The name of an alignment. -/
def Align.name : Align → String
  | .left => "left"
  | .center => "center"
  | .right => "right"

/-- A column of a table. -/
structure Column where
  header : String
  style : String := ""
  align : Align := .left
deriving DecidableEq, Repr

/-- Something that can be printed. -/
inductive Item where
  /-- A text with markup in it. -/
  | markup (text : String)
  /-- Parts of plain text, each with a style of its own or none. -/
  | styled (parts : List (String × Option String))
  /-- A framed item. -/
  | panel (body : Item) (title : Option String) (border : String)
  /-- A table with a title. -/
  | table (title : String) (columns : List Column) (rows : List (List Item))
deriving Inhabited

/-- One action on the console. -/
inductive Event where
  /-- Items are printed, in a style if one is given. -/
  | print (items : List Item) (style : Option String)
  /-- A console is opened, with colors or without. -/
  | opened (color : Bool)
  /-- A progress bar is started. -/
  | progress (description : String)
  /-- A document is printed. -/
  | document (value : Value)
deriving Inhabited

/-- Prints a text with markup. -/
def say (text : String) : Event :=
  .print [.markup text] none

/-- Prints a text with markup in a style. -/
def sayIn (style text : String) : Event :=
  .print [.markup text] (some style)

/-- Prints a table of texts. -/
def showTable (title : String) (columns : List Column) (rows : List (List String)) : Event :=
  .print [.table title columns (rows.map fun row => row.map .markup)] none

/-- The stretches of styled parts: start, end and style, in characters. -/
def spans (start : Nat) : List (String × Option String) → List (Nat × Nat × String)
  | [] => []
  | (text, style) :: rest =>
    let stop := start + text.length
    let others := spans stop rest
    match style with
    | some style => (start, stop, style) :: others
    | none => others

/-- The text of styled parts. -/
def plainText (parts : List (String × Option String)) : String :=
  String.join (parts.map (·.1))

end ComponentCensus.Console
