import ComponentCensus.Console.Event
import ComponentCensus.Json.Printer
import ComponentCensus.Text.Split

/-!
# Events as plain text

The plain form of console events for outputs that have neither colors nor frames.
-/

namespace ComponentCensus.Console

open ComponentCensus.Text

mutual

/-- The text of an item. -/
def Item.plain : Item → String
  | .markup text => text
  | .styled parts => plainText parts
  | .panel body none _ => body.plain
  | .panel body (some title) _ => title ++ "\n" ++ body.plain
  | .table title columns rows =>
    joinWith "\n"
      (title :: joinWith " | " (columns.map (·.header)) :: plainRows rows)

/-- The lines of the rows of a table. -/
def plainRows : List (List Item) → List String
  | [] => []
  | row :: rest => joinWith " | " (plainCells row) :: plainRows rest

/-- The texts of the cells of a row. -/
def plainCells : List Item → List String
  | [] => []
  | cell :: rest => cell.plain :: plainCells rest

end

/-- The text of an event, if it shows one. -/
def Event.plain? : Event → Option String
  | .print items _ => some (joinWith " " (plainCells items))
  | .opened _ => none
  | .progress description => some description
  | .document value => some (Json.print (.indented 2) value)

end ComponentCensus.Console
