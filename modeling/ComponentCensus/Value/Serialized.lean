import ComponentCensus.Text.Case
import ComponentCensus.Text.Split
import ComponentCensus.Value.Basic

/-!
# The serialized form of a value

Member names are written in camel case, and members that are null are left out.  Everything else
stays as it is.
-/

namespace ComponentCensus

open ComponentCensus.Text

/-- A name of words with underscores between them, written in camel case. -/
def camelCase (name : String) : String :=
  match pieces '_' name with
  | [] => ""
  | head :: rest => head ++ String.join (rest.map capitalize)

namespace Value

/-- Whether a value is null. -/
def isNull : Value → Bool
  | .null => true
  | _ => false

mutual

/-- The serialized form of a value. -/
def serialized : Value → Value
  | .list items => .list (serializedItems items)
  | .object members => .object (serializedMembers [] members)
  | value => value

/-- The serialized forms of the items of a list. -/
def serializedItems : List Value → List Value
  | [] => []
  | item :: rest => item.serialized :: serializedItems rest

/-- The serialized forms of the members of an object, written after those that are done. -/
def serializedMembers (done : List (String × Value)) :
    List (String × Value) → List (String × Value)
  | [] => done
  | (name, value) :: rest =>
    serializedMembers
      (if value.isNull then done else Entries.put (camelCase name) value.serialized done) rest

end

end Value

end ComponentCensus
