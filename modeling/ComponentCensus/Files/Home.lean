import ComponentCensus.Fault
import ComponentCensus.Files.Path

/-!
# Home directories

A relative path whose first part is a tilde starts in the home directory of the user at work; a name
behind the tilde stands for another user.
-/

namespace ComponentCensus.Files

open ComponentCensus.Text

/-- The home directories that are known, under the names of their users.  The empty name stands for
the user at work. -/
structure Homes where
  directories : Entries String String := []
deriving Inhabited

/-- A path with a home directory in the place of a tilde. -/
def Homes.expand (homes : Homes) (path : Path) : Except Fault Path :=
  match path.isAbsolute, path.parts with
  | false, first :: rest =>
    if startsWith first "~" then
      match homes.directories.get? (String.ofList (first.toList.drop 1)) with
      | some home => .ok ((Path.ofText home).append { parts := rest })
      | none => .error .unknownHome
    else
      .ok path
  | _, _ => .ok path

end ComponentCensus.Files
