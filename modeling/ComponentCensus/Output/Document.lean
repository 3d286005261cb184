import ComponentCensus.Files.Path
import ComponentCensus.Json.Printer

/-!
# Report documents

A report document holds the data of a report behind a block of metadata: the tool, the command, the
time and the options.  Data with a member of the same name takes the place of the metadata.
-/

namespace ComponentCensus.Output

open ComponentCensus.Files

/-- The metadata of a document. -/
def metadata (command : Value) (time : String) (options : Value) : Value :=
  .object
    [("tool", .str "hermex"), ("version", .str "0.1.0"), ("command", command),
     ("generatedAt", .str time), ("options", if options.isTruthy then options else .object [])]

/-- The document of a report. -/
def document (command : Value) (time : String) (options : Value) (data : List (String × Value)) :
    Value :=
  .object (data.foldl (fun members member => Entries.put member.1 member.2 members)
    [("metadata", metadata command time options)])

/-- The text of a document. -/
def documentText (value : Value) : String :=
  Json.print (.indented 2) value

/-- Where a report is saved: relative paths are taken from the output directory. -/
def outputPath (directory file : Path) : Path :=
  directory.append file

end ComponentCensus.Output
