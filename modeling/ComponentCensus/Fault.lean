import ComponentCensus.Json.Reader
import ComponentCensus.Number.Digits
import ComponentCensus.Text.Utf8

/-!
# Faults

A fault is the cause of a failed operation.  Faults of the sources, lockfiles, repositories and
settings under study come first; then those of the file tree and of patterns; then those of values
that do not have the shape an operation needs.  `Fault.message` holds the wording of them all.
-/

namespace ComponentCensus

open ComponentCensus.Text

/-- The cause of a failed operation. -/
inductive Fault where
  /-- A source does not follow the grammar; the line is that of the first error, if one is found. -/
  | brokenSyntax (place : String) (line : Option Nat)
  /-- A source is not UTF-8. -/
  | undecodableSource (place : String) (problem : Utf8.Problem)
  /-- A lockfile cannot be read or does not follow its format. -/
  | badLockfile (action path detail : String)
  /-- A repository cannot be found or cloned. -/
  | badRepository (reference detail : String)
  /-- A setting has a value that it may not have. -/
  | badSetting (detail : String)
  /-- A syntax that is not supported was asked for. -/
  | unsupportedSyntax (name : Value)
  /-- A named lockfile does not exist. -/
  | missingLockfile (path : String)
  /-- A file does not exist. -/
  | missingFile (path : String)
  /-- A file is needed where a directory is. -/
  | isDirectory (path : String)
  /-- A directory is needed where a file is. -/
  | notDirectory (path : String)
  /-- A directory cannot be made where a file is. -/
  | fileExists (path : String)
  /-- A name in a path is longer than a file tree takes. -/
  | nameTooLong (path : String)
  /-- A path holds the null character. -/
  | nullInPath
  /-- A path starts with a user whose home directory is not known. -/
  | unknownHome
  /-- A value that counts as false is no file pattern. -/
  | emptyPattern (pattern : Value)
  /-- Two stars share a pattern component with other characters. -/
  | gluedStars
  /-- A file pattern is absolute. -/
  | absolutePattern
  /-- A text does not spell an integer. -/
  | badInteger (text : String)
  /-- The spelling of an integer has more digits than are read. -/
  | tooManyDigits (count : Nat)
  /-- An integer has more digits than are written. -/
  | tooLongInteger
  /-- A text does not spell a number. -/
  | badNumber (text : String)
  /-- An integer is beyond every finite number. -/
  | integerTooLarge
  /-- A value that is no number has no integer part. -/
  | notANumber
  /-- An infinite value has no integer part. -/
  | infinity
  /-- A quotient is beyond every finite number. -/
  | quotientTooLarge
  /-- A text or a list is to be repeated more often than items are counted. -/
  | tooManyRepeats
  /-- A text or a list has no room in memory. -/
  | outOfMemory
  /-- A member is needed that an object does not have. -/
  | missingMember (name : String)
  /-- A value of the named type does not support an access. -/
  | unsupportedAccess (typeName access : String)
  /-- A value has a type that an operation does not take. -/
  | wrongType (detail : String)
  /-- A table is given as a list, and an item of the list is no pair. -/
  | notAPair (index size : Nat)
  /-- An item is needed that a list does not have. -/
  | missingItem (detail : String)
  /-- A text is to be shown with decimal places. -/
  | unknownFormat
  /-- A quotient by zero. -/
  | divisionByZero (detail : String)
  /-- Bytes are not UTF-8. -/
  | undecodable (problem : Utf8.Problem)
  /-- A text is not JSON. -/
  | malformedJson (problem : Json.Problem)
  /-- A value is nested more deeply than values are read or written. -/
  | nestedTooDeeply (detail : String)
  /-- A reader of a foreign format failed in a way of its own. -/
  | foreign (kind : String)

namespace Fault

/-- The start of a text in quotes, as far as a message shows it. -/
def quotedStart (text : String) : String :=
  String.ofList ((Quoted.encode text).toList.take 200)

/-- The description of a fault. -/
def message : Fault → String
  | .brokenSyntax place none => s!"{place}: syntax error"
  | .brokenSyntax place (some line) => s!"{place}:{line}: syntax error"
  | .undecodableSource place problem => s!"{place}: not valid UTF-8: {problem.message}"
  | .badLockfile action path detail => s!"Error {action} {path}: {detail}"
  | .badRepository reference detail => s!"{reference}: {detail}"
  | .badSetting detail => detail
  | .unsupportedSyntax name =>
    s!"Unsupported syntax {name.quoted}, expected one of typescript, ecmascript"
  | .missingLockfile path => s!"Lockfile not found: {path}"
  | .missingFile path => s!"[Errno 2] No such file or directory: {Quoted.encode path}"
  | .isDirectory path => s!"[Errno 21] Is a directory: {Quoted.encode path}"
  | .notDirectory path => s!"[Errno 20] Not a directory: {Quoted.encode path}"
  | .fileExists path => s!"[Errno 17] File exists: {Quoted.encode path}"
  | .nameTooLong path => s!"[Errno 36] File name too long: {Quoted.encode path}"
  | .nullInPath => "embedded null byte"
  | .unknownHome => "Could not determine home directory."
  | .emptyPattern pattern => s!"Unacceptable pattern: {pattern.quoted}"
  | .gluedStars => "Invalid pattern: '**' can only be an entire path component"
  | .absolutePattern => "Non-relative patterns are unsupported"
  | .badInteger text => s!"invalid literal for int() with base 10: {quotedStart text}"
  | .tooManyDigits count => Number.tooManyDigitsText count
  | .tooLongInteger => Number.tooLongText
  | .badNumber text => s!"could not convert string to float: {Quoted.encode text}"
  | .integerTooLarge => "int too large to convert to float"
  | .notANumber => "cannot convert float NaN to integer"
  | .infinity => "cannot convert float infinity to integer"
  | .quotientTooLarge => "integer division result too large for a float"
  | .tooManyRepeats => "cannot fit 'int' into an index-sized integer"
  | .outOfMemory => ""
  | .missingMember name => Quoted.encode name
  | .unsupportedAccess typeName access =>
    s!"'{typeName}' object has no attribute {Quoted.encode access}"
  | .wrongType detail => detail
  | .notAPair index size =>
    s!"dictionary update sequence element #{index} has length {size}; 2 is required"
  | .missingItem detail => detail
  | .unknownFormat => "Unknown format code 'f' for object of type 'str'"
  | .divisionByZero detail => detail
  | .undecodable problem => problem.message
  | .malformedJson problem => problem.message
  | .nestedTooDeeply detail => detail
  | .foreign kind => kind

/-- The fault of a text that cannot be read as JSON. -/
def ofJson (problem : Json.Problem) : Fault :=
  match problem.complaint with
  | .tooManyDigits count => .tooManyDigits count
  | .tooDeep _ => .nestedTooDeeply problem.message
  | _ => .malformedJson problem

end Fault

namespace Json

/-- Reads the JSON text of a document, whose integers are limited in length, and as the case may be
the number of its brackets that are open at once. -/
def loadWithin (brackets : Option Nat) (text : String) : Except Fault Value :=
  (parseWithin ⟨some Number.digitLimit, brackets⟩ text).mapError Fault.ofJson

/-- How many brackets may be open at once where nothing else is said. -/
def usualBrackets : Nat := 988

/-- Reads the JSON text of a document with any number of brackets. -/
def load (text : String) : Except Fault Value :=
  loadWithin none text

end Json

end ComponentCensus
