import ComponentCensus.Text.Split

/-!
# Arguments of a command line

A command knows some options.  An option has a long name, and may have a letter; a value follows it
or not.  The value of a long name stands behind an equals sign or is the next argument; letters may
stand together behind one hyphen, and the value of a letter is the rest of its group or the next
argument.  Two hyphens end the options.
-/

namespace ComponentCensus.Command

open ComponentCensus.Text

/-- An option that a command knows. -/
structure Known where
  /-- The long name, with its two hyphens. -/
  name : String
  letter : Option Char := none
  /-- Whether a value follows. -/
  takesValue : Bool := true
deriving DecidableEq, Repr

/-- Why a command does not run. -/
inductive Refusal where
  /-- The arguments do not fit. -/
  | misuse
  /-- Help is asked for. -/
  | help
deriving DecidableEq, Repr

/-- The options and the other arguments that are given.  Each option stands under its long name, in
the order of the command line. -/
structure Given where
  options : List (String × String) := []
  arguments : List String := []
deriving DecidableEq, Repr, Inhabited

namespace Given

/-- One more option in front. -/
def withOption (name value : String) (given : Given) : Given :=
  { given with options := (name, value) :: given.options }

/-- One more argument in front. -/
def withArgument (argument : String) (given : Given) : Given :=
  { given with arguments := argument :: given.arguments }

/-- All values of an option. -/
def values (given : Given) (name : String) : List String :=
  (given.options.filter fun option => option.1 = name).map (·.2)

/-- The last value of an option. -/
def value? (given : Given) (name : String) : Option String :=
  (given.values name).getLast?

/-- Whether an option is given. -/
def has (given : Given) (name : String) : Bool :=
  given.options.any fun option => option.1 = name

end Given

/-- What an argument with hyphens says: some options, and maybe one whose value is still to come. -/
structure Group where
  options : List (String × String) := []
  open? : Option String := none

/-- Reads letters behind a hyphen. -/
def readLetters (known : List Known) : List Char → Except Refusal Group
  | [] => .ok {}
  | letter :: rest =>
    match known.find? fun option => option.letter = some letter with
    | none => .error .misuse
    | some option =>
      if option.takesValue then
        if rest.isEmpty then .ok { open? := some option.name }
        else .ok { options := [(option.name, String.ofList rest)] }
      else do
        let group ← readLetters known rest
        return { group with options := (option.name, "") :: group.options }

/-- Reads a long name, with a value behind an equals sign or without. -/
def readName (known : List Known) (argument : String) : Except Refusal Group :=
  let name := beforeFirst '=' argument
  let hasValue := hasChar '=' argument
  match known.find? fun option => option.name = name with
  | none => .error .misuse
  | some option =>
    match option.takesValue, hasValue with
    | true, true => .ok { options := [(name, afterFirst '=' argument)] }
    | true, false => .ok { open? := some name }
    | false, true => .error .misuse
    | false, false => .ok { options := [(name, "")] }

/-- Reads an argument that starts with a hyphen. -/
def readGroup (known : List Known) (argument : String) : Except Refusal Group :=
  if startsWith argument "--" then readName known argument
  else readLetters known (argument.toList.drop 1)

/-- Whether an argument stands for options. -/
def isGroup (argument : String) : Bool :=
  startsWith argument "-" && argument ≠ "-"

/-- Reads arguments.  Where options may not follow other arguments, the first of these ends the
options. -/
def readArguments (known : List Known) (mixed : Bool) : List String → Except Refusal Given
  | [] => .ok {}
  | argument :: rest =>
    if argument = "--" then
      .ok { arguments := rest }
    else if isGroup argument then do
      let group ← readGroup known argument
      let given ←
        match group.open?, rest with
        | none, rest => readArguments known mixed rest
        | some _, [] => throw .misuse
        | some name, value :: rest =>
          return (← readArguments known mixed rest).withOption name value
      return { given with options := group.options ++ given.options }
    else if mixed then do
      return (← readArguments known mixed rest).withArgument argument
    else
      .ok { arguments := argument :: rest }

end ComponentCensus.Command
