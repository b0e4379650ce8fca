import TableFilter.Number.Power
import TableFilter.Text.CharClass

/-!
# Arguments of the command line

A command has settings before and after its name. A setting has a long name, written after two
hyphens, and often a letter, written after one. Letters can be joined. A setting after the name of
the command counts more than one before it, and on either side none may repeat.

## Main definitions

* `Setting`: settings with their names
* `Command`: what can be asked for
* `Invocation`: a command with its settings
* `Invocation.ofArguments`: what arguments ask for
-/

namespace TableFilter.CommandLine

open TableFilter.Number TableFilter.Text

/-! ### Settings -/

/-- A setting. -/
inductive Setting where
  | dataSet
  | table
  | idFields
  | debug
  | row
  | help
  | version
deriving DecidableEq, Repr

/-- A number of a row: digits after an optional plus sign, of 64 bits. -/
def rowNumber? (text : String) : Option Nat :=
  let digits :=
    match text.toList with
    | '+' :: rest => rest
    | cs => cs
  if digits.isEmpty || !digits.all isDigit then none
  else
    let n := natOfDigits digits
    if n < word64 then some n else none

namespace Setting

/-- The long name. -/
def name : Setting → String
  | .dataSet => "dataset"
  | .table => "table"
  | .idFields => "id-fields"
  | .debug => "debug"
  | .row => "row"
  | .help => "help"
  | .version => "version"

/-- The letter. -/
def letter? : Setting → Option Char
  | .dataSet => some 'D'
  | .table => some 't'
  | .idFields => none
  | .debug => some 'd'
  | .row => some 'r'
  | .help => some 'h'
  | .version => some 'V'

/-- Whether a value belongs to a setting. -/
def takesValue : Setting → Bool
  | .dataSet | .table | .idFields | .row => true
  | .debug | .help | .version => false

/-- Whether a text is a value of a setting. Paths are not empty. -/
def accepts (s : Setting) (value : String) : Bool :=
  match s with
  | .dataSet | .idFields => !value.isEmpty
  | .row => (rowNumber? value).isSome
  | _ => true

end Setting

/-! ### Commands -/

/-- What can be asked for. -/
inductive Command where
  /-- The value of an expression, on a row of the table or on none. -/
  | eval (expression : String) (row : Option Nat)
  /-- The rows that a filter selects. -/
  | select (filter : String)
  /-- The signal ids that a filter selects. -/
  | signalIds (filter : String)
  /-- The bound statements of a filter. -/
  | trees (filter : String)
deriving DecidableEq, Repr

/-- The names of commands. -/
inductive CommandName where
  | eval
  | select
  | signalIds
  | trees
  | help
deriving DecidableEq, Repr

namespace CommandName

/-- All names. -/
def all : List CommandName := [.eval, .select, .signalIds, .trees, .help]

/-- The written form of a name. -/
def text : CommandName → String
  | .eval => "eval"
  | .select => "select"
  | .signalIds => "signal-ids"
  | .trees => "trees"
  | .help => "help"

/-- The name with a written form. -/
def ofText? (text : String) : Option CommandName := all.find? fun n => n.text == text

/-- The settings that can stand after a name. -/
def settings : CommandName → List Setting
  | .eval => [.dataSet, .table, .idFields, .debug, .help, .row]
  | _ => [.dataSet, .table, .idFields, .debug, .help]

end CommandName

/-- The settings that can stand before the name of a command. -/
def leadingSettings : List Setting := [.dataSet, .table, .idFields, .debug, .help, .version]

/-- The table that is taken where none is named. -/
def usualTable : String := "ActiveMeasurements"

/-- A command with its settings. -/
structure Invocation where
  dataSet : Option String
  table : String
  idFields : Option String
  command : Command
deriving DecidableEq, Repr

/-- Why arguments ask for no command. -/
inductive Refusal where
  | misuse
  | help
  | version
deriving DecidableEq, Repr

/-! ### Reading -/

/-- Settings that were given, the last one first. -/
abbrev GivenSettings := List (Setting × String)

/-- What reads arguments. -/
abbrev ArgumentReader := StateT GivenSettings (Except Refusal)

/-- Takes a setting with its value. -/
def give (s : Setting) (value : String) : ArgumentReader Unit := do
  let given ← get
  match s with
  | .help => throw .help
  | .version => throw .version
  | _ =>
    if (given.lookup s).isSome || !s.accepts value then throw .misuse
    set ((s, value) :: given)

/-- Reads a long name with a value joined to it, if there is one. What is left is the setting whose
value is still to come. -/
def readLong (allowed : List Setting) (text : List Char) : ArgumentReader (Option Setting) := do
  let name := String.ofList (text.takeWhile (· != '='))
  let value := (text.dropWhile (· != '=')).tail
  let isJoined := text.contains '='
  match allowed.find? fun s => s.name == name with
  | none => throw .misuse
  | some s =>
    if s.takesValue then
      if isJoined then
        give s (String.ofList value)
        return none
      else return some s
    else if isJoined then throw .misuse
    else
      give s ""
      return none

/-- Reads letters. What follows the letter of a setting with a value is the value, before which
there can be a sign of equality. -/
def readLetters (allowed : List Setting) : List Char → ArgumentReader (Option Setting)
  | [] => return none
  | c :: cs => do
    match allowed.find? fun s => s.letter? == some c with
    | none => throw .misuse
    | some s =>
      if s.takesValue then
        match cs with
        | [] => return some s
        | '=' :: value => do
          give s (String.ofList value)
          return none
        | _ => do
          give s (String.ofList cs)
          return none
      else
        give s ""
        readLetters allowed cs

/-- Whether an argument gives settings, or ends them. -/
def isFlag (argument : String) : Bool := argument.startsWith "-" && argument != "-"

/-- Reads arguments up to the first that gives no settings, and leaves it and those after it. A
setting may be waiting for its value. -/
def readSettings (allowed : List Setting) : Option Setting → List String →
    ArgumentReader (List String)
  | none, [] => return []
  | some _, [] => throw .misuse
  | some s, value :: rest => do
    if isFlag value then throw .misuse
    give s value
    readSettings allowed none rest
  | none, argument :: rest => do
    if argument == "--" || !isFlag argument then return argument :: rest
    let waiting ←
      match argument.toList with
      | '-' :: '-' :: name => readLong allowed name
      | cs => readLetters allowed cs.tail
    readSettings allowed waiting rest

/-- Reads the one argument of a command, with settings before and after it. After two hyphens there
are no settings. -/
def readOperand (allowed : List Setting) (arguments : List String) : ArgumentReader String := do
  match ← readSettings allowed none arguments with
  | [] => throw .misuse
  | "--" :: [operand] => return operand
  | "--" :: _ => throw .misuse
  | operand :: rest =>
    match ← readSettings allowed none rest with
    | [] | ["--"] => return operand
    | _ => throw .misuse

/-- Help on one command or on all. -/
def readHelp : List String → Refusal
  | [] => .help
  | [name] => if (CommandName.ofText? name).isSome then .help else .misuse
  | _ => .misuse

/-- A command by its name. -/
def commandOf (name : CommandName) (operand : String) (given : GivenSettings) :
    Except Refusal Command :=
  match name with
  | .eval => .ok (.eval operand ((given.lookup .row).bind rowNumber?))
  | .select => .ok (.select operand)
  | .signalIds => .ok (.signalIds operand)
  | .trees => .ok (.trees operand)
  | .help => .error .help

/-- What arguments ask for. -/
def Invocation.ofArguments (arguments : List String) : Except Refusal Invocation := do
  let (rest, leading) ← (readSettings leadingSettings none arguments).run []
  match rest with
  | [] => throw .misuse
  | name :: rest =>
    match CommandName.ofText? name with
    | none => throw .misuse
    | some .help => throw (readHelp rest)
    | some name =>
      let (operand, trailing) ← (readOperand name.settings rest).run []
      let given := trailing ++ leading
      return {
        dataSet := given.lookup .dataSet
        table := (given.lookup .table).getD usualTable
        idFields := given.lookup .idFields
        command := ← commandOf name operand given }

end TableFilter.CommandLine
