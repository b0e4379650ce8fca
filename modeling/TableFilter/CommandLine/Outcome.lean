import TableFilter.Catalog.Document
import TableFilter.CommandLine.Arguments
import TableFilter.Selection
import TableFilter.Value.Text

/-!
# Outcomes of commands

A command gives lines of text or fails. It sees files only as a look-up from paths to texts.

## Main definitions

* `FileFault`, `CommandFault`: why a file has no text, and why a command fails
* `Invocation.lines`: what a command writes
* `reportText`: an error with its causes
* `Output`, `outputOf`: exit code and texts for arguments
-/

namespace TableFilter.CommandLine

/-! ### Faults -/

/-- Why a file has no text. -/
inductive FileFault where
  | missing
  | directory
  | notDirectory
  | denied
  | notText
  | other (message : String)
deriving DecidableEq, Repr

/-- The wording of why a file has no text. -/
def FileFault.message : FileFault → String
  | .missing => "No such file or directory (os error 2)"
  | .directory => "Is a directory (os error 21)"
  | .notDirectory => "Not a directory (os error 20)"
  | .denied => "Permission denied (os error 13)"
  | .notText => "stream did not contain valid UTF-8"
  | .other message => message

/-- What a file holds. -/
inductive FileKind where
  | dataSet
  | idFields
deriving DecidableEq, Repr

/-- The name of what a file holds. -/
def FileKind.name : FileKind → String
  | .dataSet => "data set"
  | .idFields => "id fields"

/-- What a command is about. -/
inductive Task where
  | evaluation
  | rows
  | ids
  | trees
deriving DecidableEq, Repr

/-- The wording of a task that failed. -/
def Task.failure : Task → String
  | .evaluation => "Failed to evaluate expression"
  | .rows => "Failed to select rows"
  | .ids => "Failed to select signal IDs"
  | .trees => "Failed to generate expression trees"

/-- Why a command fails. -/
inductive CommandFault where
  | failed (task : Task) (cause : Error)
  | noDataSet
  | file (kind : FileKind) (path : String) (cause : FileFault)
  | dataSet (path : String) (cause : DocumentFault)
  | idFields (path : String)
  | noTable (name : String)
  | noRow (table : String) (row : Nat)

/-- The wording of a file that does not hold what it should. -/
def invalidFile (kind : FileKind) (path : String) : String :=
  "Invalid " ++ kind.name ++ " file " ++ path

/-- The wording of why a command fails, outermost cause first. -/
def CommandFault.causes : CommandFault → List String
  | .failed task cause => [task.failure, cause.message]
  | .noDataSet => ["--dataset is required for this command"]
  | .file kind path cause => ["Failed to read " ++ kind.name ++ " file " ++ path, cause.message]
  | .dataSet path cause => invalidFile .dataSet path :: cause.causes
  | .idFields path => [invalidFile .idFields path, unreadableText]
  | .noTable name => ["Table " ++ quoted name ++ " not found"]
  | .noRow table row => ["Table " ++ quoted table ++ " has no row " ++ toString row]

/-! ### Commands -/

/-- A look-up from paths to texts. -/
abbrev Files := String → Except FileFault String

namespace Invocation

/-- The data set of the file that is named. -/
def readDataSet (i : Invocation) (files : Files) : Except CommandFault DataSet :=
  match i.dataSet with
  | none => .error .noDataSet
  | some path =>
    match files path with
    | .error e => .error (.file .dataSet path e)
    | .ok text => (DataSet.ofText text).mapError (.dataSet path)

/-- The names of identifier columns of the file that is named, and else the usual ones. -/
def readIdFields (i : Invocation) (files : Files) : Except CommandFault IdFields :=
  match i.idFields with
  | none => .ok {}
  | some path =>
    match files path with
    | .error e => .error (.file .idFields path e)
    | .ok text =>
      match IdFields.ofText? text with
      | some fields => .ok fields
      | none => .error (.idFields path)

/-- The line for a row of a data set: table, place, and the values by columns. -/
def rowLine? (ds : DataSet) (r : RowRef) : Option String := do
  let t ← ds.tables[r.table]?
  let row ← t.rows[r.row]?
  let values := t.columns.zipWith (fun c v => c.name ++ "=" ++ v.text) row
  some (t.name ++ "[" ++ toString r.row ++ "]: " ++ ", ".intercalate values)

/-- The value of an expression on a row of the table. -/
def evalOnRow (clock : Clock) (ds : DataSet) (table : String) (row : Nat) (text : String) :
    Except CommandFault Value :=
  match ds.find? table with
  | none => .error (.noTable table)
  | some (_, t) =>
    match t.rows[row]? with
    | none => .error (.noRow table row)
    | some values => (t.evalText clock values text).1.mapError (.failed .evaluation)

/-- The lines that a command writes. -/
def lines (clock : Clock) (files : Files) (i : Invocation) : Except CommandFault (List String) := do
  match i.command with
  | .eval text none =>
    let v ← (evalText clock text).mapError (.failed .evaluation)
    return [v.text]
  | .eval text (some row) =>
    let ds ← i.readDataSet files
    let v ← evalOnRow clock ds i.table row text
    return [v.text]
  | .select filter =>
    let ds ← i.readDataSet files
    let idFields ← i.readIdFields files
    let request : Request := { filter, primary := i.table, idFields }
    let rows ← (request.selectRows clock ds).1.mapError (.failed .rows)
    return rows.filterMap (rowLine? ds)
  | .signalIds filter =>
    let ds ← i.readDataSet files
    let idFields ← i.readIdFields files
    let request : Request := { filter, primary := i.table, idFields }
    let ids ← (request.selectIds clock ds).1.mapError (.failed .ids)
    return ids.map fun g => String.ofList g.braced
  | .trees filter =>
    let ds ← i.readDataSet files
    let request : Request := { filter, primary := i.table }
    let trees ← (request.trees ds).1.result.mapError (.failed .trees)
    return trees.map Tree.text

/-- The paths of files that an invocation names. -/
def paths (i : Invocation) : List String := i.dataSet.toList ++ i.idFields.toList

end Invocation

/-! ### Output -/

/-- A text with a line feed at its end. -/
def asLine (s : String) : String := s ++ "\n"

/-- A text of several lines after a heading, with the lines but the first indented alike. -/
def indented (heading indent text : String) : String :=
  heading ++ ("\n" ++ indent).intercalate (text.splitOn "\n")

/-- A number right-aligned before a colon. -/
def numberHeading (n : Nat) : String :=
  let digits := toString n
  String.ofList (List.replicate (5 - digits.length) ' ') ++ digits ++ ": "

/-- Causes in lines of their own, numbered if there are several. -/
def causeLines : List String → List String
  | [cause] => [indented "    " "    " cause]
  | causes => causes.zipIdx.map fun (cause, n) => indented (numberHeading n) "       " cause

/-- An error with its causes, outermost first. -/
def reportText : List String → String
  | [] => ""
  | [cause] => asLine ("Error: " ++ cause)
  | cause :: causes =>
    asLine ("Error: " ++ cause ++ "\n") ++
      asLine ("\n".intercalate ("Caused by:" :: causeLines causes))

/-- What a program leaves behind: its exit code and the texts that it writes. -/
structure Output where
  code : UInt8
  out : String
  err : String
deriving DecidableEq, Repr

/-- How the program is used. -/
def usageText : String :=
  "\n".intercalate
    ["Evaluate filter expressions against tables",
     "",
     "Usage: filterexpr [OPTIONS] <COMMAND>",
     "",
     "Commands:",
     "  eval <EXPRESSION> [-r <ROW>]  Evaluate an expression, on a row of the table if one is given",
     "  select <FILTER>               Print the rows selected by a filter expression",
     "  signal-ids <FILTER>           Print the signal IDs selected by a filter expression",
     "  trees <FILTER>                Print the bound expression tree of every statement",
     "  help                          Print this text",
     "",
     "Options:",
     "  -D, --dataset <DATASET>       JSON data set file",
     "  -t, --table <TABLE>           Primary table",
     "      --id-fields <ID_FIELDS>   JSON file with the names of identifier columns",
     "  -d, --debug                   Enable debug logging",
     "  -h, --help                    Print this text",
     "  -V, --version                 Print the version"]

/-- Name and version of the program. -/
def versionText : String := "filterexpr 0.1.0"

/-- What the program leaves behind where arguments ask for no command. -/
def Refusal.output : Refusal → Output
  | .misuse => { code := 2, out := "", err := asLine usageText }
  | .help => { code := 0, out := asLine usageText, err := "" }
  | .version => { code := 0, out := asLine versionText, err := "" }

/-- What the program leaves behind for a command. -/
def Invocation.output (clock : Clock) (files : Files) (i : Invocation) : Output :=
  match i.lines clock files with
  | .ok lines => { code := 0, out := String.join (lines.map asLine), err := "" }
  | .error e => { code := 1, out := "", err := reportText e.causes }

/-- What the program leaves behind for arguments. -/
def outputOf (clock : Clock) (files : Files) (arguments : List String) : Output :=
  match Invocation.ofArguments arguments with
  | .error refusal => refusal.output
  | .ok i => i.output clock files

end TableFilter.CommandLine
