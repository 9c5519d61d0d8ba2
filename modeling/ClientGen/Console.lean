import ClientGen.Document.Json.Printer
import ClientGen.Progress

/-!
What a run prints: results to the standard output, and messages to the standard error, as many as
were asked for.
-/
namespace ClientGen

/-- The forms of a table. The automatic one depends on the terminal. -/
inductive TableFormat where
  | auto
  | json
  | plain
  | rich
deriving DecidableEq, Repr

namespace TableFormat

def name : TableFormat → String
  | auto => "auto"
  | json => "json"
  | plain => "plain"
  | rich => "rich"

def ofName? (s : String) : Option TableFormat :=
  [auto, json, plain, rich].find? fun format => format.name == s

end TableFormat

structure Console where
  format : TableFormat := .plain
  quiet : Bool := false
  verbose : Bool := false
  out : String := ""
  err : String := ""
deriving DecidableEq, Repr

namespace Console

def isColourless (environment : List (String × String)) : Bool :=
  (environment.lookup "NO_COLOR").isSome || environment.lookup "TERM" == some "dumb"

/-- The form of tables on a terminal or elsewhere. -/
def resolveFormat (format : TableFormat) (terminal colourless : Bool) : TableFormat :=
  match format with
  | .auto => if terminal && !colourless then .rich else .plain
  | format => format

def start (format : TableFormat) (colourless quiet verbose terminal : Bool)
    (environment : List (String × String)) : Console where
  format := resolveFormat format terminal (colourless || isColourless environment)
  quiet
  verbose

/-- Prints a text, ended by a line feed. -/
def print (console : Console) (text : String) : Console :=
  { console with
    out := console.out ++ if text.toList.getLast? == some '\n' then text else text ++ "\n" }

def tell (console : Console) (line : String) : Console :=
  { console with err := console.err ++ line ++ "\n" }

/-- Prints a message that a quiet run leaves out. -/
def info (console : Console) (message : String) : Console :=
  if console.quiet then console else console.tell message

def error (console : Console) (message : String) : Console := console.tell ("Error: " ++ message)

def debug (console : Console) (message : String) : Console :=
  if console.verbose then console.tell ("[debug] " ++ message) else console

def follow (console : Console) (lines : List String) : Console := lines.foldl debug console

def record (headers row : List String) : Document :=
  .object (Members.ofList ((headers.zip row).map fun (header, cell) =>
    (.text header, .text cell)))

def recordsText (headers : List String) (rows : List (List String)) : String :=
  (Json.valueText? 0 (.array (rows.map (record headers)))).getD ""

/-- Prints a table: objects as JSON text, or cells between tabs. -/
def table (console : Console) (headers : List String) (rows : List (List String)) : Console :=
  match console.format with
  | .json => console.print (recordsText headers rows)
  | _ => (headers :: rows).foldl (fun console row => console.print ("\t".intercalate row)) console

end Console

end ClientGen
