import ClientGen.CommandLine.Options
import ClientGen.Console
import ClientGen.Settings.Layers

/-!
What the arguments of the program ask for.
-/
namespace ClientGen.CommandLine

inductive ModuleKind where
  | generic
  | wrapped
deriving DecidableEq, Repr

inductive Command where
  | update (flags : Settings.Flags) (spec : String) (output : Option String)
  | emit (kind : ModuleKind) (flags : Settings.Flags) (spec : String) (output : Option String)
  | build (flags : Settings.Flags)
  | selectors (flags : Settings.Flags) (spec : String) (method : Option String)
  | operations (flags : Settings.Flags) (spec : String)
deriving DecidableEq, Repr

structure Manner where
  json : Bool := false
  plain : Bool := false
  colourless : Bool := false
  quiet : Bool := false
  verbose : Bool := false
deriving DecidableEq, Repr

def Manner.format (manner : Manner) : TableFormat :=
  if manner.json then .json else if manner.plain then .plain else .auto

/-- What the arguments of the program ask for. Help for lack of arguments counts as wrong usage. -/
inductive Invocation where
  | help
  | helpless
  | version
  | misused
  | run (manner : Manner) (command : Command)
deriving DecidableEq, Repr

def helpRule : OptionRule := ⟨"--help", none, false⟩

def programRules : List OptionRule := [
  ⟨"--version", none, false⟩, ⟨"--json", none, false⟩, ⟨"--plain", none, false⟩,
  ⟨"--no-color", none, false⟩, ⟨"--quiet", some 'q', false⟩, ⟨"--verbose", some 'v', false⟩,
  helpRule]

def featureRule : OptionRule := ⟨"--feature", some 'f', true⟩

def outputRule : OptionRule := ⟨"--output", some 'o', true⟩

def typesRule : OptionRule := ⟨"--types-module", none, true⟩

def commandRules : List (String × List OptionRule) := [
  ("update", [outputRule, featureRule, helpRule]),
  ("generic", [outputRule, featureRule, typesRule, helpRule]),
  ("wrapped", [outputRule, featureRule, typesRule, helpRule]),
  ("build", [⟨"--out-dir", some 'd', true⟩, featureRule, typesRule, helpRule])]

def inspectRules : List (String × List OptionRule) := [
  ("selectors", [⟨"--method", some 'm', true⟩, featureRule, helpRule]),
  ("operations", [featureRule, helpRule])]

def flagsOf (parsed : Parsed) (spec : Option String) : Settings.Flags where
  spec
  features := parsed.values "--feature"
  outDir := parsed.value? "--out-dir"
  typesModule := parsed.value? "--types-module"

/-- The command of a name with its options, for a source. Only building works without one. -/
def commandOf? (name : String) (parsed : Parsed) (spec : Option String) : Option Command :=
  let flags := flagsOf parsed spec
  let output := parsed.value? "--output"
  match name, spec with
  | "build", _ => some (.build flags)
  | "update", some spec => some (.update flags spec output)
  | "generic", some spec => some (.emit .generic flags spec output)
  | "wrapped", some spec => some (.emit .wrapped flags spec output)
  | "selectors", some spec => some (.selectors flags spec (parsed.value? "--method"))
  | "operations", some spec => some (.operations flags spec)
  | _, _ => none

def ofCommand (manner : Manner) (name : String) (rules : List OptionRule)
    (arguments : List String) : Invocation :=
  match split? rules true arguments with
  | none => .misused
  | some parsed =>
    if parsed.has "--help" then .help
    else
      match parsed.arguments with
      | [] => ((commandOf? name parsed none).map (.run manner)).getD .misused
      | [spec] => ((commandOf? name parsed (some spec)).map (.run manner)).getD .misused
      | _ => .misused

/-- The option for help or for the version that comes first. -/
def firstNotice? (parsed : Parsed) : Option Invocation :=
  (parsed.options.find? fun option => option.1 == "--version" || option.1 == "--help").map
    fun option => if option.1 == "--version" then .version else .help

/-- What arguments that start with the name of a command ask for. An option in the place of the name
is still heard when it asks for help or the version. -/
def ofNamed (manner : Manner) (rules : List OptionRule) (commands : List (String × List OptionRule))
    (arguments : List String) : Invocation :=
  match arguments with
  | [] => .misused
  | name :: rest =>
    match commands.lookup name with
    | some rules => ofCommand manner name rules rest
    | none => ((split? rules false arguments).bind firstNotice?).getD .misused

def ofInspect (manner : Manner) (arguments : List String) : Invocation :=
  if arguments.isEmpty then .helpless
  else
    match split? [helpRule] false arguments with
    | none => .misused
    | some parsed =>
      (firstNotice? parsed).getD (ofNamed manner [helpRule] inspectRules parsed.arguments)

def mannerOf (parsed : Parsed) : Manner where
  json := parsed.has "--json"
  plain := parsed.has "--plain"
  colourless := parsed.has "--no-color"
  quiet := parsed.has "--quiet"
  verbose := parsed.has "--verbose"

def Invocation.of (arguments : List String) : Invocation :=
  if arguments.isEmpty then .helpless
  else
    match split? programRules false arguments with
    | none => .misused
    | some parsed =>
      (firstNotice? parsed).getD
        (match parsed.arguments with
          | "inspect" :: rest => ofInspect (mannerOf parsed) rest
          | arguments => ofNamed (mannerOf parsed) programRules commandRules arguments)

end ClientGen.CommandLine
