/-!
Splitting the arguments of a command into options and other arguments. Long options may carry their
value after an equals sign, short ones may be run together, and two hyphens end the options.
-/
namespace ClientGen.CommandLine

/-- An option: its spellings and whether it takes a value. The first spelling is its name. -/
structure OptionRule where
  name : String
  short : Option Char := none
  takesValue : Bool := false
deriving DecidableEq, Repr

/-- Options as they were given, with their values, and the other arguments. -/
structure Parsed where
  options : List (String × Option String)
  arguments : List String
deriving DecidableEq, Repr

namespace Parsed

def has (parsed : Parsed) (name : String) : Bool :=
  parsed.options.any fun option => option.1 == name

def values (parsed : Parsed) (name : String) : List String :=
  parsed.options.filterMap fun option => if option.1 == name then option.2 else none

def value? (parsed : Parsed) (name : String) : Option String := (parsed.values name).getLast?

end Parsed

/-- The options of one argument, and whether the last of them takes the next argument as its
value. -/
structure Reading where
  options : List (String × Option String)
  awaits : Option String
deriving DecidableEq, Repr

/-- Reads letters as short options. What follows the letter of an option with a value is its
value. -/
def readShort (rules : List OptionRule) : List Char → Option Reading
  | [] => some ⟨[], none⟩
  | c :: rest =>
    match rules.find? fun rule => rule.short == some c with
    | none => none
    | some rule =>
      if !rule.takesValue then
        (readShort rules rest).map fun reading =>
          { reading with options := (rule.name, none) :: reading.options }
      else if rest.isEmpty then some ⟨[], some rule.name⟩
      else some ⟨[(rule.name, some (.ofList rest))], none⟩

def readLong (rules : List OptionRule) (cs : List Char) : Option Reading :=
  let name := cs.takeWhile (· != '=')
  let given := cs.drop name.length
  match rules.find? fun rule => rule.name == .ofList name with
  | none => none
  | some rule =>
    match rule.takesValue, given with
    | true, [] => some ⟨[], some rule.name⟩
    | true, _ :: value => some ⟨[(rule.name, some (.ofList value))], none⟩
    | false, [] => some ⟨[(rule.name, none)], none⟩
    | false, _ :: _ => none

def readOption (rules : List OptionRule) : List Char → Option Reading
  | '-' :: '-' :: rest => readLong rules ('-' :: '-' :: rest)
  | '-' :: rest => readShort rules rest
  | _ => none

def isOption (argument : String) : Bool :=
  match argument.toList with
  | '-' :: _ :: _ => true
  | _ => false

mutual

/-- Splits arguments. Options end at the first other argument unless they may stand anywhere. An
unknown option, a missing value or a needless one makes the arguments unreadable. -/
def split? (rules : List OptionRule) (anywhere : Bool) : List String → Option Parsed
  | [] => some ⟨[], []⟩
  | argument :: rest =>
    if argument == "--" then some ⟨[], rest⟩
    else if isOption argument then
      match readOption rules argument.toList with
      | none => none
      | some ⟨options, none⟩ =>
        (split? rules anywhere rest).map fun parsed =>
          { parsed with options := options ++ parsed.options }
      | some ⟨options, some name⟩ => splitValue? rules anywhere options name rest
    else if anywhere then
      (split? rules anywhere rest).map fun parsed =>
        { parsed with arguments := argument :: parsed.arguments }
    else some ⟨[], argument :: rest⟩

def splitValue? (rules : List OptionRule) (anywhere : Bool)
    (options : List (String × Option String)) (name : String) : List String → Option Parsed
  | [] => none
  | value :: rest =>
    (split? rules anywhere rest).map fun parsed =>
      { parsed with options := options ++ (name, some value) :: parsed.options }

end

end ClientGen.CommandLine
