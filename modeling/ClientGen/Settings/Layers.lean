import ClientGen.Document.Json.Reader
import ClientGen.Settings.Basic
import ClientGen.Text.Blank
import ClientGen.World

/-!
Where settings come from: the project file, the environment and the flags of the command line, each
layer over those before it. Only the values that are left on top are checked.
-/
namespace ClientGen.Settings

def projectFileName : String := "dsh-api-build.json"

structure Flags where
  spec : Option String := none
  features : List String := []
  outDir : Option String := none
  typesModule : Option String := none
deriving DecidableEq, Repr

def workingPath (world : World) : FilePath := ⟨"/", world.disk.working⟩

def projectPath (world : World) : FilePath :=
  (workingPath world).join (FilePath.parse projectFileName)

/-- The members of the project file, if there is one. It holds a JSON object. -/
def projectMembers (world : World) : Except Failure (Option Members) :=
  let path := projectPath world
  match world.disk.readText? path with
  | none => .ok none
  | some text =>
    match Json.read text with
    | .error fault => .error (.invalidProjectFile path.render text fault)
    | .ok (.object members) => .ok (some members)
    | .ok _ => .error (.projectNotObject path.render)

/-- The names between commas, trimmed, those that are left empty dropped. -/
def splitFeatures (s : String) : List String :=
  ((s.toList.splitOn ',').map fun part => Text.trim (.ofList part)).filter fun name =>
    !name.isEmpty

def textsDocument (texts : List String) : Document := .array (texts.map .text)

def putIf (members : Members) (name : String) : Option Document → Members
  | some value => Members.put members name value
  | none => members

def filledVariable? (world : World) (name : String) : Option String :=
  (world.lookup? name).filter fun value => !value.isEmpty

def withEnvironment (world : World) (members : Members) : Members :=
  let members := putIf members "spec" ((filledVariable? world "DSH_API_BUILD_SPEC").map .text)
  let members := putIf members "features"
    ((world.lookup? "DSH_API_BUILD_FEATURES").map fun value =>
      textsDocument (splitFeatures value))
  putIf members "types_module" ((filledVariable? world "DSH_API_BUILD_TYPES_MODULE").map .text)

def withFlags (flags : Flags) (members : Members) : Members :=
  let members := putIf members "spec" (flags.spec.map .text)
  let members := putIf members "features"
    (if flags.features.isEmpty then none else some (textsDocument flags.features))
  let members := putIf members "out_dir" (flags.outDir.map .text)
  putIf members "types_module" (flags.typesModule.map .text)

def resolve (world : World) (flags : Flags) : Except Failure Settings := do
  let members := (← projectMembers world).getD []
  ofMembers (withFlags flags (withEnvironment world members))

end ClientGen.Settings
