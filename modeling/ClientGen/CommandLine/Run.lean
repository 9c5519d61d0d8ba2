import ClientGen.Build
import ClientGen.CommandLine.Invocation
import ClientGen.DataDirectory

/-!
Running the program: what its arguments ask for is done, a failure is told with its message, and the
exit code follows from its category. An unexpected failure leaves a log.
-/
namespace ClientGen.CommandLine

/-- What a run leaves behind: the disk, what was printed, and the failure that ended it. -/
structure Outcome where
  disk : Disk
  console : Console
  exit : Int := 0
  failure : Option Failure := none

def usageText : String :=
  "Usage: dsh-api-build [OPTIONS] COMMAND [ARGS]...\n\n" ++
    "Commands: update, generic, wrapped, build, inspect selectors, inspect operations\n" ++
    "Options: --version, --json, --plain, --no-color, -q/--quiet, -v/--verbose, --help\n"

def fail (world : World) (disk : Disk) (console : Console) (failure : Failure) : Outcome :=
  if failure == .unusable then
    match DataDirectory.writeLog { world with disk } "Unexpected failure\n" with
    | some disk =>
      let message := "Unexpected error. Debug log: " ++ (DataDirectory.logPath world).render
      ⟨disk, console.error message, 1, some failure⟩
    | none => ⟨disk, console, 1, some failure⟩
  else ⟨disk, console.error failure.message, failure.category.exitCode, some failure⟩

def deliver (world : World) (console : Console) (text : String) : Option String → Outcome
  | none => { disk := world.disk, console := console.print text }
  | some output =>
    let path := FilePath.parse output
    match world.disk.write path text with
    | (disk, .ok ()) => { disk, console := console.info ("Wrote " ++ path.render) }
    | (disk, .error failure) => fail world disk console failure

def finish {α : Type} (world : World) (disk : Disk) (console : Console) (work : Progress α)
    (next : Console → α → Outcome) : Outcome :=
  let console := console.follow work.lines
  match work.result with
  | .ok value => next console value
  | .error failure => fail world disk console failure

def prepare (world : World) (flags : Settings.Flags) (spec : String) :
    Progress (Settings × Document) := do
  let settings ← Progress.ofResult (Settings.resolve world flags)
  return (settings, ← Generation.prepare world spec settings.features)

def updateText (world : World) (flags : Settings.Flags) (spec : String) : Progress String := do
  let (_, document) ← prepare world flags spec
  Progress.ofResult (Generation.documentText document)

def moduleText (world : World) (kind : ModuleKind) (flags : Settings.Flags) (spec : String) :
    Progress String := do
  let (settings, document) ← prepare world flags spec
  match kind with
  | .generic => Generation.generic document settings
  | .wrapped => Generation.wrapped document settings

def collection (world : World) (flags : Settings.Flags) (spec : String) : Progress Collection := do
  let (settings, document) ← prepare world flags spec
  Generation.collect document settings.idCollectionSchema

def methodOf (name : String) : Except Failure Method :=
  match Method.ofName? (Text.lower name) with
  | none => .error (.unknownMethod name)
  | some method =>
    if Method.supported.contains method then .ok method else .error (.methodNotSupported method)

def selectorRows (collection : Collection) : List (List String) :=
  collection.operations.map fun operation =>
    [operation.selector, operation.method.upperName, operation.path, operation.operationId,
      operation.okResponse.expression]

def selectorTable (world : World) (flags : Settings.Flags) (spec : String)
    (method : Option String) : Progress (List (List String)) := do
  let wanted ← Progress.ofResult (method.mapM methodOf)
  let collection ← collection world flags spec
  return selectorRows (collection.filter fun entry => wanted.all (· == entry.1))

def groupOf (operation : Operation) : String × String :=
  (operation.kind.name, operation.method.upperName)

def groupPrecedes (a b : String × String) : Bool := a.1 < b.1 || (a.1 == b.1 && a.2 ≤ b.2)

def countRows (collection : Collection) : List (List String) :=
  let groups := collection.operations.map groupOf
  (groups.eraseDups.mergeSort groupPrecedes).map fun group =>
    [group.1, group.2, toString (groups.count group)]

def runCommand (world : World) (console : Console) : Command → Outcome
  | .update flags spec output =>
    finish world world.disk console (updateText world flags spec) fun console text =>
      deliver world console text output
  | .emit kind flags spec output =>
    finish world world.disk console (moduleText world kind flags spec) fun console text =>
      deliver world console text output
  | .build flags =>
    match Settings.resolve world flags with
    | .error failure => fail world world.disk console failure
    | .ok settings =>
      let (disk, written) := Build.build world settings
      finish world disk console written fun console paths =>
        { disk, console := paths.foldl (fun console path =>
            console.info ("Wrote " ++ path.render)) console }
  | .selectors flags spec method =>
    finish world world.disk console (selectorTable world flags spec method) fun console rows =>
      { disk := world.disk
        console :=
          if rows.isEmpty then console.info "No operations found."
          else console.table ["Selector", "Method", "Path", "Operation Id", "Returns"] rows }
  | .operations flags spec =>
    finish world world.disk console (collection world flags spec) fun console collection =>
      { disk := world.disk
        console := console.table ["Kind", "Method", "Operations"] (countRows collection) }

def run (world : World) (arguments : List String) (terminal : Bool) : Outcome :=
  let silent : Console := {}
  match Invocation.of arguments with
  | .help => { disk := world.disk, console := silent.print usageText }
  | .helpless => { disk := world.disk, console := silent.print usageText, exit := 2 }
  | .misused => { disk := world.disk, console := { err := usageText }, exit := 2 }
  | .version =>
    { disk := world.disk
      console := silent.print (DataDirectory.programName ++ " " ++ Client.generatorVersion) }
  | .run manner command =>
    runCommand world
      (.start manner.format manner.colourless manner.quiet manner.verbose terminal
        world.environment) command

end ClientGen.CommandLine
