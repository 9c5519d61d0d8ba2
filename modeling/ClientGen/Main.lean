import ClientGen.CommandLine.Places

/-!
The program: reads the places that its command looks at, runs the command, and then writes the files
that have changed and prints.
-/
namespace ClientGen.Main

open CommandLine

def variableNames : List String := [
  "DSH_API_BUILD_SPEC", "DSH_API_BUILD_FEATURES", "DSH_API_BUILD_TYPES_MODULE", "NO_COLOR", "TERM",
  "XDG_DATA_HOME", "HOME"]

def locationText (location : Location) : String := (FilePath.render ⟨"/", location⟩)

/-- What is at a location of the real disk. What exists and cannot be read as a file is taken for a
directory. -/
def probeEntry (location : Location) : IO (Option Entry) := do
  try
    return some (.file (← IO.FS.readFile (locationText location)))
  catch
    | .noFileOrDirectory .. => return none
    | _ => return some .directory

def probeFrom (disk : Disk) (location : Location) : List String → IO Disk
  | [] => return disk
  | name :: rest => do
    let next := Disk.step location name
    match ← probeEntry next with
    | none => return disk
    | some entry => probeFrom (disk.put next entry) next rest

def probe (disk : Disk) (path : FilePath) : IO Disk :=
  probeFrom disk (disk.origin path) path.names

/-- Writes what a run has added or changed. A file goes to a temporary name first. -/
def commit (before after : Disk) : IO Unit := do
  for (location, entry) in after.entries do
    if before.content? location != some entry then
      let place := locationText location
      match entry with
      | .directory => IO.FS.createDirAll place
      | .file text =>
        IO.FS.writeFile (place ++ ".tmp") text
        IO.FS.rename (place ++ ".tmp") place

/-- What a run finds before it has read any place. -/
def surroundings : IO World := do
  let directory := FilePath.parse s!"{← IO.currentDir}"
  let environment ← variableNames.filterMapM fun name => do
    return (← IO.getEnv name).map fun value => (name, value)
  return {
    disk := Disk.fresh directory.names
    environment
    input := ""
    web := fun _ => .unreachable "no connection"
    system := "Linux"
    time := toString (← IO.monoMsNow) }

def worldOf (world : World) (command : Command) : IO World := do
  let world := { world with disk := ← probe world.disk (Settings.projectPath world) }
  let source := sourceOf? world command
  let input ← if source == some "-" then (← IO.getStdin).readToEnd else pure ""
  let mut disk := world.disk
  for path in (source.bind sourcePath?).toList ++ targetsOf world command do
    disk ← probe disk path
  disk ← probe disk (DataDirectory.logPath world).parent
  return { world with disk, input }

def run (arguments : List String) : IO UInt32 := do
  let world ← surroundings
  let world ← match Invocation.of arguments with
    | .run _ command => worldOf world command
    | _ => pure world
  let outcome := CommandLine.run world arguments (← (← IO.getStdout).isTty)
  try
    commit world.disk outcome.disk
    IO.print outcome.console.out
    IO.eprint outcome.console.err
    return outcome.exit.toNat.toUInt32
  catch error =>
    IO.eprintln s!"Error: {error}"
    return 10

end ClientGen.Main

def main (arguments : List String) : IO UInt32 := ClientGen.Main.run arguments
