import ClientGen.Disk.Write
import ClientGen.World

/-!
The directory for the program's own data, and the logs of unexpected failures in it.
-/
namespace ClientGen.DataDirectory

def programName : String := "dsh-api-build"

/-- Whether a system keeps data where the common convention of free systems says. -/
def followsConvention (system : String) : Bool :=
  system == "Linux" || "BSD".toList.isSuffixOf system.toList

def home (world : World) : FilePath := FilePath.parse ((world.lookup? "HOME").getD "/")

def path (world : World) : FilePath :=
  if followsConvention world.system then
    let base := match (world.lookup? "XDG_DATA_HOME").filter fun value => !value.isEmpty with
      | some value => FilePath.parse value
      | none => (home world).join ⟨"", [".local", "share"]⟩
    base.join ⟨"", [programName]⟩
  else (home world).join ⟨"", ["." ++ programName, "logs"]⟩

def make (world : World) : Except Failure Disk :=
  if (path world).hasNul then .error .unusable
  else
    match world.disk.makeDirectories (path world) with
    | (disk, some _) => .ok disk
    | (_, none) => .error .unusable

def logPath (world : World) : FilePath :=
  (path world).join ⟨"", ["logs", "crash-" ++ world.time ++ ".log"]⟩

def writeLog (world : World) (text : String) : Option Disk :=
  match make world with
  | .error _ => none
  | .ok disk =>
    match disk.makeDirectories (logPath world).parent with
    | (_, none) => none
    | (disk, some directory) =>
      some (disk.put (directory ++ [(logPath world).name]) (.file text))

end ClientGen.DataDirectory
