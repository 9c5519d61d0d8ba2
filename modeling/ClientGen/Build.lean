import ClientGen.Disk.Write
import ClientGen.Generation

/-!
Building a client: every text is generated before the first file is written.
-/
namespace ClientGen.Build

def generate (world : World) (settings : Settings) : Progress Generation.Artifacts :=
  match settings.spec.filter fun spec => !spec.isEmpty with
  | none => Progress.ofResult (.error .noSource)
  | some spec => do
    Generation.artifacts (← Generation.prepare world spec settings.features) settings

def artifactPath (settings : Settings) (name : String) : FilePath :=
  (FilePath.parse settings.outDir).join (FilePath.parse name)

/-- Writes artifacts one after another up to the first that cannot be written, and tells the
paths. -/
def writeAll (disk : Disk) : List (FilePath × String) → Disk × Progress (List FilePath)
  | [] => (disk, pure [])
  | (path, text) :: rest =>
    match disk.write path text with
    | (disk, .error failure) => (disk, Progress.ofResult (.error failure))
    | (disk, .ok ()) =>
      let (disk, written) := writeAll disk rest
      (disk, do
        Progress.say ("Wrote " ++ path.render)
        return path :: (← written))

/-- Builds a client, and tells the paths of its files. -/
def build (world : World) (settings : Settings) : Disk × Progress (List FilePath) :=
  let generated := generate world settings
  match generated.result with
  | .error _ => (world.disk, do let _ ← generated; return [])
  | .ok artifacts =>
    let (disk, written) := writeAll world.disk
      (artifacts.map fun artifact => (artifactPath settings artifact.1, artifact.2))
    (disk, do let _ ← generated; written)

end ClientGen.Build
