import ClientGen.CommandLine.Run

/-!
The places on the disk that a command looks at, so that no others have to be read before it runs.
-/
namespace ClientGen.CommandLine

def sourceOf? (world : World) : Command → Option String
  | .update _ spec _ | .emit _ _ spec _ | .selectors _ spec _ | .operations _ spec => some spec
  | .build flags =>
    match Settings.resolve world flags with
    | .ok settings => settings.spec
    | .error _ => none

def sourcePath? (source : String) : Option FilePath :=
  if source == "-" || Source.isUrl source then none else some (FilePath.parse source)

def targetsOf (world : World) : Command → List FilePath
  | .update _ _ output | .emit _ _ _ output => (output.map FilePath.parse).toList
  | .selectors _ _ _ | .operations _ _ => []
  | .build flags =>
    match Settings.resolve world flags with
    | .ok settings =>
      ([settings.genericFile, settings.wrappedFile] ++ settings.updatedSpecFile.toList).map
        (Build.artifactPath settings)
    | .error _ => []

end ClientGen.CommandLine
