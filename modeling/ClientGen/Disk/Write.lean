import ClientGen.Disk.Basic
import ClientGen.Failure

/-!
Writing files so that a target has either its old or its new text: the text goes to a temporary file
beside the target, which then takes the target's place. When a step fails, the temporary file is
removed. It stays where its removal is refused as well, which is not reported, and where the text is
refused once more as the file is closed.
-/
namespace ClientGen.Disk

/-- Makes the directories that names lead to, from a location on. Those made before a failure
stay. -/
def makeFrom (disk : Disk) (location : Location) : List String → Disk × Option Location
  | [] => (disk, some location)
  | name :: rest =>
    if FilePath.isLongName name then (disk, none)
    else
      let next := step location name
      match disk.content? next with
      | some .directory => makeFrom disk next rest
      | some (.file _) => (disk, none)
      | none =>
        if disk.refuses .makeDirectory next then (disk, none)
        else makeFrom (disk.put next .directory) next rest

/-- Makes the directory at a path with all those on the way, and tells its location. The path must
start at a directory. -/
def makeDirectories (disk : Disk) (path : FilePath) : Disk × Option Location :=
  if path.isLong || disk.content? (disk.origin path) != some .directory then (disk, none)
  else disk.makeFrom (disk.origin path) path.names

def temporaryMark (number : Nat) : String :=
  let digits := Nat.toDigits 10 number
  .ofList (List.replicate (8 - digits.length) '0' ++ digits)

/-- The name of a temporary file for a target. -/
def temporaryName (name : String) (number : Nat) : String :=
  "." ++ name ++ "." ++ temporaryMark number ++ ".tmp"

def freeName? (disk : Disk) (directory : Location) (name : String) : Option String :=
  ((List.range (disk.entries.length + 1)).map (temporaryName name)).find? fun temporary =>
    (disk.content? (directory ++ [temporary])).isNone

/-- Whether a temporary file can stand beside a target: neither its name nor its path from the root
may be too long. All temporary files of a target have names of the same length. -/
def hasRoom (directory : Location) (name : String) : Bool :=
  let temporary := temporaryName name 0
  !FilePath.isLongName temporary && !FilePath.isLong ⟨"/", directory ++ [temporary]⟩

/-- Puts a temporary file in the place of the target of a path, which must not be a directory. -/
def replaceTarget (disk : Disk) (directory : Location) (temporary : String) (path : FilePath)
    (text : String) : Option Disk :=
  let target := step directory path.name
  if path.name == "" || path.name == ".." || path.isLong ||
      disk.content? target == some .directory || disk.refuses .replaceTarget target then none
  else some ((disk.remove (directory ++ [temporary])).put target (.file text))

/-- Removes the temporary file of a write to a target, if the disk lets it go. -/
def discard (disk : Disk) (temporary target : Location) : Disk :=
  if disk.refuses .removeTemporary target then disk else disk.remove temporary

/-- Writes a text through a temporary file to the target of a path, in its directory. A temporary
file that cannot even be closed stays. -/
def writeIn (disk : Disk) (directory : Location) (path : FilePath) (text : String) :
    Disk × Except Failure Unit :=
  let target := step directory path.name
  let failed : Except Failure Unit := .error (.notWritten path.render)
  match disk.freeName? directory path.name with
  | none => (disk, failed)
  | some temporary =>
    let location := directory ++ [temporary]
    if !hasRoom directory path.name || disk.refuses .createTemporary target then (disk, failed)
    else
      let created := disk.put location (.file "")
      if created.refuses .writeText target then
        if created.refuses .writeRest target then (created, .error .unusable)
        else (created.discard location target, failed)
      else
        let written := created.put location (.file text)
        if written.refuses .synchronize target then (written.discard location target, failed)
        else
          match written.replaceTarget directory temporary path text with
          | some disk => (disk, .ok ())
          | none => (written.discard location target, failed)

/-- Writes a text to the file at a path, whose directory is made if need be. A path with a NUL is
no path. -/
def write (disk : Disk) (path : FilePath) (text : String) : Disk × Except Failure Unit :=
  if path.parent.hasNul then (disk, .error .unusable)
  else
    match disk.makeDirectories path.parent with
    | (disk, none) => (disk, .error (.notWritten path.render))
    | (disk, some directory) =>
      if path.hasNul then (disk, .error .unusable) else disk.writeIn directory path text

end ClientGen.Disk
