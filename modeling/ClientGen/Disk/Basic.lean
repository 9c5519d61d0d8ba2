import ClientGen.FilePath
import ClientGen.Text.Lines

/-!
Disks: files and directories by their location, and looking up a path from the working directory. A
name of a path is looked up only in a directory that exists.
-/
namespace ClientGen

inductive Entry where
  | file (text : String)
  | directory
deriving DecidableEq, Repr

/-- A location: the names of the directories from the root, and the name in the last one. -/
abbrev Location := List String

/-- The steps of writing a file that a disk may refuse. What could not be written is written once
more when the file is closed, and a temporary file that failed is to be removed. -/
inductive WriteStep where
  | makeDirectory
  | createTemporary
  | writeText
  | writeRest
  | synchronize
  | replaceTarget
  | removeTemporary
deriving DecidableEq, Repr

/-- A disk: the location of the working directory, what is at each location, and the steps of
writing to a location that it refuses. -/
structure Disk where
  working : Location
  entries : List (Location × Entry)
  refuses : WriteStep → Location → Bool := fun _ _ => false

inductive Walk where
  | arrived (location : Location)
  | blocked
  | tooLong
deriving DecidableEq, Repr

namespace Disk

/-- What is at a location. The root is a directory. -/
def content? (disk : Disk) (location : Location) : Option Entry :=
  if location.isEmpty then some .directory else disk.entries.lookup location

def put (disk : Disk) (location : Location) (entry : Entry) : Disk :=
  { disk with
    entries := (disk.entries.filter fun other => other.1 != location) ++ [(location, entry)] }

def remove (disk : Disk) (location : Location) : Disk :=
  { disk with entries := disk.entries.filter fun other => other.1 != location }

section Changes

variable (disk : Disk) (location other : Location) (entry : Entry)

@[simp] theorem put_working : (disk.put location entry).working = disk.working := rfl

@[simp] theorem put_refuses : (disk.put location entry).refuses = disk.refuses := rfl

@[simp] theorem remove_working : (disk.remove location).working = disk.working := rfl

@[simp] theorem remove_refuses : (disk.remove location).refuses = disk.refuses := rfl

theorem lookup_without (entries : List (Location × Entry)) :
    (entries.filter fun e => e.1 != location).lookup other =
      if other = location then none else entries.lookup other := by
  induction entries with
  | nil => simp
  | cons e entries ih =>
    obtain ⟨place, entry⟩ := e
    by_cases hplace : place = location <;> by_cases hother : other = place <;> grind

theorem content?_remove (h : location ≠ []) :
    (disk.remove location).content? other =
      if other = location then none else disk.content? other := by
  unfold content? remove
  by_cases hother : other = []
  · have hne : ([] : Location) ≠ location := fun heq => h heq.symm
    simp [hother, hne]
  · simp [hother, lookup_without]

theorem content?_put (h : location ≠ []) :
    (disk.put location entry).content? other =
      if other = location then some entry else disk.content? other := by
  unfold content? put
  by_cases hother : other = location
  · subst hother
    simp [h, List.lookup_append, lookup_without]
  · have hbeq : (other == location) = false := by simpa using hother
    simp [hother, hbeq, List.lookup_append, lookup_without, List.lookup_cons]

end Changes

def step (location : Location) (name : String) : Location :=
  if name == ".." then location.dropLast else location ++ [name]

def origin (disk : Disk) (path : FilePath) : Location :=
  if path.isAbsolute then [] else disk.working

def walkFrom (disk : Disk) (location : Location) : List String → Walk
  | [] => .arrived location
  | name :: rest =>
    if disk.content? location != some .directory then .blocked
    else if FilePath.isLongName name then .tooLong
    else walkFrom disk (step location name) rest

def walk (disk : Disk) (path : FilePath) : Walk :=
  if path.isLong then .tooLong else disk.walkFrom (disk.origin path) path.names

def find? (disk : Disk) (path : FilePath) : Option Entry :=
  match disk.walk path with
  | .arrived location => disk.content? location
  | _ => none

/-- The text of the file at the end of a path, its line ends unified. -/
def readText? (disk : Disk) (path : FilePath) : Option String :=
  match disk.find? path with
  | some (.file text) => some (Text.unified text)
  | _ => none

/-- The files below the working directory with their names from there, in ascending order. -/
def workingFiles (disk : Disk) : List (String × String) :=
  let files := disk.entries.filterMap fun
    | (location, .file text) =>
      if disk.working.isPrefixOf location then
        some ("/".intercalate (location.drop disk.working.length), text)
      else none
    | (_, .directory) => none
  files.mergeSort fun a b => a.1 ≤ b.1

def ways (location : Location) : List Location :=
  (List.range location.length).map fun depth => location.take (depth + 1)

def withDirectory (disk : Disk) (location : Location) : Disk :=
  (ways location).foldl (fun disk way => disk.put way .directory) disk

def withFile (disk : Disk) (location : Location) (text : String) : Disk :=
  (disk.withDirectory location.dropLast).put location (.file text)

def fresh (working : Location) : Disk := withDirectory ⟨working, [], fun _ _ => false⟩ working

end Disk

end ClientGen
