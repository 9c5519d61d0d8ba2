/-!
Paths of files: names between slashes, with repeated slashes and single dots left out. Two dots
stay, since they depend on what is on the disk.
-/
namespace ClientGen

/-- A path. Its root is empty for a relative path, else one slash, or two where exactly two were
written. -/
structure FilePath where
  root : String
  names : List String
deriving DecidableEq, Repr

namespace FilePath

def rootOf (slashes : Nat) : String :=
  match slashes with
  | 0 => ""
  | 2 => "//"
  | _ => "/"

def namesOf (cs : List Char) : List String :=
  ((cs.splitOn '/').map String.ofList).filter fun name => name != "" && name != "."

def parse (s : String) : FilePath :=
  ⟨rootOf (s.toList.takeWhile (· == '/')).length, namesOf s.toList⟩

def isAbsolute (path : FilePath) : Bool := path.root != ""

/-- The text of a path. The relative path without names is a dot. -/
def render (path : FilePath) : String :=
  if path.root == "" && path.names.isEmpty then "."
  else path.root ++ "/".intercalate path.names

/-- The last name, empty for a path without names. -/
def name (path : FilePath) : String := (path.names.getLast?).getD ""

def parent (path : FilePath) : FilePath := { path with names := path.names.dropLast }

/-- A path taken from another one, which only matters to a relative path. -/
def join (path other : FilePath) : FilePath :=
  if other.isAbsolute then other else { path with names := path.names ++ other.names }

/-- The part of the last name from its last dot on, unless the dot starts or ends the name. -/
def suffix (path : FilePath) : String :=
  let cs := path.name.toList
  let ending := (cs.reverse.takeWhile (· != '.')).reverse
  if ending.isEmpty || cs.length ≤ ending.length + 1 then "" else .ofList ('.' :: ending)

/-- Whether a NUL, which no file name holds, stands in the path. -/
def hasNul (path : FilePath) : Bool :=
  path.names.any fun name => name.toList.any fun c => c.toNat == 0

def isLongName (name : String) : Bool := 255 < name.utf8ByteSize

def isLong (path : FilePath) : Bool := 4095 < path.render.utf8ByteSize

end FilePath

end ClientGen
