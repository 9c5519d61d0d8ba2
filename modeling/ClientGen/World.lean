import ClientGen.Disk.Basic

/-!
What a run of the program finds around it.
-/
namespace ClientGen

/-- What a request to a web address gives: a page with its status, or the reason why there is
none. -/
inductive Reply where
  | page (status : Int) (contentType body : String)
  | unreachable (reason : String)
deriving DecidableEq, Repr

/-- The disk, the variables of the environment, the standard input, the web, the name of the
operating system, and the time as log files are named for it. -/
structure World where
  disk : Disk
  environment : List (String × String)
  input : String
  web : String → Reply
  system : String
  time : String

def World.lookup? (world : World) (name : String) : Option String := world.environment.lookup name

end ClientGen
