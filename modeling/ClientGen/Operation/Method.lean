/-!
The request methods of an API and the kinds of operations.
-/
namespace ClientGen

inductive Method where
  | get
  | delete
  | post
  | put
  | head
  | patch
deriving DecidableEq, Repr

namespace Method

/-- The methods that clients are generated for, in the order of the generated text. -/
def supported : List Method := [get, delete, post, put]

def unsupported : List Method := [head, patch]

def name : Method → String
  | get => "get"
  | delete => "delete"
  | post => "post"
  | put => "put"
  | head => "head"
  | patch => "patch"

def upperName : Method → String
  | get => "GET"
  | delete => "DELETE"
  | post => "POST"
  | put => "PUT"
  | head => "HEAD"
  | patch => "PATCH"

def title : Method → String
  | get => "Get"
  | delete => "Delete"
  | post => "Post"
  | put => "Put"
  | head => "Head"
  | patch => "Patch"

def ofName? (s : String) : Option Method :=
  (supported ++ unsupported).find? fun method => method.name == s

def hasBody : Method → Bool
  | post | put | patch => true
  | get | delete | head => false

theorem name_injective {a b : Method} (h : a.name = b.name) : a = b := by
  revert h
  cases a <;> cases b <;> decide

end Method

inductive Kind where
  | allocation
  | manage
  | appcatalog
  | robot
deriving DecidableEq, Repr

namespace Kind

def all : List Kind := [allocation, manage, appcatalog, robot]

def name : Kind → String
  | allocation => "allocation"
  | manage => "manage"
  | appcatalog => "appcatalog"
  | robot => "robot"

def ofName? (s : String) : Option Kind := all.find? fun kind => kind.name == s

/-- The kinds that are left out of a client unless they are asked for. -/
def optional : List Kind := [manage, robot]

theorem ofName?_name (kind : Kind) : ofName? kind.name = some kind := by
  cases kind <;> decide

end Kind

end ClientGen
