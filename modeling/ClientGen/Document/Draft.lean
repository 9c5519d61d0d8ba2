import ClientGen.Document.Web.Edit
import ClientGen.Document.Web.Update

/-!
Documents as they are read: trees, or webs when some collection stands in several places.
-/
namespace ClientGen

inductive Draft where
  | tree (document : Document)
  | woven (web : Web)
deriving Repr

namespace Draft

/-- The draft of a web: a tree if each of its collections stands in one place. -/
def ofWeb (web : Web) : Draft := if web.isTree then .tree web.document else .woven web

def document : Draft → Document
  | tree document => document
  | woven web => web.document

def update (features : List String) : Draft → Except Failure Draft
  | tree document => (Update.update features document).map tree
  | woven web => (web.update features).map woven

def setAt? (draft : Draft) (path : List Document) (value : Document) : Option Draft :=
  match draft with
  | tree document => (document.setAt? path value).map tree
  | woven web => (web.setAt? path value).map woven

def eraseAt? (draft : Draft) (path : List Document) : Option Draft :=
  match draft with
  | tree document => (document.eraseAt? path).map tree
  | woven web => (web.eraseAt? path).map woven

end Draft

end ClientGen
