import DocQuery.Json.Reader
import DocQuery.Store.Collections

/-!
# Datasets

A dataset maps collection paths to documents: an object from identities to documents, or an array
whose objects may carry their identity under `id`. Paths must name collections and have no empty
segment.
-/

namespace DocQuery

inductive DatasetError where
  | noObject
  | invalidPath (path : String)
  | documentPath (path : String)
  | documentNoObject (path id : String)
  | noDocuments (path : String)
deriving DecidableEq

def DatasetError.message : DatasetError → String
  | .noObject => "top level must be an object of collection paths"
  | .invalidPath path => "invalid collection path '" ++ path ++ "'"
  | .documentPath path => "'" ++ path ++ "' is a document path, not a collection path"
  | .documentNoObject path id => "document '" ++ path ++ "/" ++ id ++ "' is not an object"
  | .noDocuments path => "collection '" ++ path ++ "' must be an object or an array"

namespace Dataset

def checkPath (path : String) : Except DatasetError Unit :=
  let segments := Path.segments (Path.trim path)
  if segments.contains "" then .error (.invalidPath path)
  else if segments.length % 2 == 0 then .error (.documentPath path)
  else .ok ()

def insertMembers (path : String) (store : Collections) :
    List (String × Json) → Except DatasetError Collections
  | [] => .ok store
  | (id, .object fields) :: rest =>
    insertMembers path (store.insert path id (.object fields)) rest
  | (id, _) :: _ => .error (.documentNoObject path id)

def insertCollection (store : Collections) (path : String) (documents : Json) :
    Except DatasetError Collections := do
  checkPath path
  match documents with
  | .object members => insertMembers path store members
  | .array values => return store.addAll path values
  | _ => throw (.noDocuments path)

def load : Json → Except DatasetError Collections
  | .object collections =>
    collections.foldlM (fun store p => insertCollection store p.1 p.2) .empty
  | _ => .error .noObject

end Dataset

end DocQuery
