import DocQuery.Store.Comparison
import DocQuery.Store.Path
import DocQuery.Store.Query
import DocQuery.Store.SortedMap

/-!
# Collections of documents

A store in memory: documents by collection path and identity, both in byte order. Writing to a
document replaces it. A store query filters the documents of its scope, drops those without the
order field, sorts the rest stably, and takes as many as the limit allows.
-/

namespace DocQuery

/-- Documents by the path of their collection, without slashes at its ends, and by identity. -/
structure Collections where
  byPath : SortedMap (SortedMap Fields)

/-- The fields of a value that becomes a document: its members, or the value itself under the
name `value`. -/
def Fields.ofDocument : Json → Fields
  | .object members => .ofPairs members
  | v => .ofPairs [("value", v)]

namespace Collections

def empty : Collections := ⟨.empty⟩

def documents (store : Collections) (path : String) : SortedMap Fields :=
  (store.byPath.get? path).getD .empty

def write (store : Collections) (path id : String) (fields : Fields) : Collections :=
  let path := Path.trim path
  ⟨store.byPath.insert path ((store.documents path).insert id fields)⟩

def insert (store : Collections) (path id : String) (value : Json) : Collections :=
  store.write path id (.ofDocument value)

/-- The identity and the fields of the value at a position of an array. A string under `id` is the
identity; otherwise it is the position after `doc`. An object loses its member `id`. -/
def numbered (position : Nat) (value : Json) : String × Fields :=
  let id := ((value.member? "id").bind Json.string?).getD ("doc" ++ toString position)
  match value with
  | .object _ => (id, (Fields.ofDocument value).remove "id")
  | _ => (id, .ofDocument value)

def addFrom (store : Collections) (path : String) (position : Nat) : List Json → Collections
  | [] => store
  | value :: rest =>
    let (id, fields) := numbered position value
    (store.write path id fields).addFrom path (position + 1) rest

def addAll (store : Collections) (path : String) (values : List Json) : Collections :=
  store.addFrom path 0 values

def paths (store : Collections) : List String := store.byPath.keys

def size (store : Collections) : Nat :=
  store.byPath.pairs.foldl (fun n p => n + p.2.size) 0

def isEmpty (store : Collections) : Bool := store.size == 0

def listed (docs : SortedMap Fields) : List Document :=
  docs.pairs.map fun (id, fields) => ⟨id, fields⟩

def inScope (store : Collections) : Scope → Except StoreError (List Document)
  | .collection path =>
    let path := Path.trim path
    if Path.namesCollection path then .ok (listed (store.documents path))
    else .error (.invalidPath path)
  | .group name =>
    .ok ((store.byPath.pairs.filter fun p => Path.lastSegment p.1 == name).flatMap fun p =>
      listed p.2)

def accepted (store : Collections) (q : StoreQuery) : Except StoreError (List Document) :=
  (store.inScope q.scope).map fun docs => docs.filter fun d => q.filters.all (·.accepts d)

def mayPrecede (order : OrderBy) (a b : Document) : Bool :=
  match a.get? order.field, b.get? order.field with
  | some x, some y =>
    match order.direction with
    | .ascending => Json.compareStored x y != .gt
    | .descending => Json.compareStored x y != .lt
  | _, _ => true

/-- The documents that have the order field, sorted by it; equal ones keep their places. -/
def sortBy (order : OrderBy) (docs : List Document) : List Document :=
  (docs.filter fun d => (d.get? order.field).isSome).mergeSort (mayPrecede order)

def fetch (store : Collections) (q : StoreQuery) : Except StoreError (List Document) :=
  (store.accepted q).map fun docs =>
    let sorted := match q.order with
      | some order => sortBy order docs
      | none => docs
    match q.limit with
    | some n => sorted.take n
    | none => sorted

/-- How many documents match a store query, whatever its order and limit. -/
def count (store : Collections) (q : StoreQuery) : Except StoreError Nat :=
  (store.accepted q).map List.length

end Collections

end DocQuery
