import DocQuery.Text.Blank

/-!
# Collection paths

A path alternates collections and documents, so that a path of an odd number of segments names a
collection. Slashes at either end do not count. A relative path is taken under a base.
-/

namespace DocQuery.Path

def trim (path : String) : String :=
  String.ofList (Text.strip (· == '/') path.toList)

/-- The texts between the slashes of a path; the empty path has one empty segment. -/
def segments (path : String) : List String :=
  (path.toList.splitOn '/').map String.ofList

def lastSegment (path : String) : String :=
  (segments path).getLast?.getD ""

def namesCollection (path : String) : Bool :=
  path != "" && (segments path).length % 2 == 1

/-- The path that a source path means under a base. A slash in front makes it absolute. -/
def resolve (path : String) (base : Option String) : String :=
  if path.toList.head? = some '/' then trim path
  else
    match base.map trim with
    | none => trim path
    | some base => if base = "" then trim path else base ++ "/" ++ trim path

end DocQuery.Path
