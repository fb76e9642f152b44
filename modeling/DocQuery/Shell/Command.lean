import DocQuery.Text.Blank

/-!
# Lines of the shell

A line that begins with a point is a command of the shell, every other line a query. The command is
the text up to the first blank; its argument is the rest.
-/

namespace DocQuery

inductive Command where
  | nothing
  | leave
  | help
  | status
  | useBase (path : Option String)
  | explain (query : String)
  | query (text : String)
  | unknown (word : String)
deriving DecidableEq, Repr

namespace Command

/-- The base path that an argument names, if it holds more than slashes. -/
def basePath? (argument : List Char) : Option String :=
  let path := Text.strip (· == '/') argument
  if path = [] then none else some (String.ofList path)

def ofWord (word : String) (argument : List Char) : Command :=
  if word ∈ [".exit", ".quit", ".q"] then .leave
  else if word ∈ [".help", ".h", ".?"] then .help
  else if word = ".status" then .status
  else if word ∈ [".use", ".cd"] then .useBase (basePath? argument)
  else if word = ".explain" then .explain (String.ofList argument)
  else .unknown word

def ofLine (line : String) : Command :=
  let text := Text.trim line.toList
  match text with
  | [] => .nothing
  | '.' :: _ =>
    ofWord (String.ofList (text.takeWhile fun c => !Text.isBlank c))
      (Text.trim (text.dropWhile fun c => !Text.isBlank c))
  | _ => .query (String.ofList text)

end Command

end DocQuery
