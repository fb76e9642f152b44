import DocQuery.Session.Executor
import DocQuery.Shell.Command

/-!
# The shell

A shell is a store, a description of where its documents come from, and settings. Its commands
change nothing but the base path.
-/

namespace DocQuery

structure Shell (m : Type → Type) where
  store : DocumentStore m
  source : String
  settings : Settings

/-- What the shell has to show for a line. -/
inductive Response where
  | nothing
  | leave
  | help
  | status (lines : List (String × String))
  | message (text : String)
  | explained (request : StoreQuery)
  | output (o : Output)
  | error (e : QueryError)
  | unknown (word : String)

def statusLines (source : String) (settings : Settings) : List (String × String) :=
  [("Source:", source), ("Base path:", settings.basePath.getD "/"),
    ("Time zone:", (settings.zone.map (·.name)).getD "local"),
    ("Include id:", toString settings.includeId)]

namespace Shell

variable {m : Type → Type}

def withBasePath (shell : Shell m) (path : Option String) : Shell m :=
  { shell with settings := { shell.settings with basePath := path } }

def respond [Monad m] (shell : Shell m) : Command → m (Response × Shell m)
  | .nothing => pure (.nothing, shell)
  | .leave => pure (.leave, shell)
  | .help => pure (.help, shell)
  | .status => pure (.status (statusLines shell.source shell.settings), shell)
  | .useBase path =>
    let message := match path with
      | some p => "Base path set to " ++ p
      | none => "Base path cleared"
    pure (.message message, shell.withBasePath path)
  | .explain query =>
    match DocQuery.explain shell.store.capabilities shell.settings query with
    | .ok request => pure (.explained request, shell)
    | .error e => pure (.error e, shell)
  | .query text => do
    match ← execute shell.store shell.settings text with
    | .ok o => return (.output o, shell)
    | .error e => return (.error e, shell)
  | .unknown word => pure (.unknown word, shell)

end Shell

end DocQuery
