import DocQuery.Program.Arguments
import DocQuery.Program.Error

/-!
# Surroundings of the program

The program sees files that can be read, variables that can be looked up, and clocks. Its
configuration comes from a file, the environment file beside it, the variables of the environment,
and the arguments, each of which prevails over the ones before. A variable of the environment
prevails over one of the same name in the environment file.
-/

namespace DocQuery

inductive FileState where
  | missing
  | unreadable
  | text (content : String)

/-- What the program sees of its surroundings: what there is at a path, those of some variables
that are set, and the clocks that dates are shown on. -/
structure Surroundings (m : Type → Type) where
  file : String → m FileState
  environment : List String → m Environment.Variables
  clocks : Clocks

def isAbsolute (path : String) : Bool :=
  path.toList.head? = some '/'

def stays (segment : String) : Bool :=
  segment == "" || segment == "."

def dropStays (segments : List String) : List String :=
  (segments.reverse.dropWhile stays).reverse

/-- The directory of a path: the path as it is written, without its last step. It is the current
directory for a path of one step and for a path of none, even for the root. -/
def directory (path : String) : String :=
  match dropStays (Path.segments path) with
  | [] => "."
  | segments =>
    match dropStays segments.dropLast with
    | [] => if isAbsolute path then "/" else "."
    | outer => "/".intercalate outer

def configFileName : String := "docsql.toml"

def environmentFileName : String := ".env"

namespace Config

def withArguments (c : Config) (a : Arguments) : Config :=
  { data := (a.get? .data).or c.data
    timezone := (a.get? .timezone).or c.timezone
    basePath := (a.get? .basePath).or c.basePath
    includeId := a.includeId || c.includeId }

variable {m : Type → Type} [Monad m]

def variablesIn (s : Surroundings m) (dir : String) :
    m (Except ProgramError Environment.Variables) := do
  match ← s.file (dir ++ "/" ++ environmentFileName) with
  | .text file =>
    let known ← s.environment (variableNames ++ Environment.mentioned file)
    return (Environment.extend known file).mapError .unsettable
  | _ => return .ok (← s.environment variableNames)

def ofTextUnder (known : Environment.Variables) (content : String) : Except ProgramError Config :=
  match ofText? content with
  | some c => .ok (c.withVariables (List.lookup · known))
  | none => .error .badToml

def loadFile (s : Surroundings m) (path : String) : FileState → m (Except ProgramError Config)
  | .missing => return .error (.noConfig path)
  | .unreadable => return (← variablesIn s (directory path)).bind fun _ => .error .unreadable
  | .text content => return (← variablesIn s (directory path)).bind (ofTextUnder · content)

/-- The configuration of the program. A file that is named must exist; otherwise the file of the
usual name counts if there is one. -/
def load (s : Surroundings m) (path : Option String) : m (Except ProgramError Config) := do
  match path with
  | some path => loadFile s path (← s.file path)
  | none =>
    match ← s.file configFileName with
    | .missing =>
      return (← variablesIn s ".").map fun known =>
        ({} : Config).withVariables (List.lookup · known)
    | state => loadFile s configFileName state

end Config

end DocQuery
