import DocQuery.Program.Surroundings
import DocQuery.Program.Transcript

/-!
# The program

The program reads its arguments, its configuration and a dataset, and then answers one query or the
lines of a session.
-/

namespace DocQuery

/-- How a run of the program ends: its exit code, what it prints, and the error it reports. -/
structure Outcome where
  exit : Nat
  lines : List String
  error : Option ProgramError := none

namespace Outcome

def success (lines : List String) : Outcome := ⟨0, lines, none⟩

def failure (e : ProgramError) : Outcome := ⟨e.exit, [], some e⟩

def refusal : Outcome := ⟨2, [], none⟩

def ofSession (lines : List String) : Transcript.Ending → Outcome
  | .farewell => .success lines
  | .broken => ⟨brokenExit, lines, none⟩

end Outcome

inductive Start where
  | finished (o : Outcome)
  | session (shell : Shell Id)

def queryOutcome (shell : Shell Id) (text : String) : Outcome :=
  let answered : Except QueryError Output := execute shell.store shell.settings text
  match answered with
  | .ok o => .success (o.toRows.map fun row => row.toJson.compact)
  | .error e => .failure (.query e)

namespace Start

variable {m : Type → Type} [Monad m]

def onCollections (a : Arguments) (settings : Settings) (source : String)
    (collections : Collections) : Start :=
  let shell : Shell Id := ⟨collections.toStore .all, source, settings⟩
  match a.get? .execute with
  | some text => .finished (queryOutcome shell text)
  | none => .session shell

def withDataset (s : Surroundings m) (a : Arguments) (config : Config) (settings : Settings) :
    m Start := do
  match config.data with
  | none => return onCollections a settings "(empty)" .empty
  | some path =>
    match ← s.file path with
    | .text content =>
      match Dataset.ofText content with
      | .ok collections => return onCollections a settings path collections
      | .error e => return .finished (.failure e)
    | _ => return .finished (.failure .unreadable)

def withOptions (s : Surroundings m) (a : Arguments) : m Start := do
  match ← Config.load s (a.get? .config) with
  | .error e => return .finished (.failure e)
  | .ok config =>
    let config := config.withArguments a
    match config.sessionSettings s.clocks with
    | .error e => return .finished (.failure e)
    | .ok settings => withDataset s a config settings

def ofArguments (s : Surroundings m) (arguments : List String) : m Start :=
  match Invocation.ofArguments arguments with
  | .help => pure (.finished (.success Transcript.usage))
  | .refused => pure (.finished .refusal)
  | .run a => withOptions s a

end Start

/-- Runs the program on arguments and the text of its input; `elapsed` stands for times. -/
def run {m : Type → Type} [Monad m] (s : Surroundings m) (elapsed : String)
    (arguments : List String) (input : String) : m Outcome := do
  match ← Start.ofArguments s arguments with
  | .finished o => return o
  | .session shell =>
    let (lines, ending) := Transcript.session elapsed shell (Text.textLines input.toList)
    return .ofSession (Transcript.greeting ++ lines) ending

end DocQuery
