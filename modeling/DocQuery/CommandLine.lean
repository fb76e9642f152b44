import DocQuery.Program.Basic

/-!
# The command line

Runs the program on the files, the environment and the standard streams of the system. The clocks
of time zones, which the system does not tell, are given.
-/

namespace DocQuery.CommandLine

/-- What there is at a path of the file system. A path that goes through a file, or has too long a
name, cannot be opened, which the error shows by naming it; a directory opens but cannot be read. -/
def fileAt (path : String) : IO FileState := do
  try
    return .text (← IO.FS.readFile path)
  catch
    | .noFileOrDirectory _ _ _ => return .missing
    | .inappropriateType (some _) _ _ | .invalidArgument (some _) _ _ => return .missing
    | _ => return .unreadable

def environment (names : List String) : IO Environment.Variables :=
  names.filterMapM fun name => do
    return (← IO.getEnv name).map (name, ·)

def system (clocks : Clocks) : Surroundings IO := ⟨fileAt, environment, clocks⟩

def milliseconds (nanos : Nat) : String :=
  let hundredths := (nanos + 5000) / 10000
  toString (hundredths / 100) ++ "." ++ String.ofList (Text.padZeros 2 (hundredths % 100))

partial def converse (input : IO.FS.Stream) (shell : Shell Id) : IO Transcript.Ending := do
  let leave : IO Transcript.Ending := do
    IO.println Transcript.farewell
    return .farewell
  match Text.textLines (← input.getLine).toList with
  | [] => leave
  | line :: _ =>
    match Transcript.command? line with
    | none => return .broken
    | some command =>
      let start ← IO.monoNanosNow
      let (response, shell) : Response × Shell Id ← IO.lazyPure fun _ => shell.respond command
      let elapsed := (← IO.monoNanosNow) - start
      match response with
      | .leave => leave
      | response =>
        match Transcript.answer? (milliseconds elapsed) response with
        | none => return .broken
        | some lines =>
          lines.forM IO.println
          converse input shell

def finish (o : Outcome) : IO UInt32 := do
  o.lines.forM IO.println
  if let some e := o.error then
    IO.eprintln ("Error: " ++ e.message)
  return o.exit.toUInt32

def run (clocks : Clocks) (arguments : List String) : IO UInt32 := do
  match ← Start.ofArguments (system clocks) arguments with
  | .finished o => finish o
  | .session shell =>
    Transcript.greeting.forM IO.println
    let ending ← converse (← IO.getStdin) shell
    return (Outcome.ofSession [] ending).exit.toUInt32

end DocQuery.CommandLine
