/-!
# Arguments of the program

Options may be given once each. The value of an option follows it, after an equals sign, after the
letter of a short option, or as the next argument; a next argument that begins with a dash is no
value, unless it is a single dash. There are no arguments besides options.
-/

namespace DocQuery

inductive ProgramOption where
  | config
  | data
  | timezone
  | basePath
  | execute
deriving DecidableEq, Repr

namespace ProgramOption

def long : ProgramOption → String
  | .config => "config"
  | .data => "data"
  | .timezone => "timezone"
  | .basePath => "base-path"
  | .execute => "execute"

def letter? : ProgramOption → Option Char
  | .config => some 'c'
  | .data => some 'd'
  | .execute => some 'e'
  | _ => none

def all : List ProgramOption := [.config, .data, .timezone, .basePath, .execute]

def namesFile : ProgramOption → Bool
  | .config | .data => true
  | _ => false

end ProgramOption

structure Arguments where
  values : List (ProgramOption × String) := []
  includeId : Bool := false

inductive Invocation where
  | run (arguments : Arguments)
  | help
  | refused

namespace Arguments

def get? (a : Arguments) (o : ProgramOption) : Option String := a.values.lookup o

/-- Gives an option its value; none when it has one already or takes no such value. -/
def give? (a : Arguments) (o : ProgramOption) (value : String) : Option Arguments :=
  if (a.get? o).isSome ∨ (o.namesFile ∧ value = "") then none
  else some { a with values := a.values ++ [(o, value)] }

def isValue (argument : String) : Bool :=
  argument.toList.head? != some '-' || argument == "-"

/-- How an argument is read: an option with or without its value, the flag for identities, a call
for help, the end of options, or anything else. -/
inductive Shape where
  | option (o : ProgramOption) (value : Option String)
  | includeId
  | help
  | done
  | other

def longShape (text : List Char) : Shape :=
  let name := String.ofList (text.takeWhile (· != '='))
  let value := match text.dropWhile (· != '=') with
    | _ :: value => some (String.ofList value)
    | [] => none
  match ProgramOption.all.find? fun o => o.long == name with
  | some o => .option o value
  | none =>
    if text = [] then .done
    else if name = "include-id" ∧ value = none then .includeId
    else if name = "help" ∧ value = none then .help
    else .other

def shortShape (letter : Char) (text : List Char) : Shape :=
  match ProgramOption.all.find? fun o => o.letter? == some letter with
  | some o =>
    match text with
    | [] => .option o none
    | '=' :: value => .option o (some (String.ofList value))
    | value => .option o (some (String.ofList value))
  | none => if letter = 'h' then .help else .other

def shape (argument : String) : Shape :=
  match argument.toList with
  | '-' :: '-' :: text => longShape text
  | '-' :: letter :: text => shortShape letter text
  | _ => .other

def read (a : Arguments) : List String → Invocation
  | [] => .run a
  | argument :: rest =>
    match shape argument with
    | .option o (some value) =>
      match a.give? o value with
      | some a => read a rest
      | none => .refused
    | .option o none =>
      match rest with
      | value :: rest =>
        if isValue value then
          match a.give? o value with
          | some a => read a rest
          | none => .refused
        else .refused
      | [] => .refused
    | .includeId => if a.includeId then .refused else read { a with includeId := true } rest
    | .help => .help
    | .done => if rest = [] then .run a else .refused
    | .other => .refused

end Arguments

def Invocation.ofArguments (arguments : List String) : Invocation :=
  Arguments.read {} arguments

end DocQuery
