import DocQuery.Shell.Display
import DocQuery.Text.Backspace

/-!
# What the program prints

The texts of an interactive session: its greeting, the answer to each line, and its farewell.
-/

namespace DocQuery.Transcript

def greeting : List String :=
  ["  docsql 0.1.0", "  Type .help for help, .exit to quit", ""]

def farewell : String := "Goodbye!"

def help : List String :=
  ["", "Commands:", "  .help            Show this help", "  .exit            Exit the shell",
    "  .use [path]      Set or clear the base path",
    "  .explain <query> Show the store operations",
    "  .status          Show current settings", "", "Queries:",
    "  SELECT fields|*|COUNT(*) FROM path|GROUP name [WHERE ...] [ORDER BY f ASC|DESC] [LIMIT n]",
    "  Functions: toDate(field), prettyJson(field). AND/OR split left to right.", "",
    "Examples:", "  SELECT name, age FROM users WHERE age > 25 ORDER BY age DESC LIMIT 10",
    "  SELECT COUNT(*) FROM GROUP orders",
    "  SELECT id, toDate(createdAt) FROM users WHERE id = 'u1'", ""]

def usage : List String :=
  ["Query document collections with a small SQL dialect", "", "Usage: docsql [OPTIONS]", "",
    "Options:",
    "  -c, --config <CONFIG>        Configuration file (defaults to ./docsql.toml when present)",
    "  -d, --data <DATA>            JSON dataset to load into the in-memory store",
    "      --timezone <TIMEZONE>    IANA time zone for toDate (local time when unset)",
    "      --base-path <BASE_PATH>  Document root for relative FROM paths",
    "      --include-id             Include document ids in SELECT * rows",
    "  -e, --execute <EXECUTE>      Run one query, print each row as JSON and exit",
    "  -h, --help                   Print help"]

/-- The lines of an answer; rows are shown with a blank line between them, and their number with
the milliseconds that the query took. A row with too wide a label cannot be shown. -/
def answer? (elapsed : String) : Response → Option (List String)
  | .nothing => some []
  | .leave => some []
  | .help => some help
  | .status lines => some (lines.map fun (label, value) => "  " ++ label ++ " " ++ value)
  | .message text => some ["  " ++ text]
  | .explained request => some ["  " ++ request.display]
  | .output o =>
    let rows := o.toRows
    let noun := if rows.length = 1 then "row" else "rows"
    if rows.all Row.canDisplay then
      some ((rows.map (Row.display false)).intersperse "" ++
        ["  (" ++ toString rows.length ++ " " ++ noun ++ ", " ++ elapsed ++ "ms)"])
    else none
  | .error e => some ["Error: " ++ e.message]
  | .unknown word => some ["  Unknown command: " ++ word, "  Type .help for help"]

inductive Ending where
  /-- By its own exit or with the end of its input. -/
  | farewell
  /-- At a line that has no reading, or whose answer cannot be shown. -/
  | broken
deriving DecidableEq, Repr

def command? (line : List Char) : Option Command :=
  (Text.typed? line).map fun shown => Command.ofLine (String.ofList shown)

/-- The answers to the lines of a session, up to the one that ends it. -/
def session (elapsed : String) (shell : Shell Id) : List (List Char) → List String × Ending
  | [] => ([farewell], .farewell)
  | line :: rest =>
    match command? line with
    | none => ([], .broken)
    | some command =>
      match shell.respond command with
      | (.leave, _) => ([farewell], .farewell)
      | (response, shell) =>
        match answer? elapsed response with
        | none => ([], .broken)
        | some shown =>
          let (lines, ending) := session elapsed shell rest
          (shown ++ lines, ending)

end DocQuery.Transcript
