import DocQuery.Config.Environment.Entry
import DocQuery.Text.Alphanumeric
import DocQuery.Text.Letters

/-!
# Environment files

An environment file sets variables, one an entry: a name, an equals sign and a value. A value may
be quoted, may hold escapes outside single quotes, and may name other variables after a dollar
sign, where a name that stands without braces goes as far as letters and numbers of any script do.
An entry that cannot be read ends the file; the entries before it count.
-/

namespace DocQuery.Environment

open Text

abbrev Variables := List (String × String)

/-- The value of a variable. Variables are kept as texts, a name and an equals sign before each
value, so that a name with an equals sign in it runs on into the value of another. -/
def value? (known : Variables) (name : String) : Option String :=
  if name.contains '=' then
    known.findSome? fun (key, value) =>
      let text := key.toList ++ '=' :: value.toList
      let front := name.toList ++ ['=']
      if front.isPrefixOf text then some (String.ofList (text.drop front.length)) else none
  else known.lookup name

/-- How much of the name of a variable has been read after a dollar sign. -/
inductive Naming where
  | outside
  | plain (name : List Char)
  | braced (name : List Char)

/-- Where the reader of a value stands. The characters of the value come last one first, since
values that name others may become long. -/
structure Reading where
  strong : Bool := false
  weak : Bool := false
  escaped : Bool := false
  ended : Bool := false
  naming : Naming := .outside
  value : List Char := []

def plainEscapes : List Char := ['\\', '\'', '"', '$', ' ']

def Reading.plainChar (r : Reading) (c : Char) : Reading :=
  if c = '$' then { r with naming := .plain [] }
  else if c = '\\' then { r with escaped := true }
  else if r.weak then
    if c = '"' then { r with weak := false } else { r with value := c :: r.value }
  else if c = '\'' then { r with strong := true }
  else if c = '"' then { r with weak := true }
  else if c = ' ' ∨ c = '\t' then { r with ended := true }
  else { r with value := c :: r.value }

def readValue? (lookup : String → String) (r : Reading) : List Char → Option (List Char)
  | [] =>
    if r.strong || r.weak then none
    else
      match r.naming with
      | .braced _ => none
      | .plain name => some (r.value.reverse ++ (lookup (String.ofList name)).toList)
      | .outside => some r.value.reverse
  | c :: text =>
    if r.ended then
      if c = ' ' ∨ c = '\t' then readValue? lookup r text
      else if c = '#' then readValue? lookup r []
      else none
    else if r.escaped then
      if c ∈ plainEscapes then
        readValue? lookup { r with escaped := false, value := c :: r.value } text
      else if c = 'n' then
        readValue? lookup { r with escaped := false, value := '\n' :: r.value } text
      else none
    else if r.strong then
      if c = '\'' then readValue? lookup { r with strong := false } text
      else readValue? lookup { r with value := c :: r.value } text
    else
      match r.naming with
      | .plain name =>
        if isAlphanumeric c then readValue? lookup { r with naming := .plain (name ++ [c]) } text
        else if c = '\x7b' ∧ name = [] then
          readValue? lookup { r with naming := .braced [] } text
        else
          let value := (lookup (String.ofList name)).toList.reverse ++ r.value
          if c = '$' then readValue? lookup { r with naming := .plain [], value } text
          else readValue? lookup { r with naming := .outside, value := c :: value } text
      | .braced name =>
        if c = '\x7d' then
          let value := (lookup (String.ofList name)).toList.reverse ++ r.value
          readValue? lookup { r with naming := .outside, value } text
        else readValue? lookup { r with naming := .braced (name ++ [c]) } text
      | .outside => readValue? lookup (r.plainChar c) text

def name? (text : List Char) : Option (String × List Char) :=
  let isPart (c : Char) : Bool := isNameChar c
  match text with
  | c :: _ =>
    if isNameStart c then
      some (String.ofList (text.takeWhile isPart), text.dropWhile isPart)
    else none
  | [] => none

def afterEquals? (text : List Char) : Option (List Char) :=
  match text.dropWhile isBlank with
  | '=' :: rest => some (rest.dropWhile isBlank)
  | _ => none

/-- The variable that an entry sets; none inside for an entry without one. The word `export` in
front of a name does not count. -/
def readEntry? (lookup : String → String) (entry : List Char) :
    Option (Option (String × String)) :=
  let text := trim entry
  if text = [] ∨ text.head? = some '#' then some none
  else do
    let (name, rest) ← name? text
    let (name, rest) ← match name, afterEquals? rest with
      | name, some rest => some (name, rest)
      | "export", none =>
        (name? (rest.dropWhile isBlank)).bind fun (name, rest) =>
          (afterEquals? rest).map (name, ·)
      | _, none => none
    if rest = [] ∨ rest.head? = some '#' then some (some (name, ""))
    else
      let value ← readValue? lookup {} rest
      some (some (name, String.ofList value))

/-- The names that a text may set or use: its runs of name characters, and its runs of letters and
numbers. -/
def mentioned (file : String) : List String :=
  let runs (isPart : Char → Bool) : List String :=
    ((file.toList.splitOnP fun c => !isPart c).filter (· ≠ [])).map String.ofList
  (runs isNameChar ++ runs isAlphanumeric).eraseDups

/-- The variables of some entries, after those known already. A known variable keeps its value. An
entry that cannot be read ends the file. A value with a NUL is an error, given with the name of the
variable, because no variable can hold it. -/
def addEntries (known : Variables) (set : Variables) :
    List (Option (List Char)) → Except String Variables
  | [] => .ok known
  | none :: _ => .ok known
  | some entry :: rest =>
    let lookup (name : String) : String :=
      ((value? known name).or (set.lookup name)).getD ""
    match readEntry? lookup entry with
    | none => .ok known
    | some none => addEntries known set rest
    | some (some (name, value)) =>
      if (known.lookup name).isSome then addEntries known ((name, value) :: set) rest
      else if value.toList.contains '\x00' then .error name
      else addEntries (known ++ [(name, value)]) ((name, value) :: set) rest

def extend (known : Variables) (file : String) : Except String Variables :=
  let chars := match file.toList with
    | '\ufeff' :: rest => rest
    | chars => chars
  addEntries known [] (entries .start [] chars)

end DocQuery.Environment
