import DocQuery.Json.Reader
import DocQuery.Text.Lines

/-!
# TOML

The part of TOML that configurations use: comments, keys that are bare, quoted or dotted, strings
on one line, truth values, integers, and table headers. Any other text is refused, as are keys and
tables that are defined twice.
-/

namespace DocQuery.Toml

open Text

inductive Value where
  | string (s : String)
  | boolean (b : Bool)
  | integer (i : Int)
deriving DecidableEq, Repr

/-- What a path of keys stands for: a value, a table with a header, a table that a longer header
mentions, or a table that dotted keys fill. -/
inductive Node where
  | value (v : Value)
  | headed
  | mentioned
  | dotted
deriving DecidableEq, Repr

def skipSpaces (text : List Char) : List Char :=
  text.dropWhile fun c => c == ' ' || c == '\t'

def isPlain (c : Char) : Bool :=
  c == '\t' || (0x20 ≤ c.toNat && c.toNat != 0x7f)

def isRest (text : List Char) : Bool :=
  match skipSpaces text with
  | [] => true
  | '#' :: comment => comment.all isPlain
  | _ => false

def charOfHex? (digits : List Char) : Option Char :=
  (digits.foldlM (fun n c => (Json.hexDigit? c).map (16 * n + ·)) 0).bind fun n =>
    if n < 0xD800 ∨ (0xE000 ≤ n ∧ n < 0x110000) then some (Char.ofNat n) else none

def basicString? : List Char → Option (List Char × List Char)
  | [] => none
  | '"' :: text => some ([], text)
  | '\\' :: 'u' :: a :: b :: c :: d :: text =>
    (charOfHex? [a, b, c, d]).bind fun x =>
      (basicString? text).map fun (s, rest) => (x :: s, rest)
  | '\\' :: 'U' :: a :: b :: c :: d :: e :: f :: g :: h :: text =>
    (charOfHex? [a, b, c, d, e, f, g, h]).bind fun x =>
      (basicString? text).map fun (s, rest) => (x :: s, rest)
  | '\\' :: c :: text =>
    (if c = '/' then none else Json.shortEscape? c).bind fun x =>
      (basicString? text).map fun (s, rest) => (x :: s, rest)
  | c :: text =>
    if isPlain c ∧ c ≠ '\\' then (basicString? text).map fun (s, rest) => (c :: s, rest)
    else none

def literalString? : List Char → Option (List Char × List Char)
  | [] => none
  | '\'' :: text => some ([], text)
  | c :: text =>
    if isPlain c then (literalString? text).map fun (s, rest) => (c :: s, rest) else none

def isBare (c : Char) : Bool :=
  c.isAlphanum || c == '_' || c == '-'

def key? (text : List Char) : Option (String × List Char) :=
  match text with
  | '"' :: text => (basicString? text).map fun (s, rest) => (String.ofList s, rest)
  | '\'' :: text => (literalString? text).map fun (s, rest) => (String.ofList s, rest)
  | text =>
    let bare := text.takeWhile isBare
    if bare = [] then none else some (String.ofList bare, text.dropWhile isBare)

def maxKeys : Nat := 79

def keysWithin? (most : Nat) (text : List Char) : Option (List String × List Char) :=
  match most with
  | 0 => none
  | most + 1 =>
    (key? (skipSpaces text)).bind fun (key, rest) =>
      match skipSpaces rest with
      | '.' :: rest => (keysWithin? most rest).map fun (keys, rest) => (key :: keys, rest)
      | rest => some ([key], rest)

def keys? (text : List Char) : Option (List String × List Char) :=
  keysWithin? maxKeys text

/-- The number that digits of a base write; single underscores may stand between digits. -/
def digits? (base : Nat) (text : List Char) : Option Nat :=
  let groups := text.splitOn '_'
  if groups.contains [] then none
  else
    groups.flatten.foldlM (fun n c => (Json.hexDigit? c).bind fun d =>
      if d < base then some (base * n + d) else none) 0

def integer? (text : List Char) : Option Int :=
  let value : Option Int := match text with
    | '0' :: 'x' :: digits => (digits? 16 digits).map Int.ofNat
    | '0' :: 'o' :: digits => (digits? 8 digits).map Int.ofNat
    | '0' :: 'b' :: digits => (digits? 2 digits).map Int.ofNat
    | text =>
      let (negative, digits) := match text with
        | '-' :: digits => (true, digits)
        | '+' :: digits => (false, digits)
        | digits => (false, digits)
      if digits.head? = some '0' ∧ digits ≠ ['0'] then none
      else (digits? 10 digits).map fun n => if negative then -(n : Int) else n
  value.bind fun i => if Word.IsSigned i then some i else none

def value? (text : List Char) : Option (Value × List Char) :=
  match text with
  | '"' :: text => (basicString? text).map fun (s, rest) => (.string (String.ofList s), rest)
  | '\'' :: text => (literalString? text).map fun (s, rest) => (.string (String.ofList s), rest)
  | text =>
    let isEnd (c : Char) : Bool := c == ' ' || c == '\t' || c == '#'
    let word := text.takeWhile fun c => !isEnd c
    let value : Option Value :=
      if word = "true".toList then some (.boolean true)
      else if word = "false".toList then some (.boolean false)
      else (integer? word).map .integer
    value.map (·, text.dropWhile fun c => !isEnd c)

/-- The keys read so far, by path, and the table that further keys belong to. -/
structure Document where
  current : List String
  nodes : List (List String × Node)

def Document.start : Document := ⟨[], []⟩

def Document.get? (d : Document) (path : List String) : Option Node :=
  d.nodes.lookup path

def around (above path : List String) : List (List String) :=
  (List.range (path.length - 1)).map fun n => above ++ path.take (n + 1)

/-- Opens the table of a header. The tables around it must be no values; itself it must be new, or
mentioned by a longer header before. -/
def Document.openTable (d : Document) (path : List String) : Option Document :=
  let outer := around [] path
  let blocked := outer.any fun p => match d.get? p with
    | some (.value _) => true
    | _ => false
  let fresh := outer.filter fun p => (d.get? p).isNone
  if blocked then none
  else
    match d.get? path with
    | none | some .mentioned =>
      some ⟨path, (path, .headed) :: fresh.map (·, .mentioned) ++ d.nodes⟩
    | _ => none

/-- Sets a value in the current table. Dotted keys go through tables without a header only, and the
table that they lead to must be one of dotted keys. -/
def Document.setValue (d : Document) (keys : List String) (v : Value) : Option Document :=
  let outer := around d.current keys
  let path := d.current ++ keys
  let free := outer.all fun p => match d.get? p with
    | none | some .dotted | some .mentioned => true
    | _ => false
  let own := (outer.getLast?.bind d.get?) != some .mentioned
  let fresh := outer.filter fun p => (d.get? p).isNone
  if free ∧ own ∧ d.get? path = none then
    some ⟨d.current, (path, .value v) :: fresh.map (·, .dotted) ++ d.nodes⟩
  else none

def Document.addLine (d : Document) (line : List Char) : Option Document :=
  if isRest line then some d
  else
    match skipSpaces line with
    | '[' :: text =>
      (keys? text).bind fun (path, rest) =>
        match rest with
        | ']' :: rest => if isRest rest then d.openTable path else none
        | _ => none
    | text =>
      (keys? text).bind fun (keys, rest) =>
        match rest with
        | '=' :: rest =>
          (value? (skipSpaces rest)).bind fun (v, rest) =>
            if isRest rest then d.setValue keys v else none
        | _ => none

/-- Reads a whole text, line by line; a byte order mark in front does not count. -/
def parse? (text : String) : Option Document :=
  let chars := match text.toList with
    | '\ufeff' :: rest => rest
    | chars => chars
  (textLines chars).foldlM Document.addLine .start

end DocQuery.Toml
