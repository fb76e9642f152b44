import DocQuery.Json.Fields
import DocQuery.Json.Numeral

/-!
# Reading values

A reader of the data format in its strict form: four blanks, no comments, no commas before a
closing bracket, paired surrogates, no control characters in strings. A value holds at most 127
arrays and objects around one another. A repeated key keeps its first place and takes the last
value.
-/

namespace DocQuery.Json

def skipBlanks (text : List Char) : List Char :=
  text.dropWhile fun c => c == ' ' || c == '\n' || c == '\t' || c == '\r'

def hexDigit? (c : Char) : Option Nat :=
  if c.isDigit then some (c.toNat - '0'.toNat)
  else if 'a' ≤ c ∧ c ≤ 'f' then some (c.toNat - 'a'.toNat + 10)
  else if 'A' ≤ c ∧ c ≤ 'F' then some (c.toNat - 'A'.toNat + 10)
  else none

def hexUnit? (a b c d : Char) : Option Nat := do
  let a ← hexDigit? a
  let b ← hexDigit? b
  let c ← hexDigit? c
  let d ← hexDigit? d
  some (((a * 16 + b) * 16 + c) * 16 + d)

def shortEscape? (c : Char) : Option Char :=
  match c with
  | '"' => some '"'
  | '\\' => some '\\'
  | '/' => some '/'
  | 'b' => some '\x08'
  | 'f' => some '\x0c'
  | 'n' => some '\n'
  | 'r' => some '\r'
  | 't' => some '\t'
  | _ => none

def loneUnit? (unit : Nat) : Option Char :=
  if 0xD800 ≤ unit ∧ unit < 0xE000 then none else some (Char.ofNat unit)

def pairedUnits? (high low : Nat) : Option Char :=
  if 0xD800 ≤ high ∧ high < 0xDC00 ∧ 0xDC00 ≤ low ∧ low < 0xE000 then
    some (Char.ofNat (0x10000 + (high - 0xD800) * 0x400 + (low - 0xDC00)))
  else none

def readString? : List Char → Option (List Char × List Char)
  | [] => none
  | '"' :: text => some ([], text)
  | '\\' :: 'u' :: a :: b :: c :: d :: '\\' :: 'u' :: e :: f :: g :: h :: text =>
    match hexUnit? a b c d, hexUnit? e f g h with
    | some high, some low =>
      match pairedUnits? high low with
      | some x => (readString? text).map fun (s, rest) => (x :: s, rest)
      | none =>
        (loneUnit? high).bind fun x =>
          (readString? ('\\' :: 'u' :: e :: f :: g :: h :: text)).map fun (s, rest) =>
            (x :: s, rest)
    | _, _ => none
  | '\\' :: 'u' :: a :: b :: c :: d :: text =>
    ((hexUnit? a b c d).bind loneUnit?).bind fun x =>
      (readString? text).map fun (s, rest) => (x :: s, rest)
  | '\\' :: c :: text =>
    (shortEscape? c).bind fun x => (readString? text).map fun (s, rest) => (x :: s, rest)
  | c :: text =>
    if c.toNat < 0x20 ∨ c = '\\' then none
    else (readString? text).map fun (s, rest) => (c :: s, rest)

def dropExactly? : (word text : List Char) → Option (List Char)
  | [], text => some text
  | _ :: _, [] => none
  | w :: word, c :: text => if w = c then dropExactly? word text else none

mutual

/-- Reads one value, which may hold `depth` more arrays and objects around one another. -/
def readValue? (fuel depth : Nat) (text : List Char) : Option (Json × List Char) :=
  match fuel with
  | 0 => none
  | fuel + 1 =>
    match skipBlanks text with
    | 'n' :: rest => (dropExactly? ['u', 'l', 'l'] rest).map (.null, ·)
    | 't' :: rest => (dropExactly? ['r', 'u', 'e'] rest).map (.boolean true, ·)
    | 'f' :: rest => (dropExactly? ['a', 'l', 's', 'e'] rest).map (.boolean false, ·)
    | '"' :: rest => (readString? rest).map fun (s, rest) => (.string (String.ofList s), rest)
    | '[' :: rest =>
      match depth, skipBlanks rest with
      | 0, _ => none
      | _, ']' :: rest => some (.array [], rest)
      | depth + 1, rest => (readItems? fuel depth rest).map fun (vs, rest) => (.array vs, rest)
    | '\x7b' :: rest =>
      match depth, skipBlanks rest with
      | 0, _ => none
      | _, '\x7d' :: rest => some (.object [], rest)
      | depth + 1, rest =>
        (readMembers? fuel depth rest).map fun (ms, rest) => ((Fields.ofPairs ms).toJson, rest)
    | text => (readNumber? text).map fun (n, rest) => (.number n, rest)

def readItems? (fuel depth : Nat) (text : List Char) : Option (List Json × List Char) :=
  match fuel with
  | 0 => none
  | fuel + 1 =>
    (readValue? fuel depth text).bind fun (v, rest) =>
      match skipBlanks rest with
      | ',' :: rest => (readItems? fuel depth rest).map fun (vs, rest) => (v :: vs, rest)
      | ']' :: rest => some ([v], rest)
      | _ => none

def readMembers? (fuel depth : Nat) (text : List Char) :
    Option (List (String × Json) × List Char) :=
  match fuel with
  | 0 => none
  | fuel + 1 =>
    match skipBlanks text with
    | '"' :: rest =>
      (readString? rest).bind fun (key, rest) =>
        match skipBlanks rest with
        | ':' :: rest =>
          (readValue? fuel depth rest).bind fun (v, rest) =>
            match skipBlanks rest with
            | ',' :: rest =>
              (readMembers? fuel depth rest).map fun (ms, rest) =>
                ((String.ofList key, v) :: ms, rest)
            | '\x7d' :: rest => some ([(String.ofList key, v)], rest)
            | _ => none
        | _ => none
    | _ => none

end

/-- Reads a whole text as one value. Between two steps of the reader a character is consumed at
least every other time, so twice the length of the text is enough fuel. -/
def parse? (text : String) : Option Json :=
  let chars := text.toList
  match readValue? (2 * chars.length + 2) 127 chars with
  | some (v, rest) => if skipBlanks rest = [] then some v else none
  | none => none

end DocQuery.Json
