import DocQuery.Text.Blank
import DocQuery.Text.Quote

/-!
# Entries of an environment file

An entry is a line, or several lines when a quotation runs over their ends. A number sign at the
start of an entry or after a blank begins a comment, which ends with its line. Outside comments a
backslash protects the next character, also inside quotations.
-/

namespace DocQuery.Environment

open Text

inductive EntryState where
  | start
  | plain
  | blank
  | escaped
  | quoted (mark : Char)
  | quotedEscape (mark : Char)
  | comment
deriving DecidableEq, Repr

namespace EntryState

/-- The state after a character that nothing protects. A second blank is no blank. -/
def afterPlain (state : EntryState) (c : Char) : EntryState :=
  if c = '\\' then .escaped
  else if isQuote c then .quoted c
  else if isBlank c ∧ c ≠ '\n' ∧ c ≠ '\r' ∧ state = .plain then .blank
  else .plain

def after (state : EntryState) (c : Char) : EntryState :=
  match state with
  | .start =>
    if c = '#' then .comment
    else if c ≠ '\n' ∧ isBlank c then .start
    else afterPlain .start c
  | .plain => afterPlain .plain c
  | .blank => if c = '#' then .comment else afterPlain .blank c
  | .escaped => .plain
  | .quoted mark =>
    if c = '\\' then .quotedEscape mark else if c = mark then .plain else .quoted mark
  | .quotedEscape mark => .quoted mark
  | .comment => if c = '\n' then .plain else .comment

end EntryState

/-- The entries of a text without their comments, given the state of the scan and the characters
of the current entry, last one first. An entry that the text breaks off is none. -/
def entries (state : EntryState) (shown : List Char) : List Char → List (Option (List Char))
  | [] =>
    match state with
    | .start => []
    | .plain | .comment => [some shown.reverse]
    | _ => [none]
  | c :: text =>
    let next := state.after c
    if c = '\n' ∧ next = .plain then some shown.reverse :: entries .start [] text
    else entries next (if next = .comment then shown else c :: shown) text

end DocQuery.Environment
