/-!
# Quotation marks and nesting

A text is read with one notion of what stands inside a quotation: a single or double mark opens
one, the same mark closes it, and the other mark is ordinary inside. Brackets count only outside
quotations. The search for keywords, the check for open quotations and every splitter share the
state defined here, so they agree on which characters are protected.
-/

namespace DocQuery.Text

def isQuote (c : Char) : Bool :=
  c == '\'' || c == '"'

def quoteAfter : Option Char → Char → Option Char
  | some q, c => if c = q then none else some q
  | none, c => if isQuote c then some c else none

/-- The bracket characters a splitter respects. -/
structure Brackets where
  opens : Char → Bool
  closes : Char → Bool

def Brackets.none : Brackets := ⟨fun _ => false, fun _ => false⟩

def Brackets.round : Brackets := ⟨(· == '('), (· == ')')⟩

/-- Parentheses and square brackets; either kind closes the other. -/
def Brackets.roundOrSquare : Brackets :=
  ⟨fun c => c == '(' || c == '[', fun c => c == ')' || c == ']'⟩

/-- Where a scan stands: the quotation that is open and the number of open brackets. -/
structure Nesting where
  mark : Option Char
  depth : Nat
deriving DecidableEq, Repr

def Nesting.outside : Nesting := ⟨.none, 0⟩

def Nesting.isOutside (s : Nesting) : Bool :=
  s.mark.isNone && s.depth == 0

/-- The state after one more character. A closing bracket with none open changes nothing. -/
def Nesting.after (b : Brackets) (s : Nesting) (c : Char) : Nesting :=
  let depth := match s.mark with
    | some _ => s.depth
    | .none =>
      if b.opens c then s.depth + 1 else if b.closes c then s.depth - 1 else s.depth
  ⟨quoteAfter s.mark c, depth⟩

/-- Cuts a text at every character of a class that stands outside quotations and brackets. The
characters cut at are dropped, all others kept. -/
def splitOutside (b : Brackets) (cut : Char → Bool) (s : Nesting) : List Char → List (List Char)
  | [] => [[]]
  | c :: text =>
    let pieces := splitOutside b cut (s.after b c) text
    if s.isOutside && cut c then [] :: pieces
    else match pieces with
      | [] => [[c]]
      | piece :: rest => (c :: piece) :: rest

/-- The quotation left open at the end of a text: its mark and the byte it starts at. -/
def unclosedQuote? (at? : Option (Char × Nat)) (position : Nat) :
    List Char → Option (Char × Nat)
  | [] => at?
  | c :: text =>
    let next := match at? with
      | some (q, start) => if c = q then .none else some (q, start)
      | .none => if isQuote c then some (c, position) else .none
    unclosedQuote? next (position + c.utf8Size) text

/-- Removes one layer of quotation marks, when the same mark stands at both ends. -/
def unquote (text : List Char) : List Char :=
  match text with
  | q :: rest =>
    if isQuote q && rest.getLast? == some q then rest.dropLast else text
  | [] => []

end DocQuery.Text
