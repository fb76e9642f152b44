import DocQuery.Json.Writer
import DocQuery.Json.Fields
import DocQuery.Shell.Basic
import DocQuery.Text.Lines

/-!
# What the shell shows

A row is shown as aligned lines of a label and a value; a text of several lines goes on under the
start of its first line. With colours, each part stands between the code of its style and the code
that ends all styles.
-/

namespace DocQuery

inductive Style where
  | cyan
  | green
  | yellow
  | dimmed
deriving DecidableEq, Repr

namespace Style

def code : Style → List Char
  | .cyan => "\x1b[36m".toList
  | .green => "\x1b[32m".toList
  | .yellow => "\x1b[33m".toList
  | .dimmed => "\x1b[2m".toList

def endCode : List Char := "\x1b[0m".toList

/-- A text with the code of a style again after every end code in it. -/
def renew (style : Style) : List Char → List Char
  | '\x1b' :: '[' :: '0' :: 'm' :: text => endCode ++ style.code ++ style.renew text
  | c :: text => c :: style.renew text
  | [] => []

def paint (colour : Bool) (style : Style) (text : List Char) : List Char :=
  if colour then style.code ++ style.renew text ++ endCode else text

end Style

namespace Row

/-- A value in the column that starts after a number of characters. -/
def valueText (colour : Bool) (column : Nat) (v : Json) : List Char :=
  match v with
  | .null => Style.dimmed.paint colour "null".toList
  | .boolean _ | .number _ => Style.yellow.paint colour v.compact.toList
  | .string s =>
    if '\n' ∈ s.toList then
      Style.green.paint colour
        (('\n' :: List.replicate column ' ').intercalate (Text.textLines s.toList))
    else Style.green.paint colour v.compact.toList
  | .array _ | .object _ => v.compact.toList

def labelWidth (row : Row) : Nat :=
  row.keys.foldl (fun width key => max width key.length) 0

/-- The widest label that other labels can be padded to. -/
def maxLabelWidth : Nat := 65535

def canDisplay (row : Row) : Bool :=
  row.labelWidth ≤ maxLabelWidth

/-- The text of a row: a line for each column, the labels padded to one width. -/
def display (colour : Bool) (row : Row) : String :=
  if row.pairs = [] then
    String.ofList ([' ', ' '] ++ Style.dimmed.paint colour "(no fields)".toList)
  else
    let width := row.labelWidth
    let line (p : String × Json) : List Char :=
      let label := p.1.toList ++ List.replicate (width - p.1.length) ' '
      [' ', ' '] ++ Style.cyan.paint colour label ++ [' ', ' '] ++
        valueText colour (width + 4) p.2
    String.ofList (['\n'].intercalate (row.pairs.map line))

end Row

end DocQuery
