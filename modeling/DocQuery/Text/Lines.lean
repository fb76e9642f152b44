/-!
# Lines

A line feed ends a line, with a carriage return before it or not.
-/

namespace DocQuery.Text

def withoutReturn (line : List Char) : List Char :=
  if line.getLast? = some '\r' then line.dropLast else line

/-- The lines of a text. The last line may lack its line feed, and is none when it is empty; a
carriage return at its end stays. -/
def textLines (text : List Char) : List (List Char) :=
  let pieces := text.splitOn '\n'
  let last := pieces.getLast?.getD []
  pieces.dropLast.map withoutReturn ++ if last = [] then [] else [last]

end DocQuery.Text
