/-!
# Runs of characters

A class of characters beyond ASCII is a table: the first and the last code point of each of its
runs.
-/

namespace DocQuery.Text

abbrev Runs := List (Nat × Nat)

def Runs.holds (runs : Runs) (c : Char) : Bool :=
  runs.any fun run => run.1 ≤ c.toNat && c.toNat ≤ run.2

end DocQuery.Text
