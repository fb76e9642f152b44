/-!
# Words of 64 bits

The ranges of integers that a signed and an unsigned word of 64 bits hold.
-/

namespace DocQuery.Word

def signedEnd : Int := 0x8000000000000000

def unsignedEnd : Nat := 0x10000000000000000

abbrev IsSigned (i : Int) : Prop := -signedEnd ≤ i ∧ i < signedEnd

abbrev IsUnsigned (i : Int) : Prop := 0 ≤ i ∧ i < unsignedEnd

end DocQuery.Word
