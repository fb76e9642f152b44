import DocQuery.Text.Cluster

/-!
# Backspaces

A backspace in a line takes away what was written last. It goes by visible characters, of which it
knows the sizes in bytes. A size is kept in one byte, so that of a visible character of 256 bytes
and more only a part is taken away; where that part would cut a character in two, the line has no
reading.
-/

namespace DocQuery.Text

def backspace : Char := '\x08'

/-- The bytes of a text, counted in one byte. -/
def byteCount (text : List Char) : UInt8 :=
  text.foldl (fun n c => n + UInt8.ofNat c.utf8Size) 0

/-- What a line shows so far, last character first, and the sizes of the visible characters that a
backspace has not met, last one first. -/
structure Typed where
  shown : List Char := []
  sizes : List UInt8 := []

/-- Drops a number of bytes, but no part of a character. -/
def dropBytes? : Nat → List Char → Option (List Char)
  | 0, text => some text
  | _ + 1, [] => none
  | n + 1, c :: text => if c.utf8Size ≤ n + 1 then dropBytes? (n + 1 - c.utf8Size) text else none

def Typed.add? (t : Typed) (cluster : List Char) : Option Typed :=
  if cluster = [backspace] then
    match t.sizes with
    | [] => some t
    | size :: sizes => (dropBytes? size.toNat t.shown).map fun shown => ⟨shown, sizes⟩
  else some ⟨cluster.reverse ++ t.shown, byteCount cluster :: t.sizes⟩

/-- A line without its backspaces and what they take away. -/
def typed? (line : List Char) : Option (List Char) :=
  ((clusters line).foldlM Typed.add? {}).map fun t => t.shown.reverse

theorem foldlM_add?_of_not_mem {cs : List (List Char)} (h : [backspace] ∉ cs) (t : Typed) :
    ∃ sizes, cs.foldlM Typed.add? t = some ⟨cs.flatten.reverse ++ t.shown, sizes⟩ := by
  induction cs generalizing t with
  | nil => exact ⟨t.sizes, rfl⟩
  | cons c cs ih =>
    rw [List.mem_cons, not_or] at h
    obtain ⟨sizes, hs⟩ := ih h.2 ⟨c.reverse ++ t.shown, byteCount c :: t.sizes⟩
    refine ⟨sizes, ?_⟩
    simp [Typed.add?, Ne.symm h.1, hs]

theorem typed?_of_not_mem {line : List Char} (h : backspace ∉ line) : typed? line = some line := by
  have hc : [backspace] ∉ clusters line := fun hm =>
    h (flatten_clusters line ▸ List.mem_flatten.2 ⟨_, hm, List.mem_singleton_self _⟩)
  obtain ⟨sizes, hs⟩ := foldlM_add?_of_not_mem hc {}
  simp [typed?, hs, flatten_clusters]

end DocQuery.Text
