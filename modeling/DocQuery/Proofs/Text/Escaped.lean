import DocQuery.Proofs.Text.Ends
import DocQuery.Text.Escaped

/-!
# Contents of quoted displays

An escape tells the character that it stands for and where it ends, and none of them begins with
a quotation mark. So a quoted display tells the string in it and the text behind it.
-/

namespace DocQuery.Text

def hexDigitValue (c : Char) : Nat :=
  if c.isDigit then c.toNat - '0'.toNat else c.toNat - 'a'.toNat + 10

def hexValue (digits : List Char) : Nat :=
  digits.foldl (fun n c => 16 * n + hexDigitValue c) 0

theorem hexDigitValue_digitChar : ∀ n < 16, hexDigitValue n.digitChar = n := by decide

theorem hexValue_concat (digits : List Char) (c : Char) :
    hexValue (digits ++ [c]) = 16 * hexValue digits + hexDigitValue c := by
  simp only [hexValue, List.foldl_append, List.foldl_cons, List.foldl_nil]

theorem hexValue_toDigits (n : Nat) : hexValue (Nat.toDigits 16 n) = n := by
  induction n using Nat.strongRecOn with
  | ind n ih =>
    by_cases small : n < 16
    · simp [Nat.toDigits_of_lt_base small, hexValue, hexDigitValue_digitChar n small]
    · have last := hexDigitValue_digitChar (n % 16) (Nat.mod_lt n (by decide))
      rw [Nat.toDigits_of_base_le (by decide) (Nat.le_of_not_lt small), hexValue_concat,
        ih (n / 16) (by omega), last]
      omega

theorem ne_brace_of_mem_toDigits (n : Nat) : ∀ c ∈ Nat.toDigits 16 n, (c != '\x7d') = true := by
  induction n using Nat.strongRecOn with
  | ind n ih =>
    have digit (m : Nat) : (m.digitChar != '\x7d') = true :=
      bne_iff_ne.mpr (Nat.digitChar_ne _ (by decide))
    by_cases small : n < 16
    · simp only [Nat.toDigits_of_lt_base small, List.forall_mem_singleton, digit]
    · rw [Nat.toDigits_of_base_le (by decide) (Nat.le_of_not_lt small)]
      exact List.forall_mem_append.mpr
        ⟨ih (n / 16) (by omega), List.forall_mem_singleton.mpr (digit (n % 16))⟩

def shortEscape (c : Char) : Char :=
  if c = 'n' then '\n' else if c = 'r' then '\r' else if c = 't' then '\t'
  else if c = '0' then Char.ofNat 0 else c

/-- The character at the front of an escaped text and the text behind it; none at the quotation
mark that ends the text. -/
def unescape? : List Char → Option (Char × List Char)
  | '\\' :: 'u' :: '\x7b' :: text =>
    some (Char.ofNat (hexValue (text.takeWhile (· != '\x7d'))),
      (text.dropWhile (· != '\x7d')).tail)
  | '\\' :: c :: text => some (shortEscape c, text)
  | '"' :: _ => none
  | c :: text => some (c, text)
  | [] => none

theorem unescape?_escapeChar (c : Char) (text : List Char) :
    unescape? (escapeChar c ++ text) = some (c, text) := by
  unfold escapeChar
  split_ifs with quote slash feed back tab zero shapeless
  · subst quote
    rfl
  · subst slash
    rfl
  · subst feed
    rfl
  · subst back
    rfl
  · subst tab
    rfl
  · obtain rfl : c = Char.ofNat 0 := by rw [← zero, Char.ofNat_toNat]
    rfl
  · have stop : ∀ d ∈ ('\x7d' :: text).head?, (d != '\x7d') = false := by simp
    have digits := ne_brace_of_mem_toDigits c.toNat
    have front := takeWhile_append_of_stop digits stop
    have behind := dropWhile_append_of_stop digits stop
    simp [unescape?, front, behind, hexValue_toDigits]
  · simp [unescape?, slash]

/-- An escaped text ends at the first quotation mark that is not part of an escape. -/
theorem flatMap_escapeChar_inj {s t rest more : List Char}
    (same : s.flatMap escapeChar ++ '"' :: rest = t.flatMap escapeChar ++ '"' :: more) :
    s = t ∧ rest = more := by
  have ends (text : List Char) : unescape? ('"' :: text) = none := rfl
  induction s generalizing t with
  | nil =>
    cases t with
    | nil => exact ⟨rfl, List.tail_eq_of_cons_eq same⟩
    | cons d t =>
      have first := congrArg unescape? same
      rw [List.flatMap_cons, List.append_assoc, unescape?_escapeChar] at first
      cases (ends rest).symm.trans first
  | cons c s ih =>
    have first := congrArg unescape? same
    rw [List.flatMap_cons, List.append_assoc, unescape?_escapeChar] at first
    cases t with
    | nil => cases first.trans (ends more)
    | cons d t =>
      rw [List.flatMap_cons, List.append_assoc, unescape?_escapeChar] at first
      obtain ⟨rfl, behind⟩ := Prod.mk.inj (Option.some.inj first)
      obtain ⟨rfl, rfl⟩ := ih behind
      exact ⟨rfl, rfl⟩

theorem quoted_append_inj {s t : String} {rest more : List Char}
    (same : (quoted s).toList ++ rest = (quoted t).toList ++ more) : s = t ∧ rest = more := by
  simp only [quoted, String.toList_ofList, List.cons_append, List.append_assoc, List.nil_append,
    List.cons.injEq, true_and] at same
  obtain ⟨texts, behind⟩ := flatMap_escapeChar_inj same
  exact ⟨String.toList_inj.mp texts, behind⟩

end DocQuery.Text
