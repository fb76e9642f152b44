import DocQuery.Text.Blank
import Mathlib.Data.List.DropRight
import Mathlib.Data.List.TakeWhile

/-!
# The ends of a text

Scans go up to the first character that their test fails for. Stripping drops the characters of a
class from both ends, so it leaves a text that has none there, and of such a text it takes off
whatever is put around it.
-/

namespace DocQuery.Text

variable {drop : Char → Bool}

theorem dropWhile_of_kept {text : List Char} (kept : ∀ c ∈ text.head?, drop c = false) :
    text.dropWhile drop = text := by
  cases text with
  | nil => rfl
  | cons c rest => rw [List.dropWhile_cons_of_neg (by simp [kept c rfl])]

section Scans

variable {p : Char → Bool} {front rest : List Char} (all : ∀ c ∈ front, p c = true)
  (stop : ∀ c ∈ rest.head?, p c = false)

include all stop

/-- A scan takes all that its test holds for, until the test fails or the text is over. -/
theorem takeWhile_append_of_stop : (front ++ rest).takeWhile p = front := by
  rw [List.takeWhile_append_of_pos all]
  cases rest with
  | nil => rw [List.takeWhile_nil, List.append_nil]
  | cons c rest => rw [List.takeWhile_cons_of_neg (by simp [stop c rfl]), List.append_nil]

theorem dropWhile_append_of_stop : (front ++ rest).dropWhile p = rest := by
  rw [List.dropWhile_append_of_pos all, dropWhile_of_kept stop]

end Scans

theorem append_inj_of_stop {p : Char → Bool} {front rest start more : List Char}
    (all : ∀ c ∈ front, p c = true) (stop : ∀ c ∈ rest.head?, p c = false)
    (every : ∀ c ∈ start, p c = true) (ends : ∀ c ∈ more.head?, p c = false)
    (same : front ++ rest = start ++ more) : front = start ∧ rest = more := by
  have taken := congrArg (List.takeWhile p) same
  rw [takeWhile_append_of_stop all stop, takeWhile_append_of_stop every ends] at taken
  subst taken
  exact ⟨rfl, List.append_cancel_left same⟩

theorem strip_eq_rdropWhile (drop : Char → Bool) (text : List Char) :
    strip drop text = (text.dropWhile drop).rdropWhile drop := rfl

theorem strip_cons_of_dropped {c : Char} (h : drop c = true)
    (text : List Char) : strip drop (c :: text) = strip drop text := by
  rw [strip_eq_rdropWhile, List.dropWhile_cons_of_pos h, ← strip_eq_rdropWhile]

theorem mem_of_mem_strip {text : List Char} {c : Char} (m : c ∈ strip drop text) : c ∈ text := by
  have inside := (List.dropWhile_sublist _).subset (List.mem_reverse.mp m)
  exact (List.dropWhile_sublist _).subset (List.mem_reverse.mp inside)

/-- No character of a class stands at an end of the text. -/
structure Bare (drop : Char → Bool) (text : List Char) : Prop where
  first : ∀ c ∈ text.head?, drop c = false
  last : ∀ c ∈ text.getLast?, drop c = false

theorem bare_strip (drop : Char → Bool) (text : List Char) : Bare drop (strip drop text) where
  first := by
    intro c m
    obtain ⟨rest, left⟩ := List.head?_eq_some_iff.mp m
    obtain ⟨more, whole⟩ := List.rdropWhile_prefix drop (text.dropWhile drop)
    have first : (text.dropWhile drop).head? = some c := by
      rw [← whole, ← strip_eq_rdropWhile, left]
      rfl
    have kept := List.head?_dropWhile_not drop text
    rw [first] at kept
    simpa using kept
  last := by
    intro c m
    rw [strip_eq_rdropWhile] at m
    have some := List.ne_nil_of_mem (List.mem_of_mem_getLast? m)
    have kept := List.rdropWhile_last_not drop _ some
    rw [Option.mem_def, List.getLast?_eq_some_getLast some, Option.some.injEq] at m
    rw [m] at kept
    exact eq_false_of_ne_true kept

theorem Bare.strip_between {text x y : List Char} (h : Bare drop text)
    (front : ∀ c ∈ x, drop c = true) (back : ∀ c ∈ y, drop c = true) :
    strip drop (x ++ (text ++ y)) = text := by
  have ends : text.rdropWhile drop = text := by
    refine List.rdropWhile_eq_self_iff.mpr fun some => ?_
    simp [h.last _ (List.getLast?_eq_some_getLast some)]
  have taken : (text ++ y).rdropWhile drop = text := by
    have turned : ∀ c ∈ y.reverse, drop c = true := fun c m => back c (List.mem_reverse.mp m)
    rw [List.rdropWhile, List.reverse_append, List.dropWhile_append_of_pos turned]
    exact ends
  rw [strip_eq_rdropWhile, List.dropWhile_append_of_pos front]
  by_cases empty : text = []
  · have gone : y.dropWhile drop = [] := List.dropWhile_eq_nil_iff.mpr back
    rw [empty, List.nil_append, gone]
    rfl
  · have kept : ∀ c ∈ (text ++ y).head?, drop c = false := by
      rw [List.head?_append_of_ne_nil _ empty]
      exact h.first
    rw [dropWhile_of_kept kept, taken]

theorem Bare.strip_eq {text : List Char} (h : Bare drop text) : strip drop text = text := by
  have absent : ∀ c ∈ ([] : List Char), drop c = true := nofun
  simpa using h.strip_between absent absent

/-- Dropping at both ends leaves nothing more to drop there. -/
theorem strip_strip (drop : Char → Bool) (text : List Char) :
    strip drop (strip drop text) = strip drop text :=
  (bare_strip drop text).strip_eq

theorem Bare.join {x y : List Char} (front : Bare drop x) (back : Bare drop y) (first : x ≠ [])
    (last : y ≠ []) (between : List Char) : Bare drop (x ++ (between ++ y)) where
  first := by
    rw [List.head?_append_of_ne_nil _ first]
    exact front.first
  last := by
    rw [← List.append_assoc, List.getLast?_append_of_ne_nil _ last]
    exact back.last

theorem exists_strip_append {text : List Char} (kept : ∀ c ∈ text.head?, drop c = false) :
    ∃ y, text = strip drop text ++ y ∧ ∀ c ∈ y, drop c = true := by
  refine ⟨text.rtakeWhile drop, ?_, fun c m => List.mem_rtakeWhile_imp m⟩
  rw [strip_eq_rdropWhile, dropWhile_of_kept kept, List.rdropWhile_append_rtakeWhile]

theorem strip_eq_nil_iff {text : List Char} : strip drop text = [] ↔ ∀ c ∈ text, drop c = true := by
  rw [strip_eq_rdropWhile, List.rdropWhile_eq_nil_iff, ← List.dropWhile_eq_nil_iff,
    List.dropWhile_idempotent, List.dropWhile_eq_nil_iff]

end DocQuery.Text
