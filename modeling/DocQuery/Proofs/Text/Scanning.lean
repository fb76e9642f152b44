import DocQuery.Proofs.Text.Blanks
import DocQuery.Text.Quote
import Mathlib.Logic.Basic

/-!
# Scans of joined texts

A scan of two joined texts is a scan of the first and then, from where that ends, of the second.
A closed quotation leaves every scan where it was, whatever it holds. All that is known about
splitting follows from one equation, `splitOutside_append`.
-/

namespace DocQuery.Text

def markAfter (mark : Option Char) (text : List Char) : Option Char :=
  text.foldl quoteAfter mark

/-- Where a scan stands after a text. -/
def Nesting.afterText (b : Brackets) (s : Nesting) (text : List Char) : Nesting :=
  text.foldl (Nesting.after b) s

def quotation (q : Char) (contents : List Char) : List Char :=
  q :: contents ++ [q]

def Brackets.Ignore (b : Brackets) (c : Char) : Prop :=
  b.opens c = false ∧ b.closes c = false

@[simp] theorem markAfter_nil (mark : Option Char) : markAfter mark [] = mark := rfl

@[simp] theorem markAfter_cons (mark : Option Char) (c : Char) (text : List Char) :
    markAfter mark (c :: text) = markAfter (quoteAfter mark c) text := rfl

@[simp] theorem markAfter_append (mark : Option Char) (x y : List Char) :
    markAfter mark (x ++ y) = markAfter (markAfter mark x) y := List.foldl_append

@[simp] theorem Nesting.afterText_nil (b : Brackets) (s : Nesting) : s.afterText b [] = s := rfl

@[simp] theorem Nesting.afterText_cons (b : Brackets) (s : Nesting) (c : Char)
    (text : List Char) : s.afterText b (c :: text) = (s.after b c).afterText b text := rfl

@[simp] theorem Nesting.afterText_append (b : Brackets) (s : Nesting) (x y : List Char) :
    s.afterText b (x ++ y) = (s.afterText b x).afterText b y := List.foldl_append

theorem Nesting.mark_afterText (b : Brackets) (s : Nesting) (text : List Char) :
    (s.afterText b text).mark = markAfter s.mark text := by
  induction text generalizing s with
  | nil => rfl
  | cons c text ih => exact ih (s.after b c)

theorem quotation_append (q : Char) (contents rest : List Char) :
    quotation q contents ++ rest = q :: (contents ++ q :: rest) := by
  simp [quotation]

theorem quoteAfter_some_ne {q c : Char} (h : c ≠ q) : quoteAfter (some q) c = some q := by
  simp [quoteAfter, h]

theorem markAfter_contents {q : Char} {contents : List Char} (h : q ∉ contents) :
    markAfter (some q) contents = some q := by
  induction contents with
  | nil => rfl
  | cons c contents ih =>
    rw [List.mem_cons, not_or] at h
    rw [markAfter_cons, quoteAfter_some_ne (Ne.symm h.1)]
    exact ih h.2

theorem markAfter_quotation {q : Char} {contents : List Char} (hq : isQuote q = true)
    (h : q ∉ contents) : markAfter none (quotation q contents) = none := by
  have opened : quoteAfter none q = some q := by simp [quoteAfter, hq]
  rw [quotation, List.cons_append, markAfter_cons, opened, markAfter_append,
    markAfter_contents h]
  simp [quoteAfter]

theorem markAfter_of_no_quote {text : List Char} (h : ∀ c ∈ text, isQuote c = false) :
    markAfter none text = none := by
  induction text with
  | nil => rfl
  | cons c text ih =>
    have plain : quoteAfter none c = none := by simp [quoteAfter, h c (List.mem_cons_self ..)]
    rw [markAfter_cons, plain]
    exact ih fun d m => h d (List.mem_cons_of_mem _ m)

theorem unclosedQuote?_mark (at? : Option (Char × Nat)) (position : Nat) (text : List Char) :
    (unclosedQuote? at? position text).map Prod.fst = markAfter (at?.map Prod.fst) text := by
  induction text generalizing at? position with
  | nil => rfl
  | cons c text ih =>
    refine (ih _ _).trans ?_
    rw [markAfter_cons]
    congr 1
    cases at? with
    | none => by_cases h : isQuote c = true <;> simp [quoteAfter, h]
    | some p =>
      obtain ⟨q, start⟩ := p
      by_cases h : c = q <;> simp [quoteAfter, h]

theorem unclosedQuote?_eq_none_iff (text : List Char) :
    unclosedQuote? none 0 text = none ↔ markAfter none text = none := by
  have h := unclosedQuote?_mark none 0 text
  rw [Option.map_none] at h
  rw [← h, Option.map_eq_none_iff]

section Splitting

variable {b : Brackets} {cut : Char → Bool}

def Uncut (b : Brackets) (cut : Char → Bool) : Nesting → List Char → Prop
  | _, [] => True
  | s, c :: text => (s.isOutside && cut c) = false ∧ Uncut b cut (s.after b c) text

instance decidableUncut (b : Brackets) (cut : Char → Bool) :
    (s : Nesting) → (text : List Char) → Decidable (Uncut b cut s text)
  | _, [] => .isTrue trivial
  | s, c :: text =>
    have := decidableUncut b cut (s.after b c) text
    inferInstanceAs (Decidable (_ ∧ _))

theorem splitOutside_ne_nil (b : Brackets) (cut : Char → Bool) (s : Nesting)
    (text : List Char) : splitOutside b cut s text ≠ [] := by
  induction text generalizing s with
  | nil => simp [splitOutside]
  | cons c text ih =>
    rw [splitOutside]
    split
    · simp
    · cases splitOutside b cut (s.after b c) text <;> simp

theorem splitOutside_of_cut {s : Nesting} {c : Char} (h : (s.isOutside && cut c) = true)
    (text : List Char) :
    splitOutside b cut s (c :: text) = [] :: splitOutside b cut (s.after b c) text := by
  simp only [splitOutside, h, if_true]

theorem splitOutside_of_keep {s : Nesting} {c : Char} (h : (s.isOutside && cut c) = false)
    (text : List Char) :
    splitOutside b cut s (c :: text) =
      (splitOutside b cut (s.after b c) text).modifyHead (c :: ·) := by
  rw [splitOutside]
  simp only [h, Bool.false_eq_true, if_false]
  cases hp : splitOutside b cut (s.after b c) text with
  | nil => exact absurd hp (splitOutside_ne_nil b cut _ text)
  | cons p rest => rfl

theorem getLastD_cons_of_ne_nil {α : Type} {l : List α} (h : l ≠ []) (a d : α) :
    ((a :: l).getLast?).getD d = (l.getLast?).getD d := by
  cases l with
  | nil => exact absurd rfl h
  | cons x l => simp

/-- Splitting a joined text: the last piece of the front takes up the first piece of the rest. -/
theorem splitOutside_append (s : Nesting) (x y : List Char) :
    splitOutside b cut s (x ++ y) =
      (splitOutside b cut s x).dropLast ++
        (splitOutside b cut (s.afterText b x) y).modifyHead
          (((splitOutside b cut s x).getLast?).getD [] ++ ·) := by
  induction x generalizing s with
  | nil =>
    cases h : splitOutside b cut s y <;> simp [splitOutside, h]
  | cons c x ih =>
    have pieces := splitOutside_ne_nil b cut (s.after b c) x
    by_cases hc : (s.isOutside && cut c) = true
    · rw [List.cons_append, splitOutside_of_cut hc, splitOutside_of_cut hc, ih,
        getLastD_cons_of_ne_nil pieces, List.dropLast_cons_of_ne_nil pieces]
      rfl
    · rw [Bool.not_eq_true] at hc
      rw [List.cons_append, splitOutside_of_keep hc, splitOutside_of_keep hc, ih]
      cases h : splitOutside b cut (s.after b c) x with
      | nil => exact absurd h pieces
      | cons p rest =>
        cases h' : splitOutside b cut ((s.after b c).afterText b x) y with
        | nil => exact absurd h' (splitOutside_ne_nil b cut _ y)
        | cons p' rest' => cases rest <;> simp [h']

theorem splitOutside_append_cut {s : Nesting} {x : List Char} {c : Char}
    (h : ((s.afterText b x).isOutside && cut c) = true) (y : List Char) :
    splitOutside b cut s (x ++ c :: y) =
      splitOutside b cut s x ++ splitOutside b cut ((s.afterText b x).after b c) y := by
  have pieces := splitOutside_ne_nil b cut s x
  rw [splitOutside_append, splitOutside_of_cut h, List.modifyHead_cons, List.append_nil,
    List.append_cons, List.getLast?_eq_some_getLast pieces, Option.getD_some,
    List.dropLast_concat_getLast]

theorem splitOutside_of_uncut {s : Nesting} {text : List Char} (h : Uncut b cut s text) :
    splitOutside b cut s text = [text] := by
  induction text generalizing s with
  | nil => rfl
  | cons c text ih => rw [splitOutside_of_keep h.1, ih h.2, List.modifyHead_cons]

theorem uncut_append {s : Nesting} {x y : List Char} :
    Uncut b cut s (x ++ y) ↔ Uncut b cut s x ∧ Uncut b cut (s.afterText b x) y := by
  induction x generalizing s with
  | nil => simp [Uncut]
  | cons c x ih => simp [Uncut, ih, and_assoc]

theorem uncut_of_forall {s : Nesting} {text : List Char} (h : ∀ c ∈ text, cut c = false) :
    Uncut b cut s text := by
  induction text generalizing s with
  | nil => trivial
  | cons c text ih =>
    refine ⟨?_, ih fun d m => h d (List.mem_cons_of_mem _ m)⟩
    rw [h c (List.mem_cons_self ..), Bool.and_false]

end Splitting

section Quotations

variable {b : Brackets} {cut : Char → Bool} {q : Char} {contents : List Char}

theorem Nesting.after_within (b : Brackets) (q c : Char) (depth : Nat) (h : c ≠ q) :
    Nesting.after b ⟨some q, depth⟩ c = ⟨some q, depth⟩ := by
  simp [Nesting.after, quoteAfter_some_ne h]

theorem Nesting.afterText_contents (depth : Nat) (h : q ∉ contents) :
    Nesting.afterText b ⟨some q, depth⟩ contents = ⟨some q, depth⟩ := by
  induction contents with
  | nil => rfl
  | cons c contents ih =>
    rw [List.mem_cons, not_or] at h
    rw [Nesting.afterText_cons, Nesting.after_within b q c depth (Ne.symm h.1)]
    exact ih h.2

theorem Nesting.after_mark (hq : isQuote q = true) (plain : b.Ignore q) (depth : Nat) :
    Nesting.after b ⟨none, depth⟩ q = ⟨some q, depth⟩ := by
  simp [Nesting.after, quoteAfter, hq, plain.1, plain.2]

/-- A closed quotation leaves a scan where it was. -/
theorem Nesting.afterText_quotation (hq : isQuote q = true) (plain : b.Ignore q) (depth : Nat)
    (h : q ∉ contents) :
    Nesting.afterText b ⟨none, depth⟩ (quotation q contents) = ⟨none, depth⟩ := by
  rw [quotation, List.cons_append, Nesting.afterText_cons, Nesting.after_mark hq plain,
    Nesting.afterText_append, Nesting.afterText_contents depth h]
  simp [Nesting.after, quoteAfter]

theorem uncut_quotation (hq : isQuote q = true) (plain : b.Ignore q) (keep : cut q = false)
    (depth : Nat) (h : q ∉ contents) : Uncut b cut ⟨none, depth⟩ (quotation q contents) := by
  have within : Uncut b cut ⟨some q, depth⟩ (contents ++ [q]) := by
    rw [uncut_append, Nesting.afterText_contents depth h]
    refine ⟨?_, by simp [Uncut, Nesting.isOutside]⟩
    induction contents with
    | nil => trivial
    | cons c contents ih =>
      rw [List.mem_cons, not_or] at h
      refine ⟨by simp [Nesting.isOutside], ?_⟩
      rw [Nesting.after_within b q c depth (Ne.symm h.1)]
      exact ih h.2
  refine ⟨by simp [keep], ?_⟩
  rw [Nesting.after_mark hq plain]
  exact within

theorem Nesting.eq_mk_none {s : Nesting} (h : s.mark = none) : s = ⟨none, s.depth⟩ := by
  cases s
  cases h
  rfl

end Quotations

theorem Nesting.after_none (mark : Option Char) (depth : Nat) (c : Char) :
    Nesting.after .none ⟨mark, depth⟩ c = ⟨quoteAfter mark c, depth⟩ := by
  cases mark <;> simp [Nesting.after, Brackets.none]

theorem Nesting.afterText_none (mark : Option Char) (depth : Nat) (text : List Char) :
    Nesting.afterText .none ⟨mark, depth⟩ text = ⟨markAfter mark text, depth⟩ := by
  induction text generalizing mark with
  | nil => rfl
  | cons c text ih =>
    rw [Nesting.afterText_cons, Nesting.after_none]
    exact ih _

theorem outside_of_closed {text : List Char} (closed : markAfter none text = none) :
    Nesting.outside.afterText .none text = .outside := by
  rw [Nesting.outside, Nesting.afterText_none, closed]

theorem Brackets.ignore_none (c : Char) : Brackets.none.Ignore c := ⟨rfl, rfl⟩

theorem Brackets.roundOrSquare_ignore_quote {q : Char} (h : isQuote q = true) :
    Brackets.roundOrSquare.Ignore q := by
  simp only [isQuote, Bool.or_eq_true, beq_iff_eq] at h
  rcases h with rfl | rfl <;> exact ⟨rfl, rfl⟩

theorem not_isBlank_of_isQuote {q : Char} (h : isQuote q = true) : isBlank q = false := by
  simp only [isQuote, Bool.or_eq_true, beq_iff_eq] at h
  rcases h with rfl | rfl <;> decide

section Blanks

variable {c : Char} (h : isBlank c = true)

include h

theorem not_isQuote_of_isBlank : isQuote c = false := by
  rw [← Bool.not_eq_true]
  intro quote
  rw [not_isBlank_of_isQuote quote] at h
  cases h

theorem beq_of_isBlank {d : Char} (hd : isBlank d = false) : (c == d) = false := by
  rw [beq_eq_false_iff_ne]
  rintro rfl
  rw [h] at hd
  cases hd

theorem Brackets.round_ignore_blank : Brackets.round.Ignore c :=
  ⟨beq_of_isBlank h (by decide), beq_of_isBlank h (by decide)⟩

theorem Brackets.roundOrSquare_ignore_blank : Brackets.roundOrSquare.Ignore c :=
  ⟨Bool.or_eq_false_iff.mpr ⟨beq_of_isBlank h (by decide), beq_of_isBlank h (by decide)⟩,
    Bool.or_eq_false_iff.mpr ⟨beq_of_isBlank h (by decide), beq_of_isBlank h (by decide)⟩⟩

end Blanks

end DocQuery.Text
