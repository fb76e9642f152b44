import DocQuery.Proofs.Query.Atoms
import DocQuery.Proofs.Text.Spacing

/-!
# The texts of tokens

A filter is laid out as parts with blanks between some of them. Each part reads on its own as it
does in its place, since every scan stands outside quotations and brackets where a part begins;
only the last part can leave one of them open. The parts are the tokens, save that a `NOT` and an
`IN` next to each other become one token. So the tokens hold the whole text, in order, without the
blanks outside quotations and brackets.
-/

namespace DocQuery

open Text

theorem Text.uncut_or_cut (b : Brackets) (cut : Char → Bool) (s : Nesting) (text : List Char) :
    Uncut b cut s text ∨ ∃ front c rest, text = front ++ c :: rest ∧ Uncut b cut s front ∧
      ((s.afterText b front).isOutside && cut c) = true := by
  induction text generalizing s with
  | nil => exact .inl trivial
  | cons c text ih =>
    by_cases here : (s.isOutside && cut c) = true
    · exact .inr ⟨[], c, text, rfl, trivial, here⟩
    · rcases ih (s.after b c) with whole | ⟨front, d, rest, rfl, passed, found⟩
      · exact .inl ⟨eq_false_of_ne_true here, whole⟩
      · exact .inr ⟨c :: front, d, rest, rfl, ⟨eq_false_of_ne_true here, passed⟩, found⟩

namespace Token

/-- A text and parts of it that hold all of it but blanks outside quotations and brackets. -/
inductive LaidOut : List Char → List (List Char) → Prop where
  | nil : LaidOut [] []
  | blank {c : Char} {text : List Char} {parts : List (List Char)} : isBlank c = true →
    LaidOut text parts → LaidOut (c :: text) parts
  | part {part text : List Char} {parts : List (List Char)} : Piece part →
    LaidOut text parts → LaidOut (part ++ text) (part :: parts)
  | last {part : List Char} : part ≠ [] → Uncut .roundOrSquare isBlank .outside part →
    LaidOut part [part]

theorem laidOut_pieces (text : List Char) : LaidOut text (pieces text) := by
  induction h : text.length using Nat.strong_induction_on generalizing text with
  | _ n ih =>
    subst h
    rcases uncut_or_cut .roundOrSquare isBlank .outside text with
      uncut | ⟨front, c, rest, rfl, uncut, cut⟩
    · by_cases none : text = []
      · subst none
        exact .nil
      · rw [pieces_of_uncut none uncut]
        exact .last none uncut
    · obtain ⟨outside, blank⟩ := Bool.and_eq_true_iff.mp cut
      have shorter : rest.length < (front ++ c :: rest).length := by
        simp only [List.length_append, List.length_cons]
        omega
      have behind : LaidOut (c :: rest) (pieces rest) := .blank blank (ih _ shorter rest rfl)
      by_cases none : front = []
      · subst none
        rw [List.nil_append, pieces_cons_blank blank]
        exact behind
      · have piece : Piece front := ⟨none, uncut, Nesting.eq_outside outside⟩
        rw [pieces_append_of_piece (piece.before (atBlank_cons blank rest)), pieces_cons_blank blank]
        exact .part piece behind

def comparisonTexts : List (List Char) := Operator.comparisons.map (·.symbol.toList)

theorem comparison?_eq_some {text op value : List Char} (h : comparison? text = some (op, value)) :
    text = op ++ value ∧ op ∈ comparisonTexts := by
  unfold comparison? at h
  split at h
  · cases h
    exact ⟨rfl, by decide⟩
  · cases h
    exact ⟨rfl, by decide⟩
  · cases h
    exact ⟨rfl, by decide⟩
  · cases h
    exact ⟨rfl, by decide⟩
  · cases h
    exact ⟨rfl, by decide⟩
  · cases h
    exact ⟨rfl, by decide⟩
  · cases h

theorem isPlainWord_of_comparison {op : List Char} (m : op ∈ comparisonTexts) : IsPlainWord op := by
  have facts : ∀ op ∈ comparisonTexts, op ≠ [] ∧ ∀ c ∈ op, isPlain c = true := by decide
  exact ⟨(facts op m).1, (facts op m).2⟩

theorem unglue_of_comparison {c : Char} {rest op value : List Char} (start : isNameStart c = true)
    (found : comparison? ((c :: rest).dropWhile isNameChar) = some (op, value)) :
    unglue (c :: rest) = if '\n' ∈ value then [c :: rest]
      else [(c :: rest).takeWhile isNameChar, op] ++ if value = [] then [] else [value] := by
  simp only [unglue, start, found, if_true]

/-- A token stays whole, or it is a name, a comparison and a value, which can be missing. -/
theorem unglue_cases (token : List Char) :
    unglue token = [token] ∨ ∃ name op value, IsPlainWord name ∧ IsPlainWord op ∧
      token = name ++ (op ++ value) ∧
      unglue token = [name, op] ++ if value = [] then [] else [value] := by
  cases token with
  | nil => exact .inl rfl
  | cons c rest =>
    by_cases start : isNameStart c = true
    · cases found : comparison? ((c :: rest).dropWhile isNameChar) with
      | none =>
        left
        simp only [unglue, start, found, if_true]
      | some parts =>
        obtain ⟨op, value⟩ := parts
        have cut := unglue_of_comparison start found
        by_cases feed : '\n' ∈ value
        · exact .inl (cut.trans (if_pos feed))
        · obtain ⟨behind, comparison⟩ := comparison?_eq_some found
          have first : isNameChar c = true := by
            simp [isNameChar, isWordChar_of_isNameStart start]
          have name : IsPlainWord ((c :: rest).takeWhile isNameChar) := by
            constructor
            · simp [first]
            · intro d m
              exact isPlain_of_isNameChar (List.all_eq_true.mp List.all_takeWhile d m)
          refine .inr ⟨_, op, value, name, isPlainWord_of_comparison comparison, ?_,
            cut.trans (if_neg feed)⟩
          rw [← behind, List.takeWhile_append_dropWhile]
    · left
      simp only [unglue, start]
      rfl

theorem LaidOut.unglue {text : List Char} {parts : List (List Char)} (h : LaidOut text parts) :
    LaidOut text (parts.flatMap unglue) := by
  -- What follows a name and a comparison is scanned as if they were not there.
  have behind {name op value : List Char} (hn : IsPlainWord name) (ho : IsPlainWord op)
      (uncut : Uncut .roundOrSquare isBlank .outside (name ++ (op ++ value))) :
      Uncut .roundOrSquare isBlank .outside value ∧
        Nesting.outside.afterText .roundOrSquare (name ++ (op ++ value)) =
          Nesting.outside.afterText .roundOrSquare value := by
    rw [uncut_append, hn.piece.outside, uncut_append, ho.piece.outside] at uncut
    refine ⟨uncut.2.2, ?_⟩
    rw [Nesting.afterText_append, hn.piece.outside, Nesting.afterText_append, ho.piece.outside]
  induction h with
  | nil => exact .nil
  | blank blank _ ih => exact .blank blank ih
  | @part part text parts piece _ ih =>
    rw [List.flatMap_cons]
    rcases unglue_cases part with whole | ⟨name, op, value, hn, ho, rfl, cut⟩
    · rw [whole]
      exact .part piece ih
    · obtain ⟨uncut, after⟩ := behind hn ho piece.uncut
      rw [cut, List.append_assoc, List.append_assoc]
      apply LaidOut.part hn.piece
      apply LaidOut.part ho.piece
      by_cases none : value = []
      · subst none
        exact ih
      · rw [if_neg none]
        exact .part ⟨none, uncut, after.symm.trans piece.outside⟩ ih
  | @last part some uncut =>
    rw [List.flatMap_cons, List.flatMap_nil, List.append_nil]
    rcases unglue_cases part with whole | ⟨name, op, value, hn, ho, rfl, cut⟩
    · rw [whole]
      exact .last some uncut
    · rw [cut]
      apply LaidOut.part hn.piece
      by_cases none : value = []
      · subst none
        exact .part ho.piece .nil
      · rw [if_neg none]
        exact .part ho.piece (.last none (behind hn ho uncut).1)

/-- The tokens of a text before `NOT` and `IN` are joined. -/
def parts (text : List Char) : List (List Char) := (pieces text).flatMap unglue

theorem laidOut_parts (text : List Char) : LaidOut text (parts text) :=
  (laidOut_pieces text).unglue

/-- A text without the blanks that stand outside quotations and brackets. -/
def unspaced (s : Nesting) : List Char → List Char
  | [] => []
  | c :: text =>
    if s.isOutside && isBlank c then unspaced (s.after .roundOrSquare c) text
    else c :: unspaced (s.after .roundOrSquare c) text

theorem unspaced_append (s : Nesting) (x y : List Char) :
    unspaced s (x ++ y) = unspaced s x ++ unspaced (s.afterText .roundOrSquare x) y := by
  induction x generalizing s with
  | nil => rfl
  | cons c x ih =>
    simp only [List.cons_append, unspaced, Nesting.afterText_cons, ih]
    split <;> rfl

theorem unspaced_of_uncut {s : Nesting} {text : List Char}
    (uncut : Uncut .roundOrSquare isBlank s text) : unspaced s text = text := by
  induction text generalizing s with
  | nil => rfl
  | cons c text ih => simp only [unspaced, uncut.1, Bool.false_eq_true, if_false, ih uncut.2]

theorem unspaced_cons_blank {c : Char} (blank : isBlank c = true) (text : List Char) :
    unspaced .outside (c :: text) = unspaced .outside text := by
  simp only [unspaced, outside_cut blank, if_true, after_blank blank]

/-- What is left of a text ends where a front of the text ends. -/
theorem exists_unspaced_eq {s : Nesting} {text front : List Char} (h : front <+: unspaced s text) :
    ∃ x, x <+: text ∧ unspaced s x = front := by
  induction text generalizing s front with
  | nil => exact ⟨[], List.nil_prefix, (List.prefix_nil.mp h).symm⟩
  | cons c text ih =>
    cases front with
    | nil => exact ⟨[], List.nil_prefix, rfl⟩
    | cons d front =>
      by_cases cut : (s.isOutside && isBlank c) = true
      · simp only [unspaced, cut, if_true] at h
        obtain ⟨x, before, same⟩ := ih h
        refine ⟨c :: x, List.cons_prefix_cons.mpr ⟨rfl, before⟩, ?_⟩
        simp only [unspaced, cut, if_true, same]
      · simp only [unspaced, cut, Bool.false_eq_true, if_false, List.cons_prefix_cons] at h
        obtain ⟨x, before, same⟩ := ih h.2
        refine ⟨c :: x, List.cons_prefix_cons.mpr ⟨rfl, before⟩, ?_⟩
        simp only [unspaced, cut, Bool.false_eq_true, if_false, same, h.1]

theorem markAfter_unspaced (s : Nesting) (text : List Char) :
    markAfter s.mark (unspaced s text) = markAfter s.mark text := by
  induction text generalizing s with
  | nil => rfl
  | cons c text ih =>
    by_cases cut : (s.isOutside && isBlank c) = true
    · obtain ⟨outside, blank⟩ := Bool.and_eq_true_iff.mp cut
      obtain rfl := Nesting.eq_outside outside
      have rest := ih .outside
      rw [unspaced_cons_blank blank, markAfter_cons]
      exact rest.trans (congrArg (markAfter · text) (quoteAfter_blank blank).symm)
    · have rest := ih (s.after .roundOrSquare c)
      simp only [unspaced, cut, Bool.false_eq_true, if_false, markAfter_cons]
      exact rest

namespace LaidOut

variable {text : List Char} {parts : List (List Char)} (h : LaidOut text parts)

include h

theorem flatten_eq : parts.flatten = unspaced .outside text := by
  induction h with
  | nil => rfl
  | blank blank _ ih => rw [unspaced_cons_blank blank, ih]
  | part piece _ ih =>
    rw [List.flatten_cons, unspaced_append, unspaced_of_uncut piece.uncut, piece.outside, ih]
  | last _ uncut => rw [List.flatten_singleton, unspaced_of_uncut uncut]

theorem uncut : ∀ part ∈ parts, part ≠ [] ∧ Uncut .roundOrSquare isBlank .outside part := by
  induction h with
  | nil => exact nofun
  | blank _ _ ih => exact ih
  | part piece _ ih => exact List.forall_mem_cons.mpr ⟨⟨piece.some, piece.uncut⟩, ih⟩
  | last some uncut => exact List.forall_mem_singleton.mpr ⟨some, uncut⟩

/-- What the last part leaves open is what the text leaves open. -/
theorem afterText_eq : Nesting.outside.afterText .roundOrSquare text =
    Nesting.outside.afterText .roundOrSquare (parts.getLast?.getD []) := by
  induction h with
  | nil => rfl
  | blank blank _ ih =>
    rw [Nesting.afterText_cons, after_blank blank]
    exact ih
  | @part part text parts piece _ ih =>
    rw [Nesting.afterText_append, piece.outside, ih]
    cases parts with
    | nil => exact piece.outside.symm
    | cons second rest => rw [List.getLast?_cons_cons]
  | last => rfl

/-- All parts but the last close what they open. -/
theorem outside_of_mem_dropLast : ∀ part ∈ parts.dropLast,
    Nesting.outside.afterText .roundOrSquare part = .outside := by
  induction h with
  | nil => exact nofun
  | blank _ _ ih => exact ih
  | @part part text parts piece _ ih =>
    cases parts with
    | nil => exact nofun
    | cons second rest =>
      rw [List.dropLast_cons_cons]
      exact List.forall_mem_cons.mpr ⟨piece.outside, ih⟩
  | last => exact nofun

theorem closed_of_mem (closed : markAfter none text = none) :
    ∀ part ∈ parts, markAfter none part = none := by
  have mark (x : List Char) : (Nesting.outside.afterText .roundOrSquare x).mark = markAfter none x :=
    Nesting.mark_afterText .roundOrSquare .outside x
  intro part m
  have some := List.ne_nil_of_mem m
  rw [← List.dropLast_concat_getLast some, List.mem_append, List.mem_singleton] at m
  rcases m with before | rfl
  · rw [← mark, h.outside_of_mem_dropLast part before]
    rfl
  · rw [← mark, h.afterText_eq, List.getLast?_eq_some_getLast some, Option.getD_some] at closed
    rwa [mark] at closed

end LaidOut

/-- Tokens stand for parts of a text: each for one part, or the token `NOT IN` for two parts next to
each other that are these words in any case. -/
inductive StandFor : List String → List (List Char) → Prop where
  | nil : StandFor [] []
  | itself {part : List Char} {tokens : List String} {parts : List (List Char)} :
    part ≠ "NOT IN".toList → StandFor tokens parts →
      StandFor (String.ofList part :: tokens) (part :: parts)
  | notIn {first second : List Char} {tokens : List String} {parts : List (List Char)} :
    sameLetters first "NOT".toList = true → sameLetters second "IN".toList = true →
      StandFor tokens parts → StandFor ("NOT IN" :: tokens) (first :: second :: parts)

theorem standFor_joinNotIn : ∀ {parts : List (List Char)}, "NOT IN".toList ∉ parts →
    StandFor (joinNotIn (parts.map String.ofList)) parts
  | [], _ => .nil
  | [part], apart => .itself (fun e => apart (by simp [e])) .nil
  | first :: second :: rest, apart => by
    by_cases joined : (sameWord (String.ofList first) "NOT" &&
        sameWord (String.ofList second) "IN") = true
    · obtain ⟨isNot, isIn⟩ := Bool.and_eq_true_iff.mp joined
      rw [sameWord, String.toList_ofList] at isNot isIn
      rw [List.map_cons, List.map_cons, joinNotIn, if_pos joined]
      apply StandFor.notIn isNot isIn
      apply standFor_joinNotIn
      intro m
      exact apart (List.mem_cons_of_mem _ (List.mem_cons_of_mem _ m))
    · rw [List.map_cons, List.map_cons, joinNotIn, if_neg joined]
      apply StandFor.itself
      · intro e
        exact apart (by simp [e])
      · rw [← List.map_cons]
        apply standFor_joinNotIn
        intro m
        exact apart (List.mem_cons_of_mem _ m)

theorem standFor_tokens (text : List Char) : StandFor (tokens text) (parts text) := by
  have whole : tokens text = joinNotIn ((parts text).map String.ofList) := rfl
  rw [whole]
  apply standFor_joinNotIn
  intro m
  -- The blank of that token would be outside quotations and brackets.
  have cut : ¬Uncut .roundOrSquare isBlank .outside "NOT IN".toList := by decide
  exact cut ((laidOut_parts text).uncut _ m).2

namespace StandFor

variable {tokens : List String} {parts : List (List Char)} (h : StandFor tokens parts)

include h

theorem forall_mem {p : List Char → Prop} (each : ∀ part ∈ parts, p part)
    (notIn : p "NOT IN".toList) : ∀ token ∈ tokens, p token.toList := by
  induction h with
  | nil => exact nofun
  | itself _ _ ih =>
    obtain ⟨first, rest⟩ := List.forall_mem_cons.mp each
    rw [List.forall_mem_cons, String.toList_ofList]
    exact ⟨first, ih rest⟩
  | notIn _ _ _ ih =>
    have rest := (List.forall_mem_cons.mp (List.forall_mem_cons.mp each).2).2
    exact List.forall_mem_cons.mpr ⟨notIn, ih rest⟩

theorem length_flatten_eq {others : List (List Char)} (h' : StandFor tokens others) :
    parts.flatten.length = others.flatten.length := by
  induction h generalizing others with
  | nil =>
    cases h'
    rfl
  | @itself part tokens parts apart _ ih =>
    generalize whole : String.ofList part :: tokens = all at h'
    cases h' with
    | nil => cases whole
    | itself _ rest =>
      obtain ⟨same, rfl⟩ := List.cons.inj whole
      obtain rfl := String.ofList_injective same
      simp only [List.flatten_cons, List.length_append, ih rest]
    | notIn _ _ _ =>
      obtain ⟨same, -⟩ := List.cons.inj whole
      refine absurd ?_ apart
      rw [← same, String.toList_ofList]
  | @notIn first second tokens parts isNot isIn _ ih =>
    generalize whole : "NOT IN" :: tokens = all at h'
    cases h' with
    | nil => cases whole
    | itself apart _ =>
      obtain ⟨same, -⟩ := List.cons.inj whole
      refine absurd ?_ apart
      rw [same, String.toList_ofList]
    | notIn isNot' isIn' rest =>
      obtain ⟨-, rfl⟩ := List.cons.inj whole
      have long {x y : List Char} (same : sameLetters x y = true) : x.length = y.length := by
        have letters := congrArg List.length (beq_iff_eq.mp same)
        simpa using letters
      simp only [List.flatten_cons, List.length_append, ih rest, long isNot, long isIn,
        long isNot', long isIn']

end StandFor

/-- The tokens of a text hold all of it, in order, save the blanks outside quotations and brackets,
and no quotation crosses from one token into another. -/
theorem tokens_keep_text (text : List Char) :
    StandFor (tokens text) (parts text) ∧
    (parts text).flatten = unspaced .outside text ∧
    (∀ token ∈ tokens text, token ≠ "") ∧
    (markAfter none text = none →
      (∀ token ∈ tokens text, markAfter none token.toList = none) ∧
      ∀ before, before <+: parts text →
        (∃ front, front <+: text ∧ unspaced .outside front = before.flatten) ∧
        ∀ front, unspaced .outside front = before.flatten → markAfter none front = none) := by
  have laid := laidOut_parts text
  have stand := standFor_tokens text
  refine ⟨stand, laid.flatten_eq, ?_, ?_⟩
  · intro token m empty
    have some := stand.forall_mem (fun part m => (laid.uncut part m).1) (by decide) token m
    exact some (by rw [empty]; rfl)
  · intro closed
    have each := laid.closed_of_mem closed
    refine ⟨stand.forall_mem each (by decide), ?_⟩
    rintro before ⟨after, whole⟩
    constructor
    · apply exists_unspaced_eq
      rw [← laid.flatten_eq, ← whole, List.flatten_append]
      exact List.prefix_append _ _
    · intro front ends
      have all : ∀ part ∈ before, markAfter none part = none := by
        intro part m
        apply each
        rw [← whole]
        exact List.mem_append_left _ m
      have mark := markAfter_unspaced .outside front
      rw [ends] at mark
      refine mark.symm.trans ?_
      clear mark ends whole
      induction before with
      | nil => rfl
      | cons part before ih =>
        obtain ⟨first, rest⟩ := List.forall_mem_cons.mp all
        show markAfter none (part ++ before.flatten) = none
        rw [markAfter_append, first]
        exact ih rest

theorem tokens_keep_text_of_tag :
    markAfter none "tag='x y' AND k not  in (1, 2)".toList = none ∧
    tokens "tag='x y' AND k not  in (1, 2)".toList =
      ["tag", "=", "'x y'", "AND", "k", "NOT IN", "(1, 2)"] ∧
    (parts "tag='x y' AND k not  in (1, 2)".toList).flatten =
      "tag='x y'ANDknotin(1, 2)".toList ∧
    ∀ token ∈ tokens "tag='x y' AND k not  in (1, 2)".toList,
      markAfter none token.toList = none := by
  have closed : markAfter none "tag='x y' AND k not  in (1, 2)".toList = none := by decide
  obtain ⟨-, whole, -, borders⟩ := tokens_keep_text "tag='x y' AND k not  in (1, 2)".toList
  refine ⟨closed, by decide, whole.trans (by decide), (borders closed).1⟩

end Token

end DocQuery
