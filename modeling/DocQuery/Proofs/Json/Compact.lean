import DocQuery.Json.Writer
import DocQuery.Proofs.Query.Values
import DocQuery.Proofs.Text.Lines

/-!
# Compact texts stay on one line

A text is written with each of its line feeds escaped, and nothing else of a compact form holds
one.
-/

namespace DocQuery

open Text

theorem Text.oneLine_of_isPlain {text : List Char} (plain : ∀ c ∈ text, isPlain c = true) :
    OneLine text := by
  intro m
  exact absurd (plain _ m) (by decide)

theorem Numeral.isText_toString (i : Int) : Numeral.IsText (toString i).toList := by
  rw [Int.toString_eq_repr, Int.repr_eq_if]
  by_cases positive : 0 ≤ i
  · refine ⟨false, .ofNat i.toNat, ?_⟩
    rw [Parts.text_ofNat, if_pos positive]
    simp [minus]
  · refine ⟨true, .ofNat (-i).toNat, ?_⟩
    rw [Parts.text_ofNat, if_neg positive]
    simp [minus]

theorem Number.oneLine_text (n : Number) : OneLine n.text.toList := by
  cases n with
  | integer i => exact oneLine_of_isPlain (Numeral.isText_toString i).isPlain
  | float x =>
    by_cases zero : x.units = 0
    · show OneLine x.text.toList
      unfold Binary64.text
      rw [String.toList_ofList, if_pos zero, oneLine_append]
      constructor
      · cases x.negative <;> decide
      · decide
    · exact oneLine_of_isPlain (Binary64.read?_text zero).1.isPlain

namespace Json

theorem oneLine_escapeChar (c : Char) : OneLine (escapeChar c) := by
  have digit : ∀ n < 16, n.digitChar ≠ '\n' := by decide
  unfold escapeChar
  split_ifs with _ _ _ _ feed _ _ control
  · decide
  · decide
  · decide
  · decide
  · decide
  · decide
  · decide
  · have high := digit (c.toNat / 16) (by omega)
    have low := digit (c.toNat % 16) (by omega)
    simp [OneLine, high.symm, low.symm]
  · simpa [OneLine] using Ne.symm feed

theorem oneLine_writeText (s : String) : OneLine (writeText s).toList := by
  unfold writeText
  rw [String.toList_ofList, oneLine_append]
  refine ⟨?_, by decide⟩
  intro m
  obtain ⟨c, -, m⟩ := List.mem_flatMap.mp (List.mem_of_ne_of_mem (by decide) m)
  exact oneLine_escapeChar c m

mutual

theorem oneLine_compact : ∀ v : Json, OneLine v.compact.toList
  | .null => by decide
  | .boolean b => by cases b <;> decide
  | .number n => n.oneLine_text
  | .string s => oneLine_writeText s
  | .array items => by
    have inside := oneLine_compactItems items
    simp only [compact, String.toList_append, oneLine_append]
    exact ⟨⟨by decide, inside⟩, by decide⟩
  | .object members => by
    have inside := oneLine_compactMembers members
    simp only [compact, String.toList_append, oneLine_append]
    exact ⟨⟨by decide, inside⟩, by decide⟩

theorem oneLine_compactItems : ∀ items : List Json, OneLine (compactItems items).toList
  | [] => by decide
  | [v] => oneLine_compact v
  | v :: w :: rest => by
    have first := oneLine_compact v
    have others := oneLine_compactItems (w :: rest)
    simp only [compactItems, String.toList_append, oneLine_append]
    exact ⟨⟨first, by decide⟩, others⟩

theorem oneLine_compactMembers :
    ∀ members : List (String × Json), OneLine (compactMembers members).toList
  | [] => by decide
  | [(k, v)] => by
    have value := oneLine_compact v
    simp only [compactMembers, String.toList_append, oneLine_append]
    exact ⟨⟨oneLine_writeText k, by decide⟩, value⟩
  | (k, v) :: w :: rest => by
    have first := oneLine_compact v
    have others := oneLine_compactMembers (w :: rest)
    simp only [compactMembers, String.toList_append, oneLine_append]
    exact ⟨⟨⟨⟨oneLine_writeText k, by decide⟩, first⟩, by decide⟩, others⟩

end

end Json

end DocQuery
