import DocQuery.Proofs.Text.Items
import DocQuery.Text.Lines

/-!
# Texts of one line and of several

The lines of a text hold no line feed. A text of one line is its only line, and a text with a line
feed has a line, if only an empty one.
-/

namespace DocQuery.Text

def OneLine (text : List Char) : Prop := '\n' ∉ text

instance (text : List Char) : Decidable (OneLine text) :=
  inferInstanceAs (Decidable (_ ∉ _))

theorem oneLine_append {x y : List Char} : OneLine (x ++ y) ↔ OneLine x ∧ OneLine y := by
  simp [OneLine, not_or]

theorem oneLine_replicate (n : Nat) : OneLine (List.replicate n ' ') := by
  intro m
  exact absurd (List.eq_of_mem_replicate m) (by decide)

variable {text : List Char}

theorem splitOn_of_oneLine (h : OneLine text) : text.splitOn '\n' = [text] := by
  apply List.splitOnP_eq_singleton
  intro c m
  rw [beq_eq_false_iff_ne]
  rintro rfl
  exact h m

theorem oneLine_of_mem_splitOn {piece : List Char} (m : piece ∈ text.splitOn '\n') :
    OneLine piece := by
  intro feed
  exact absurd (not_of_mem_splitOnP m _ feed) (by decide)

theorem OneLine.withoutReturn {line : List Char} (h : OneLine line) :
    OneLine (withoutReturn line) := by
  unfold Text.withoutReturn
  split
  · exact fun m => h (List.dropLast_subset _ m)
  · exact h

theorem oneLine_of_mem_textLines {line : List Char} (m : line ∈ textLines text) :
    OneLine line := by
  unfold textLines at m
  rcases List.mem_append.mp m with m | m
  · obtain ⟨piece, kept, rfl⟩ := List.mem_map.mp m
    exact (oneLine_of_mem_splitOn (List.dropLast_subset _ kept)).withoutReturn
  · split at m
    · cases m
    · rw [List.mem_singleton.mp m]
      cases last : (text.splitOn '\n').getLast? with
      | none => simp [OneLine]
      | some piece => exact oneLine_of_mem_splitOn (List.mem_of_getLast? last)

theorem textLines_of_oneLine (h : OneLine text) :
    textLines text = if text = [] then [] else [text] := by
  unfold textLines
  rw [splitOn_of_oneLine h]
  rfl

theorem textLines_ne_nil (h : ¬OneLine text) : textLines text ≠ [] := by
  intro none
  obtain ⟨front, -⟩ := List.append_eq_nil_iff.mp none
  have joined : ['\n'].intercalate (text.splitOn '\n') = text := List.intercalate_splitOn '\n'
  have pieces : ∀ piece ∈ text.splitOn '\n', OneLine piece := by
    intro piece m
    exact oneLine_of_mem_splitOn m
  cases split : text.splitOn '\n' with
  | nil =>
    rw [split] at joined
    exact h (by rw [← joined]; simp [OneLine])
  | cons first rest =>
    cases rest with
    | nil =>
      rw [split] at joined pieces
      exact h (by rw [← joined]; simpa using pieces first)
    | cons second rest =>
      rw [split] at front
      cases front

section Joined

variable {α : Type} {between : List α}

theorem intercalate_append {x y : List (List α)} (hx : x ≠ []) (hy : y ≠ []) :
    between.intercalate (x ++ y) = between.intercalate x ++ (between ++ between.intercalate y) := by
  obtain ⟨first, x, rfl⟩ := List.exists_cons_of_ne_nil hx
  obtain ⟨second, y, rfl⟩ := List.exists_cons_of_ne_nil hy
  rw [List.cons_append, intercalate_cons_eq_append, intercalate_cons_eq_append,
    intercalate_cons_eq_append, List.flatMap_append, List.flatMap_cons]
  simp only [List.append_assoc]

theorem intercalate_blocks {blocks : List (List (List α))} (some : ∀ block ∈ blocks, block ≠ []) :
    between.intercalate (blocks.map between.intercalate) = between.intercalate blocks.flatten := by
  induction blocks with
  | nil => rfl
  | cons first rest ih =>
    obtain ⟨here, others⟩ := List.forall_mem_cons.mp some
    cases rest with
    | nil => simp
    | cons second rest =>
      have later : (second :: rest).flatten ≠ [] := by
        have some := others second (List.mem_cons_self ..)
        intro none
        exact some (List.append_eq_nil_iff.mp none).1
      rw [List.map_cons, List.flatten_cons, intercalate_append here later, ← ih others,
        List.map_cons, List.intercalate_cons_cons, List.append_assoc]

end Joined

end DocQuery.Text
