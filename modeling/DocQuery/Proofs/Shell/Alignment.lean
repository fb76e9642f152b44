import DocQuery.Program.Transcript
import DocQuery.Proofs.Json.Compact
import Mathlib.Data.List.DropRight

/-!
# Aligned rows

The text of a row falls into lines, column by column. The first line of a column has the label in
front of it, padded to the widest label, and the others as many spaces. So all values start at one
place, and a line tells whether a column starts there, up to spaces at the end of its label.
-/

namespace DocQuery

open Text

namespace Row

/-- What stands in front of the first line of a column. -/
def lead (width : Nat) (key : String) : List Char :=
  [' ', ' '] ++ (key.toList ++ List.replicate (width - key.length) ' ') ++ [' ', ' ']

/-- What stands in front of its other lines. -/
def margin (width : Nat) : List Char := List.replicate (width + 4) ' '

/-- The lines of a value: those of a text with a line feed, otherwise the compact form. -/
def valueLines : Json → List (List Char)
  | .string s =>
    if '\n' ∈ s.toList then textLines s.toList else [(Json.string s).compact.toList]
  | v => [v.compact.toList]

def hang (front others : List Char) : List (List Char) → List (List Char)
  | [] => []
  | first :: rest => (front ++ first) :: rest.map (others ++ ·)

def columnLines (width : Nat) (p : String × Json) : List (List Char) :=
  hang (lead width p.1) (margin width) (valueLines p.2)

def lineCount : Json → Nat
  | .string s => max 1 (textLines s.toList).length
  | _ => 1

theorem valueLines_cases (v : Json) :
    ((∀ s, v = .string s → OneLine s.toList) ∧ valueLines v = [v.compact.toList]) ∨
      ∃ s, v = .string s ∧ ¬OneLine s.toList ∧ valueLines v = textLines s.toList := by
  cases v with
  | string s =>
    by_cases feed : '\n' ∈ s.toList
    · exact .inr ⟨s, rfl, not_not_intro feed, if_pos feed⟩
    · refine .inl ⟨?_, if_neg feed⟩
      rintro _ ⟨⟩
      exact feed
  | _ => exact .inl ⟨nofun, rfl⟩

theorem valueLines_ne_nil (v : Json) : valueLines v ≠ [] := by
  rcases valueLines_cases v with ⟨-, lines⟩ | ⟨s, -, broken, lines⟩
  · rw [lines]
    exact List.cons_ne_nil _ _
  · rw [lines]
    exact textLines_ne_nil broken

/-- A column has a first line, and the margin stands in front of all others. -/
theorem exists_columnLines (width : Nat) (p : String × Json) : ∃ first rest,
    valueLines p.2 = first :: rest ∧
      columnLines width p = (lead width p.1 ++ first) :: rest.map (margin width ++ ·) := by
  obtain ⟨first, rest, lines⟩ := List.exists_cons_of_ne_nil (valueLines_ne_nil p.2)
  refine ⟨first, rest, lines, ?_⟩
  unfold columnLines
  rw [lines]
  rfl

theorem columnLines_ne_nil (width : Nat) (p : String × Json) : columnLines width p ≠ [] := by
  obtain ⟨first, rest, -, column⟩ := exists_columnLines width p
  rw [column]
  exact List.cons_ne_nil _ _

theorem length_valueLines (v : Json) : (valueLines v).length = lineCount v := by
  rcases valueLines_cases v with ⟨whole, lines⟩ | ⟨s, rfl, broken, lines⟩
  · rw [lines]
    cases v with
    | string s =>
      rw [lineCount, textLines_of_oneLine (whole s rfl)]
      split <;> rfl
    | _ => rfl
  · have positive := List.length_pos_iff.mpr (textLines_ne_nil broken)
    rw [lines, lineCount]
    omega

theorem oneLine_of_mem_valueLines {v : Json} {line : List Char} (m : line ∈ valueLines v) :
    OneLine line := by
  rcases valueLines_cases v with ⟨-, lines⟩ | ⟨s, -, -, lines⟩
  · rw [lines] at m
    rw [List.mem_singleton.mp m]
    exact v.oneLine_compact
  · rw [lines] at m
    exact oneLine_of_mem_textLines m

theorem valueText_eq (column : Nat) (v : Json) : valueText false column v =
    ('\n' :: List.replicate column ' ').intercalate (valueLines v) := by
  cases v with
  | string s =>
    unfold valueText valueLines
    dsimp only
    split
    · rfl
    · exact (List.intercalate_singleton ..).symm
  | _ => exact (List.intercalate_singleton ..).symm

theorem append_intercalate {front others : List Char} {lines : List (List Char)}
    (some : lines ≠ []) : front ++ ('\n' :: others).intercalate lines =
      ['\n'].intercalate (hang front others lines) := by
  obtain ⟨first, rest, rfl⟩ := List.exists_cons_of_ne_nil some
  rw [hang, intercalate_cons_eq_append, intercalate_cons_eq_append, List.flatMap_map,
    List.append_assoc]
  rfl

theorem widest (keys : List String) (start : Nat) :
    let width := keys.foldl (fun width key => max width key.length) start
    start ≤ width ∧ (∀ key ∈ keys, key.length ≤ width) ∧
      (width = start ∨ ∃ key ∈ keys, key.length = width) := by
  induction keys generalizing start with
  | nil => simp
  | cons first rest ih =>
    obtain ⟨above, bound, attained⟩ := ih (max start first.length)
    dsimp only [List.foldl_cons]
    refine ⟨by omega, ?_, ?_⟩
    · rw [List.forall_mem_cons]
      exact ⟨by omega, bound⟩
    · rw [List.exists_mem_cons_iff]
      rcases attained with same | later
      · omega
      · exact .inr (.inr later)

section Display

variable {row : Row}

theorem length_le_labelWidth {key : String} (m : key ∈ row.keys) : key.length ≤ row.labelWidth :=
  (widest row.keys 0).2.1 key m

theorem exists_widest (some : row.pairs ≠ []) : ∃ key ∈ row.keys, key.length = row.labelWidth := by
  rcases (widest row.keys 0).2.2 with zero | attained
  · obtain ⟨p, rest, pairs⟩ := List.exists_cons_of_ne_nil some
    have m : p.1 ∈ row.keys := by
      unfold Fields.keys
      rw [pairs]
      exact List.mem_cons_self ..
    have zero : row.labelWidth = 0 := zero
    have bound := length_le_labelWidth m
    exact ⟨p.1, m, by omega⟩
  · exact attained

theorem length_lead {width : Nat} {key : String} (h : key.length ≤ width) :
    (lead width key).length = width + 4 := by
  have length : key.toList.length = key.length := String.length_toList
  simp only [lead, List.length_append, List.length_cons, List.length_nil, List.length_replicate,
    length]
  omega

theorem length_margin (width : Nat) : (margin width).length = width + 4 := List.length_replicate

theorem oneLine_of_mem_columnLines {width : Nat} {p : String × Json} (flat : OneLine p.1.toList)
    {line : List Char} (m : line ∈ columnLines width p) : OneLine line := by
  obtain ⟨first, rest, lines, column⟩ := exists_columnLines width p
  have single : ∀ line ∈ first :: rest, OneLine line := by
    intro line m
    apply oneLine_of_mem_valueLines
    rwa [lines]
  obtain ⟨here, others⟩ := List.forall_mem_cons.mp single
  rw [column] at m
  rcases List.mem_cons.mp m with rfl | m
  · rw [lead, oneLine_append, oneLine_append, oneLine_append, oneLine_append]
    exact ⟨⟨⟨by decide, flat, oneLine_replicate _⟩, by decide⟩, here⟩
  · obtain ⟨line, later, rfl⟩ := List.mem_map.mp m
    rw [margin, oneLine_append]
    exact ⟨oneLine_replicate _, others line later⟩

theorem toList_display (some : row.pairs ≠ []) : (row.display false).toList =
    ['\n'].intercalate (row.pairs.flatMap (columnLines row.labelWidth)) := by
  have column : (fun p : String × Json =>
      lead row.labelWidth p.1 ++ valueText false (row.labelWidth + 4) p.2) =
        ['\n'].intercalate ∘ columnLines row.labelWidth := by
    funext p
    rw [valueText_eq]
    exact append_intercalate (valueLines_ne_nil p.2)
  have filled : ∀ block ∈ row.pairs.map (columnLines row.labelWidth), block ≠ [] := by
    intro block m
    obtain ⟨p, -, rfl⟩ := List.mem_map.mp m
    exact columnLines_ne_nil _ p
  unfold display
  rw [if_neg some, String.toList_ofList]
  calc ['\n'].intercalate (row.pairs.map _)
      = ['\n'].intercalate ((row.pairs.map (columnLines row.labelWidth)).map
          ['\n'].intercalate) := by
        rw [List.map_map, ← column]
        rfl
    _ = ['\n'].intercalate (row.pairs.flatMap (columnLines row.labelWidth)) := by
        rw [intercalate_blocks filled, List.flatMap_def]

theorem splitOn_display (some : row.pairs ≠ []) (flat : ∀ key ∈ row.keys, OneLine key.toList) :
    (row.display false).toList.splitOn '\n' = row.pairs.flatMap (columnLines row.labelWidth) := by
  rw [toList_display some]
  apply List.splitOn_intercalate
  · intro line m
    obtain ⟨p, here, m⟩ := List.mem_flatMap.mp m
    exact oneLine_of_mem_columnLines (flat p.1 (List.mem_map_of_mem here)) m
  · obtain ⟨p, rest, pairs⟩ := List.exists_cons_of_ne_nil some
    intro none
    rw [pairs, List.flatMap_cons] at none
    exact columnLines_ne_nil _ p (List.append_eq_nil_iff.mp none).1

end Display

def AlikeToSpaces (key other : String) : Prop :=
  key.toList.rdropWhile (· == ' ') = other.toList.rdropWhile (· == ' ')

instance (key other : String) : Decidable (AlikeToSpaces key other) :=
  inferInstanceAs (Decidable (_ = _))

theorem rdropWhile_padded (text : List Char) (n : Nat) :
    (text ++ List.replicate n ' ').rdropWhile (· == ' ') = text.rdropWhile (· == ' ') := by
  induction n with
  | zero => rw [List.replicate_zero, List.append_nil]
  | succ n ih =>
    rw [List.replicate_succ', ← List.append_assoc, List.rdropWhile_concat_pos _ _ _ rfl, ih]

theorem alikeToSpaces_of_lead {width : Nat} {key other : String}
    (same : lead width key = lead width other) : AlikeToSpaces key other := by
  have padded := List.append_cancel_left (List.append_cancel_right same)
  unfold AlikeToSpaces
  rw [← rdropWhile_padded key.toList (width - key.length), padded, rdropWhile_padded]

/-- A line that begins like a column whose label begins with no space is the first of its own
column, and the labels differ in spaces at their ends at most. -/
theorem starts_of_lead {width : Nat} {p q : String × Json} (hp : p.1.length ≤ width)
    (hq : q.1.length ≤ width) {c : Char} {label : List Char} (first : q.1.toList = c :: label)
    (mark : c ≠ ' ') {line : List Char} (m : line ∈ columnLines width p)
    (begins : lead width q.1 <+: line) :
    (columnLines width p).head? = some line ∧ AlikeToSpaces p.1 q.1 := by
  obtain ⟨head, rest, -, column⟩ := exists_columnLines width p
  rw [column] at m ⊢
  rcases List.mem_cons.mp m with rfl | m
  · have lengths : (lead width p.1).length = (lead width q.1).length := by
      rw [length_lead hp, length_lead hq]
    have within : lead width p.1 <+: lead width q.1 :=
      List.prefix_of_prefix_length_le (List.prefix_append _ _) begins (Nat.le_of_eq lengths)
    exact ⟨rfl, alikeToSpaces_of_lead (within.eq_of_length lengths)⟩
  · -- The third character is that of the label here and a space there.
    obtain ⟨other, -, rfl⟩ := List.mem_map.mp m
    obtain ⟨behind, same⟩ := begins
    have third := congrArg (·[2]?) same
    simp [lead, margin, first, List.replicate_succ] at third
    exact absurd third mark

theorem answer?_of_wide {row : Row} {key : String} (m : key ∈ row.keys)
    (wide : maxLabelWidth < key.length) (elapsed : String) :
    Transcript.answer? elapsed (.output (.rows [row])) = none := by
  have bound := length_le_labelWidth m
  have hidden : ¬[row].all Row.canDisplay = true := by
    intro shown
    have narrow := List.all_eq_true.mp shown row (List.mem_singleton_self row)
    have fits : row.labelWidth ≤ maxLabelWidth := of_decide_eq_true narrow
    omega
  unfold Transcript.answer?
  dsimp only [Output.toRows]
  rw [if_neg hidden]

/-- No line of a row can be taken for the start of another column whose label begins with no space,
save by a label that is the same up to spaces at its end. -/
theorem columns_stay_aligned {row : Row} (some : row.pairs ≠ [])
    (flat : ∀ key ∈ row.keys, OneLine key.toList) (narrow : row.canDisplay = true) :
    (∀ key ∈ row.keys, key.length ≤ row.labelWidth) ∧
    (∃ key ∈ row.keys, key.length = row.labelWidth) ∧
    (∀ elapsed, Transcript.answer? elapsed (.output (.rows [row])) =
      .some [row.display false, "  (1 row, " ++ elapsed ++ "ms)"]) ∧
    (row.display false).toList.splitOn '\n' = row.pairs.flatMap (columnLines row.labelWidth) ∧
    (∀ p ∈ row.pairs, ∃ first rest, valueLines p.2 = first :: rest ∧
      columnLines row.labelWidth p =
        (lead row.labelWidth p.1 ++ first) :: rest.map (margin row.labelWidth ++ ·) ∧
      (lead row.labelWidth p.1).length = row.labelWidth + 4 ∧
      (margin row.labelWidth).length = row.labelWidth + 4 ∧
      rest.length + 1 = lineCount p.2 ∧
      ((∀ s, p.2 = .string s → OneLine s.toList) → rest = [])) ∧
    ∀ p ∈ row.pairs, ∀ q ∈ row.pairs, ∀ c ∈ q.1.toList.head?, c ≠ ' ' →
      ∀ line ∈ columnLines row.labelWidth p, lead row.labelWidth q.1 <+: line →
        (columnLines row.labelWidth p).head? = .some line ∧ AlikeToSpaces p.1 q.1 := by
  have bound {p : String × Json} (m : p ∈ row.pairs) : p.1.length ≤ row.labelWidth :=
    length_le_labelWidth (List.mem_map_of_mem m)
  refine ⟨fun key => length_le_labelWidth, exists_widest some, ?_, splitOn_display some flat, ?_,
    ?_⟩
  · intro elapsed
    have shown : [row].all Row.canDisplay = true := by
      rw [List.all_cons, narrow]
      rfl
    have noun : "  (" ++ toString 1 ++ " " ++ "row" ++ ", " = "  (1 row, " := by decide
    unfold Transcript.answer?
    dsimp only [Output.toRows]
    rw [if_pos shown, ← noun]
    rfl
  · intro p m
    obtain ⟨first, rest, lines, column⟩ := exists_columnLines row.labelWidth p
    have count := length_valueLines p.2
    rw [lines] at count
    refine ⟨first, rest, lines, column, length_lead (bound m), length_margin _, count, ?_⟩
    intro whole
    rcases valueLines_cases p.2 with ⟨-, single⟩ | ⟨s, text, broken, -⟩
    · rw [single] at lines
      exact (List.cons.inj lines).2.symm
    · exact absurd (whole s text) broken
  · intro p hp q hq c first mark line m begins
    obtain ⟨label, first⟩ := List.head?_eq_some_iff.mp first
    exact starts_of_lead (bound hp) (bound hq) first mark m begins

theorem columns_stay_aligned_of_lines :
    let row : Row := ⟨[("größe", .number (.integer 3)), ("é", .string "x\r\n\ny\n")], by decide⟩
    (row.pairs ≠ [] ∧ (∀ key ∈ row.keys, OneLine key.toList) ∧ row.canDisplay = true) ∧
    (row.display false).toList.splitOn '\n' = ["  größe  3".toList, "  é      x".toList,
      "         ".toList, "         y".toList] ∧
    ∀ line ∈ columnLines row.labelWidth ("größe", .number (.integer 3)),
      ¬lead row.labelWidth "é" <+: line := by
  intro row
  have some : row.pairs ≠ [] := by decide
  have flat : ∀ key ∈ row.keys, OneLine key.toList := by decide
  have narrow : row.canDisplay = true := by decide
  obtain ⟨-, -, -, lines, -, starts⟩ := columns_stay_aligned some flat narrow
  refine ⟨⟨some, flat, narrow⟩, ?_, ?_⟩
  · rw [lines]
    decide
  · intro line m begins
    have alike := (starts _ (List.mem_cons_self ..) _
      (List.mem_cons_of_mem _ (List.mem_cons_self ..)) 'é' rfl (by decide) line m begins).2
    exact absurd alike (by decide)

theorem labels_alike_and_label_too_wide :
    let row : Row := ⟨[("a", .number (.integer 1)), ("a ", .number (.integer 1))], by decide⟩
    let wide : Row := ⟨[(String.ofList (List.replicate 65536 'a'), .null)],
      List.pairwise_singleton _ _⟩
    (row.pairs ≠ [] ∧ (∀ key ∈ row.keys, OneLine key.toList) ∧
      (row.display false).toList.splitOn '\n' = ["  a   1".toList, "  a   1".toList] ∧
      ∃ line ∈ columnLines row.labelWidth ("a", .number (.integer 1)),
        lead row.labelWidth "a " <+: line) ∧
    wide.pairs ≠ [] ∧ (∀ key ∈ wide.keys, OneLine key.toList) ∧
      ∀ elapsed, Transcript.answer? elapsed (.output (.rows [wide])) = none := by
  intro row wide
  have starts : lead row.labelWidth "a " <+: "  a   1".toList := by decide
  refine ⟨⟨by decide, by decide, by decide, _, List.mem_singleton_self _, starts⟩, ?_, ?_, ?_⟩
  · exact List.cons_ne_nil _ _
  · intro key m
    rw [List.mem_singleton.mp m]
    intro feed
    rw [String.toList_ofList] at feed
    exact absurd (List.eq_of_mem_replicate feed) (by decide)
  · have width : maxLabelWidth < (String.ofList (List.replicate 65536 'a')).length := by
      rw [String.length_ofList, List.length_replicate]
      decide
    exact answer?_of_wide (List.mem_singleton_self _) width

end Row

end DocQuery
