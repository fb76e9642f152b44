import DocQuery.Proofs.Store.Paging

/-!
# Comparisons and kinds

A comparison asks how the value of a field stands to the literal. Where the two are of one kind,
every comparison holds for the orders that it admits. Where they are not, five of the six hold for
nothing; inequality holds for every value that is there and not null.
-/

namespace DocQuery

/-- The orders between a value and a literal that a comparison is about. -/
def Operator.admits : Operator → Ordering → Bool
  | .equal, o => o == .eq
  | .notEqual, o => o != .eq
  | .less, o => o == .lt
  | .lessOrEqual, o => o != .gt
  | .greater, o => o == .gt
  | .greaterOrEqual, o => o != .lt
  | .isIn, _ | .notIn, _ | .arrayContains, _ | .arrayContainsAny, _ => false

namespace Json

theorem compareLiteral?_null {v : Literal} {o : Ordering}
    (h : Json.null.compareLiteral? v = some o) : o = .eq := by
  cases v with
  | null => exact (Option.some.inj h).symm
  | _ => cases h

end Json

namespace Condition

variable {c : Condition} {x : Json}

theorem holdsFor_of_comparable (comparison : c.operator ∈ Operator.comparisons) {o : Ordering}
    (standing : x.compareLiteral? c.value = some o) : c.holdsFor x = c.operator.admits o := by
  obtain ⟨field, op, v⟩ := c
  have comparison : op ∈ Operator.comparisons := comparison
  have standing : x.compareLiteral? v = some o := standing
  cases op with
  | equal => simp [holdsFor, equals, standing, Operator.admits]
  | notEqual =>
    by_cases null : x.isNull = true
    · -- Null is equal to the literal, so that inequality admits nothing here.
      have same : o = .eq := by
        cases x with
        | null => exact Json.compareLiteral?_null standing
        | _ => cases null
      simp [holdsFor, equals, standing, same, Operator.admits]
    · rw [Bool.not_eq_true] at null
      simp [holdsFor, equals, standing, null, Operator.admits, bne]
  | less => simp [holdsFor, standing, Operator.admits]
  | lessOrEqual => cases o <;> simp [holdsFor, standing, Operator.admits]
  | greater => simp [holdsFor, standing, Operator.admits]
  | greaterOrEqual => cases o <;> simp [holdsFor, standing, Operator.admits]
  | isIn | notIn | arrayContains | arrayContainsAny => exact absurd comparison (by decide)

/-- Across kinds no comparison holds but inequality, for whatever is not null. -/
theorem holdsFor_of_incomparable (comparison : c.operator ∈ Operator.comparisons)
    (standing : x.compareLiteral? c.value = none) :
    c.holdsFor x = (c.operator == .notEqual && !x.isNull) := by
  obtain ⟨field, op, v⟩ := c
  have comparison : op ∈ Operator.comparisons := comparison
  have standing : x.compareLiteral? v = none := standing
  cases op with
  | equal | notEqual => simp [holdsFor, equals, standing]
  | less | lessOrEqual | greater | greaterOrEqual => simp [holdsFor, standing]
  | isIn | notIn | arrayContains | arrayContainsAny => exact absurd comparison (by decide)

/-- A comparison matches where the field stands to the literal in an order that it admits;
inequality also matches every value of another kind, null apart. -/
theorem accepts_comparison_iff (comparison : c.operator ∈ Operator.comparisons) (d : Document) :
    c.accepts d = true ↔ ∃ x, d.get? c.field = some x ∧
      ((∃ o, x.compareLiteral? c.value = some o ∧ c.operator.admits o = true) ∨
        c.operator = .notEqual ∧ x.compareLiteral? c.value = none ∧ x.isNull = false) := by
  rw [accepts, Option.any_eq_true]
  constructor
  · rintro ⟨x, there, holds⟩
    refine ⟨x, there, ?_⟩
    cases standing : x.compareLiteral? c.value with
    | some o =>
      rw [holdsFor_of_comparable comparison standing] at holds
      exact .inl ⟨o, rfl, holds⟩
    | none =>
      rw [holdsFor_of_incomparable comparison standing, Bool.and_eq_true, beq_iff_eq,
        Bool.not_eq_true'] at holds
      exact .inr ⟨holds.1, rfl, holds.2⟩
  · rintro ⟨x, there, ⟨o, standing, admits⟩ | ⟨unequal, standing, some⟩⟩
    · refine ⟨x, there, ?_⟩
      rw [holdsFor_of_comparable comparison standing]
      exact admits
    · refine ⟨x, there, ?_⟩
      rw [holdsFor_of_incomparable comparison standing, unequal, some]
      rfl

def sinceNewYear : Condition := ⟨"about", .greaterOrEqual, .ofText "2023-01-01".toList⟩

theorem accepts_comparison_iff_of_notes :
    sinceNewYear.operator ∈ Operator.comparisons ∧
    sinceNewYear.accepts Collections.march = true ∧
    ¬sinceNewYear.accepts Collections.apple = true := by
  have comparison : sinceNewYear.operator ∈ Operator.comparisons := by decide
  have later : (Json.string "March 5, 2023").compareLiteral? sinceNewYear.value = some .gt := by rfl
  have apart : (Json.string "Apple").compareLiteral? sinceNewYear.value = none := by rfl
  have fruit : Collections.apple.get? sinceNewYear.field = some (.string "Apple") := by rfl
  refine ⟨comparison, ?_, ?_⟩
  · apply (accepts_comparison_iff comparison Collections.march).mpr
    exact ⟨.string "March 5, 2023", by rfl, .inl ⟨.gt, later, by rfl⟩⟩
  · intro matched
    obtain ⟨x, there, holds⟩ := (accepts_comparison_iff comparison Collections.apple).mp matched
    obtain rfl : Json.string "Apple" = x := Option.some.inj (fruit.symm.trans there)
    rcases holds with ⟨o, standing, -⟩ | ⟨unequal, -⟩
    · rw [apart] at standing
      cases standing
    · cases unequal

def fiveNote : Document := ⟨"n1", .ofPairs [("f", .number (.integer 5))]⟩

/-- Inequality matches a number, which no text is compared with. -/
theorem inequality_matches_another_kind :
    let c : Condition := ⟨"f", .notEqual, .ofText "'x'".toList⟩
    c.operator ∈ Operator.comparisons ∧ c.value.isList = false ∧ c.value = .string "x" ∧
    c.accepts fiveNote = true ∧ fiveNote.get? "f" = some (.number (.integer 5)) ∧
    (Json.number (.integer 5)).compareLiteral? c.value = none := by
  have text : Literal.ofText "'x'".toList = .string "x" := by rfl
  rw [text]
  exact ⟨by decide, rfl, rfl, by rfl, by rfl, by rfl⟩

end Condition

end DocQuery
