import DocQuery.Proofs.Number.Rounding
import DocQuery.Proofs.Query.Values
import DocQuery.Proofs.Store.Comparability
import DocQuery.Proofs.Store.Consistency

/-!
# Stored integers

A document keeps an integer as it was written, but every comparison of it goes by its binary64
number. So integers are compared by their roundings: never the wrong way round, and exactly unless
two of them are rounded to one number.
-/

namespace DocQuery

open Binary64 (rounded)

namespace Json

theorem compareStored_integer {x y : Int} (hx : Word.IsSigned x ∨ Word.IsUnsigned x)
    (hy : Word.IsSigned y ∨ Word.IsUnsigned y) :
    compareStored (.number (.integer x)) (.number (.integer y)) =
      compare (rounded x) (rounded y) := by
  obtain ⟨a, ha, first⟩ := Binary64.exists_ofInt? hx
  obtain ⟨b, hb, second⟩ := Binary64.exists_ofInt? hy
  have alike : compareStored (.number (.integer x)) (.number (.integer y)) = a.compare b := by
    simp [compareStored, instant?, kindRank, compareAlike, Number.toBinary64?, ha, hb]
  rw [alike, Binary64.compare, first, second]
  exact Binary64.compare_rounded_mul x y

theorem compareLiteral?_integer {x y : Int} (hx : Word.IsSigned x ∨ Word.IsUnsigned x)
    (hy : Word.IsSigned y ∨ Word.IsUnsigned y) {text : List Char}
    (h : Numeral.Writes (Text.unquote text) y) :
    (Json.number (.integer x)).compareLiteral? (.ofText text) =
      some (compare (rounded x) (rounded y)) := by
  obtain ⟨a, ha, first⟩ := Binary64.exists_ofInt? hx
  obtain ⟨b, hb, second⟩ := h.read? hy
  obtain ⟨d, numeral⟩ := h.unsigned?
  have literal : Literal.ofText text = .number b :=
    Literal.ofBareText_of_number (Stamp.literal?_of_numeral numeral) hb
  have alike : (Json.number (.integer x)).compareLiteral? (.number b) = some (a.compare b) := by
    simp [compareLiteral?, Number.toBinary64?, ha]
  rw [literal, alike, Binary64.compare, first, second, Binary64.compare_rounded_mul]

end Json

namespace OrderBy

variable {order : OrderBy} {x y : Json}

/-- Every document with the first value stands before every document with the second. -/
def StandsBefore (field : String) (x y : Json) (docs : List Document) : Prop :=
  ∀ (i j : Nat) (a b : Document), docs[i]? = some a → docs[j]? = some b →
    a.get? field = some x → b.get? field = some y → i < j

/-- The first value belongs strictly before the second. -/
def Separates (order : OrderBy) (x y : Json) : Prop :=
  match order.direction with
  | .ascending => Json.compareStored x y = .lt
  | .descending => Json.compareStored x y = .gt

theorem not_separates_self (order : OrderBy) (x : Json) : ¬order.Separates x x := by
  have same : Json.compareStored x x = .eq := Json.isConsistentOn_compareStored.refl x trivial
  unfold Separates
  cases order.direction <;> simp [same]

/-- What belongs strictly before a value is not admitted behind it. -/
theorem not_admits_of_separates {a b : Document} (hx : a.get? order.field = some x)
    (hy : b.get? order.field = some y) (apart : order.Separates x y) : ¬order.Admits b a := by
  rintro ⟨y', x', hy', hx', admits⟩
  obtain rfl : y = y' := Option.some.inj (hy.symm.trans hy')
  obtain rfl : x = x' := Option.some.inj (hx.symm.trans hx')
  have turned : Json.compareStored y x = (Json.compareStored x y).swap :=
    Json.isConsistentOn_compareStored.reverse y x trivial trivial
  unfold Separates at apart
  rw [turned] at admits
  cases direction : order.direction with
  | ascending =>
    simp only [direction] at apart admits
    rw [apart] at admits
    cases admits
  | descending =>
    simp only [direction] at apart admits
    rw [apart] at admits
    cases admits

theorem standsBefore_of_separates {docs : List Document} (sorted : docs.Pairwise order.Admits)
    (apart : order.Separates x y) : StandsBefore order.field x y docs := by
  intro i j a b hi hj hx hy
  by_contra behind
  rcases Nat.lt_or_eq_of_le (Nat.not_lt.mp behind) with later | rfl
  · obtain ⟨li, rfl⟩ := List.getElem?_eq_some_iff.mp hi
    obtain ⟨lj, rfl⟩ := List.getElem?_eq_some_iff.mp hj
    have admits := List.pairwise_iff_getElem.mp sorted j i lj li later
    exact not_admits_of_separates hx hy apart admits
  · obtain rfl : a = b := Option.some.inj (hi.symm.trans hj)
    obtain rfl : x = y := Option.some.inj (hx.symm.trans hy)
    exact order.not_separates_self x apart

end OrderBy

namespace Collections

theorem exists_fetch_sorted (store : Collections) {q : StoreQuery} (valid : q.scope.IsValid)
    {order : OrderBy} (ordered : q.order = some order) :
    ∃ docs, store.fetch q = .ok docs ∧ docs.Pairwise order.Admits := by
  have sorted := admits_sortBy order (store.matching q)
  rw [fetch_eq valid, ordered]
  cases q.limit with
  | none => exact ⟨_, rfl, sorted⟩
  | some n => exact ⟨_, rfl, sorted.sublist (List.take_sublist n _)⟩

end Collections

theorem Condition.accepts_integer {x y : Int} (hx : Word.IsSigned x ∨ Word.IsUnsigned x)
    (hy : Word.IsSigned y ∨ Word.IsUnsigned y) {text : List Char}
    (written : Numeral.Writes (Text.unquote text) y) {field : String} {op : Operator}
    (comparison : op ∈ Operator.comparisons) {d : Document}
    (there : d.get? field = some (.number (.integer x))) :
    (Condition.mk field op (.ofText text)).accepts d =
      op.admits (compare (rounded x) (rounded y)) := by
  have standing := Json.compareLiteral?_integer hx hy written
  rw [accepts, there, Option.any_some]
  exact holdsFor_of_comparable comparison standing

/-- Stored integers compare as the binary64 numbers nearest to them, which is their order unless two
of them share one number. -/
theorem stored_integers_compare_as_rounded {x y : Int}
    (hx : Word.IsSigned x ∨ Word.IsUnsigned x) (hy : Word.IsSigned y ∨ Word.IsUnsigned y) :
    let X := Json.number (.integer x)
    let Y := Json.number (.integer y)
    (∃ a, Binary64.ofInt? x = some a ∧ a.value = rounded x * Binary64.unitsPerOne ∧
      ∀ b : Binary64, (a.value - x * Binary64.unitsPerOne).natAbs ≤
        (b.value - x * Binary64.unitsPerOne).natAbs) ∧
    X.compareStored Y = compare (rounded x) (rounded y) ∧
    (x < y → X.compareStored Y ≠ .gt) ∧
    (X.compareStored Y = compare x y ↔ (rounded x = rounded y → x = y)) ∧
    (x.natAbs < Binary64.exactEnd ∨ y.natAbs < Binary64.exactEnd →
      X.compareStored Y = compare x y) ∧
    (rounded x < rounded y → ∀ (store : Collections) (q : StoreQuery) (order : OrderBy),
      q.scope.IsValid → q.order = some order → ∃ docs, store.fetch q = .ok docs ∧
        match order.direction with
        | .ascending => OrderBy.StandsBefore order.field X Y docs
        | .descending => OrderBy.StandsBefore order.field Y X docs) ∧
    ∀ text, Numeral.Writes (Text.unquote text) y → ∀ (field : String) (d : Document),
      d.get? field = some X →
        ((Condition.mk field .equal (.ofText text)).accepts d = true ↔ rounded x = rounded y) ∧
        ((Condition.mk field .less (.ofText text)).accepts d = true ↔ rounded x < rounded y) := by
  have compared := Json.compareStored_integer hx hy
  refine ⟨?_, compared, ?_, ?_, ?_, ?_, ?_⟩
  · obtain ⟨a, nearest, value⟩ := Binary64.exists_ofInt? hx
    refine ⟨a, nearest, value, ?_⟩
    rw [value]
    exact Binary64.rounded_closest x
  · intro less
    rw [compared]
    exact compare_le_iff_le.mpr (Binary64.rounded_mono (Int.le_of_lt less))
  · rw [compared]
    exact Binary64.compare_rounded_iff x y
  · intro small
    rw [compared, Binary64.compare_rounded_iff]
    exact Binary64.eq_of_rounded_eq small
  · intro less store q order valid ordered
    obtain ⟨docs, fetched, sorted⟩ := store.exists_fetch_sorted valid ordered
    refine ⟨docs, fetched, ?_⟩
    obtain ⟨field, direction⟩ := order
    cases direction with
    | ascending =>
      apply OrderBy.standsBefore_of_separates sorted
      show Json.compareStored _ _ = .lt
      rw [compared, compare_lt_iff_lt]
      exact less
    | descending =>
      apply OrderBy.standsBefore_of_separates sorted
      show Json.compareStored _ _ = .gt
      rw [Json.compareStored_integer hy hx, compare_gt_iff_gt]
      exact less
  · intro text written field d there
    have equal : Operator.equal ∈ Operator.comparisons := by decide
    have less : Operator.less ∈ Operator.comparisons := by decide
    rw [Condition.accepts_integer hx hy written equal there,
      Condition.accepts_integer hx hy written less there]
    simp [Operator.admits, compare_lt_iff_lt]

namespace Collections

def counter (id : String) (n : Int) : Document := ⟨id, .ofPairs [("n", .number (.integer n))]⟩

/-- Three counters past 2^53: the first is rounded to the second, the last apart from both. -/
def counters : List Document :=
  [counter "a" 9007199254740993, counter "b" 9007199254740992, counter "c" 9007199254740995]

def countersStore : Collections :=
  counters.foldl (fun store d => store.write "counters" d.id d.fields) empty

def allCounters : StoreQuery := { scope := .collection "counters" }

theorem fetch_allCounters : countersStore.fetch (allCounters.ascending "n") = .ok counters := by
  have accepted : countersStore.accepted (allCounters.ascending "n") = .ok counters := by rfl
  have ranked : counters.filter (fun d => (d.get? "n").isSome) = counters := by rfl
  have ordered : counters.Pairwise fun a b => mayPrecede ⟨"n", .ascending⟩ a b = true := by
    decide +kernel
  have sorted : sortBy ⟨"n", .ascending⟩ counters = counters := by
    rw [sortBy, ranked, List.mergeSort_of_pairwise ordered]
  rw [fetch, accepted]
  exact congrArg Except.ok sorted

theorem stored_integers_compare_as_rounded_of_counters :
    let x : Int := 9007199254740993
    let y : Int := 9007199254740995
    let text := "'+90071992547409950e-1'".toList
    Word.IsSigned x ∧ Word.IsSigned y ∧ rounded x < rounded y ∧
    Numeral.Writes (Text.unquote text) y ∧
    (∃ docs, countersStore.fetch (allCounters.ascending "n") = .ok docs ∧
      OrderBy.StandsBefore "n" (.number (.integer x)) (.number (.integer y)) docs) ∧
    (Condition.mk "n" .less (.ofText text)).accepts (counter "a" x) = true := by
  have hx : Word.IsSigned 9007199254740993 := by decide
  have hy : Word.IsSigned 9007199254740995 := by decide
  have less : rounded 9007199254740993 < rounded 9007199254740995 := by decide +kernel
  have written : Numeral.Writes (Text.unquote "'+90071992547409950e-1'".toList)
      9007199254740995 := by
    refine ⟨⟨some false, "90071992547409950".toList, none,
      some ⟨'e', some true, ['1'], .inl rfl, by decide, by decide⟩, by decide, by decide⟩, ?_⟩
    exact ⟨by decide, by decide, by decide⟩
  have valid : (allCounters.ascending "n").scope.IsValid := by
    show Path.namesCollection (Path.trim "counters") = true
    decide
  obtain ⟨-, -, -, -, -, ordered, texts⟩ := stored_integers_compare_as_rounded (.inl hx) (.inl hy)
  refine ⟨hx, hy, less, written, ?_, ?_⟩
  · exact ordered less countersStore (allCounters.ascending "n") ⟨"n", .ascending⟩ valid rfl
  · exact (texts _ written "n" (counter "a" _) rfl).2.mpr less

theorem stored_integers_merge :
    let x : Int := 9007199254740993
    let y : Int := 9007199254740992
    let text := "9007199254740992".toList
    Word.IsSigned x ∧ Word.IsSigned y ∧ y < x ∧
    Json.compareStored (.number (.integer x)) (.number (.integer y)) = .eq ∧
    Numeral.Writes (Text.unquote text) y ∧
    (Condition.mk "n" .equal (.ofText text)).accepts (counter "a" x) = true ∧
    countersStore.fetch (allCounters.ascending "n") =
      .ok [counter "a" x, counter "b" y, counter "c" 9007199254740995] := by
  have hx : Word.IsSigned 9007199254740993 := by decide
  have hy : Word.IsSigned 9007199254740992 := by decide
  have merged : rounded 9007199254740993 = rounded 9007199254740992 := by decide +kernel
  have written : Numeral.Writes (Text.unquote "9007199254740992".toList) 9007199254740992 := by
    refine ⟨⟨none, "9007199254740992".toList, none, none, by decide, by decide⟩, by decide, ?_⟩
    exact ⟨by decide, by decide⟩
  have equal : Operator.equal ∈ Operator.comparisons := by decide
  refine ⟨hx, hy, by decide, ?_, written, ?_, fetch_allCounters⟩
  · rw [Json.compareStored_integer (.inl hx) (.inl hy), merged]
    exact compare_eq_iff_eq.mpr rfl
  · rw [Condition.accepts_integer (.inl hx) (.inl hy) written equal rfl, merged,
      compare_eq_iff_eq.mpr rfl]
    rfl

end Collections

end DocQuery
