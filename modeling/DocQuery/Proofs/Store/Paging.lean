import DocQuery.Proofs.Store.LiteralOrder
import DocQuery.Proofs.Store.TopN

/-!
# Filters and orders of one field

An ascending order lists the documents below a literal before the others that compare with it, so a
query for the documents above a literal goes on where the documents up to it end. This needs the
order to keep what the literal separates. A filter never changes the order among the documents that
it leaves.
-/

namespace DocQuery

theorem append_inj_of_test {α : Type} {p : α → Bool} {a b c d : List α} (same : a ++ b = c ++ d)
    (fails : ∀ x ∈ a ++ c, p x = false) (holds : ∀ x ∈ b ++ d, p x = true) : a = c ∧ b = d := by
  have none (l : List α) (within : ∀ x ∈ l, p x = false) : l.filter p = [] := by
    rw [List.filter_eq_nil_iff]
    intro x m
    rw [within x m]
    exact Bool.false_ne_true
  have all (l : List α) (within : ∀ x ∈ l, p x = true) : l.filter p = l :=
    List.filter_eq_self.mpr within
  have ends := congrArg (List.filter p) same
  rw [List.filter_append, List.filter_append,
    none a fun x m => fails x (List.mem_append_left c m),
    none c fun x m => fails x (List.mem_append_right a m),
    all b fun x m => holds x (List.mem_append_left d m),
    all d fun x m => holds x (List.mem_append_right b m)] at ends
  subst ends
  exact ⟨List.append_cancel_right same, rfl⟩

theorem mergeSort_filter {α : Type} {le : α → α → Bool}
    (trans : ∀ a b c, le a b = true → le b c = true → le a c = true)
    (total : ∀ a b, (le a b || le b a) = true) (p : α → Bool) (l : List α) :
    (l.filter p).mergeSort le = (l.mergeSort le).filter p := by
  induction l with
  | nil => simp
  | cons a rest ih =>
    obtain ⟨before, behind, whole, others, above⟩ := List.mergeSort_cons trans total a rest
    by_cases kept : p a = true
    · obtain ⟨before', behind', whole', others', above'⟩ :=
        List.mergeSort_cons trans total a (rest.filter p)
      have sorted := List.pairwise_mergeSort trans total (a :: rest)
      have sorted' := List.pairwise_mergeSort trans total (a :: rest.filter p)
      rw [whole, List.pairwise_append, List.pairwise_cons] at sorted
      rw [whole', List.pairwise_append, List.pairwise_cons] at sorted'
      have same : before' ++ behind' = before.filter p ++ behind.filter p := by
        rw [← others', ih, others, List.filter_append]
      -- Both lists are cut at the place of `a`, behind what it may not precede.
      obtain ⟨rfl, rfl⟩ : before' = before.filter p ∧ behind' = behind.filter p := by
        refine append_inj_of_test (p := le a) same ?_ ?_
        · intro b m
          rcases List.mem_append.mp m with m | m
          · simpa using above' b m
          · simpa using above b (List.mem_filter.mp m).1
        · intro b m
          rcases List.mem_append.mp m with m | m
          · exact sorted'.2.1.1 b m
          · exact sorted.2.1.1 b (List.mem_filter.mp m).1
      rw [List.filter_cons_of_pos kept, whole', whole, List.filter_append,
        List.filter_cons_of_pos kept]
    · rw [List.filter_cons_of_neg kept, ih, whole, others, List.filter_append, List.filter_append,
        List.filter_cons_of_neg kept]

/-- When nothing of the second kind stands before anything of the first, the elements of both kinds
are those of the first and then those of the second. -/
theorem filter_eq_append_of_pairwise {α : Type} {p q r : α → Bool} {l : List α}
    (apart : l.Pairwise fun a b => ¬(q a = true ∧ p b = true))
    (both : ∀ a, r a = (p a || q a)) (one : ∀ a, p a = true → q a = false) :
    l.filter r = l.filter p ++ l.filter q := by
  induction l with
  | nil => rfl
  | cons a rest ih =>
    obtain ⟨first, later⟩ := List.pairwise_cons.mp apart
    have tail := ih later
    by_cases hp : p a = true
    · have hr : r a = true := by simp [both, hp]
      rw [List.filter_cons_of_pos hr, List.filter_cons_of_pos hp,
        List.filter_cons_of_neg (by simp [one a hp]), tail]
      rfl
    · by_cases hq : q a = true
      · have hr : r a = true := by simp [both, hq]
        have none : rest.filter p = [] := by
          rw [List.filter_eq_nil_iff]
          intro b m hb
          exact first b m ⟨hq, hb⟩
        rw [none] at tail
        rw [List.filter_cons_of_pos hr, List.filter_cons_of_neg hp, List.filter_cons_of_pos hq,
          none, tail]
        rfl
      · have hr : ¬r a = true := by simp [both, hp, hq]
        rw [List.filter_cons_of_neg hr, List.filter_cons_of_neg hp, List.filter_cons_of_neg hq,
          tail]

namespace Document

/-- How a document's field compares with a literal; none when it lacks the field or its kind is
another one. -/
def standing (field : String) (v : Literal) (d : Document) : Option Ordering :=
  (d.get? field).bind fun x => x.compareLiteral? v

def isComparable (field : String) (v : Literal) (d : Document) : Bool :=
  (d.standing field v).isSome

end Document

namespace Condition

variable {field : String} {v : Literal} {d : Document}

theorem accepts_less :
    (Condition.mk field .less v).accepts d = (d.standing field v == some .lt) := by
  cases h : d.get? field <;> simp [accepts, holdsFor, Document.standing, h]

theorem accepts_equal :
    (Condition.mk field .equal v).accepts d = (d.standing field v == some .eq) := by
  cases h : d.get? field <;> simp [accepts, holdsFor, equals, Document.standing, h]

theorem accepts_greater :
    (Condition.mk field .greater v).accepts d = (d.standing field v == some .gt) := by
  cases h : d.get? field <;> simp [accepts, holdsFor, Document.standing, h]

theorem accepts_lessOrEqual : (Condition.mk field .lessOrEqual v).accepts d =
    (d.standing field v == some .lt || d.standing field v == some .eq) := by
  cases h : d.get? field <;> simp [accepts, holdsFor, Document.standing, h]

theorem accepts_greaterOrEqual : (Condition.mk field .greaterOrEqual v).accepts d =
    (d.standing field v == some .gt || d.standing field v == some .eq) := by
  cases h : d.get? field <;> simp [accepts, holdsFor, Document.standing, h]

end Condition

namespace Document

variable {field : String} {v : Literal} {d : Document}

theorem isComparable_eq_less_or : d.isComparable field v =
    ((Condition.mk field .less v).accepts d ||
      (Condition.mk field .greaterOrEqual v).accepts d) := by
  rw [Condition.accepts_less, Condition.accepts_greaterOrEqual, isComparable]
  rcases d.standing field v with _ | _ | _ | _ <;> rfl

theorem isComparable_eq_lessOrEqual_or : d.isComparable field v =
    ((Condition.mk field .lessOrEqual v).accepts d ||
      (Condition.mk field .greater v).accepts d) := by
  rw [Condition.accepts_lessOrEqual, Condition.accepts_greater, isComparable]
  rcases d.standing field v with _ | _ | _ | _ <;> rfl

end Document

namespace Literal

def SeparatesDocuments (v : Literal) (field : String) (d e : Document) : Prop :=
  ∃ x y, d.get? field = some x ∧ e.get? field = some y ∧ v.Separates x y

def KeepsDocuments (v : Literal) (field : String) (docs : List Document) : Prop :=
  ∀ d ∈ docs, ∀ e ∈ docs, ∀ x y, d.get? field = some x → e.get? field = some y →
    v.Separates x y → v.KeepsOrder x y

variable {v : Literal} {field : String} {d e : Document}

theorem separatesDocuments_of_below (hd : d.standing field v = some .lt)
    (he : e.standing field v = some .eq ∨ e.standing field v = some .gt) :
    v.SeparatesDocuments field d e := by
  obtain ⟨x, hx, below⟩ := Option.bind_eq_some_iff.mp hd
  rcases he with same | above
  · obtain ⟨y, hy, same⟩ := Option.bind_eq_some_iff.mp same
    exact ⟨x, y, hx, hy, .inl ⟨below, .inl same⟩⟩
  · obtain ⟨y, hy, above⟩ := Option.bind_eq_some_iff.mp above
    exact ⟨x, y, hx, hy, .inl ⟨below, .inr above⟩⟩

theorem separatesDocuments_of_above (hd : d.standing field v = some .eq)
    (he : e.standing field v = some .gt) : v.SeparatesDocuments field d e := by
  obtain ⟨x, hx, same⟩ := Option.bind_eq_some_iff.mp hd
  obtain ⟨y, hy, above⟩ := Option.bind_eq_some_iff.mp he
  exact ⟨x, y, hx, hy, .inr ⟨same, above⟩⟩

theorem separatesDocuments_of_less (hd : (Condition.mk field .less v).accepts d = true)
    (he : (Condition.mk field .greaterOrEqual v).accepts e = true) :
    v.SeparatesDocuments field d e := by
  rw [Condition.accepts_less, beq_iff_eq] at hd
  rw [Condition.accepts_greaterOrEqual, Bool.or_eq_true, beq_iff_eq, beq_iff_eq] at he
  exact separatesDocuments_of_below hd he.symm

theorem separatesDocuments_of_greater (hd : (Condition.mk field .lessOrEqual v).accepts d = true)
    (he : (Condition.mk field .greater v).accepts e = true) : v.SeparatesDocuments field d e := by
  rw [Condition.accepts_lessOrEqual, Bool.or_eq_true, beq_iff_eq, beq_iff_eq] at hd
  rw [Condition.accepts_greater, beq_iff_eq] at he
  rcases hd with below | same
  · exact separatesDocuments_of_below below (.inr he)
  · exact separatesDocuments_of_above same he

end Literal

namespace StoreQuery

def filtered (q : StoreQuery) (c : Condition) : StoreQuery :=
  { q with filters := q.filters ++ [c] }

def ascending (q : StoreQuery) (field : String) : StoreQuery :=
  { q with order := some ⟨field, .ascending⟩, limit := none }

end StoreQuery

namespace Collections

variable {store : Collections} {q : StoreQuery} {field : String} {v : Literal}

theorem matching_filtered (c : Condition) :
    store.matching (q.filtered c) = (store.matching q).filter c.accepts := by
  rw [matching, matching, StoreQuery.filtered, List.filter_map, List.filter_filter]
  congr 2
  funext e
  simp [Bool.and_comm, Bool.and_left_comm]

/-- What a filter leaves of the documents is sorted as it was among all of them. -/
theorem sortBy_filter (order : OrderBy) (p : Document → Bool) (docs : List Document) :
    sortBy order (docs.filter p) = (sortBy order docs).filter p := by
  rw [sortBy_eq, sortBy_eq, ← mergeSort_filter order.precedes_trans order.precedes_total,
    List.filter_filter, List.filter_filter]
  congr 2
  funext d
  exact Bool.and_comm _ _

theorem fetch_ascending (valid : q.scope.IsValid) :
    store.fetch (q.ascending field) = .ok (sortBy ⟨field, .ascending⟩ (store.matching q)) :=
  fetch_eq (q := q.ascending field) valid

theorem fetch_filtered_ascending (valid : q.scope.IsValid) (c : Condition) :
    store.fetch ((q.filtered c).ascending field) =
      .ok ((sortBy ⟨field, .ascending⟩ (store.matching q)).filter c.accepts) := by
  have scope : (q.filtered c).scope.IsValid := valid
  rw [fetch_ascending scope, matching_filtered, sortBy_filter]

theorem not_keepsOrder_of_admits {d e : Document} {x y : Json} (hx : d.get? field = some x)
    (hy : e.get? field = some y) (apart : v.Separates x y)
    (admits : OrderBy.Admits ⟨field, .ascending⟩ e d) : ¬v.KeepsOrder x y := by
  intro keeps
  obtain ⟨y', x', hy', hx', order⟩ := admits
  obtain rfl : y = y' := Option.some.inj (hy.symm.trans hy')
  obtain rfl : x = x' := Option.some.inj (hx.symm.trans hx')
  have less := (Json.compareStored_eq_lt_iff_of_separates apart).mpr keeps
  rw [Json.compareStored_eq_compare, compare_lt_iff_lt] at less
  exact absurd ((Json.compareStored_isLE_iff y x).mp order) (not_le.mpr less)

theorem pairwise_not_separated {docs : List Document}
    (keeps : v.KeepsDocuments field (sortBy ⟨field, .ascending⟩ docs)) :
    (sortBy ⟨field, .ascending⟩ docs).Pairwise fun e d => ¬v.SeparatesDocuments field d e := by
  refine (admits_sortBy ⟨field, .ascending⟩ docs).imp_of_mem ?_
  rintro e d me md admits ⟨x, y, hx, hy, apart⟩
  exact not_keepsOrder_of_admits hx hy apart admits (keeps d md e me x y hx hy apart)

end Collections

section Pages

variable {field : String} {v : Literal} {docs : List Document}
  (apart : docs.Pairwise fun e d => ¬v.SeparatesDocuments field d e)

include apart

theorem comparable_eq_less_append : docs.filter (·.isComparable field v) =
    docs.filter (Condition.mk field .less v).accepts ++
      docs.filter (Condition.mk field .greaterOrEqual v).accepts := by
  refine filter_eq_append_of_pairwise ?_ (fun d => Document.isComparable_eq_less_or) ?_
  · refine apart.imp ?_
    rintro e d no ⟨he, hd⟩
    exact no (Literal.separatesDocuments_of_less hd he)
  · intro d below
    rw [Condition.accepts_less, beq_iff_eq] at below
    rw [Condition.accepts_greaterOrEqual, below]
    rfl

theorem comparable_eq_lessOrEqual_append : docs.filter (·.isComparable field v) =
    docs.filter (Condition.mk field .lessOrEqual v).accepts ++
      docs.filter (Condition.mk field .greater v).accepts := by
  refine filter_eq_append_of_pairwise ?_ (fun d => Document.isComparable_eq_lessOrEqual_or) ?_
  · refine apart.imp ?_
    rintro e d no ⟨he, hd⟩
    exact no (Literal.separatesDocuments_of_greater hd he)
  · intro d upTo
    rw [Condition.accepts_lessOrEqual, Bool.or_eq_true, beq_iff_eq, beq_iff_eq] at upTo
    rw [Condition.accepts_greater]
    rcases upTo with below | same
    · rw [below]
      rfl
    · rw [same]
      rfl

/-- Between a page that ends at the literal and the documents above it are only documents that are
equal to the literal. -/
theorem exists_tied {page rest : List Document} (whole : docs = page ++ rest)
    (upTo : ∀ d ∈ page, (Condition.mk field .lessOrEqual v).accepts d = true)
    (reached : ∃ d ∈ page, (Condition.mk field .equal v).accepts d = true) :
    ∃ tied, docs.filter (·.isComparable field v) =
        page ++ tied ++ docs.filter (Condition.mk field .greater v).accepts ∧
      ∀ d ∈ tied, (Condition.mk field .equal v).accepts d = true := by
  refine ⟨rest.filter (Condition.mk field .lessOrEqual v).accepts, ?_, ?_⟩
  · have all : page.filter (Condition.mk field .lessOrEqual v).accepts = page :=
      List.filter_eq_self.mpr upTo
    rw [comparable_eq_lessOrEqual_append apart]
    congr 1
    rw [whole, List.filter_append, all]
  · intro e m
    obtain ⟨behind, he⟩ := List.mem_filter.mp m
    obtain ⟨d, front, hd⟩ := reached
    rw [Condition.accepts_equal, beq_iff_eq] at hd
    rw [Condition.accepts_lessOrEqual, Bool.or_eq_true, beq_iff_eq, beq_iff_eq] at he
    rw [Condition.accepts_equal, beq_iff_eq]
    rw [whole, List.pairwise_append] at apart
    refine he.resolve_left fun below => ?_
    exact apart.2.2 d front e behind (Literal.separatesDocuments_of_below below (.inl hd))

end Pages

namespace Collections

/-- Of two stored values that a literal separates the first is ordered before the second, unless the
literal is a text and the second names an instant. Filters and pages follow. -/
theorem filters_agree_with_order (v : Literal) (store : Collections) (q : StoreQuery)
    (field : String) (valid : q.scope.IsValid) :
    (∀ a b, v.Separates a b → (Json.compareStored a b = .lt ↔ v.KeepsOrder a b)) ∧
    ∃ ordered, store.fetch (q.ascending field) = .ok ordered ∧
      (∀ (i j : Nat) (d e : Document) (x y : Json), ordered[i]? = some d →
        ordered[j]? = some e → d.get? field = some x → e.get? field = some y →
        (Condition.mk field .less v).accepts d = true →
        (Condition.mk field .greaterOrEqual v).accepts e = true →
        v.KeepsOrder x y → i < j) ∧
      (v.KeepsDocuments field ordered →
        ∃ below atLeast upTo above,
          store.fetch ((q.filtered ⟨field, .less, v⟩).ascending field) = .ok below ∧
          store.fetch ((q.filtered ⟨field, .greaterOrEqual, v⟩).ascending field) = .ok atLeast ∧
          store.fetch ((q.filtered ⟨field, .lessOrEqual, v⟩).ascending field) = .ok upTo ∧
          store.fetch ((q.filtered ⟨field, .greater, v⟩).ascending field) = .ok above ∧
          ordered.filter (·.isComparable field v) = below ++ atLeast ∧
          ordered.filter (·.isComparable field v) = upTo ++ above ∧
          ∀ n page, store.fetch { q.ascending field with limit := some n } = .ok page →
            (∀ d ∈ page, (Condition.mk field .lessOrEqual v).accepts d = true) →
            (∃ d ∈ page, (Condition.mk field .equal v).accepts d = true) →
            ∃ tied, ordered.filter (·.isComparable field v) = page ++ tied ++ above ∧
              ∀ d ∈ tied, (Condition.mk field .equal v).accepts d = true) := by
  refine ⟨fun a b => Json.compareStored_eq_lt_iff_of_separates,
    sortBy ⟨field, .ascending⟩ (store.matching q), fetch_ascending valid, ?_, ?_⟩
  · intro i j d e x y hi hj hx hy below reached keeps
    obtain ⟨x', y', hx', hy', apart⟩ := Literal.separatesDocuments_of_less below reached
    obtain rfl : x = x' := Option.some.inj (hx.symm.trans hx')
    obtain rfl : y = y' := Option.some.inj (hy.symm.trans hy')
    by_contra behind
    rcases Nat.lt_or_eq_of_le (Nat.not_lt.mp behind) with later | rfl
    · obtain ⟨li, rfl⟩ := List.getElem?_eq_some_iff.mp hi
      obtain ⟨lj, rfl⟩ := List.getElem?_eq_some_iff.mp hj
      have admits := List.pairwise_iff_getElem.mp (admits_sortBy _ _) j i lj li later
      exact not_keepsOrder_of_admits hx hy apart admits keeps
    · obtain rfl : d = e := Option.some.inj (hi.symm.trans hj)
      rw [Condition.accepts_less, beq_iff_eq] at below
      rw [Condition.accepts_greaterOrEqual, below] at reached
      cases reached
  · intro keeps
    have apart := pairwise_not_separated keeps
    refine ⟨_, _, _, _, fetch_filtered_ascending valid _, fetch_filtered_ascending valid _,
      fetch_filtered_ascending valid _, fetch_filtered_ascending valid _,
      comparable_eq_less_append apart, comparable_eq_lessOrEqual_append apart, ?_⟩
    intro n page fetched upTo reached
    rw [fetch_eq (q := { q.ascending field with limit := some n }) valid] at fetched
    obtain rfl : (sortBy ⟨field, .ascending⟩ (store.matching q)).take n = page :=
      Except.ok.inj fetched
    exact exists_tied apart (List.take_append_drop n _).symm upTo reached

def tasks : Collections :=
  (((empty.insert "tasks" "a" (.object [("due", .string "January 1, 2024")])).insert
    "tasks" "b" (.object [("due", .object [("_seconds", .number (.integer 1704067200))])])).insert
    "tasks" "c" (.object [("due", .string "2025-06-30")])).insert
    "tasks" "d" (.object [("due", .string "soon")])

def allTasks : StoreQuery := { scope := .collection "tasks" }

def newYear : Literal := .ofText "2024-01-01".toList

def firstTask : List Document := (listed (tasks.documents "tasks")).take 1

theorem fetch_firstTask :
    tasks.fetch { allTasks.ascending "due" with limit := some 1 } = .ok firstTask := by
  have accepted : tasks.accepted { allTasks.ascending "due" with limit := some 1 } =
      .ok (listed (tasks.documents "tasks")) := by rfl
  have ranked : (listed (tasks.documents "tasks")).filter (fun d => (d.get? "due").isSome) =
      listed (tasks.documents "tasks") := by rfl
  have ordered : (listed (tasks.documents "tasks")).Pairwise fun a b =>
      mayPrecede ⟨"due", .ascending⟩ a b = true := by decide
  have sorted : sortBy ⟨"due", .ascending⟩ (listed (tasks.documents "tasks")) =
      listed (tasks.documents "tasks") := by
    rw [sortBy, ranked, List.mergeSort_of_pairwise ordered]
  rw [fetch, accepted]
  exact congrArg (fun docs => Except.ok (docs.take 1)) sorted

theorem filters_agree_with_order_of_tasks : allTasks.scope.IsValid ∧ newYear.isText = false ∧
    firstTask.map Document.id = ["a"] ∧
    ∃ ordered tied above, tasks.fetch (allTasks.ascending "due") = .ok ordered ∧
      tasks.fetch ((allTasks.filtered ⟨"due", .greater, newYear⟩).ascending "due") = .ok above ∧
      ordered.filter (·.isComparable "due" newYear) = firstTask ++ tied ++ above ∧
      ∀ d ∈ tied, (Condition.mk "due" .equal newYear).accepts d = true := by
  have valid : allTasks.scope.IsValid := by
    show Path.namesCollection (Path.trim "tasks") = true
    decide
  have day : newYear.isText = false := by rfl
  have upTo : ∀ d ∈ firstTask, (Condition.mk "due" .lessOrEqual newYear).accepts d = true := by
    decide
  have reached : ∃ d ∈ firstTask, (Condition.mk "due" .equal newYear).accepts d = true := by decide
  obtain ⟨-, ordered, found, -, pages⟩ :=
    filters_agree_with_order newYear tasks allTasks "due" valid
  obtain ⟨-, -, -, above, -, -, -, rest, -, -, next⟩ := pages fun _ _ _ _ _ _ _ _ _ => .inl day
  obtain ⟨tied, whole, same⟩ := next 1 firstTask fetch_firstTask upTo reached
  exact ⟨valid, day, by rfl, ordered, tied, above, found, rest, whole, same⟩

def apple : Document := ⟨"a", .ofPairs [("about", .string "Apple")]⟩

def march : Document := ⟨"m", .ofPairs [("about", .string "March 5, 2023")]⟩

def notes : Collections :=
  (empty.write "notes" apple.id apple.fields).write "notes" march.id march.fields

def allNotes : StoreQuery := { scope := .collection "notes" }

theorem fetch_allNotes : notes.fetch (allNotes.ascending "about") = .ok [march, apple] := by
  have accepted : notes.accepted (allNotes.ascending "about") = .ok [apple, march] := by rfl
  have behind : mayPrecede ⟨"about", .ascending⟩ apple march = false := by rfl
  have ranked : [apple, march].filter (fun d => (d.get? "about").isSome) = [apple, march] := by rfl
  have sorted : sortBy ⟨"about", .ascending⟩ [apple, march] = [march, apple] := by
    rw [sortBy, ranked]
    simp [List.mergeSort, List.MergeSort.Internal.splitInTwo, behind]
  rw [fetch, accepted]
  exact congrArg Except.ok sorted

/-- The date is behind the literal as a text, and before the other text as an instant. -/
theorem text_filter_disagrees_with_order :
    let v := Literal.ofText "'B'".toList
    v.Separates (.string "Apple") (.string "March 5, 2023") ∧
    Json.compareStored (.string "Apple") (.string "March 5, 2023") = .gt ∧
    (Condition.mk "about" .less v).accepts apple = true ∧
    (Condition.mk "about" .greaterOrEqual v).accepts march = true ∧
    notes.fetch (allNotes.ascending "about") = .ok [march, apple] := by
  have text : Literal.ofText "'B'".toList = .string "B" := by rfl
  have below : (Json.string "Apple").compareLiteral? (.string "B") = some .lt :=
    congrArg some (by decide)
  have above : (Json.string "March 5, 2023").compareLiteral? (.string "B") = some .gt :=
    congrArg some (by decide)
  rw [text]
  refine ⟨.inl ⟨below, .inr above⟩, by rfl, ?_, ?_, fetch_allNotes⟩
  · rw [Condition.accepts_less, beq_iff_eq]
    exact below
  · rw [Condition.accepts_greaterOrEqual, Bool.or_eq_true, beq_iff_eq]
    exact .inl above

end Collections

end DocQuery
