import DocQuery.Proofs.Store.Order
import DocQuery.Store.Collections
import Mathlib

/-!
# Sorted and limited answers

The documents of a scope stand in order of path and identity. An order keeps those that have its
field and sorts them stably in either direction; a limit cuts the answer short. Sorting is argued
on order keys, where both directions are linear orders.
-/

namespace DocQuery

def Scope.covers : Scope → String → Bool
  | .collection path, p => p == Path.trim path
  | .group name, p => Path.lastSegment p == name

/-- A collection is asked for by a path that names one; a group by any name. -/
def Scope.IsValid : Scope → Prop
  | .collection path => Path.namesCollection (Path.trim path) = true
  | .group _ => True

namespace OrderBy

def ranks (order : OrderBy) (d : Document) : Bool := (d.get? order.field).isSome

/-- Both documents have the field, and the first may stand before the second. -/
def Admits (order : OrderBy) (a b : Document) : Prop :=
  ∃ x y, a.get? order.field = some x ∧ b.get? order.field = some y ∧
    match order.direction with
    | .ascending => (Json.compareStored x y).isLE = true
    | .descending => (Json.compareStored x y).isGE = true

/-- The document has a value that compares equal to another one. -/
def ties (order : OrderBy) (v : Json) (d : Document) : Bool :=
  (d.get? order.field).any fun x => Json.compareStored v x == .eq

end OrderBy

namespace Collections

def entries (store : Collections) : List (String × Document) :=
  store.byPath.pairs.flatMap fun p => (listed p.2).map fun d => (p.1, d)

def matching (store : Collections) (q : StoreQuery) : List Document :=
  (store.entries.filter fun e => q.scope.covers e.1 && q.filters.all (·.accepts e.2)).map Prod.snd

theorem entries_sorted (store : Collections) :
    store.entries.Pairwise fun a b => a.1 < b.1 ∨ a.1 = b.1 ∧ a.2.id < b.2.id := by
  unfold entries
  rw [List.pairwise_flatMap]
  constructor
  · intro p _
    have ids := p.2.sorted
    rw [List.pairwise_map, listed, List.pairwise_map]
    exact ids.imp fun h => .inr ⟨rfl, h⟩
  · refine store.byPath.sorted.imp fun {p q} less => ?_
    intro a ha b hb
    obtain ⟨_, _, rfl⟩ := List.mem_map.mp ha
    obtain ⟨_, _, rfl⟩ := List.mem_map.mp hb
    exact .inl less

end Collections

theorem SortedMap.filter_pairs {α : Type} (m : SortedMap α) (key : String) :
    m.pairs.filter (fun p => p.1 == key) = ((m.get? key).map fun v => (key, v)).toList := by
  obtain ⟨pairs, sorted⟩ := m
  unfold get?
  simp only
  induction pairs with
  | nil => rfl
  | cons p rest ih =>
    obtain ⟨k, v⟩ := p
    obtain ⟨above, tail⟩ := List.pairwise_cons.mp sorted
    by_cases same : k = key
    · subst same
      have others : rest.filter (fun p => p.1 == k) = [] := by
        rw [List.filter_eq_nil_iff]
        intro p m
        have := above p m
        simp only [beq_iff_eq]
        exact fun e => absurd (e ▸ this) (String.lt_irrefl k)
      simp [List.lookup, others]
    · have differ : (key == k) = false := by simpa using fun e => same e.symm
      simp [List.lookup, same, differ, ih tail]

namespace Collections

theorem filter_flatMap_entries (pairs : List (String × SortedMap Fields)) (keep : String → Bool) :
    ((pairs.flatMap fun p => (listed p.2).map fun d => (p.1, d)).filter fun e =>
      keep e.1).map Prod.snd = (pairs.filter fun p => keep p.1).flatMap fun p => listed p.2 := by
  induction pairs with
  | nil => rfl
  | cons p rest ih =>
    rw [List.flatMap_cons, List.filter_append, List.map_append, ih, List.filter_map]
    by_cases kept : keep p.1 = true
    · simp [Function.comp_def, kept]
    · simp [Function.comp_def, kept]

theorem inScope_eq {store : Collections} {scope : Scope} (valid : scope.IsValid) :
    store.inScope scope =
      .ok ((store.entries.filter fun e => scope.covers e.1).map Prod.snd) := by
  unfold entries
  rw [filter_flatMap_entries]
  cases scope with
  | collection path =>
    have named : Path.namesCollection (Path.trim path) = true := valid
    simp only [inScope, named, if_true, Scope.covers, SortedMap.filter_pairs]
    unfold documents
    cases store.byPath.get? (Path.trim path) with
    | none => rfl
    | some docs => simp
  | group name => rfl

theorem accepted_eq {store : Collections} {q : StoreQuery} (valid : q.scope.IsValid) :
    store.accepted q = .ok (store.matching q) := by
  unfold accepted matching
  rw [inScope_eq valid]
  simp only [Except.map, List.filter_map, List.filter_filter]
  congr 3
  funext e
  exact Bool.and_comm _ _

end Collections

namespace OrderBy

def rankKey (order : OrderBy) (d : Document) : OrderKey :=
  ((d.get? order.field).getD .null).orderKey

/-- The comparison of the sort, made total by giving every document a key. -/
def precedes (order : OrderBy) (a b : Document) : Bool :=
  match order.direction with
  | .ascending => decide (order.rankKey a ≤ order.rankKey b)
  | .descending => decide (order.rankKey b ≤ order.rankKey a)

theorem precedes_trans (order : OrderBy) (a b c : Document) :
    order.precedes a b = true → order.precedes b c = true → order.precedes a c = true := by
  unfold precedes
  cases order.direction with
  | ascending =>
    simp only [decide_eq_true_eq]
    exact le_trans
  | descending =>
    simp only [decide_eq_true_eq]
    exact fun h k => le_trans k h

theorem precedes_total (order : OrderBy) (a b : Document) :
    (order.precedes a b || order.precedes b a) = true := by
  unfold precedes
  cases order.direction with
  | ascending => simpa using le_total (order.rankKey a) (order.rankKey b)
  | descending => simpa using le_total (order.rankKey b) (order.rankKey a)

theorem ranks_iff {order : OrderBy} {d : Document} :
    order.ranks d = true ↔ ∃ x, d.get? order.field = some x := by
  rw [ranks, Option.isSome_iff_exists]

theorem admits_iff {order : OrderBy} {a b : Document} (ha : order.ranks a = true)
    (hb : order.ranks b = true) : order.Admits a b ↔ order.precedes a b = true := by
  obtain ⟨x, hx⟩ := ranks_iff.mp ha
  obtain ⟨y, hy⟩ := ranks_iff.mp hb
  unfold Admits precedes rankKey
  cases order.direction <;>
    simp [hx, hy, Json.compareStored_isLE_iff, Json.compareStored_isGE_iff]

theorem mayPrecede_eq {order : OrderBy} {a b : Document} (ha : order.ranks a = true)
    (hb : order.ranks b = true) :
    Collections.mayPrecede order a b = order.precedes a b := by
  obtain ⟨x, hx⟩ := ranks_iff.mp ha
  obtain ⟨y, hy⟩ := ranks_iff.mp hb
  rw [Bool.eq_iff_iff, ← admits_iff ha hb]
  unfold Collections.mayPrecede Admits
  cases order.direction <;>
    simp [hx, hy, Ordering.isLE_iff_ne_gt, Ordering.isGE_iff_ne_lt]

theorem precedes_of_ties {order : OrderBy} {v : Json} {a b : Document}
    (ha : order.ties v a = true) (hb : order.ties v b = true) : order.precedes a b = true := by
  simp only [ties, Option.any_eq_true, beq_iff_eq, Json.compareStored_eq_eq_iff] at ha hb
  obtain ⟨x, hx, ex⟩ := ha
  obtain ⟨y, hy, ey⟩ := hb
  have same : order.rankKey a = order.rankKey b := by simp [rankKey, hx, hy, ← ex, ← ey]
  unfold precedes
  cases order.direction <;> simp [same]

end OrderBy

/-- A stable sort keeps the elements of a class in place among each other when any two of them
may precede one another. -/
theorem filter_mergeSort {α : Type} {le : α → α → Bool}
    (trans : ∀ a b c, le a b = true → le b c = true → le a c = true)
    (total : ∀ a b, (le a b || le b a) = true) {p : α → Bool}
    (tied : ∀ a b, p a = true → p b = true → le a b = true) (l : List α) :
    (l.mergeSort le).filter p = l.filter p := by
  have ordered : (l.filter p).Pairwise fun a b => le a b = true := by
    rw [List.pairwise_iff_forall_sublist]
    intro a b sub
    have ma := (List.mem_filter.mp (sub.subset (List.mem_cons_self ..))).2
    have mb := (List.mem_filter.mp (sub.subset (by simp : b ∈ [a, b]))).2
    exact tied a b ma mb
  have sub := List.sublist_mergeSort trans total ordered List.filter_sublist
  have within := sub.filter p
  rw [List.filter_filter] at within
  simp only [Bool.and_self] at within
  exact (within.eq_of_length ((List.mergeSort_perm l le).filter p).length_eq.symm).symm

namespace Collections

theorem sortBy_eq (order : OrderBy) (docs : List Document) :
    sortBy order docs = (docs.filter order.ranks).mergeSort order.precedes := by
  have same := List.map_mergeSort (l := docs.filter order.ranks) (r := mayPrecede order)
    (s := order.precedes) (f := id) (by
      intro a ha b hb
      exact OrderBy.mayPrecede_eq (List.mem_filter.mp ha).2 (List.mem_filter.mp hb).2)
  rw [List.map_id, List.map_id] at same
  exact same

theorem perm_sortBy (order : OrderBy) (docs : List Document) :
    (sortBy order docs).Perm (docs.filter order.ranks) := by
  rw [sortBy_eq]
  exact List.mergeSort_perm _ _

theorem admits_sortBy (order : OrderBy) (docs : List Document) :
    (sortBy order docs).Pairwise order.Admits := by
  have ranked : ∀ d ∈ sortBy order docs, order.ranks d = true := by
    intro d m
    exact (List.mem_filter.mp ((perm_sortBy order docs).mem_iff.mp m)).2
  have sorted := List.pairwise_mergeSort order.precedes_trans order.precedes_total
    (docs.filter order.ranks)
  rw [← sortBy_eq] at sorted
  exact sorted.imp_of_mem fun ha hb h => (OrderBy.admits_iff (ranked _ ha) (ranked _ hb)).mpr h

theorem filter_ties_sortBy (order : OrderBy) (v : Json) (docs : List Document) :
    (sortBy order docs).filter (order.ties v) = docs.filter (order.ties v) := by
  rw [sortBy_eq, filter_mergeSort order.precedes_trans order.precedes_total
    (fun a b => OrderBy.precedes_of_ties), List.filter_filter]
  congr 1
  funext d
  cases h : d.get? order.field <;> simp [OrderBy.ties, OrderBy.ranks, h]

theorem fetch_eq {store : Collections} {q : StoreQuery} (valid : q.scope.IsValid) :
    store.fetch q = .ok (
      let sorted := match q.order with
        | some order => sortBy order (store.matching q)
        | none => store.matching q
      match q.limit with
      | some n => sorted.take n
      | none => sorted) := by
  unfold fetch
  rw [accepted_eq valid]
  rfl

/-- A fetch filters, keeps the documents with the order field, sorts them stably from the order of
path and identity, and takes the first of them. -/
theorem fetch_is_stable_top_n (store : Collections) (q : StoreQuery) (valid : q.scope.IsValid) :
    (store.entries.Pairwise fun a b => a.1 < b.1 ∨ a.1 = b.1 ∧ a.2.id < b.2.id) ∧
    store.fetch { q with order := none, limit := none } = .ok (store.matching q) ∧
    (∀ order, ∃ sorted,
      store.fetch { q with order := some order, limit := none } = .ok sorted ∧
      sorted.Perm ((store.matching q).filter order.ranks) ∧
      sorted.Pairwise order.Admits ∧
      (∀ v, sorted.filter (order.ties v) = (store.matching q).filter (order.ties v)) ∧
      ∀ n, ∃ left, store.fetch { q with order := some order, limit := some n } =
          .ok (sorted.take n) ∧
        (sorted.take n ++ left).Perm ((store.matching q).filter order.ranks) ∧
        ∀ d ∈ sorted.take n, ∀ e ∈ left, order.Admits d e) ∧
    ∀ order n, store.fetch { q with order := order, limit := some n } =
      (store.fetch { q with order := order, limit := none }).map (·.take n) := by
  refine ⟨store.entries_sorted, fetch_eq valid, fun order => ?_, fun order n => ?_⟩
  · have ordered := admits_sortBy order (store.matching q)
    refine ⟨sortBy order (store.matching q), fetch_eq valid, perm_sortBy _ _, ordered,
      fun v => filter_ties_sortBy order v _, fun n => ?_⟩
    refine ⟨(sortBy order (store.matching q)).drop n, fetch_eq valid, ?_, ?_⟩
    · rw [List.take_append_drop]
      exact perm_sortBy _ _
    · rw [← List.take_append_drop n (sortBy order (store.matching q)),
        List.pairwise_append] at ordered
      exact ordered.2.2
  · rw [fetch_eq (q := { q with order := order, limit := some n }) valid,
      fetch_eq (q := { q with order := order, limit := none }) valid]
    cases order <;> rfl

def users : Collections :=
  ((empty.insert "/users" "u1" (.object [("age", .string "3")])).insert
    "users/" "u2" (.object [])).insert "users" "u3" (.object [("age", .number (.integer 7))])

def oldestUsers : StoreQuery where
  scope := .collection "users/"
  filters := []
  order := some ⟨"age", .descending⟩
  limit := some 2

theorem fetch_is_stable_top_n_of_users : oldestUsers.scope.IsValid ∧
    users.fetch { oldestUsers with order := none, limit := none } =
      .ok (users.matching oldestUsers) ∧
    ∃ sorted, users.fetch { oldestUsers with limit := none } = .ok sorted ∧
      sorted.map Document.id = ["u1", "u3"] ∧
      sorted.Pairwise (OrderBy.Admits ⟨"age", .descending⟩) := by
  have valid : oldestUsers.scope.IsValid := by
    show Path.namesCollection (Path.trim "users/") = true
    decide
  obtain ⟨-, all, ordered, -⟩ := fetch_is_stable_top_n users oldestUsers valid
  obtain ⟨sorted, found, -, admits, -⟩ := ordered ⟨"age", .descending⟩
  refine ⟨valid, all, sorted, found, ?_, admits⟩
  have ids : (users.fetch { oldestUsers with limit := none }).toOption.map
      (·.map Document.id) = some ["u1", "u3"] := by cbv
  have here : users.fetch { oldestUsers with limit := none } = .ok sorted := found
  rw [here] at ids
  exact Option.some.inj ids

end Collections

end DocQuery
