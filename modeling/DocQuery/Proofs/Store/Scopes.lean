import DocQuery.Proofs.Store.Writes

/-!
# What a query sees of a store

A store query reads the documents of its scope and nothing else, so stores that hold the same
documents there answer it alike, whatever else they hold. A scope that names no collection is
refused by all of them.
-/

namespace DocQuery

namespace Collections

theorem ids_listed (docs : SortedMap Fields) : (listed docs).map Document.id = docs.keys := by
  rw [listed, List.map_map]
  rfl

theorem ids_listed_sorted (docs : SortedMap Fields) :
    (listed docs).Pairwise fun a b => a.id < b.id := by
  have keys := docs.keys_sorted
  rwa [← ids_listed, List.pairwise_map] at keys

def entriesIn (store : Collections) (scope : Scope) : List (String × Document) :=
  store.entries.filter fun e => scope.covers e.1

/-- Two stores hold the same documents in the collections that a scope covers. -/
def AgreeOn (scope : Scope) (store other : Collections) : Prop :=
  ∀ p i, scope.covers p = true → store.fieldsAt? p i = other.fieldsAt? p i

/-- Both stores give the same answer to a store query, be it documents, a number or an error. -/
def AnswerAlike (store other : Collections) (q : StoreQuery) : Prop :=
  store.fetch q = other.fetch q ∧ store.count q = other.count q

section Agreement

variable {store other : Collections} {scope : Scope} (agree : AgreeOn scope store other)

include agree

/-- The entries in a scope are in order, so their places follow from which ones they are. -/
theorem entriesIn_congr : store.entriesIn scope = other.entriesIn scope := by
  have precedes (s : Collections) : (s.entriesIn scope).Pairwise fun a b =>
      a.1 < b.1 ∨ a.1 = b.1 ∧ a.2.id < b.2.id := s.entries_sorted.filter _
  have distinct (s : Collections) : (s.entriesIn scope).Nodup := by
    refine (precedes s).imp fun {a b} less same => ?_
    rcases less with less | ⟨-, less⟩
    · exact less.ne (congrArg Prod.fst same)
    · exact less.ne (congrArg (fun e => e.2.id) same)
  have members (e : String × Document) : e ∈ store.entriesIn scope ↔ e ∈ other.entriesIn scope := by
    obtain ⟨p, d⟩ := e
    rw [entriesIn, entriesIn, List.mem_filter, List.mem_filter, mem_entries_iff, mem_entries_iff]
    exact and_congr_left fun covered => by rw [agree p d.id covered]
  have perm := (List.perm_ext_iff_of_nodup (distinct store) (distinct other)).mpr members
  refine perm.eq_of_pairwise (fun a b _ _ less more => ?_) (precedes store) (precedes other)
  rcases less with less | ⟨same, less⟩ <;> rcases more with more | ⟨same', more⟩
  · exact absurd less more.asymm
  · exact absurd same'.symm less.ne
  · exact absurd same.symm more.ne
  · exact absurd less more.asymm

theorem inScope_congr : store.inScope scope = other.inScope scope := by
  by_cases valid : scope.IsValid
  · rw [inScope_eq valid, inScope_eq valid]
    exact congrArg (fun es => Except.ok (es.map Prod.snd)) (entriesIn_congr agree)
  · -- Only the path of a collection can be invalid, and it is refused before any document is read.
    cases scope with
    | group name => exact absurd trivial valid
    | collection path =>
      have refused : ¬Path.namesCollection (Path.trim path) = true := valid
      simp only [inScope, if_neg refused]

end Agreement

theorem answerAlike_of_agreeOn {store other : Collections} {q : StoreQuery}
    (agree : AgreeOn q.scope store other) : AnswerAlike store other q := by
  have accepted : store.accepted q = other.accepted q := by
    unfold accepted
    rw [inScope_congr agree]
  constructor
  · unfold fetch
    rw [accepted]
  · unfold count
    rw [accepted]

section Unordered

variable (store : Collections) {q : StoreQuery} (order : q.order = none)

include order

theorem fetch_unordered (limit : q.limit = none) : store.fetch q = store.accepted q := by
  unfold fetch
  rw [order, limit]
  cases store.accepted q <;> rfl

theorem count_unordered (limit : q.limit = none) :
    store.count q = (store.fetch q).map List.length := by
  rw [fetch_unordered store order limit, count]

end Unordered

theorem fetch_whole (store : Collections) {path : String}
    (named : (Scope.collection path).IsValid) :
    store.fetch { scope := .collection path } =
      .ok (listed (store.documents (Path.trim path))) := by
  have valid : Path.namesCollection (Path.trim path) = true := named
  have all (docs : List Document) : docs.filter (fun d => ([] : List Condition).all (·.accepts d)) =
      docs := List.filter_eq_self.mpr fun _ _ => rfl
  rw [fetch_unordered store rfl rfl]
  simp only [accepted, inScope, valid, if_true, Except.map, all]

end Collections

end DocQuery
