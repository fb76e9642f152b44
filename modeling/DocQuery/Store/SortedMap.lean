/-!
# Maps sorted by key

A map from strings is a list of pairs with strictly increasing keys, in the order of code points,
which is the byte order of UTF-8. Two maps with the same pairs are equal.
-/

namespace DocQuery

def insertPair {α : Type} (key : String) (value : α) : List (String × α) → List (String × α)
  | [] => [(key, value)]
  | (k, v) :: rest =>
    if key < k then (key, value) :: (k, v) :: rest
    else if key = k then (key, value) :: rest
    else (k, v) :: insertPair key value rest

theorem mem_insertPair {α : Type} {key : String} {value : α} {l : List (String × α)}
    {p : String × α} (h : p ∈ insertPair key value l) : p = (key, value) ∨ p ∈ l := by
  induction l with
  | nil => simpa [insertPair] using h
  | cons q rest ih =>
    obtain ⟨k, v⟩ := q
    rw [insertPair] at h
    split at h
    · simpa using h
    · split at h
      · rcases List.mem_cons.mp h with e | m
        · exact .inl e
        · exact .inr (List.mem_cons_of_mem _ m)
      · rcases List.mem_cons.mp h with e | m
        · exact .inr (e ▸ List.mem_cons_self)
        · exact (ih m).imp_right (List.mem_cons_of_mem _)

theorem pairwise_insertPair {α : Type} (key : String) (value : α) {l : List (String × α)}
    (h : l.Pairwise fun p q => p.1 < q.1) :
    (insertPair key value l).Pairwise fun p q => p.1 < q.1 := by
  induction l with
  | nil => simp [insertPair]
  | cons q rest ih =>
    obtain ⟨k, v⟩ := q
    have above := (List.pairwise_cons.mp h).1
    have tail := (List.pairwise_cons.mp h).2
    rw [insertPair]
    split
    · next less =>
      refine List.pairwise_cons.mpr ⟨fun p m => ?_, h⟩
      rcases List.mem_cons.mp m with e | m
      · exact e ▸ less
      · exact String.lt_trans less (above p m)
    · next notLess =>
      split
      · next e => exact List.pairwise_cons.mpr ⟨fun p m => e ▸ above p m, tail⟩
      · next ne =>
        refine List.pairwise_cons.mpr ⟨fun p m => ?_, ih tail⟩
        rcases mem_insertPair m with e | m
        · subst e
          rcases String.le_total k key with le | le
          · exact Decidable.byContradiction fun not =>
              ne (String.le_antisymm (String.not_lt.mp not) le)
          · exact absurd (Decidable.byContradiction fun not =>
              ne (String.le_antisymm le (String.not_lt.mp not))) notLess
        · exact above p m

/-- A map from strings, its pairs in increasing order of their keys. -/
structure SortedMap (α : Type) where
  pairs : List (String × α)
  sorted : pairs.Pairwise fun p q => p.1 < q.1

namespace SortedMap

variable {α : Type}

def empty : SortedMap α := ⟨[], .nil⟩

def keys (m : SortedMap α) : List String := m.pairs.map Prod.fst

def size (m : SortedMap α) : Nat := m.pairs.length

def get? (m : SortedMap α) (key : String) : Option α := m.pairs.lookup key

def insert (m : SortedMap α) (key : String) (value : α) : SortedMap α :=
  ⟨insertPair key value m.pairs, pairwise_insertPair key value m.sorted⟩

@[ext] theorem ext {m n : SortedMap α} (h : m.pairs = n.pairs) : m = n := by
  cases m; cases n; cases h; rfl

end SortedMap

end DocQuery
