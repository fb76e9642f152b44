import DocQuery.Proofs.Json.Fields
import Mathlib.Data.List.Nodup

/-!
# Fields with a key removed

Removing a key removes its value and no other. The last field comes to the place of the removed
one, so a list of fields whose first key is removed begins with what was its last field.
-/

namespace DocQuery

section Pairs

variable {α : Type} {l l' : List (String × α)}

theorem lookup_eq_some_iff_mem (distinct : (l.map Prod.fst).Nodup) (key : String) (value : α) :
    l.lookup key = some value ↔ (key, value) ∈ l := by
  rw [List.lookup_eq_some_iff]
  constructor
  · rintro ⟨before, after, rfl, -⟩
    simp
  · intro there
    obtain ⟨before, after, rfl⟩ := List.mem_iff_append.mp there
    refine ⟨before, after, rfl, fun p m => ?_⟩
    rw [List.map_append, List.map_cons, List.nodup_middle, List.nodup_cons, List.mem_append,
      not_or] at distinct
    rw [bne_iff_ne]
    intro same
    exact distinct.1.1 (List.mem_map.mpr ⟨p, m, same.symm⟩)

theorem lookup_eq_of_perm (distinct : (l.map Prod.fst).Nodup) (same : l.Perm l') (key : String) :
    l.lookup key = l'.lookup key := by
  have distinct' := (same.map Prod.fst).nodup_iff.mp distinct
  ext value
  rw [lookup_eq_some_iff_mem distinct, lookup_eq_some_iff_mem distinct', same.mem_iff]

theorem mem_removePair_iff (distinct : (l.map Prod.fst).Nodup) (key : String)
    (p : String × α) : p ∈ removePair key l ↔ p ∈ l ∧ p.1 ≠ key := by
  induction l with
  | nil => simp [removePair]
  | cons q rest ih =>
    obtain ⟨k, v⟩ := q
    rw [List.map_cons, List.nodup_cons] at distinct
    rw [removePair, List.mem_cons]
    by_cases same : k = key
    · subst same
      have others : p ∈ rest → p.1 ≠ k := fun m e => distinct.1 (List.mem_map.mpr ⟨p, m, e⟩)
      rw [if_pos rfl, (perm_lastFirst rest).mem_iff]
      constructor
      · intro m
        exact ⟨.inr m, others m⟩
      · rintro ⟨rfl | m, differ⟩
        · exact absurd rfl differ
        · exact m
    · rw [if_neg same, List.mem_cons, ih distinct.2]
      constructor
      · rintro (rfl | ⟨m, differ⟩)
        · exact ⟨.inl rfl, same⟩
        · exact ⟨.inr m, differ⟩
      · rintro ⟨rfl | m, differ⟩
        · exact .inl rfl
        · exact .inr ⟨m, differ⟩

/-- Moving the last of several elements to the front changes their order. -/
theorem lastFirst_eq_self_iff {α : Type} {l : List α} (distinct : l.Nodup) :
    lastFirst l = l ↔ l.length ≤ 1 := by
  cases l with
  | nil => simp [lastFirst]
  | cons a rest =>
    cases rest with
    | nil => simp [lastFirst]
    | cons b rest =>
      have last : (a :: b :: rest).getLast? = some ((b :: rest).getLast (by simp)) := by
        rw [List.getLast?_cons_cons, List.getLast?_eq_some_getLast (by simp)]
      have differ : (b :: rest).getLast (by simp) ≠ a := by
        intro same
        exact (List.nodup_cons.mp distinct).1 (same ▸ List.getLast_mem _)
      constructor
      · intro same
        rw [lastFirst, last] at same
        exact absurd (List.cons.inj same).1 differ
      · intro short
        simp at short

end Pairs

namespace Fields

variable (f : Fields)

theorem get?_eq_some_iff (key : String) (value : Json) :
    f.get? key = some value ↔ (key, value) ∈ f.pairs :=
  lookup_eq_some_iff_mem f.nodup key value

theorem get?_remove_of_ne {key name : String} (differ : name ≠ key) :
    (f.remove key).get? name = f.get? name := by
  ext value
  rw [get?_eq_some_iff, get?_eq_some_iff, remove, mem_removePair_iff f.nodup]
  exact and_iff_left differ

theorem get?_remove_self (key : String) : (f.remove key).get? key = none := by
  rw [Option.eq_none_iff_forall_ne_some]
  intro value there
  rw [get?_eq_some_iff, remove, mem_removePair_iff f.nodup] at there
  exact there.2 rfl

/-- The fields with the last one in front of all others. -/
def lastFirst : Fields :=
  ⟨DocQuery.lastFirst f.pairs, ((perm_lastFirst f.pairs).map Prod.fst).nodup_iff.mpr f.nodup⟩

theorem get?_lastFirst (key : String) : f.lastFirst.get? key = f.get? key :=
  lookup_eq_of_perm f.lastFirst.nodup (perm_lastFirst f.pairs) key

theorem mem_keys_lastFirst_iff (key : String) : key ∈ f.lastFirst.keys ↔ key ∈ f.keys :=
  ((perm_lastFirst f.pairs).map Prod.fst).mem_iff

theorem lastFirst_eq_self_iff : f.lastFirst = f ↔ f.pairs.length ≤ 1 := by
  rw [← DocQuery.lastFirst_eq_self_iff (List.Nodup.of_map Prod.fst f.nodup)]
  exact ⟨fun same => congrArg pairs same, fun same => ext same⟩

theorem pairs_ofPairs_cons_of_absent {key : String} (absent : key ∉ f.keys) (value : Json) :
    (ofPairs ((key, value) :: f.pairs)).pairs = (key, value) :: f.pairs := by
  have alone : f.pairs.filter (fun p => p.1 ≠ key) = f.pairs := by
    rw [List.filter_eq_self]
    intro p m
    have differ : p.1 ≠ key := fun e => absent (List.mem_map.mpr ⟨p, m, e⟩)
    simpa using differ
  have none : f.get? key = none := lookup_eq_none_of_not_mem absent
  rw [pairs_ofPairs_cons, alone, none]
  rfl

/-- Taking a new key away again brings the last field to its place in front. -/
theorem remove_ofPairs_cons {key : String} (absent : key ∉ f.keys) (value : Json) :
    (ofPairs ((key, value) :: f.pairs)).remove key = f.lastFirst := by
  have removed : ((ofPairs ((key, value) :: f.pairs)).remove key).pairs =
      removePair key (ofPairs ((key, value) :: f.pairs)).pairs := rfl
  rw [f.pairs_ofPairs_cons_of_absent absent value, removePair, if_pos rfl] at removed
  exact ext removed

end Fields

end DocQuery
