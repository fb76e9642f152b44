import DocQuery.Store.SortedMap
import Mathlib.Data.List.Basic

/-!
# Maps by what they hold

A map is known by the value of each key. Inserting sets the value of one key and of no other, and
changing every value keeps the keys in their places.
-/

namespace DocQuery

section Pairs

variable {α β : Type}

theorem lookup_insertPair (key : String) (value : α) (l : List (String × α)) (name : String) :
    (insertPair key value l).lookup name = if name = key then some value else l.lookup name := by
  induction l with
  | nil =>
    by_cases same : name = key
    · simp [insertPair, same]
    · simp [insertPair, same, List.lookup_cons, beq_eq_false_iff_ne.mpr same]
  | cons p rest ih =>
    obtain ⟨k, v⟩ := p
    by_cases same : name = key
    · subst same
      rw [if_pos rfl] at ih
      rw [insertPair, if_pos rfl]
      split
      · exact List.lookup_cons_self
      · split
        · exact List.lookup_cons_self
        · next differ =>
          rw [List.lookup_cons, beq_eq_false_iff_ne.mpr differ]
          exact ih
    · have differ : (name == key) = false := beq_eq_false_iff_ne.mpr same
      rw [insertPair, if_neg same]
      split
      · rw [List.lookup_cons, differ]
      · split
        · next e =>
          subst e
          rw [List.lookup_cons, List.lookup_cons, differ]
        · rw [List.lookup_cons, List.lookup_cons, ih, if_neg same]

theorem insertPair_map (f : α → β) (key : String) (value : α) (l : List (String × α)) :
    insertPair key (f value) (l.map fun p => (p.1, f p.2)) =
      (insertPair key value l).map fun p => (p.1, f p.2) := by
  induction l with
  | nil => rfl
  | cons p rest ih =>
    obtain ⟨k, v⟩ := p
    rw [List.map_cons, insertPair, insertPair, ih]
    split
    · rfl
    · split <;> rfl

theorem lookup_map (f : α → β) (l : List (String × α)) (name : String) :
    (l.map fun p => (p.1, f p.2)).lookup name = (l.lookup name).map f := by
  induction l with
  | nil => rfl
  | cons p rest ih =>
    obtain ⟨k, v⟩ := p
    rw [List.map_cons, List.lookup_cons, List.lookup_cons, ih]
    cases name == k <;> rfl

end Pairs

namespace SortedMap

variable {α β : Type}

theorem get?_insert (m : SortedMap α) (key : String) (value : α) (name : String) :
    (m.insert key value).get? name = if name = key then some value else m.get? name :=
  lookup_insertPair key value m.pairs name

theorem mem_keys_iff (m : SortedMap α) (name : String) :
    name ∈ m.keys ↔ (m.get? name).isSome = true := by
  rw [keys, get?, List.lookup_isSome_iff, List.mem_map]
  constructor
  · rintro ⟨p, there, rfl⟩
    exact ⟨p, there, beq_self_eq_true p.1⟩
  · rintro ⟨p, there, same⟩
    exact ⟨p, there, (eq_of_beq same).symm⟩

theorem keys_sorted (m : SortedMap α) : m.keys.Pairwise (· < ·) :=
  List.pairwise_map.mpr m.sorted

def map (f : α → β) (m : SortedMap α) : SortedMap β :=
  ⟨m.pairs.map fun p => (p.1, f p.2), List.pairwise_map.mpr m.sorted⟩

theorem get?_map (f : α → β) (m : SortedMap α) (name : String) :
    (m.map f).get? name = (m.get? name).map f :=
  lookup_map f m.pairs name

theorem map_insert (f : α → β) (m : SortedMap α) (key : String) (value : α) :
    (m.insert key value).map f = (m.map f).insert key (f value) :=
  ext (insertPair_map f key value m.pairs).symm

end SortedMap

end DocQuery
