import DocQuery.Json.Fields
import Mathlib.Data.List.Induction

/-!
# Fields put over fields

Putting pairs over fields changes the values of the keys that are there, in place, and brings the
others behind them in their own order.
-/

namespace DocQuery

section Pairs

variable {α : Type} {key : String} {value : α} {l : List (String × α)}

theorem lookup_eq_none_of_not_mem (h : key ∉ l.map Prod.fst) : l.lookup key = none := by
  rw [List.lookup_eq_none_iff]
  intro p m
  rw [bne_iff_ne]
  rintro rfl
  exact h (List.mem_map_of_mem m)

theorem putPair_of_not_mem (h : key ∉ l.map Prod.fst) :
    putPair key value l = l ++ [(key, value)] := by
  induction l with
  | nil => rfl
  | cons p rest ih =>
    obtain ⟨k, v⟩ := p
    rw [List.map_cons, List.mem_cons, not_or] at h
    have differ : k ≠ key := fun e => h.1 e.symm
    rw [putPair, if_neg differ, ih h.2]
    rfl

theorem putPair_of_mem (distinct : (l.map Prod.fst).Nodup) (h : key ∈ l.map Prod.fst) :
    putPair key value l = l.map fun p => (p.1, if p.1 = key then value else p.2) := by
  induction l with
  | nil => cases h
  | cons p rest ih =>
    obtain ⟨k, v⟩ := p
    rw [List.map_cons, List.nodup_cons] at distinct
    by_cases same : k = key
    · subst same
      have others : rest.map (fun p => (p.1, if p.1 = k then value else p.2)) = rest := by
        refine (List.map_congr_left fun p m => ?_).trans (List.map_id rest)
        have differ : p.1 ≠ k := fun e => distinct.1 (List.mem_map.mpr ⟨p, m, e⟩)
        rw [if_neg differ]
        rfl
      rw [putPair, if_pos rfl, List.map_cons, others, if_pos rfl]
    · have later : key ∈ rest.map Prod.fst := by
        rw [List.map_cons, List.mem_cons] at h
        exact h.resolve_left fun e => same e.symm
      rw [putPair, if_neg same, ih distinct.2 later, List.map_cons, if_neg same]

theorem lookup_filter_ne {name : String} (h : name ≠ key) (l : List (String × α)) :
    (l.filter fun p => p.1 ≠ key).lookup name = l.lookup name := by
  induction l with
  | nil => rfl
  | cons p rest ih =>
    obtain ⟨k, v⟩ := p
    by_cases same : k = key
    · have differ : (name == k) = false := beq_eq_false_iff_ne.mpr fun e => h (e.trans same)
      rw [List.filter_cons_of_neg (by simp [same]), ih, List.lookup_cons, differ]
    · rw [List.filter_cons_of_pos (by simpa using same), List.lookup_cons, List.lookup_cons, ih]

theorem lookup_cons_eq_ite (p : String × α) (l : List (String × α)) (name : String) :
    (p :: l).lookup name = if name = p.1 then some p.2 else l.lookup name := by
  rw [List.lookup_cons]
  by_cases same : name = p.1
  · simp [same]
  · simp [same, beq_eq_false_iff_ne.mpr same]

theorem lookup_putPair (name : String) :
    (putPair key value l).lookup name = if name = key then some value else l.lookup name := by
  induction l with
  | nil => exact lookup_cons_eq_ite (key, value) [] name
  | cons p rest ih =>
    obtain ⟨k, v⟩ := p
    by_cases same : k = key
    · rw [putPair, if_pos same, lookup_cons_eq_ite, lookup_cons_eq_ite, same]
      by_cases asked : name = key <;> simp [asked]
    · rw [putPair, if_neg same, lookup_cons_eq_ite, lookup_cons_eq_ite, ih]
      by_cases asked : name = k
      · rw [if_pos asked, if_neg (asked ▸ same), if_pos asked]
      · rw [if_neg asked, if_neg asked]

end Pairs

namespace Fields

theorem keys_put_of_mem {f : Fields} {key : String} (h : key ∈ f.keys) (value : Json) :
    (f.put key value).keys = f.keys := by
  have there : key ∈ f.pairs.map Prod.fst := h
  have kept := keys_putPair key value f.pairs
  rw [if_pos there] at kept
  exact kept

theorem keys_put_of_not_mem {f : Fields} {key : String} (h : key ∉ f.keys) (value : Json) :
    (f.put key value).keys = f.keys ++ [key] := by
  have absent : key ∉ f.pairs.map Prod.fst := h
  have grown := keys_putPair key value f.pairs
  rw [if_neg absent] at grown
  exact grown

/-- Distinct pairs put over fields: keys that are there take the new values, the others follow. -/
theorem pairs_putAll (f : Fields) {pairs : List (String × Json)}
    (distinct : (pairs.map Prod.fst).Nodup) :
    (f.putAll pairs).pairs =
      (f.pairs.map fun p => (p.1, (pairs.lookup p.1).getD p.2)) ++
        pairs.filter fun p => p.1 ∉ f.keys := by
  induction pairs generalizing f with
  | nil => simp [putAll]
  | cons p rest ih =>
    obtain ⟨k, v⟩ := p
    rw [List.map_cons, List.nodup_cons] at distinct
    have once : rest.lookup k = none := lookup_eq_none_of_not_mem distinct.1
    have later := ih (f.put k v) distinct.2
    by_cases h : k ∈ f.keys
    · have placed : (f.put k v).pairs =
          f.pairs.map fun p => (p.1, if p.1 = k then v else p.2) := putPair_of_mem f.nodup h
      rw [keys_put_of_mem h, placed, List.map_map] at later
      rw [List.filter_cons_of_neg (by simp [h])]
      refine later.trans (congrArg (· ++ _) (List.map_congr_left fun p _ => ?_))
      by_cases same : p.1 = k
      · simp [same, once]
      · simp [same, List.lookup_cons, beq_eq_false_iff_ne.mpr same]
    · have placed : (f.put k v).pairs = f.pairs ++ [(k, v)] := putPair_of_not_mem h
      have fresh : rest.filter (fun p => p.1 ∉ f.keys ++ [k]) =
          rest.filter fun p => p.1 ∉ f.keys := by
        refine List.filter_congr fun p m => ?_
        have differ : p.1 ≠ k := fun e => distinct.1 (List.mem_map.mpr ⟨p, m, e⟩)
        simp [differ]
      rw [keys_put_of_not_mem h, placed, List.map_append, fresh] at later
      rw [List.filter_cons_of_pos (by simpa using h)]
      refine later.trans ?_
      rw [List.append_assoc, List.map_singleton, once]
      refine congrArg (· ++ _) (List.map_congr_left fun p m => ?_)
      have differ : p.1 ≠ k := fun e => h (e ▸ List.mem_map_of_mem m)
      simp [List.lookup_cons, beq_eq_false_iff_ne.mpr differ]

theorem pairs_ofPairs_cons (key : String) (value : Json) (f : Fields) :
    (ofPairs ((key, value) :: f.pairs)).pairs =
      (key, (f.get? key).getD value) :: f.pairs.filter fun p => p.1 ≠ key := by
  have start : ofPairs ((key, value) :: f.pairs) = (empty.put key value).putAll f.pairs := rfl
  rw [start, pairs_putAll _ f.nodup]
  simp [put, empty, putPair, keys, get?]

theorem ofPairs_append_singleton (pairs : List (String × Json)) (p : String × Json) :
    ofPairs (pairs ++ [p]) = (ofPairs pairs).put p.1 p.2 := by
  unfold ofPairs putAll
  rw [List.foldl_append]
  rfl

theorem keys_ofPairs (pairs : List (String × Json)) :
    (ofPairs pairs).keys = (pairs.map Prod.fst).eraseDups := by
  induction pairs using List.reverseRecOn with
  | nil => rfl
  | append_singleton pairs p ih =>
    rw [ofPairs_append_singleton, List.map_append, List.eraseDups_append, ← ih]
    have there : p.1 ∈ (ofPairs pairs).keys ↔ p.1 ∈ pairs.map Prod.fst := by
      rw [ih, List.mem_eraseDups]
    by_cases m : p.1 ∈ (ofPairs pairs).keys
    · rw [keys_put_of_mem m]
      simp [List.removeAll, there.mp m]
    · rw [keys_put_of_not_mem m]
      simp [List.removeAll, List.eraseDups_cons, mt there.mpr m]

theorem get?_ofPairs (pairs : List (String × Json)) (key : String) :
    (ofPairs pairs).get? key = pairs.reverse.lookup key := by
  induction pairs using List.reverseRecOn with
  | nil => rfl
  | append_singleton pairs p ih =>
    rw [ofPairs_append_singleton, List.reverse_append, List.reverse_singleton,
      List.singleton_append, lookup_cons_eq_ite, ← ih]
    exact lookup_putPair key

theorem pairs_ofPairs (f : Fields) : (ofPairs f.pairs).pairs = f.pairs := by
  have start : ofPairs f.pairs = empty.putAll f.pairs := rfl
  rw [start, pairs_putAll _ f.nodup]
  simp [empty, keys]

end Fields

end DocQuery
