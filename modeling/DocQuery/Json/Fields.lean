import DocQuery.Json.Basic

/-!
# Fields in order of insertion

The fields of a document and the columns of a row are pairs with distinct keys, in the order in
which the keys were first put. Putting a present key changes its value in place. Removing a key
moves the last field into the gap.
-/

namespace DocQuery

/-- Puts a pair into a list of pairs: in place of the one with its key, otherwise at the end. -/
def putPair {α : Type} (key : String) (value : α) : List (String × α) → List (String × α)
  | [] => [(key, value)]
  | (k, v) :: rest => if k = key then (key, value) :: rest else (k, v) :: putPair key value rest

def lastFirst {α : Type} (l : List α) : List α :=
  l.getLast?.toList ++ l.dropLast

/-- Removes the pair with a key, the last pair taking its place. -/
def removePair {α : Type} (key : String) : List (String × α) → List (String × α)
  | [] => []
  | (k, v) :: rest => if k = key then lastFirst rest else (k, v) :: removePair key rest

theorem keys_putPair {α : Type} (key : String) (value : α) (l : List (String × α)) :
    (putPair key value l).map Prod.fst =
      if key ∈ l.map Prod.fst then l.map Prod.fst else l.map Prod.fst ++ [key] := by
  induction l with
  | nil => simp [putPair]
  | cons p rest ih =>
    obtain ⟨k, v⟩ := p
    by_cases h : k = key
    · simp [putPair, h]
    · have h' : ¬key = k := fun e => h e.symm
      by_cases m : key ∈ rest.map Prod.fst
      · simp only [putPair, h, if_false, List.map_cons, ih, m, if_true, List.mem_cons, or_true]
      · simp only [putPair, h, if_false, List.map_cons, ih, m, List.mem_cons, h', or_self,
          List.cons_append]

theorem nodup_putPair {α : Type} (key : String) (value : α) {l : List (String × α)}
    (h : (l.map Prod.fst).Nodup) : ((putPair key value l).map Prod.fst).Nodup := by
  rw [keys_putPair]
  split
  · exact h
  · next m =>
    rw [List.nodup_append]
    refine ⟨h, by simp, ?_⟩
    intro a ha b hb e
    rw [List.mem_singleton] at hb
    exact m (hb ▸ e ▸ ha)

theorem perm_lastFirst {α : Type} (l : List α) : (lastFirst l).Perm l := by
  cases h : l.getLast? with
  | none => rw [List.getLast?_eq_none_iff] at h; subst h; exact .refl _
  | some a =>
    obtain ⟨init, rfl⟩ := List.getLast?_eq_some_iff.mp h
    have swap : ([a] ++ init).Perm (init ++ [a]) := List.perm_append_comm
    simpa [lastFirst] using swap

theorem perm_keys_removePair {α : Type} (key : String) (l : List (String × α)) :
    ((removePair key l).map Prod.fst).Perm ((l.map Prod.fst).erase key) := by
  induction l with
  | nil => exact .refl _
  | cons p rest ih =>
    obtain ⟨k, v⟩ := p
    by_cases h : k = key
    · subst h
      simpa [removePair] using (perm_lastFirst rest).map Prod.fst
    · simpa [removePair, h, List.erase_cons_tail] using ih.cons k

theorem nodup_removePair {α : Type} (key : String) {l : List (String × α)}
    (h : (l.map Prod.fst).Nodup) : ((removePair key l).map Prod.fst).Nodup :=
  (perm_keys_removePair key l).nodup_iff.mpr (h.erase key)

/-- Fields with distinct keys, in order of insertion. -/
structure Fields where
  pairs : List (String × Json)
  nodup : (pairs.map Prod.fst).Nodup

namespace Fields

def empty : Fields := ⟨[], List.nodup_nil⟩

def keys (f : Fields) : List String := f.pairs.map Prod.fst

def get? (f : Fields) (key : String) : Option Json := f.pairs.lookup key

def put (f : Fields) (key : String) (value : Json) : Fields :=
  ⟨putPair key value f.pairs, nodup_putPair key value f.nodup⟩

def putAll (f : Fields) (pairs : List (String × Json)) : Fields :=
  pairs.foldl (fun f p => f.put p.1 p.2) f

/-- The fields that a list of pairs gives: the last value of each key, at its first place. -/
def ofPairs (pairs : List (String × Json)) : Fields := empty.putAll pairs

def remove (f : Fields) (key : String) : Fields :=
  ⟨removePair key f.pairs, nodup_removePair key f.nodup⟩

def toJson (f : Fields) : Json := .object f.pairs

@[ext] theorem ext {f g : Fields} (h : f.pairs = g.pairs) : f = g := by
  cases f; cases g; cases h; rfl

end Fields

end DocQuery
