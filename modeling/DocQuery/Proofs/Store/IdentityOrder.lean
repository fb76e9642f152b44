import DocQuery.Proofs.Store.Scopes

/-!
# Documents in order of identity

Identities are strings, and an order compares them as it compares all stored strings: the ones that
name an instant come first, by time, and the others follow as texts. Sorting is stable, so identities
of one instant stay as texts are ordered, whatever the direction.
-/

namespace DocQuery

/-- Order of two identities: as instants when both name one, and otherwise as texts, behind those
that name one. -/
def compareIdentities (a b : String) : Ordering :=
  match (Json.string a).instant?, (Json.string b).instant? with
  | some s, some t => s.compare t
  | some _, none => .lt
  | none, some _ => .gt
  | none, none => compareString a b

theorem compareStored_string (a b : String) :
    Json.compareStored (.string a) (.string b) = compareIdentities a b := by
  unfold Json.compareStored compareIdentities Json.kindRank
  cases (Json.string a).instant? <;> cases (Json.string b).instant? <;> rfl

theorem compareIdentities_swap (a b : String) :
    (compareIdentities a b).swap = compareIdentities b a := by
  rw [← compareStored_string, ← compareStored_string, Json.compareStored_eq_compare,
    Json.compareStored_eq_compare]
  exact Std.OrientedCmp.eq_swap.symm

namespace Direction

/-- How the first of two values compares with the second when it comes first in this direction. -/
def first : Direction → Ordering
  | .ascending => .lt
  | .descending => .gt

theorem first_swap_ne (direction : Direction) : direction.first.swap ≠ direction.first := by
  cases direction <;> decide

theorem first_ne_eq (direction : Direction) : direction.first ≠ .eq := by
  cases direction <;> decide

/-- An identity comes before another one in a direction. Between two that compare equal the order of
texts decides, whatever the direction. -/
def Leads (direction : Direction) (a b : String) : Prop :=
  compareIdentities a b = direction.first ∨ compareIdentities a b = .eq ∧ a < b

instance (direction : Direction) (a b : String) : Decidable (direction.Leads a b) :=
  inferInstanceAs (Decidable (_ ∨ _))

theorem Leads.asymm {direction : Direction} {a b : String} (h : direction.Leads a b) :
    ¬direction.Leads b a := by
  have swap := compareIdentities_swap a b
  rcases h with first | ⟨same, less⟩
  · rintro (first' | ⟨same, -⟩)
    · rw [first, first'] at swap
      exact direction.first_swap_ne swap
    · rw [first, same] at swap
      cases direction <;> cases swap
  · rintro (first' | ⟨-, more⟩)
    · rw [same, first'] at swap
      exact direction.first_ne_eq swap.symm
    · exact absurd less more.asymm

theorem Leads.lt_of_eq {direction : Direction} {a b : String} (h : direction.Leads a b)
    (same : compareIdentities a b = .eq) : a < b := by
  rcases h with first | ⟨-, less⟩
  · exact absurd (first.symm.trans same) direction.first_ne_eq
  · exact less

/-- The list holds the identities, each before all that it leads. -/
structure Orders (direction : Direction) (ids list : List String) : Prop where
  perm : list.Perm ids
  leads : list.Pairwise direction.Leads

instance (direction : Direction) (ids list : List String) :
    Decidable (direction.Orders ids list) :=
  decidable_of_iff (list.Perm ids ∧ list.Pairwise direction.Leads)
    ⟨fun h => ⟨h.1, h.2⟩, fun h => ⟨h.1, h.2⟩⟩

theorem Orders.unique {direction : Direction} {ids list other : List String}
    (h : direction.Orders ids list) (h' : direction.Orders ids other) : list = other := by
  apply (h.perm.trans h'.perm.symm).eq_of_pairwise ?_ h.leads h'.leads
  intro a b _ _ leads leads'
  exact absurd leads' leads.asymm

end Direction

theorem pairwise_or_of_mem {r : String → String → Prop} {list : List String}
    (h : list.Pairwise r) {a b : String} (ma : a ∈ list) (mb : b ∈ list) (apart : a ≠ b) :
    r a b ∨ r b a := by
  have both : list.Pairwise fun x y => r x y ∨ r y x := h.imp .inl
  have : Std.Symm fun x y => r x y ∨ r y x := ⟨fun _ _ => Or.symm⟩
  exact both.forall ma mb apart

section Directions

variable {ids ascending descending : List String} (increasing : ids.Pairwise (· < ·))
  (up : Direction.ascending.Orders ids ascending)
  (down : Direction.descending.Orders ids descending)

include increasing up

/-- Identities ascend as texts exactly when none compares greater than a later text. -/
theorem ascending_eq_iff : ascending = ids ↔
    ∀ a ∈ ids, ∀ b ∈ ids, a < b → compareIdentities a b ≠ .gt := by
  constructor
  · rintro rfl a ma b mb less greater
    rcases pairwise_or_of_mem (up.leads.and increasing) ma mb less.ne with
      ⟨leads, -⟩ | ⟨-, more⟩
    · rcases leads with first | ⟨same, -⟩
      · exact absurd (first.symm.trans greater) (by decide)
      · exact absurd (same.symm.trans greater) (by decide)
    · exact absurd less more.asymm
  · intro kept
    have leads : ids.Pairwise Direction.ascending.Leads := by
      refine increasing.imp_of_mem ?_
      intro a b ma mb less
      have bound := kept a ma b mb less
      cases order : compareIdentities a b with
      | lt => exact .inl order
      | eq => exact .inr ⟨order, less⟩
      | gt => exact absurd order bound
    exact up.unique ⟨.refl ids, leads⟩

omit increasing

include down

theorem descending_eq_reverse_iff : descending = ascending.reverse ↔
    ∀ a ∈ ids, ∀ b ∈ ids, compareIdentities a b = .eq → a = b := by
  have reversed : ascending.reverse.Pairwise fun a b => Direction.ascending.Leads b a :=
    List.pairwise_reverse.mpr up.leads
  constructor
  · intro whole a ma b mb same
    by_contra apart
    have same' := compareIdentities_swap a b
    rw [same] at same'
    rw [← whole] at reversed
    have ma := down.perm.mem_iff.mpr ma
    have mb := down.perm.mem_iff.mpr mb
    -- Both directions put the lesser text first.
    rcases pairwise_or_of_mem (down.leads.and reversed) ma mb apart with ⟨here, there⟩ |
      ⟨here, there⟩
    · exact absurd (here.lt_of_eq same) (there.lt_of_eq same'.symm).asymm
    · exact absurd (here.lt_of_eq same'.symm) (there.lt_of_eq same).asymm
  · intro distinct
    have leads : ascending.reverse.Pairwise Direction.descending.Leads := by
      refine reversed.imp_of_mem ?_
      intro a b ma mb leads
      have ma := up.perm.mem_iff.mp (List.mem_reverse.mp ma)
      have mb := up.perm.mem_iff.mp (List.mem_reverse.mp mb)
      rcases leads with first | ⟨same, less⟩
      · have swap := compareIdentities_swap b a
        rw [first] at swap
        exact .inl swap.symm
      · exact absurd (distinct b mb a ma same) less.ne
    exact down.unique ⟨ascending.reverse_perm.trans up.perm, leads⟩

end Directions

theorem compareIdentities_of_texts {a b : String} (ha : (Json.string a).instant? = none)
    (hb : (Json.string b).instant? = none) : compareIdentities a b = compareString a b := by
  unfold compareIdentities
  rw [ha, hb]

namespace Collections

/-- A sort keeps the order of documents that tie. -/
theorem pairwise_sortBy {r : Document → Document → Prop} {docs : List Document}
    (sorted : docs.Pairwise r) (order : OrderBy) :
    (sortBy order docs).Pairwise fun a b => order.Admits a b ∧
      ∀ v, order.ties v a = true → order.ties v b = true → r a b := by
  have admits := admits_sortBy order docs
  rw [List.pairwise_iff_forall_sublist] at admits sorted ⊢
  intro a b pair
  refine ⟨admits pair, ?_⟩
  intro v ha hb
  have kept := pair.filter (order.ties v)
  have both : [a, b].filter (order.ties v) = [a, b] := by simp [ha, hb]
  rw [filter_ties_sortBy, both] at kept
  exact sorted (kept.trans List.filter_sublist)

def identitiesSorted (direction : Direction) (docs : SortedMap Fields) : List String :=
  (sortBy ⟨FieldName.identity, direction⟩ (listed docs)).map Document.id

theorem orders_identitiesSorted (direction : Direction) (docs : SortedMap Fields) :
    direction.Orders docs.keys (identitiesSorted direction docs) where
  perm := by
    have all : (listed docs).filter (OrderBy.ranks ⟨FieldName.identity, direction⟩) = listed docs :=
      List.filter_eq_self.mpr fun _ _ => rfl
    have sorted := perm_sortBy ⟨FieldName.identity, direction⟩ (listed docs)
    rw [all] at sorted
    rw [← ids_listed]
    exact sorted.map Document.id
  leads := by
    rw [identitiesSorted, List.pairwise_map]
    refine (pairwise_sortBy (ids_listed_sorted docs) ⟨FieldName.identity, direction⟩).imp ?_
    rintro a b ⟨⟨x, y, hx, hy, admits⟩, kept⟩
    cases hx
    cases hy
    have ties (d : Document) : OrderBy.ties ⟨FieldName.identity, direction⟩ (.string a.id) d =
        (compareIdentities a.id d.id == .eq) := by
      rw [← compareStored_string]
      rfl
    have itself : compareIdentities a.id a.id = .eq := by
      rw [← compareStored_string, Json.compareStored_eq_eq_iff]
    rw [compareStored_string] at admits
    cases order : compareIdentities a.id b.id with
    | eq =>
      refine .inr ⟨order, kept (.string a.id) ?_ ?_⟩
      · rw [ties, itself]
        rfl
      · rw [ties, order]
        rfl
    | lt =>
      rw [order] at admits
      cases direction with
      | ascending => exact .inl order
      | descending => cases admits
    | gt =>
      rw [order] at admits
      cases direction with
      | ascending => cases admits
      | descending => exact .inl order

end Collections

end DocQuery
