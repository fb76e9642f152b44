import DocQuery.Proofs.Store.TopN

/-!
# Consistency of the order of stored values

The comparison of stored values is that of their keys, and so as consistent as a linear order on any
mix of kinds. The comparison that a sort makes of two documents is as consistent among the documents
that have the order field, in either direction; the others are gone before the sort begins.
-/

namespace DocQuery

/-- A comparison puts the elements of a class into one order, in which some may stand abreast. -/
structure IsConsistentOn {α : Type} (within : α → Prop) (cmp : α → α → Ordering) : Prop where
  refl : ∀ a, within a → cmp a a = .eq
  reverse : ∀ a b, within a → within b → cmp a b = (cmp b a).swap
  trans : ∀ a b c, within a → within b → within c →
    (cmp a b).isLE = true → (cmp b c).isLE = true → (cmp a c).isLE = true
  abreast : ∀ a b c, within a → within b → within c →
    cmp a b = .eq → cmp a c = cmp b c ∧ cmp c a = cmp c b

namespace IsConsistentOn

theorem of_linearOrder (κ : Type) [LinearOrder κ] :
    IsConsistentOn (fun _ : κ => True) compare where
  refl a _ := compare_eq_iff_eq.mpr rfl
  reverse a b _ _ := Std.OrientedCmp.eq_swap
  trans a b c _ _ _ := Std.TransCmp.isLE_trans
  abreast a b c _ _ _ same := by
    rw [compare_eq_iff_eq.mp same]
    exact ⟨rfl, rfl⟩

variable {α β : Type} {cmp : β → β → Ordering} (h : IsConsistentOn (fun _ => True) cmp)

include h

/-- To compare by keys is as consistent as the comparison of the keys. -/
theorem along {within : α → Prop} {cmp' : α → α → Ordering} (key : α → β)
    (keys : ∀ a b, within a → within b → cmp' a b = cmp (key a) (key b)) :
    IsConsistentOn within cmp' where
  refl a ha := by
    rw [keys a a ha ha]
    exact h.refl _ trivial
  reverse a b ha hb := by
    rw [keys a b ha hb, keys b a hb ha]
    exact h.reverse _ _ trivial trivial
  trans a b c ha hb hc := by
    rw [keys a b ha hb, keys b c hb hc, keys a c ha hc]
    exact h.trans _ _ _ trivial trivial trivial
  abreast a b c ha hb hc := by
    rw [keys a b ha hb, keys a c ha hc, keys b c hb hc, keys c a hc ha, keys c b hc hb]
    exact h.abreast _ _ _ trivial trivial trivial

theorem opposite : IsConsistentOn (fun _ => True) fun a b => (cmp a b).swap where
  refl a _ := by
    rw [h.refl a trivial]
    rfl
  reverse a b _ _ := by
    rw [h.reverse a b trivial trivial]
  trans a b c _ _ _ first second := by
    rw [← h.reverse b a trivial trivial] at first
    rw [← h.reverse c b trivial trivial] at second
    rw [← h.reverse c a trivial trivial]
    exact h.trans c b a trivial trivial trivial second first
  abreast a b c _ _ _ same := by
    rw [Ordering.swap_eq_eq] at same
    obtain ⟨left, right⟩ := h.abreast a b c trivial trivial trivial same
    rw [left, right]
    exact ⟨rfl, rfl⟩

end IsConsistentOn

theorem Json.isConsistentOn_compareStored :
    IsConsistentOn (fun _ : Json => True) Json.compareStored :=
  (IsConsistentOn.of_linearOrder OrderKey).along Json.orderKey fun a b _ _ =>
    Json.compareStored_eq_compare a b

namespace OrderBy

def compareDocuments (order : OrderBy) (a b : Document) : Ordering :=
  match a.get? order.field, b.get? order.field with
  | some x, some y =>
    match order.direction with
    | .ascending => Json.compareStored x y
    | .descending => (Json.compareStored x y).swap
  | _, _ => .eq

theorem mayPrecede_eq_isLE (order : OrderBy) (a b : Document) :
    Collections.mayPrecede order a b = (order.compareDocuments a b).isLE := by
  unfold Collections.mayPrecede compareDocuments
  cases a.get? order.field with
  | none => rfl
  | some x =>
    cases b.get? order.field with
    | none => rfl
    | some y =>
      dsimp only
      cases order.direction <;> cases Json.compareStored x y <;> rfl

theorem compareDocuments_eq {order : OrderBy} {a b : Document} (ha : order.ranks a = true)
    (hb : order.ranks b = true) : order.compareDocuments a b =
      match order.direction with
      | .ascending => Json.compareStored ((a.get? order.field).getD .null)
          ((b.get? order.field).getD .null)
      | .descending => (Json.compareStored ((a.get? order.field).getD .null)
          ((b.get? order.field).getD .null)).swap := by
  obtain ⟨x, hx⟩ := ranks_iff.mp ha
  obtain ⟨y, hy⟩ := ranks_iff.mp hb
  simp only [compareDocuments, hx, hy, Option.getD_some]

theorem isConsistentOn_compareDocuments (order : OrderBy) :
    IsConsistentOn (fun d => order.ranks d = true) order.compareDocuments := by
  have stored := Json.isConsistentOn_compareStored
  obtain ⟨field, direction⟩ := order
  cases direction with
  | ascending => exact stored.along _ fun a b ha hb => compareDocuments_eq ha hb
  | descending => exact stored.opposite.along _ fun a b ha hb => compareDocuments_eq ha hb

theorem isLE_compareDocuments_sortBy (order : OrderBy) (docs : List Document) :
    (Collections.sortBy order docs).Pairwise fun a b =>
      (order.compareDocuments a b).isLE = true := by
  have ranked : ∀ d ∈ Collections.sortBy order docs, order.ranks d = true := by
    intro d m
    exact (List.mem_filter.mp ((Collections.perm_sortBy order docs).mem_iff.mp m)).2
  refine (Collections.admits_sortBy order docs).imp_of_mem fun {a b} ma mb admits => ?_
  rw [← mayPrecede_eq_isLE, mayPrecede_eq (ranked a ma) (ranked b mb)]
  exact (admits_iff (ranked a ma) (ranked b mb)).mp admits

end OrderBy

/-- The comparison of stored values is consistent on all of them, and so is that of documents by a
field in either direction. -/
theorem stored_values_are_consistently_ordered :
    IsConsistentOn (fun _ : Json => True) Json.compareStored ∧
    ∀ order : OrderBy,
      IsConsistentOn (fun d => order.ranks d = true) order.compareDocuments ∧
      (∀ a b, Collections.mayPrecede order a b = (order.compareDocuments a b).isLE) ∧
      ∀ docs, (Collections.sortBy order docs).Perm (docs.filter order.ranks) ∧
        (Collections.sortBy order docs).Pairwise fun a b =>
          (order.compareDocuments a b).isLE = true := by
  refine ⟨Json.isConsistentOn_compareStored, fun order => ?_⟩
  refine ⟨order.isConsistentOn_compareDocuments, order.mayPrecede_eq_isLE, fun docs => ?_⟩
  exact ⟨Collections.perm_sortBy order docs, order.isLE_compareDocuments_sortBy docs⟩

/-- One value of every kind in their order: a date is a kind of its own, however it is written. -/
example : [Json.null, .boolean false, .boolean true, .number (.integer 7),
    .object [("_seconds", .number (.integer 0))], .string "March 5, 2023", .string "2023-03-10",
    .string "1 apple", .array [], .object []].Pairwise fun a b =>
      Json.compareStored a b = .lt := by
  decide +kernel

end DocQuery
