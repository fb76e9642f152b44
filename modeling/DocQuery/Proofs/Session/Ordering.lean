import DocQuery.Proofs.Query.Ordered
import DocQuery.Proofs.Session.Lookup
import DocQuery.Proofs.Store.IdentityOrder

/-!
# Answers in order of identity

A query for identities in their own order shows all of a collection, in the order in which a sort
puts them. It is the order of texts, in one direction and in the other, for identities that name no
instant; those that do come first in it and are ordered by time.
-/

namespace DocQuery

theorem identityOutput_injective : Function.Injective identityOutput := by
  intro ids others same
  have rows := Output.rows.inj (Except.ok.inj same)
  refine List.map_injective_iff.mpr ?_ rows
  intro a b row
  have pairs : [(FieldName.userIdentity, Json.string a)] = [(FieldName.userIdentity, .string b)] :=
    congrArg Fields.pairs row
  simpa using pairs

namespace Collections

def inOrder (order? : Option OrderBy) (docs : SortedMap Fields) : List Document :=
  match order? with
  | some order => sortBy order (listed docs)
  | none => listed docs

theorem fetch_inOrder (store : Collections) {path : String}
    (named : (Scope.collection path).IsValid) (order? : Option OrderBy) :
    store.fetch { scope := .collection path, order := order? } =
      .ok (inOrder order? (store.documents (Path.trim path))) := by
  have valid : Path.namesCollection (Path.trim path) = true := named
  cases order? <;> simp [fetch, accepted, inScope, valid, Except.map, inOrder]

section Execution

variable (store : Collections) (capabilities : Capabilities) (settings : Settings)

theorem execute_ordered {select : List SelectItem} (columns : select ≠ [.countAll])
    {query path : String} {order? : Option OrderBy}
    (parsed : Plan.parse query = .ok (.ordered select path order?))
    (named : (Scope.collection (Path.resolve path settings.basePath)).IsValid) :
    execute (store.toStore capabilities) settings query =
      .ok (.rows ((inOrder order? (store.documents
        (Path.trim (Path.resolve path settings.basePath)))).map
          (Document.row settings select))) := by
  have list : (Plan.ordered select path order?).isCount = false := beq_eq_false_iff_ne.mpr columns
  exact store.execute_of_fetched capabilities settings parsed list rfl rfl
    (store.fetch_inOrder named order?)

variable {path : String} (usable : IsPathWord path.toList)
  (named : (Scope.collection (Path.resolve path settings.basePath)).IsValid)

include usable named

theorem execute_identitiesBy (direction : Direction) :
    execute (store.toStore capabilities) settings (identitiesBy path direction) =
      identityOutput (identitiesSorted direction
        (store.documents (Path.trim (Path.resolve path settings.basePath)))) := by
  rw [store.execute_ordered capabilities settings (by decide)
    (parse_identitiesBy usable direction) named, rows_identities]
  rfl

theorem execute_unordered_identities (last : IsLastWord path.toList) :
    execute (store.toStore capabilities) settings ("SELECT id FROM " ++ path) =
      identityOutput (store.identities (Path.resolve path settings.basePath)) := by
  rw [store.execute_ordered capabilities settings (by decide) (parse_identities usable last) named,
    rows_identities, inOrder, ids_listed]
  rfl

/-- Identities that name an instant come before the others in the ascending order and after them in
the descending one, which is the reverse exactly when no two name one instant. -/
theorem identities_in_order :
    ∃ ascending descending : List String,
      let ids := store.identities (Path.resolve path settings.basePath)
      execute (store.toStore capabilities) settings (identitiesBy path .ascending) =
        identityOutput ascending ∧
      execute (store.toStore capabilities) settings (identitiesBy path .descending) =
        identityOutput descending ∧
      Direction.ascending.Orders ids ascending ∧
      Direction.descending.Orders ids descending ∧
      ids.Pairwise (· < ·) ∧
      (IsLastWord path.toList → execute (store.toStore capabilities) settings
        ("SELECT id FROM " ++ path) = identityOutput ids) ∧
      (ascending = ids ↔ ∀ a ∈ ids, ∀ b ∈ ids, a < b → compareIdentities a b ≠ .gt) ∧
      (descending = ascending.reverse ↔
        ∀ a ∈ ids, ∀ b ∈ ids, compareIdentities a b = .eq → a = b) ∧
      ((∀ id ∈ ids, (Json.string id).instant? = none) →
        ascending = ids ∧ descending = ids.reverse) := by
  let docs := store.documents (Path.trim (Path.resolve path settings.basePath))
  have increasing : docs.keys.Pairwise (· < ·) := docs.keys_sorted
  have up := orders_identitiesSorted .ascending docs
  have down := orders_identitiesSorted .descending docs
  have ascends := ascending_eq_iff increasing up
  have reverses := descending_eq_reverse_iff up down
  refine ⟨identitiesSorted .ascending docs, identitiesSorted .descending docs,
    store.execute_identitiesBy capabilities settings usable named .ascending,
    store.execute_identitiesBy capabilities settings usable named .descending, up, down,
    increasing, store.execute_unordered_identities capabilities settings usable named, ascends,
    reverses, ?_⟩
  intro texts
  have alike (a : String) (ma : a ∈ docs.keys) (b : String) (mb : b ∈ docs.keys) :
      compareIdentities a b = compareString a b :=
    compareIdentities_of_texts (texts a ma) (texts b mb)
  have same : identitiesSorted .ascending docs = docs.keys := by
    rw [ascends]
    intro a ma b mb less greater
    rw [alike a ma b mb, Json.compareString_eq, compare_gt_iff_gt] at greater
    exact absurd less greater.asymm
  refine ⟨same, (reverses.mpr ?_).trans (congrArg List.reverse same)⟩
  intro a ma b mb equal
  rw [alike a ma b mb, Json.compareString_eq_eq_iff] at equal
  exact equal

end Execution

def datedUsers : Collections :=
  (((empty.write "users" "u1" .empty).write "users" "1999" .empty).write
    "users" "2024-01-01" .empty).write "users" "January 1, 2024" .empty

theorem identities_datedUsers : datedUsers.identities (Path.resolve "users" none) =
    ["1999", "2024-01-01", "January 1, 2024", "u1"] := by decide

theorem identities_in_order_of_datedUsers :
    IsPathWord "users".toList ∧ (Scope.collection (Path.resolve "users" none)).IsValid ∧
    execute (datedUsers.toStore .all) {} "SELECT id FROM users ORDER BY id ASC" =
      identityOutput ["2024-01-01", "January 1, 2024", "1999", "u1"] ∧
    execute (datedUsers.toStore .all) {} "SELECT id FROM users ORDER BY id DESC" =
      identityOutput ["u1", "1999", "2024-01-01", "January 1, 2024"] := by
  obtain ⟨ascending, descending, first, second, up, down, -⟩ :=
    identities_in_order datedUsers .all {} isPathWord_users isValid_users
  have upward : Direction.ascending.Orders ["1999", "2024-01-01", "January 1, 2024", "u1"]
      ["2024-01-01", "January 1, 2024", "1999", "u1"] := by decide +kernel
  have downward : Direction.descending.Orders ["1999", "2024-01-01", "January 1, 2024", "u1"]
      ["u1", "1999", "2024-01-01", "January 1, 2024"] := by decide +kernel
  rw [← identities_datedUsers] at upward downward
  rw [up.unique upward] at first
  rw [down.unique downward] at second
  exact ⟨isPathWord_users, isValid_users, first, second⟩

theorem dated_identities_leave_their_places :
    execute (datedUsers.toStore .all) {} "SELECT id FROM users" =
      identityOutput ["1999", "2024-01-01", "January 1, 2024", "u1"] ∧
    execute (datedUsers.toStore .all) {} "SELECT id FROM users ORDER BY id ASC" ≠
      identityOutput ["1999", "2024-01-01", "January 1, 2024", "u1"] ∧
    execute (datedUsers.toStore .all) {} "SELECT id FROM users ORDER BY id DESC" ≠
      identityOutput ["u1", "January 1, 2024", "2024-01-01", "1999"] := by
  have last : IsLastWord "users".toList := ⟨by decide, by decide⟩
  have unordered := datedUsers.execute_unordered_identities .all {} isPathWord_users isValid_users
    last
  rw [identities_datedUsers] at unordered
  have differ (direction : Direction) {list : List String}
      (out : ¬list.Pairwise direction.Leads) :
      execute (datedUsers.toStore .all) {} (identitiesBy "users" direction) ≠
        identityOutput list := by
    rw [datedUsers.execute_identitiesBy .all {} isPathWord_users isValid_users]
    intro same
    have whole := identityOutput_injective same
    exact out (whole ▸ (orders_identitiesSorted direction _).leads)
  refine ⟨unordered, differ .ascending ?_, differ .descending ?_⟩
  · decide +kernel
  · decide +kernel

end Collections

end DocQuery
