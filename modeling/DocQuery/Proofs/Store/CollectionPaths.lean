import DocQuery.Proofs.Store.Dataset
import DocQuery.Proofs.Store.Scopes

/-!
# Paths of collections

A store refuses to be asked for a path that is empty or has an even number of segments; a dataset
refuses also the paths with an empty segment. So the two differ on the paths of an odd number of
segments with an empty one among them: no dataset has them, and a store finds nothing there instead
of refusing them.
-/

namespace DocQuery

namespace Path

/-- The path can be asked for: it is not empty and has an odd number of segments. -/
def CanBeAsked (path : String) : Prop :=
  trim path ≠ "" ∧ (segments (trim path)).length % 2 = 1

/-- A segment of the path is empty, slashes at the ends of the path apart. -/
def HasHole (path : String) : Prop :=
  "" ∈ segments (trim path)

instance (path : String) : Decidable (CanBeAsked path) :=
  inferInstanceAs (Decidable (_ ∧ _))

instance (path : String) : Decidable (HasHole path) :=
  inferInstanceAs (Decidable (_ ∈ _))

theorem namesCollection_trim_iff {path : String} :
    namesCollection (trim path) = true ↔ CanBeAsked path := by
  unfold namesCollection CanBeAsked
  rw [Bool.and_eq_true, bne_iff_ne, beq_iff_eq]

theorem not_canBeAsked_iff {path : String} : ¬CanBeAsked path ↔
    trim path = "" ∨ (segments (trim path)).length % 2 = 0 := by
  have even : ¬(segments (trim path)).length % 2 = 1 ↔
      (segments (trim path)).length % 2 = 0 := by omega
  unfold CanBeAsked
  rw [not_and_or, not_not, even]

theorem hasHole_of_trim_eq_empty {path : String} (empty : trim path = "") : HasHole path := by
  unfold HasHole
  rw [empty]
  decide

end Path

open DocQuery.Path

namespace Collections

variable (store : Collections) (q : StoreQuery) {path : String}

theorem accepted_of_canBeAsked (asked : CanBeAsked path) :
    store.accepted { q with scope := .collection path } =
      .ok (store.matching { q with scope := .collection path }) :=
  accepted_eq (namesCollection_trim_iff.mpr asked)

theorem accepted_of_not_canBeAsked (refused : ¬CanBeAsked path) :
    store.accepted { q with scope := .collection path } = .error (.invalidPath (trim path)) := by
  have unnamed : ¬namesCollection (trim path) = true :=
    fun named => refused (namesCollection_trim_iff.mp named)
  unfold accepted
  simp only [inScope, if_neg unnamed, Except.map]

theorem isOk_of_canBeAsked (asked : CanBeAsked path) :
    (∃ docs, store.fetch { q with scope := .collection path } = .ok docs) ∧
      ∃ n, store.count { q with scope := .collection path } = .ok n := by
  have accepted := store.accepted_of_canBeAsked q asked
  constructor
  · unfold fetch
    rw [accepted]
    exact ⟨_, rfl⟩
  · unfold count
    rw [accepted]
    exact ⟨_, rfl⟩

theorem eq_error_of_not_canBeAsked (refused : ¬CanBeAsked path) :
    store.fetch { q with scope := .collection path } = .error (.invalidPath (trim path)) ∧
      store.count { q with scope := .collection path } = .error (.invalidPath (trim path)) := by
  have accepted := store.accepted_of_not_canBeAsked q refused
  constructor
  · unfold fetch
    rw [accepted]
    rfl
  · unfold count
    rw [accepted]
    rfl

end Collections

namespace Dataset

/-- No dataset with the path among its keys can be loaded. -/
def RefusesKey (path : String) : Prop :=
  ∀ collections : List (String × Json), path ∈ collections.map Prod.fst →
    ∃ e, load (.object collections) = .error e

theorem checkPath_eq_ok_iff_canBeAsked {path : String} :
    checkPath path = .ok () ↔ CanBeAsked path ∧ ¬HasHole path := by
  rw [checkPath_eq_ok_iff]
  constructor
  · rintro ⟨solid, odd⟩
    exact ⟨⟨fun empty => solid (hasHole_of_trim_eq_empty empty), odd⟩, solid⟩
  · rintro ⟨⟨-, odd⟩, solid⟩
    exact ⟨solid, odd⟩

theorem load_of_unchecked {path : String} {e : DatasetError} (unchecked : checkPath path = .error e)
    (documents : Json) (rest : List (String × Json)) :
    load (.object ((path, documents) :: rest)) = .error e := by
  have refused : insertCollection .empty path documents = .error e := by
    unfold insertCollection
    rw [unchecked]
    rfl
  show (insertCollection .empty path documents >>= _) = _
  rw [refused]
  rfl

/-- A key that is not refused can stand over a collection without documents. -/
theorem refusesKey_iff_checkPath {path : String} : RefusesKey path ↔ checkPath path ≠ .ok () := by
  constructor
  · intro refused checked
    obtain ⟨e, failed⟩ := refused [(path, .object [])] (List.mem_singleton_self path)
    have loaded : load (.object [(path, .object [])]) =
        .ok (Collections.empty.replay (writes [(path, .object [])])) :=
      (load_eq_ok_iff _ _).mpr ⟨List.forall_mem_singleton.mpr ⟨checked, nofun⟩, rfl⟩
    rw [loaded] at failed
    cases failed
  · intro unchecked collections key
    obtain ⟨c, m, rfl⟩ := List.mem_map.mp key
    cases loading : load (.object collections) with
    | error e => exact ⟨e, rfl⟩
    | ok store => exact absurd (((load_eq_ok_iff collections store).mp loading).1 c m).1 unchecked

theorem refusesKey_iff {path : String} : RefusesKey path ↔ ¬CanBeAsked path ∨ HasHole path := by
  rw [refusesKey_iff_checkPath, Ne, checkPath_eq_ok_iff_canBeAsked, not_and_or, not_not]

/-- A store refuses the paths that cannot be asked for; a dataset refuses those with an empty
segment too. -/
theorem store_refuses_as_dataset_iff (store : Collections) (q : StoreQuery) (path : String) :
    (CanBeAsked path →
      (∃ docs, store.fetch { q with scope := .collection path } = .ok docs) ∧
        ∃ n, store.count { q with scope := .collection path } = .ok n) ∧
    (¬CanBeAsked path →
      store.fetch { q with scope := .collection path } = .error (.invalidPath (trim path)) ∧
        store.count { q with scope := .collection path } = .error (.invalidPath (trim path))) ∧
    (RefusesKey path ↔ trim path = "" ∨ HasHole path ∨
      (segments (trim path)).length % 2 = 0) ∧
    ((¬CanBeAsked path ↔ RefusesKey path) ↔ ¬(CanBeAsked path ∧ HasHole path)) := by
  refine ⟨store.isOk_of_canBeAsked q, store.eq_error_of_not_canBeAsked q, ?_, ?_⟩
  · rw [refusesKey_iff, not_canBeAsked_iff, or_assoc]
    exact or_congr_right or_comm
  · rw [refusesKey_iff, iff_self_or, not_and]
    exact imp_not_comm

theorem store_refuses_as_dataset_iff_of_orders :
    CanBeAsked "users//orders" ∧ HasHole "users//orders" ∧
    (∃ docs, Collections.empty.fetch { scope := .collection "users//orders" } = .ok docs) ∧
    RefusesKey "users//orders" ∧
    ¬CanBeAsked "/users/ada/" ∧
    Collections.empty.fetch { scope := .collection "/users/ada/" } =
      .error (.invalidPath "users/ada") ∧
    RefusesKey "/users/ada/" := by
  have asked : CanBeAsked "users//orders" := by decide
  have hole : HasHole "users//orders" := by decide
  have refused : ¬CanBeAsked "/users/ada/" := by decide
  have orders := store_refuses_as_dataset_iff .empty { scope := .collection "" } "users//orders"
  have ada := store_refuses_as_dataset_iff .empty { scope := .collection "" } "/users/ada/"
  exact ⟨asked, hole, (orders.1 asked).1, orders.2.2.1.mpr (.inr (.inl hole)), refused,
    (ada.2.1 refused).1, ada.2.2.1.mpr (.inr (.inr (by decide)))⟩

/-- An empty segment is refused in a dataset and not by a store, which finds nothing under it. -/
theorem store_answers_for_hole :
    load (.object [("users//orders", .object [])]) = .error (.invalidPath "users//orders") ∧
    Collections.empty.fetch { scope := .collection "users//orders" } = .ok [] ∧
    Collections.empty.count { scope := .collection "users//orders" } = .ok 0 ∧
    ¬∀ (store : Collections) (path : String),
      (∃ e, store.fetch { scope := .collection path } = .error e) ↔ RefusesKey path := by
  have asked : CanBeAsked "users//orders" := by decide
  have nothing (path : String) : Collections.listed (Collections.empty.documents path) = [] := rfl
  have found : Collections.empty.fetch { scope := .collection "users//orders" } = .ok [] := by
    rw [Collections.fetch_whole _ (namesCollection_trim_iff.mpr asked), nothing]
  have counted : Collections.empty.count { scope := .collection "users//orders" } = .ok 0 := by
    rw [Collections.count_unordered _ rfl rfl, found]
    rfl
  refine ⟨load_of_unchecked (by decide) _ _, found, counted, ?_⟩
  intro agree
  have hole : HasHole "users//orders" := by decide
  obtain ⟨e, failed⟩ := (agree .empty "users//orders").mpr (refusesKey_iff.mpr (.inr hole))
  rw [found] at failed
  cases failed

end Dataset

end DocQuery
