import DocQuery.Proofs.Json.Removal
import DocQuery.Proofs.Store.Writes

/-!
# Documents added as an array

An element of an array that brings no identity along is named by its position, which keeps the
elements apart as long as none of them brings such a name along. The document of an object has all
of its fields but the one called `id`, also where that one did not become the identity.
-/

namespace DocQuery

/-- The identity that an element of an array brings along. -/
def Json.identity? (v : Json) : Option String := (v.member? "id").bind string?

namespace Collections

def positionName (position : Nat) : String := "doc" ++ toString position

theorem positionName_injective {i j : Nat} (h : positionName i = positionName j) : i = j := by
  have texts := congrArg String.toList h
  unfold positionName at texts
  rw [String.toList_append, String.toList_append, List.append_cancel_left_eq] at texts
  exact Nat.repr_inj.mp (String.toList_inj.mp texts)

theorem numbered_fst (position : Nat) (value : Json) :
    (numbered position value).1 = value.identity?.getD (positionName position) := by
  cases value <;> rfl

/-- No element brings along the name of the position of an element without an identity. -/
def NamesApart (values : List Json) : Prop :=
  ∀ i v, values[i]? = some v → v.identity? = none →
    ∀ w ∈ values, w.identity? ≠ some (positionName i)

section Identities

variable {values : List Json}

theorem identities_numbered (i : Nat) : ((values.mapIdx numbered).map Prod.fst)[i]? =
    values[i]?.map fun v => v.identity?.getD (positionName i) := by
  rw [List.getElem?_map, List.getElem?_mapIdx, Option.map_map]
  exact congrArg (Option.map · _) (funext fun v => numbered_fst i v)

theorem identity?_ne (own : (values.filterMap Json.identity?).Nodup) {i j : Nat} {v w : Json}
    (less : i < j) (first : values[i]? = some v) (second : values[j]? = some w) {id : String}
    (named : v.identity? = some id) : w.identity? ≠ some id := by
  obtain ⟨hi, rfl⟩ := List.getElem?_eq_some_iff.mp first
  obtain ⟨hj, rfl⟩ := List.getElem?_eq_some_iff.mp second
  rw [List.nodup_iff_pairwise_ne, List.pairwise_filterMap] at own
  intro same
  exact List.pairwise_iff_getElem.mp own i j hi hj less id named id same rfl

theorem nodup_identities_iff (own : (values.filterMap Json.identity?).Nodup) :
    ((values.mapIdx numbered).map Prod.fst).Nodup ↔ NamesApart values := by
  constructor
  · intro distinct i v at_i unnamed w m taken
    obtain ⟨j, hj, rfl⟩ := List.mem_iff_getElem.mp m
    have at_j : values[j]? = some values[j] := List.getElem?_eq_getElem hj
    have same : ((values.mapIdx numbered).map Prod.fst)[i]? =
        ((values.mapIdx numbered).map Prod.fst)[j]? := by
      rw [identities_numbered, identities_numbered, at_i, at_j, Option.map_some, Option.map_some,
        unnamed, taken]
      rfl
    have inside : i < ((values.mapIdx numbered).map Prod.fst).length := by
      have bound := (List.getElem?_eq_some_iff.mp at_i).1
      simpa using bound
    obtain rfl : i = j := (List.getElem?_inj inside distinct).mp same
    rw [at_i, Option.some.injEq] at at_j
    rw [← at_j, unnamed] at taken
    cases taken
  · intro apart
    rw [List.nodup_iff_getElem?_ne_getElem?]
    intro i j less bound same
    have hj : j < values.length := by simpa using bound
    have at_i : values[i]? = some values[i] := List.getElem?_eq_getElem (less.trans hj)
    have at_j : values[j]? = some values[j] := List.getElem?_eq_getElem hj
    rw [identities_numbered, identities_numbered, at_i, at_j, Option.map_some, Option.map_some,
      Option.some.injEq] at same
    -- Both bring an identity along, one of them does, or both are named by their positions.
    cases first : values[i].identity? with
    | some a =>
      cases second : values[j].identity? with
      | some b =>
        rw [first, second] at same
        have equal : a = b := same
        exact identity?_ne own less at_i at_j first (second.trans (congrArg some equal.symm))
      | none =>
        rw [first, second] at same
        have taken : a = positionName j := same
        exact apart j _ at_j second _ (List.getElem_mem _) (first.trans (congrArg some taken))
    | none =>
      cases second : values[j].identity? with
      | some b =>
        rw [first, second] at same
        have taken : positionName i = b := same
        exact apart i _ at_i first _ (List.getElem_mem _)
          (second.trans (congrArg some taken.symm))
      | none =>
        rw [first, second] at same
        exact absurd (positionName_injective same) less.ne

end Identities

end Collections

def Write.listed (path : String) (d : String × Fields) : Write := ⟨path, d.1, d.2⟩

theorem Write.target_listed (path : String) (documents : List (String × Fields)) :
    (documents.map (Write.listed path)).map Write.target =
      (documents.map Prod.fst).map fun id => (Path.trim path, id) := by
  rw [List.map_map, List.map_map]
  rfl

theorem Write.nodup_target_listed (path : String) {documents : List (String × Fields)}
    (distinct : (documents.map Prod.fst).Nodup) :
    ((documents.map (Write.listed path)).map Write.target).Nodup := by
  rw [target_listed]
  exact distinct.map fun _ _ same => (Prod.mk.inj same).2

theorem Collections.addAll_eq_replay (store : Collections) (path : String) (values : List Json) :
    store.addAll path values =
      store.replay ((values.mapIdx numbered).map (Write.listed path)) := by
  have fromPosition (position : Nat) : store.addFrom path position values = store.replay
      ((values.mapIdx fun i v => numbered (position + i) v).map (Write.listed path)) := by
    induction values generalizing store position with
    | nil => rfl
    | cons value rest ih =>
      have later : (fun i v => numbered (position + (i + 1)) v) =
          fun i v => numbered (position + 1 + i) v := by
        funext i v
        rw [Nat.add_assoc, Nat.add_comm 1 i]
      have first : store.addFrom path position (value :: rest) =
          (store.write path (numbered position value).1 (numbered position value).2).addFrom path
            (position + 1) rest := rfl
      rw [first, ih, List.mapIdx_cons, List.map_cons, replay_cons, later]
      rfl
  have whole := fromPosition 0
  simp only [Nat.zero_add] at whole
  exact whole

theorem Fields.ofDocument_toJson (f : Fields) : ofDocument f.toJson = f :=
  ext (pairs_ofPairs f)

theorem Fields.identity?_toJson (f : Fields) :
    f.toJson.identity? = (f.get? "id").bind Json.string? := rfl

namespace Collections

theorem numbered_snd_toJson (position : Nat) (element : Fields) :
    (numbered position element.toJson).2 = element.remove "id" :=
  congrArg (Fields.remove · "id") element.ofDocument_toJson

/-- An element whose identity no later one is given has its document. -/
theorem fieldsAt?_addAll {store : Collections} {path : String} {values : List Json} {i : Nat}
    {value : Json} (there : values[i]? = some value)
    (last : ∀ j other, i < j → values[j]? = some other →
      (numbered j other).1 ≠ (numbered i value).1) :
    (store.addAll path values).fieldsAt? (Path.trim path) (numbered i value).1 =
      some (numbered i value).2 := by
  have placed : (values.mapIdx numbered)[i]? = some (numbered i value) := by
    rw [List.getElem?_mapIdx, there]
    rfl
  obtain ⟨inside, here⟩ := List.getElem?_eq_some_iff.mp placed
  have whole : values.mapIdx numbered = (values.mapIdx numbered).take i ++
      numbered i value :: (values.mapIdx numbered).drop (i + 1) := by
    rw [← here, List.cons_getElem_drop_succ, List.take_append_drop]
  have later : (Write.listed path (numbered i value)).target ∉
      (((values.mapIdx numbered).drop (i + 1)).map (Write.listed path)).map Write.target := by
    rw [Write.target_listed]
    intro given
    obtain ⟨id, given, same⟩ := List.mem_map.mp given
    obtain ⟨document, dropped, rfl⟩ := List.mem_map.mp given
    obtain ⟨j, found⟩ := List.mem_iff_getElem?.mp dropped
    rw [List.getElem?_drop, List.getElem?_mapIdx, Option.map_eq_some_iff] at found
    obtain ⟨other, found, rfl⟩ := found
    exact last (i + 1 + j) other (by omega) found (Prod.mk.inj same).2
  rw [addAll_eq_replay, whole, List.map_append, List.map_cons]
  exact fieldsAt?_replay_of_last store later

/-- The document of an object keeps every field but the one called `id`; nothing is lost exactly
when that one, where it is there, is a string. -/
theorem added_object_keeps_fields_iff {store : Collections} {path : String}
    {elements : List Fields} {i : Nat} {element : Fields} (there : elements[i]? = some element)
    (last : ∀ j other, i < j → elements[j]? = some other →
      (numbered j other.toJson).1 ≠ (numbered i element.toJson).1) :
    ∃ fields,
      (store.addAll path (elements.map Fields.toJson)).fieldsAt? (Path.trim path)
        (numbered i element.toJson).1 = some fields ∧
      (∀ key ≠ "id", fields.get? key = element.get? key) ∧
      ((∀ key v, element.get? key = some v →
        fields.get? key = some v ∨ key = "id" ∧ v = .string (numbered i element.toJson).1) ↔
          ∀ v, element.get? "id" = some v → ∃ id, v = .string id) := by
  have placed : (elements.map Fields.toJson)[i]? = some element.toJson := by
    rw [List.getElem?_map, there]
    rfl
  have alone : ∀ j other, i < j → (elements.map Fields.toJson)[j]? = some other →
      (numbered j other).1 ≠ (numbered i element.toJson).1 := by
    intro j other less found
    rw [List.getElem?_map, Option.map_eq_some_iff] at found
    obtain ⟨other, found, rfl⟩ := found
    exact last j other less found
  refine ⟨element.remove "id", ?_, fun key differ => element.get?_remove_of_ne differ, ?_⟩
  · rw [← numbered_snd_toJson i element]
    exact fieldsAt?_addAll placed alone
  · constructor
    · intro kept v found
      rcases kept "id" v found with stored | ⟨-, named⟩
      · rw [element.get?_remove_self] at stored
        cases stored
      · exact ⟨_, named⟩
    · intro strings key v found
      by_cases same : key = "id"
      · subst same
        obtain ⟨id, rfl⟩ := strings v found
        refine .inr ⟨rfl, ?_⟩
        rw [numbered_fst, element.identity?_toJson, found]
        rfl
      · exact .inl ((element.get?_remove_of_ne same).trans found)

def items : List Fields :=
  [.ofPairs [("id", .string "doc1"), ("size", .null)], .ofPairs [("size", .boolean true)],
    .ofPairs [("size", .string "large"), ("id", .string "crate")],
    .ofPairs [("id", .number (.integer 5))]]

theorem added_object_keeps_fields_iff_of_items :
    items[2]? = some (.ofPairs [("size", .string "large"), ("id", .string "crate")]) ∧
    (∀ j other, 2 < j → items[j]? = some other → (numbered j other.toJson).1 ≠ "crate") ∧
    ∃ fields,
      (empty.addAll "items" (items.map Fields.toJson)).fieldsAt? (Path.trim "items") "crate" =
        some fields ∧
      fields.get? "size" = some (.string "large") ∧
      ∀ key v, (Fields.ofPairs [("size", .string "large"), ("id", .string "crate")]).get? key =
        some v → fields.get? key = some v ∨ key = "id" ∧ v = .string "crate" := by
  have there : items[2]? =
      some (.ofPairs [("size", .string "large"), ("id", .string "crate")]) := rfl
  have last : ∀ j other, 2 < j → items[j]? = some other →
      (numbered j other.toJson).1 ≠ "crate" := by
    intro j other less found
    have bound : j < 4 := (List.getElem?_eq_some_iff.mp found).1
    obtain rfl : j = 3 := by omega
    obtain rfl := Option.some.inj found
    decide
  obtain ⟨fields, stored, kept, whole⟩ :=
    @added_object_keeps_fields_iff empty "items" items 2 _ there last
  refine ⟨there, last, fields, stored, ?_, whole.mpr ?_⟩
  · rw [kept "size" (by decide)]
    rfl
  · intro v found
    exact ⟨"crate", (Option.some.inj found).symm⟩

/-- A number called `id` is neither the identity of the document nor a field of it. -/
theorem number_called_id_is_dropped :
    (empty.addAll "items" [.object [("id", .number (.integer 5))]]).fieldsAt? "items" "doc0" =
      some .empty ∧
    ¬∀ (store : Collections) (path : String) (elements : List Fields) (i : Nat) (element : Fields),
      elements[i]? = some element →
      (∀ j other, i < j → elements[j]? = some other →
        (numbered j other.toJson).1 ≠ (numbered i element.toJson).1) →
      ∃ fields,
        (store.addAll path (elements.map Fields.toJson)).fieldsAt? (Path.trim path)
          (numbered i element.toJson).1 = some fields ∧
        ∀ key v, element.get? key = some v →
          fields.get? key = some v ∨ key = "id" ∧ v = .string (numbered i element.toJson).1 := by
  have dropped : (empty.addAll "items" [.object [("id", .number (.integer 5))]]).fieldsAt?
      "items" "doc0" = some .empty := by rfl
  refine ⟨dropped, ?_⟩
  intro kept
  let numeric : Fields := .ofPairs [("id", .number (.integer 5))]
  have single : ∀ j other, 0 < j → [numeric][j]? = some other →
      (numbered j other.toJson).1 ≠ (numbered 0 numeric.toJson).1 := by
    intro j other less found
    have bound : j < 1 := (List.getElem?_eq_some_iff.mp found).1
    omega
  obtain ⟨fields, stored, all⟩ := kept empty "items" [numeric] 0 numeric rfl single
  obtain rfl : Fields.empty = fields := Option.some.inj (dropped.symm.trans stored)
  rcases all "id" (.number (.integer 5)) rfl with field | ⟨-, named⟩
  · cases field
  · cases named

end Collections

end DocQuery
