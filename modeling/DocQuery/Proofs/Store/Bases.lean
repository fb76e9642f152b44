import DocQuery.Proofs.Store.Path
import DocQuery.Session.Request

/-!
# Paths under a base

Of a base only the text between the slashes at its ends counts. A relative path under it is the
absolute path that spells both out, and the path that a source means has no slash at either end.
-/

namespace DocQuery

namespace Path

open Text

def IsBare (path : String) : Prop :=
  Bare (· == '/') path.toList

theorem toList_trim (path : String) : (trim path).toList = strip (· == '/') path.toList := by
  rw [trim, String.toList_ofList]

theorem isBare_trim (path : String) : IsBare (trim path) := by
  unfold IsBare
  rw [toList_trim]
  exact bare_strip _ _

theorem trim_eq_empty_iff {path : String} : trim path = "" ↔ ∀ c ∈ path.toList, c = '/' := by
  rw [← String.toList_eq_nil_iff, toList_trim, strip_eq_nil_iff]
  simp only [beq_iff_eq]

/-- A path that is taken under a base: it does not begin with a slash. -/
structure IsRelative (path : String) : Prop where
  nonempty : path ≠ ""
  first : path.toList.head? ≠ some '/'

theorem IsRelative.trim_ne_empty {path : String} (h : IsRelative path) : trim path ≠ "" := by
  intro empty
  have slashes := trim_eq_empty_iff.mp empty
  have nonempty : path.toList ≠ [] := mt String.toList_eq_nil_iff.mp h.nonempty
  obtain ⟨c, rest, front⟩ := List.exists_cons_of_ne_nil nonempty
  have slash : c = '/' := slashes c (by rw [front]; exact List.mem_cons_self)
  apply h.first
  rw [front, slash]
  rfl

theorem isBare_join {front back : String} (first : IsBare front) (last : IsBare back)
    (some : front ≠ "") (more : back ≠ "") : IsBare (front ++ "/" ++ back) := by
  have whole : (front ++ "/" ++ back).toList = front.toList ++ ("/".toList ++ back.toList) := by
    simp
  unfold IsBare
  rw [whole]
  exact first.join last (mt String.toList_eq_nil_iff.mp some) (mt String.toList_eq_nil_iff.mp more) _

theorem trim_join {base path : String} (bare : IsBare base) (some : base ≠ "")
    (relative : IsRelative path) : trim (base ++ "/" ++ path) = base ++ "/" ++ trim path := by
  have kept : ∀ c ∈ path.toList.head?, (c == '/') = false := by
    intro c m
    refine beq_false_of_ne fun slash => relative.first ?_
    rw [← slash]
    exact m
  obtain ⟨y, whole, slashes⟩ := exists_strip_append kept
  have joined := isBare_join bare (isBare_trim path) some relative.trim_ne_empty
  have text : (base ++ "/" ++ path).toList = [] ++ ((base ++ "/" ++ trim path).toList ++ y) := by
    rw [← toList_trim] at whole
    simp only [String.toList_append, List.append_assoc, List.nil_append]
    rw [← whole]
  have absent : ∀ c ∈ ([] : List Char), (c == '/') = true := nofun
  rw [← String.toList_inj, toList_trim, text, joined.strip_between absent slashes]

/-- What counts of a base: the text between the slashes at its ends, if there is one. -/
def counting (base : Option String) : Option String :=
  (base.map trim).filter (· != "")

theorem counting_some (base : String) :
    counting (some base) = if trim base = "" then none else some (trim base) := by
  unfold counting
  by_cases empty : trim base = ""
  · rw [if_pos empty, Option.map_some, empty]
    rfl
  · rw [if_neg empty, Option.map_some, Option.filter_some, if_pos (bne_iff_ne.mpr empty)]

theorem resolve_of_absolute {path : String} (absolute : path.toList.head? = some '/')
    (base : Option String) : resolve path base = trim path := if_pos absolute

theorem resolve_of_relative {path : String} (relative : path.toList.head? ≠ some '/')
    (base : String) : resolve path (some base) =
      if trim base = "" then trim path else trim base ++ "/" ++ trim path := if_neg relative

theorem resolve_none (path : String) : resolve path none = trim path := ite_self _

theorem resolve_counting (path : String) (base : Option String) :
    resolve path (counting base) = resolve path base := by
  by_cases absolute : path.toList.head? = some '/'
  · rw [resolve_of_absolute absolute, resolve_of_absolute absolute]
  · cases base with
    | none => rfl
    | some base =>
      rw [counting_some, resolve_of_relative absolute]
      by_cases empty : trim base = ""
      · rw [if_pos empty, if_pos empty, resolve_none]
      · rw [if_neg empty, resolve_of_relative absolute, trim_trim]

/-- A relative path is taken under a base as the absolute path that spells both out. -/
theorem resolve_under (base : String) {path : String} (relative : IsRelative path)
    (other : Option String) :
    resolve path (some base) = resolve ("/" ++ trim base ++ "/" ++ path) other := by
  have spelled : "/" ++ trim base ++ "/" ++ path = "/" ++ (trim base ++ "/" ++ path) := by
    simp only [String.append_assoc]
  rw [spelled, resolve_slash_append, resolve_of_relative relative.first]
  by_cases empty : trim base = ""
  · rw [if_pos empty, empty, String.empty_append, trim_slash_append]
  · rw [if_neg empty, trim_join (isBare_trim base) empty relative]

theorem isBare_resolve {path : String} (nonempty : path ≠ "") (base : Option String) :
    IsBare (resolve path base) ∧ (resolve path base = "" ↔ ∀ c ∈ path.toList, c = '/') := by
  have alone : IsBare (trim path) ∧ (trim path = "" ↔ ∀ c ∈ path.toList, c = '/') :=
    ⟨isBare_trim path, trim_eq_empty_iff⟩
  by_cases absolute : path.toList.head? = some '/'
  · rwa [resolve_of_absolute absolute]
  · have relative : IsRelative path := ⟨nonempty, absolute⟩
    cases base with
    | none => rwa [resolve_none]
    | some base =>
      rw [resolve_of_relative absolute]
      split
      · exact alone
      · next named =>
        have joined := isBare_join (isBare_trim base) (isBare_trim path) named
          relative.trim_ne_empty
        have long : trim base ++ "/" ++ trim path ≠ "" := by simp [String.append_eq_empty_iff]
        exact ⟨joined, iff_of_false long (mt trim_eq_empty_iff.mpr relative.trim_ne_empty)⟩

end Path

theorem Source.scope_counting (source : Source) (base : Option String) :
    source.scope (Path.counting base) = source.scope base := by
  cases source with
  | collection path => exact congrArg Scope.collection (Path.resolve_counting path base)
  | group name => rfl

end DocQuery
