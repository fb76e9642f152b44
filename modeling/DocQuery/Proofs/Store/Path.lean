import DocQuery.Proofs.Text.Ends
import DocQuery.Store.Dataset

/-!
# Paths and their slashes

Slashes at the ends of a path do not count, so a path that a dataset may use for a collection is
the same collection's path behind a slash, whatever the base.
-/

namespace DocQuery

namespace Path

theorem trim_trim (path : String) : trim (trim path) = trim path := by
  have twice := Text.strip_strip (· == '/') path.toList
  unfold trim
  rw [String.toList_ofList, twice]

theorem trim_slash_append (path : String) : trim ("/" ++ path) = trim path := by
  have front : ("/" ++ path).toList = '/' :: path.toList := by rw [String.toList_append]; rfl
  unfold trim
  rw [front, Text.strip_cons_of_dropped (by decide)]

theorem resolve_slash_append (path : String) (base : Option String) :
    resolve ("/" ++ path) base = trim path := by
  have absolute : ("/" ++ path).toList.head? = some '/' := by rw [String.toList_append]; rfl
  rw [resolve, if_pos absolute, trim_slash_append]

end Path

theorem Dataset.checkPath_eq_ok_iff (path : String) : checkPath path = .ok () ↔
    "" ∉ Path.segments (Path.trim path) ∧ (Path.segments (Path.trim path)).length % 2 = 1 := by
  unfold checkPath
  by_cases hollow : "" ∈ Path.segments (Path.trim path)
  · simp [hollow]
  · by_cases even : (Path.segments (Path.trim path)).length % 2 = 0
    · simp [hollow, even]
    · have odd : (Path.segments (Path.trim path)).length % 2 = 1 := by omega
      simp [hollow, odd]

theorem Dataset.namesCollection_of_checkPath {path : String} (h : checkPath path = .ok ()) :
    Path.namesCollection (Path.trim path) = true := by
  obtain ⟨solid, odd⟩ := (checkPath_eq_ok_iff path).mp h
  have some : Path.trim path ≠ "" := by
    intro empty
    rw [empty] at solid
    exact solid (by decide)
  simp [Path.namesCollection, some, odd]

end DocQuery
