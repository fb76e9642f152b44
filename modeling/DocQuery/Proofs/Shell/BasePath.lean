import DocQuery.Config.Basic
import DocQuery.Proofs.Query.Lookup
import DocQuery.Proofs.Session.Translation
import DocQuery.Proofs.Shell.Memory
import DocQuery.Proofs.Store.Bases

/-!
# Ways to set a base path

A base path comes from a configuration, from a line of the shell, or stands in the settings as it
is. The three find the same documents for every source, and the path of a query means the same
collection whether it is relative to the base or spells the base out.
-/

namespace DocQuery

open Text

namespace Plan

theorem path_ne_empty {query path : String} {plan : Plan} (parsed : Plan.parse query = .ok plan)
    (source : plan.source = .collection path) : path ≠ "" := by
  obtain ⟨-, texts, -, read⟩ := source_of_parse rfl parsed
  rw [source] at read
  have named := Source.words_of_collection read
  have word := (of_mem_words (named ▸ List.mem_singleton_self path.toList)).1
  exact fun empty => word (String.toList_eq_nil_iff.mpr empty)

theorem scope_of_storeQuery {plan : Plan} {path : String} {settings : Settings}
    {capabilities : Capabilities} {request : StoreQuery} (source : plan.source = .collection path)
    (asked : plan.storeQuery settings capabilities = .ok request) :
    request.scope = .collection (Path.resolve path settings.basePath) := by
  obtain ⟨-, rfl⟩ := (plan.storeQuery_eq_ok_iff settings capabilities request).mp asked
  rw [request, source]
  rfl

end Plan

namespace Config

theorem exists_settings_iff (c : Config) (clocks : Clocks) :
    (∃ settings, c.settings clocks = .ok settings) ↔
    ∀ name, c.timezone = some name → Zone.isKnown name = true := by
  unfold settings
  cases c.timezone with
  | none => exact iff_of_true ⟨_, rfl⟩ nofun
  | some name =>
    by_cases known : Zone.isKnown name = true
    · have zone : Zone.ofName? name = some ⟨name, known⟩ := dif_pos known
      simp [zone, known]
    · have zone : Zone.ofName? name = none := dif_neg known
      simp [zone, known]

theorem basePath_of_settings {c : Config} {clocks : Clocks} {settings : Settings}
    (given : c.settings clocks = .ok settings) : settings.basePath = Path.counting c.basePath := by
  unfold Config.settings at given
  obtain ⟨zone, -, rest⟩ := exists_of_bind_eq_ok given
  obtain rfl := Except.ok.inj rest
  rfl

end Config

namespace Command

theorem basePath?_toList (base : String) : basePath? base.toList = Path.counting (some base) := by
  have nothing : strip (· == '/') base.toList = [] ↔ Path.trim base = "" := by
    rw [← Path.toList_trim, String.toList_eq_nil_iff]
  rw [Path.counting_some, basePath?]
  simp only [nothing]
  rfl

theorem reads_use {base : String} (trimmed : trim base.toList = base.toList) :
    Reads (".use " ++ base) ".use" base.toList := by
  have line : (".use " ++ base).toList = ".use".toList ++ ([' '] ++ base.toList) := by
    rw [String.toList_append]
    rfl
  by_cases empty : base.toList = []
  · refine ⟨[], ?_, nofun, ?_⟩
    · rw [line, empty]
      rfl
    · rw [empty]
      rfl
  · have bare : Bare isBlank base.toList := by
      rw [← trimmed]
      exact bare_strip isBlank base.toList
    have word : Bare isBlank ".use".toList := ⟨by decide, by decide⟩
    have whole := (word.join bare (by decide) empty [' ']).strip_eq
    rw [← line] at whole
    refine ⟨[' '] ++ base.toList, whole.trans line, Token.atBlank_cons rfl _, ?_⟩
    exact trimmed.symm.trans (strip_cons_of_dropped rfl _).symm

theorem ofLine_use {base : String} (trimmed : trim base.toList = base.toList) :
    ofLine (".use " ++ base) = .useBase (Path.counting (some base)) := by
  rw [ofLine_of_reads rfl (by decide) (reads_use trimmed), ofWord_eq_useBase_iff, basePath?_toList]
  exact ⟨.inl rfl, rfl⟩

end Command

theorem Shell.respond_useBase {m : Type → Type} [Monad m] (shell : Shell m)
    (path : Option String) : ∃ message, shell.respond (.useBase path) =
      pure (.message message, shell.withBasePath path) := ⟨_, rfl⟩

/-- A path under a base means what it means with the base spelled out, and a base has the same
effect from a configuration, a line of the shell, or the settings. -/
theorem base_paths_agree (base : String) :
    (∀ query plan path, Plan.parse query = .ok plan → plan.source = .collection path →
      (path.toList.head? ≠ some '/' → ∀ other, Path.resolve path (some base) =
        Path.resolve ("/" ++ Path.trim base ++ "/" ++ path) other) ∧
      (path.toList.head? = some '/' → ∀ other, Path.resolve path (some base) =
        Path.resolve path other) ∧
      ∀ settings capabilities request, plan.storeQuery settings capabilities = .ok request →
        ∃ asked, asked = Path.resolve path settings.basePath ∧
          request.scope = .collection asked ∧ asked.toList.head? ≠ some '/' ∧
          asked.toList.getLast? ≠ some '/' ∧ (asked = "" ↔ ∀ c ∈ path.toList, c = '/')) ∧
    (trim base.toList = base.toList →
      (∀ (config : Config) (clocks : Clocks), config.basePath = some base →
        ((∃ settings, config.settings clocks = .ok settings) ↔
          ∀ name, config.timezone = some name → Zone.isKnown name = true) ∧
        ∀ settings, config.settings clocks = .ok settings →
          ∀ source : Source, source.scope settings.basePath = source.scope (some base)) ∧
      ∀ (m : Type → Type) [Monad m] (shell : Shell m), ∃ message path,
        shell.respond (.ofLine (".use " ++ base)) =
          pure (.message message, shell.withBasePath path) ∧
        ∀ source : Source, source.scope path = source.scope (some base)) := by
  constructor
  · intro query plan path parsed source
    have nonempty := Plan.path_ne_empty parsed source
    refine ⟨fun first other => Path.resolve_under base ⟨nonempty, first⟩ other, ?_, ?_⟩
    · intro absolute other
      rw [Path.resolve_of_absolute absolute, Path.resolve_of_absolute absolute]
    · intro settings capabilities request asked
      obtain ⟨bare, slashes⟩ := Path.isBare_resolve nonempty settings.basePath
      refine ⟨_, rfl, Plan.scope_of_storeQuery source asked, ?_, ?_, slashes⟩
      · intro first
        exact absurd (bare.first '/' first) (by decide)
      · intro last
        exact absurd (bare.last '/' last) (by decide)
  · intro trimmed
    constructor
    · intro config clocks given
      refine ⟨config.exists_settings_iff clocks, fun settings made source => ?_⟩
      rw [Config.basePath_of_settings made, given, source.scope_counting]
    · intro m _ shell
      obtain ⟨message, answer⟩ := shell.respond_useBase (Path.counting (some base))
      refine ⟨message, Path.counting (some base), ?_, fun source => source.scope_counting _⟩
      rw [Command.ofLine_use trimmed, answer]

theorem base_paths_agree_of_shop :
    Plan.parse "SELECT * FROM items/" = .ok ⟨[.wildcard], .collection "items/", none, none, none⟩ ∧
    Path.resolve "items/" (some "/shops/s 1//") = Path.resolve "/shops/s 1/items/" none ∧
    Plan.parse "SELECT * FROM /items" = .ok ⟨[.wildcard], .collection "/items", none, none, none⟩ ∧
    Path.resolve "/items" (some "/shops/s 1//") = Path.resolve "/items" none ∧
    (∃ asked, asked = Path.resolve "items/" (some "/shops/s 1//") ∧
      asked.toList.getLast? ≠ some '/') ∧
    trim "/shops/s 1//".toList = "/shops/s 1//".toList ∧
    (∃ settings, { basePath := some "/shops/s 1//" : Config }.settings .universal = .ok settings ∧
      (Source.collection "items/").scope settings.basePath =
        (Source.collection "items/").scope (some "/shops/s 1//")) ∧
    ∃ message path, Shell.shop.respond (.ofLine ".use /shops/s 1//") =
        pure (.message message, Shell.shop.withBasePath path) ∧
      (Source.collection "items/").scope path =
        (Source.collection "items/").scope (some "/shops/s 1//") := by
  obtain ⟨queries, ways⟩ := base_paths_agree "/shops/s 1//"
  have trimmed : trim "/shops/s 1//".toList = "/shops/s 1//".toList := by decide
  have relative : Plan.parse "SELECT * FROM items/" =
      .ok ⟨[.wildcard], .collection "items/", none, none, none⟩ := by rfl
  have absolute : Plan.parse "SELECT * FROM /items" =
      .ok ⟨[.wildcard], .collection "/items", none, none, none⟩ := by rfl
  obtain ⟨under, -, requests⟩ := queries _ _ _ relative rfl
  obtain ⟨-, alone, -⟩ := queries _ _ _ absolute rfl
  obtain ⟨asked, resolved, -, -, last, -⟩ :=
    requests { basePath := some "/shops/s 1//" } .all _ rfl
  obtain ⟨configs, shells⟩ := ways trimmed
  obtain ⟨given, same⟩ := configs { basePath := some "/shops/s 1//" } .universal rfl
  obtain ⟨settings, made⟩ := given.mpr nofun
  obtain ⟨message, path, answer, found⟩ := shells Id Shell.shop
  exact ⟨relative, under (by decide) none, absolute, alone (by decide) none, ⟨asked, resolved, last⟩,
    trimmed, ⟨settings, made, same settings made _⟩, message, path, answer, found _⟩

end DocQuery
