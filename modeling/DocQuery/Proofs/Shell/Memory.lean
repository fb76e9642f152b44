import DocQuery.Proofs.Query.Tokens
import DocQuery.Proofs.Session.Execution
import DocQuery.Shell.Basic
import Mathlib.Data.List.Basic

/-!
# What a shell remembers

Lines are answered one after the other, each by the shell that the line before it left. All that
the lines leave behind is a base path: the one that the last use of a base path names, or the one
that was set at first. So a query is answered as it would be with nothing typed before it, under
the settings with that base path. The store may have any effect of its own.
-/

namespace DocQuery

open Text

def Reads (line word : String) (argument : List Char) : Prop :=
  ∃ rest, trim line.toList = word.toList ++ rest ∧ Token.AtBlank rest ∧ argument = trim rest

/-- The line is a use of the base path that its argument names. -/
def UsesBase (line : String) (argument : List Char) : Prop :=
  Reads line ".use" argument ∨ Reads line ".cd" argument

/-- The base path that lines leave, given the one that was set before them. -/
def BaseAfter (initial : Option String) (lines : List String) (path : Option String) : Prop :=
  (∃ before line argument after, lines = before ++ line :: after ∧ UsesBase line argument ∧
    (∀ later ∈ after, ∀ other, ¬UsesBase later other) ∧ path = Command.basePath? argument) ∨
  (∀ line ∈ lines, ∀ argument, ¬UsesBase line argument) ∧ path = initial

namespace Command

theorem ofLine_of_reads {line word : String} {argument : List Char}
    (dotted : word.toList.head? = some '.') (plain : ∀ c ∈ word.toList, isBlank c = false)
    (reads : Reads line word argument) : ofLine line = ofWord word argument := by
  obtain ⟨rest, text, stop, rfl⟩ := reads
  obtain ⟨letters, front⟩ := List.head?_eq_some_iff.mp dotted
  have solid : ∀ c ∈ word.toList, (!isBlank c) = true := fun c m => by rw [plain c m]; rfl
  have ends : ∀ c ∈ rest.head?, (!isBlank c) = false := fun c m => by rw [stop c m]; rfl
  have opened : ofLine line = ofWord
      (String.ofList ((word.toList ++ rest).takeWhile fun c => !isBlank c))
      (trim ((word.toList ++ rest).dropWhile fun c => !isBlank c)) := by
    unfold ofLine
    rw [text, front]
    rfl
  rw [opened, takeWhile_append_of_stop solid ends, dropWhile_append_of_stop solid ends,
    String.ofList_toList]

theorem ofLine_cases (line : String) :
    ofLine line = .nothing ∨ (∃ text, ofLine line = .query text) ∨
      ∃ word argument, Reads line word argument ∧ ofLine line = ofWord word argument := by
  unfold ofLine
  dsimp only
  split
  · exact .inl rfl
  · refine .inr (.inr ⟨_, _, ⟨_, ?_, ?_, rfl⟩, rfl⟩)
    · rw [String.toList_ofList, List.takeWhile_append_dropWhile]
    · intro c m
      have first := List.head?_dropWhile_not (fun c => !isBlank c) (trim line.toList)
      rw [Option.mem_def.mp m] at first
      simpa using first
  · exact .inr (.inl ⟨_, rfl⟩)

theorem ofWord_eq_useBase_iff {word : String} {argument : List Char} {path : Option String} :
    ofWord word argument = .useBase path ↔
      (word = ".use" ∨ word = ".cd") ∧ path = basePath? argument := by
  rw [← List.mem_pair]
  by_cases use : word ∈ [".use", ".cd"]
  · have read : ofWord word argument = .useBase (basePath? argument) := by
      rcases List.mem_pair.mp use with rfl | rfl <;> rfl
    rw [read, useBase.injEq, eq_comm]
    exact (and_iff_right use).symm
  · have other : ofWord word argument ≠ .useBase path := by
      unfold ofWord
      rw [if_neg use]
      split_ifs <;> nofun
    exact iff_of_false other fun both => use both.1

theorem ofLine_eq_useBase_iff {line : String} {path : Option String} :
    ofLine line = .useBase path ↔
      ∃ argument, UsesBase line argument ∧ path = basePath? argument := by
  constructor
  · intro use
    rcases ofLine_cases line with nothing | ⟨text, query⟩ | ⟨word, argument, reads, same⟩
    · rw [nothing] at use
      cases use
    · rw [query] at use
      cases use
    · rw [same, ofWord_eq_useBase_iff] at use
      obtain ⟨rfl | rfl, named⟩ := use
      · exact ⟨argument, .inl reads, named⟩
      · exact ⟨argument, .inr reads, named⟩
  · rintro ⟨argument, reads | reads, rfl⟩
    · exact ofLine_of_reads rfl (by decide) reads
    · exact ofLine_of_reads rfl (by decide) reads

def baseAfter (initial : Option String) : Command → Option String
  | .useBase path => path
  | _ => initial

theorem baseAfter_of_not_useBase {initial : Option String} {c : Command}
    (other : ∀ path, c ≠ .useBase path) : c.baseAfter initial = initial := by
  cases c with
  | useBase path => exact absurd rfl (other path)
  | _ => rfl

def baseAfterAll (initial : Option String) (lines : List String) : Option String :=
  lines.foldl (fun base line => (ofLine line).baseAfter base) initial

/-- The fold over the lines finds the last use. -/
theorem baseAfter_baseAfterAll (initial : Option String) (lines : List String) :
    BaseAfter initial lines (baseAfterAll initial lines) := by
  induction lines generalizing initial with
  | nil => exact .inr ⟨nofun, rfl⟩
  | cons line lines ih =>
    rcases ih ((ofLine line).baseAfter initial) with
      ⟨before, use, argument, after, rfl, uses, none, named⟩ | ⟨none, kept⟩
    · exact .inl ⟨line :: before, use, argument, after, rfl, uses, none, named⟩
    · by_cases use : ∃ argument, UsesBase line argument
      · obtain ⟨argument, uses⟩ := use
        refine .inl ⟨[], line, argument, lines, rfl, uses, none, kept.trans ?_⟩
        rw [ofLine_eq_useBase_iff.mpr ⟨argument, uses, rfl⟩]
        rfl
      · rw [not_exists] at use
        refine .inr ⟨List.forall_mem_cons.mpr ⟨use, none⟩, kept.trans ?_⟩
        apply baseAfter_of_not_useBase
        intro path set
        obtain ⟨argument, uses, -⟩ := ofLine_eq_useBase_iff.mp set
        exact use argument uses

end Command

def Response.ofResult : Except QueryError Output → Response
  | .ok o => .output o
  | .error e => .error e

def Response.ofExplanation : Except QueryError StoreQuery → Response
  | .ok request => .explained request
  | .error e => .error e

namespace Shell

variable {m : Type → Type} [Monad m]

/-- Answers lines one after the other; gives the shell that the last of them leaves. -/
def respondAll (shell : Shell m) : List String → m (List Response × Shell m)
  | [] => pure ([], shell)
  | line :: rest => do
    let (response, shell) ← shell.respond (.ofLine line)
    let (responses, shell) ← shell.respondAll rest
    return (response :: responses, shell)

def response (shell : Shell m) (c : Command) : m Response := Prod.fst <$> shell.respond c

variable [LawfulMonad m] (shell : Shell m)

theorem response_query (text : String) :
    shell.response (.query text) =
      Response.ofResult <$> execute shell.store shell.settings text := by
  simp only [response, respond, map_bind]
  rw [map_eq_pure_bind]
  congr 1
  funext result
  cases result <;> exact map_pure ..

theorem response_explain (query : String) :
    shell.response (.explain query) =
      pure (.ofExplanation (explain shell.store.capabilities shell.settings query)) := by
  simp only [response, respond]
  cases explain shell.store.capabilities shell.settings query <;> exact map_pure ..

theorem respond_eq (c : Command) :
    shell.respond c = (fun response =>
      (response, shell.withBasePath (c.baseAfter shell.settings.basePath))) <$>
        shell.response c := by
  cases c with
  | explain query =>
    simp only [response, respond]
    cases explain shell.store.capabilities shell.settings query <;> simp <;> rfl
  | query text =>
    simp only [response, respond, map_bind]
    congr 1
    funext result
    cases result <;> simp <;> rfl
  | _ =>
    simp [response, respond]
    rfl

theorem respondAll_cons (line : String) (lines : List String) :
    shell.respondAll (line :: lines) = do
      let response ← shell.response (.ofLine line)
      let (responses, last) ←
        (shell.withBasePath ((Command.ofLine line).baseAfter shell.settings.basePath)).respondAll
          lines
      return (response :: responses, last) := by
  rw [respondAll, respond_eq]
  simp

/-- The shell that lines leave does not depend on how they were answered. The induction is on the
lines, with any shell in front of them. -/
theorem respondAll_eq (lines : List String) :
    shell.respondAll lines = (fun p =>
      (p.1, shell.withBasePath (Command.baseAfterAll shell.settings.basePath lines))) <$>
        shell.respondAll lines := by
  induction lines generalizing shell with
  | nil =>
    rw [respondAll, map_pure]
    rfl
  | cons line lines ih =>
    rw [respondAll_cons, map_bind]
    congr 1
    funext response
    rw [ih]
    simp
    rfl

theorem respondAll_append (before after : List String) :
    shell.respondAll (before ++ after) = do
      let (earlier, _) ← shell.respondAll before
      let (later, last) ← (shell.withBasePath
        (Command.baseAfterAll shell.settings.basePath before)).respondAll after
      return (earlier ++ later, last) := by
  induction before generalizing shell with
  | nil =>
    have kept : shell.withBasePath (Command.baseAfterAll shell.settings.basePath []) = shell := rfl
    simp [respondAll, kept]
  | cons line before ih =>
    rw [List.cons_append, respondAll_cons, respondAll_cons]
    simp [ih]
    rfl

theorem respondAll_query {line text : String} (asks : Command.ofLine line = .query text)
    (before after : List String) :
    shell.respondAll (before ++ line :: after) = do
      let settings := { shell.settings with
        basePath := Command.baseAfterAll shell.settings.basePath before }
      let (earlier, _) ← shell.respondAll before
      let result ← execute shell.store settings text
      let (later, last) ← (shell.withBasePath settings.basePath).respondAll after
      return (earlier ++ .ofResult result :: later, last) := by
  rw [respondAll_append]
  simp only [respondAll_cons, asks, response_query]
  simp
  rfl

theorem respondAll_explain {line query : String} (asks : Command.ofLine line = .explain query)
    (before after : List String) :
    shell.respondAll (before ++ line :: after) = do
      let settings := { shell.settings with
        basePath := Command.baseAfterAll shell.settings.basePath before }
      let (earlier, _) ← shell.respondAll before
      let (later, last) ← (shell.withBasePath settings.basePath).respondAll after
      return (earlier ++
        .ofExplanation (explain shell.store.capabilities settings query) :: later, last) := by
  rw [respondAll_append]
  simp only [respondAll_cons, asks, response_explain]
  simp
  rfl

/-- A query at any place of a session is answered by a run of its own under the base path that the
last use of one names. -/
theorem session_remembers_last_use (lines : List String) :
    ∃ path, BaseAfter shell.settings.basePath lines path ∧
      shell.respondAll lines =
        (fun p => (p.1, shell.withBasePath path)) <$> shell.respondAll lines ∧
      ∀ line after,
        (∀ text, Command.ofLine line = .query text →
          shell.respondAll (lines ++ line :: after) = do
            let (earlier, _) ← shell.respondAll lines
            let result ← execute shell.store { shell.settings with basePath := path } text
            let (later, last) ← (shell.withBasePath path).respondAll after
            return (earlier ++ .ofResult result :: later, last)) ∧
        (∀ query, Command.ofLine line = .explain query →
          shell.respondAll (lines ++ line :: after) = do
            let (earlier, _) ← shell.respondAll lines
            let explanation :=
              explain shell.store.capabilities { shell.settings with basePath := path } query
            let (later, last) ← (shell.withBasePath path).respondAll after
            return (earlier ++ .ofExplanation explanation :: later, last)) := by
  refine ⟨_, Command.baseAfter_baseAfterAll _ lines, respondAll_eq shell lines, ?_⟩
  intro line after
  constructor
  · intro text asks
    exact respondAll_query shell asks lines after
  · intro query asks
    exact respondAll_explain shell asks lines after

def shop : Shell Id where
  store := (Collections.empty.insert "shops/s1/items" "i1" (.object [])).toStore .all
  source := "(empty)"
  settings := {}

theorem session_remembers_last_use_of_shop :
    LawfulMonad Id ∧ Command.ofLine " SELECT id FROM items" = .query "SELECT id FROM items" ∧
    ∃ responses rows last,
      shop.respondAll [".use /shops/s1/ ", "SELECT", ".frob", " SELECT id FROM items", ".cd /"] =
        (responses ++ [.output (.rows rows), .message "Base path cleared"], last) ∧
      responses.length = 3 ∧ rows.length = 1 ∧ last = shop := by
  have asks : Command.ofLine " SELECT id FROM items" = .query "SELECT id FROM items" := by
    decide
  obtain ⟨path, -, kept, answers⟩ :=
    session_remembers_last_use shop [".use /shops/s1/ ", "SELECT", ".frob"]
  have base : some "shops/s1" = path :=
    congrArg (fun p : List Response × Shell Id => p.2.settings.basePath) kept
  have answered := (answers " SELECT id FROM items" [".cd /"]).1 _ asks
  rw [← base] at answered
  exact ⟨inferInstance, asks, _, _, _, answered, rfl, rfl, rfl⟩

end Shell

end DocQuery
