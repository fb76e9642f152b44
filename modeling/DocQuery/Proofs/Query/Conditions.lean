import DocQuery.Proofs.Query.Reading
import DocQuery.Proofs.Query.RoundTrip

/-!
# Queries with one condition

A query of a select list, a path and one condition is read as the plan of these. The path in it is
any word whose quotations are closed, even another keyword, save the keyword right behind it. The
value is any text that stands for a literal, or a list of such texts.
-/

namespace DocQuery

open Text

structure IsPathWord (text : List Char) : Prop where
  some : text ≠ []
  plain : ∀ c ∈ text, isBlank c = false
  closed : markAfter none text = none
  other : sameLetters text "WHERE".toList = false

theorem IsPathWord.quiet {text : List Char} (h : IsPathWord text) :
    QuietFor Clause.filter.keyword text :=
  quietFor_of_gapless Clause.filter.spelled
    (uncut_of_forall fun c m => not_isGap_of_not_isBlank (h.plain c m)) h.closed h.other

theorem Source.ofText_path {path : String} (usable : IsPathWord path.toList) (more : Bool) :
    ofText (ended [path.toList] more) = .ok (.collection path) := by
  have cut : words (ended [path.toList] more) = [path.toList] :=
    words_ended (List.forall_mem_singleton.mpr ⟨usable.some, usable.plain⟩) more
  rw [ofText, cut]
  dsimp only
  rw [String.ofList_toList]

def conditionWords (field : List Char) (op : Operator) (value : List Char) : List (List Char) :=
  field :: (op.words ++ [value])

section Words

variable {field value : List Char} (name : IsNameText field) (op : Operator) (h : IsValueText value)

include name h

theorem isFilterPiece_conditionWords :
    ∀ text ∈ conditionWords field op value, IsFilterPiece text := by
  intro text m
  rcases List.mem_cons.mp m with rfl | m
  · exact name.isScalarText.isValueText.isFilterPiece
  · rcases List.mem_append.mp m with m | m
    · exact op.isFilterPiece_words text m
    · rw [List.mem_singleton.mp m]
      exact h.isFilterPiece

theorem isClause_conditionWords : IsClause (conditionWords field op value) := by
  have pieces := isFilterPiece_conditionWords name op h
  exact isClause_of_texts (List.cons_ne_nil _ _) (fun text m => (pieces text m).settled)
    fun text m => (pieces text m).finished

theorem tokens_conditionWords : Token.tokens (ended (conditionWords field op value) false) =
    [String.ofList field, op.symbol, String.ofList value] := by
  have joined := Token.joinNotIn_condition name.isScalarText.isValueText.alone op h.alone []
  rw [List.append_nil] at joined
  rw [Token.tokens_ended (isFilterPiece_conditionWords name op h)]
  exact joined

end Words

def Plan.matching (select : List SelectItem) (path : String) (c : Condition) : Plan where
  select := select
  source := .collection path
  filter := some (.condition c)
  order := none
  limit := none

theorem queryOf_filter (select path : List Char) (words : List (List Char)) :
    queryOf [select] [path] (some words) none none = Clause.select.text ++ (spaced [select] ++
      (' ' :: Clause.source.text ++ (spaced [path] ++ opened .filter (some words)))) := by
  simp [queryOf, tailText, opened]

section Query

variable {select path : List Char} {words : List (List Char)} (settled : Settled select)
  (usable : IsPathWord path) (filter : IsClause words)

include filter in
theorem queryText_filter : queryText (queryOf [select] [path] (some words) none none) =
    queryOf [select] [path] (some words) none none := by
  have whole : queryOf [select] [path] (some words) none none =
      (Clause.select.text ++ spaced [select] ++ ' ' :: Clause.source.text ++ spaced [path] ++
        ' ' :: Clause.filter.text) ++ spaced words := by simp [queryOf, tailText, opened]
  apply queryText_of_finished
  · rw [whole]
    exact filter.finished.append _
  · intro c m
    cases m
    decide

include settled usable

theorem markAfter_path {filter? order? : Option (List (List Char))}
    (filters : ∀ words ∈ filter?, IsClause words) (orders : ∀ words ∈ order?, IsClause words) :
    markAfter none (queryOf [select] [path] filter? order? none) = none := by
  have first : markAfter none Clause.select.text = none := by decide
  have second : markAfter none (' ' :: Clause.source.text) = none := by decide
  have list := markAfter_spaced (List.forall_mem_singleton.mpr settled)
  have closed : markAfter none (spaced [path]) = none := by
    rw [spaced_cons, spaced_nil, List.append_nil]
    exact usable.closed
  have whole : queryOf [select] [path] filter? order? none = Clause.select.text ++
      (spaced [select] ++ (' ' :: Clause.source.text ++ (spaced [path] ++
        (opened .filter filter? ++ opened .order order?)))) := by
    simp [queryOf, tailText, opened]
  rw [whole, markAfter_append, first, markAfter_append, list, markAfter_append, second,
    markAfter_append, closed, markAfter_append, markAfter_opened .filter filters,
    markAfter_opened .order orders]

include filter

theorem clauseTexts_filter : clauseTexts (queryOf [select] [path] (some words) none none) =
    .ok (clausesOf [select] [path] (some words) none none) := by
  apply clauseTexts_queryOf_of_filter
  · exact List.forall_mem_singleton.mpr settled
  · exact List.forall_mem_singleton.mpr usable.quiet
  · exact filter.settled
  · exact nofun
  · exact nofun

end Query

/-- A query with one condition is read as the plan of its select list, its path and its
condition. -/
theorem Plan.parse_matching {select : List SelectItem} (writable : SelectItem.AreWritable select)
    {path field value : String} (usable : IsPathWord path.toList)
    (name : IsNameText field.toList) (op : Operator) (h : IsValueText value.toList)
    {query : String} (written : query.toList = queryOf [SelectItem.listText select] [path.toList]
      (some (conditionWords field.toList op value.toList)) none none) {v : Literal}
    (reads : Condition.ofTokens field op.symbol value = .ok ⟨field, op, v⟩) :
    Plan.parse query = .ok (.matching select path ⟨FieldName.resolve field, op, v⟩) := by
  have clause := isClause_conditionWords name op h
  have trimmed : queryText query.toList = queryOf [SelectItem.listText select] [path.toList]
      (some (conditionWords field.toList op value.toList)) none none := by
    rw [written]
    exact queryText_filter clause
  have filter : Predicate.ofTokens
      (Token.tokens (ended (conditionWords field.toList op value.toList) false)) =
        .ok (.condition ⟨field, op, v⟩) := by
    rw [tokens_conditionWords name op h, String.ofList_toList, String.ofList_toList,
      Predicate.ofTokens_three, reads]
    rfl
  have read : ReadFrom (clausesOf [SelectItem.listText select] [path.toList]
      (some (conditionWords field.toList op value.toList)) none none)
      ⟨select.map (·.mapField FieldName.display), .collection path,
        some (.condition ⟨field, op, v⟩), none, none⟩ := by
    refine ⟨writable.listOfText_ended, Source.ofText_path usable true, ?_, rfl, rfl⟩
    simp only [clausesOf, Option.map_some, Option.isSome_none, Bool.or_false, Option.mapM_some,
      filter]
    rfl
  have filters : ∀ words ∈ some (conditionWords field.toList op value.toList), IsClause words := by
    intro words m
    cases m
    exact clause
  refine (parse_eq_ok_iff trimmed).mpr ⟨markAfter_path writable.settled usable filters nofun, _, _,
    clauseTexts_filter writable.settled usable clause, read, Bool.and_false _, ?_⟩
  unfold resolveIdentity mapFields
  simp only [writable.resolve]
  rfl

def isLiteralChar (c : Char) : Bool :=
  c.isAlphanum || ".+-_".toList.contains c

/-- The text of a literal: a quotation without its own mark inside, or a word that is not
reserved. -/
inductive IsLiteralText : List Char → Prop where
  | quotation {q : Char} {contents : List Char} : isQuote q = true → q ∉ contents →
    IsLiteralText (quotation q contents)
  | word {text : List Char} : text ≠ [] → (∀ c ∈ text, isLiteralChar c = true) →
    Unreserved text → IsLiteralText text

theorem isPlain_of_isLiteralChar {c : Char} (h : isLiteralChar c = true) : isPlain c = true := by
  have marks : ∀ c ∈ ".+-_".toList, isPlain c = true := by decide
  rw [isLiteralChar, Bool.or_eq_true] at h
  rcases h with h | h
  · apply isPlain_of_isNameChar
    simp [isNameChar, isWordChar, h]
  · exact marks c (List.contains_iff_mem.mp h)

theorem comparison?_of_isLiteralChar {text : List Char} (h : ∀ c ∈ text, isLiteralChar c = true) :
    Token.comparison? text = none := by
  have first {c : Char} {rest : List Char} (e : text = c :: rest) : isLiteralChar c = true := by
    apply h
    rw [e]
    exact List.mem_cons_self ..
  unfold Token.comparison?
  split
  · exact absurd (first rfl) (by decide)
  · exact absurd (first rfl) (by decide)
  · exact absurd (first rfl) (by decide)
  · exact absurd (first rfl) (by decide)
  · exact absurd (first rfl) (by decide)
  · exact absurd (first rfl) (by decide)
  · rfl

theorem unglue_of_isLiteralChar {text : List Char} (h : ∀ c ∈ text, isLiteralChar c = true) :
    Token.unglue text = [text] ∨ text = [] := by
  cases text with
  | nil => exact .inr rfl
  | cons c rest =>
    left
    have later : ∀ d ∈ (c :: rest).dropWhile isNameChar, isLiteralChar d = true := fun d m =>
      h d ((List.dropWhile_suffix _).mem m)
    unfold Token.unglue
    dsimp only
    rw [comparison?_of_isLiteralChar later]
    split <;> rfl

theorem IsLiteralText.isScalarText {text : List Char} (h : IsLiteralText text) :
    IsScalarText text := by
  cases h with
  | quotation quote free => exact .quotation quote free
  | word some chars other =>
    have plain : IsPlainWord text := ⟨some, fun c m => isPlain_of_isLiteralChar (chars c m)⟩
    exact .word plain ((unglue_of_isLiteralChar chars).resolve_right some) other

def listTextOf (texts : List String) : String := "(" ++ ", ".intercalate texts ++ ")"

theorem toList_listTextOf (texts : List String) :
    (listTextOf texts).toList = '(' :: (listed (texts.map String.toList) ++ [')']) := by
  have opening : "(".toList = ['('] := rfl
  have comma : ", ".toList = [',', ' '] := rfl
  have closing : ")".toList = [')'] := rfl
  rw [listTextOf, String.toList_append, String.toList_append, String.toList_intercalate, opening,
    comma, closing]
  rfl

section Lists

variable {texts : List String} (h : ∀ text ∈ texts, IsLiteralText text.toList)

include h

theorem isScalarText_of_mem : ∀ text ∈ texts.map String.toList, IsScalarText text := by
  intro text m
  obtain ⟨s, ms, rfl⟩ := List.mem_map.mp m
  exact (h s ms).isScalarText

theorem isValueText_listTextOf : IsValueText (listTextOf texts).toList := by
  rw [toList_listTextOf]
  exact isValueText_bracketed (isScalarText_of_mem h) (by decide)

theorem Condition.ofTokens_listTextOf {field : String} (name : IsNameText field.toList)
    {op : Operator} (several : op.takesList = true) :
    ofTokens field op.symbol (listTextOf texts) =
      .ok ⟨field, op, .list (texts.map fun text => .ofText text.toList)⟩ := by
  have reads := ofTokens_list name several (isScalarText_of_mem h)
    (by decide : ('(', ')') ∈ [('(', ')'), ('[', ']')]) (toList_listTextOf texts)
  rwa [List.map_map] at reads

end Lists

def conditionQuery (select : List SelectItem) (path field : String) (op : Operator)
    (value : String) : String :=
  "SELECT " ++ ", ".intercalate (select.map (·.label)) ++ " FROM " ++ path ++ " WHERE " ++ field ++
    " " ++ op.symbol ++ " " ++ value

theorem toList_conditionQuery (select : List SelectItem) (path field : String) (op : Operator)
    (value : String) : (conditionQuery select path field op value).toList =
      queryOf [SelectItem.listText select] [path.toList]
        (some (conditionWords field.toList op value.toList)) none none := by
  have first : "SELECT ".toList = Clause.select.text ++ [' '] := rfl
  have second : " FROM ".toList = ' ' :: Clause.source.text ++ [' '] := rfl
  have third : " WHERE ".toList = ' ' :: Clause.filter.text ++ [' '] := rfl
  have blank : " ".toList = [' '] := rfl
  unfold conditionQuery
  simp only [String.toList_append, SelectItem.listText_label, first, second, third, blank]
  simp [queryOf_filter, opened, conditionWords, spaced_append, op.spaced_words]

section Parse

variable {select : List SelectItem} (writable : SelectItem.AreWritable select)
  {path field : String} (usable : IsPathWord path.toList) (name : IsNameText field.toList)
  {op : Operator}

include writable usable name

theorem Plan.parse_scalar (single : op.takesList = false) {text : String}
    (h : IsLiteralText text.toList) : Plan.parse (conditionQuery select path field op text) =
      .ok (.matching select path ⟨FieldName.resolve field, op, .ofText text.toList⟩) :=
  parse_matching writable usable name op h.isScalarText.isValueText
    (toList_conditionQuery select path field op text)
    (Condition.ofTokens_scalar name single h.isScalarText)

theorem Plan.parse_list (several : op.takesList = true) {texts : List String}
    (h : ∀ text ∈ texts, IsLiteralText text.toList) :
    Plan.parse (conditionQuery select path field op (listTextOf texts)) =
      .ok (.matching select path ⟨FieldName.resolve field, op,
        .list (texts.map fun text => .ofText text.toList)⟩) :=
  parse_matching writable usable name op (isValueText_listTextOf h)
    (toList_conditionQuery select path field op _) (Condition.ofTokens_listTextOf h name several)

end Parse

end DocQuery
