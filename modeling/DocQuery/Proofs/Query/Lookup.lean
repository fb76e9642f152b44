import DocQuery.Proofs.Query.Conditions

/-!
# Queries that look up identities

A query that compares the identity with quoted texts is read as the comparison with what those
texts stand for. The path in it is any word whose quotations are closed, even another keyword, save
the keyword right behind it.
-/

namespace DocQuery

open Text

def identitiesWhere (path : String) (c : Condition) : Plan where
  select := [.field FieldName.identity]
  source := .collection path
  filter := some (.condition c)
  order := none
  limit := none

def identityFilter (op : Operator) (value : List Char) : List (List Char) :=
  FieldName.userIdentity.toList :: (op.words ++ [value])

def identityQuery (path : List Char) (op : Operator) (value : List Char) : List Char :=
  queryOf [FieldName.userIdentity.toList] [path] (some (identityFilter op value)) none none

theorem identityQuery_eq (path : List Char) (op : Operator) (value : List Char) :
    identityQuery path op value = "SELECT id FROM ".toList ++
      (path ++ (" WHERE".toList ++ spaced (identityFilter op value))) := by
  have front : "SELECT id FROM ".toList = Clause.select.text ++
      (spaced [FieldName.userIdentity.toList] ++ ' ' :: (Clause.source.text ++ [' '])) := rfl
  have keyword : " WHERE".toList = ' ' :: Clause.filter.text := rfl
  rw [front, keyword]
  simp [identityQuery, queryOf, tailText, opened]

theorem isNameText_userIdentity : IsNameText FieldName.userIdentity.toList :=
  ⟨by decide, by decide⟩

theorem FieldName.isWritable_identity : IsWritable identity :=
  ⟨by decide, by decide, by decide⟩

theorem areWritable_userIdentity : SelectItem.AreWritable [.field FieldName.identity] :=
  .inl ⟨List.cons_ne_nil _ _, List.forall_mem_singleton.mpr FieldName.isWritable_identity⟩

theorem parse_identityQuery {op : Operator} {value : String} (h : IsValueText value.toList)
    {path : String} (usable : IsPathWord path.toList) {query : String}
    (written : query.toList = identityQuery path.toList op value.toList) {v : Literal}
    (reads : Condition.ofTokens FieldName.userIdentity op.symbol value =
      .ok ⟨FieldName.userIdentity, op, v⟩) :
    Plan.parse query = .ok (identitiesWhere path ⟨FieldName.identity, op, v⟩) :=
  Plan.parse_matching areWritable_userIdentity usable isNameText_userIdentity op h written reads

def quotedIdentity (id : String) : String := "'" ++ id ++ "'"

def lookup (path id : String) : String :=
  "SELECT id FROM " ++ path ++ " WHERE id = " ++ quotedIdentity id

def lookupAmong (path : String) (ids : List String) : String :=
  "SELECT id FROM " ++ path ++ " WHERE id IN (" ++
    ", ".intercalate (ids.map quotedIdentity) ++ ")"

theorem toList_quotedIdentity (id : String) :
    (quotedIdentity id).toList = quotation '\'' id.toList := by
  have mark : "'".toList = ['\''] := rfl
  simp [quotedIdentity, quotation, mark]

theorem isScalarText_quotedIdentity {id : String} (free : '\'' ∉ id.toList) :
    IsScalarText (quotedIdentity id).toList := by
  rw [toList_quotedIdentity]
  exact .quotation (by decide) free

theorem ofText_quotedIdentity (id : String) :
    Literal.ofText (quotedIdentity id).toList = .ofBareText id.toList := by
  rw [toList_quotedIdentity, Literal.ofText, unquote_quotation (by decide)]

theorem toList_lookup (path id : String) :
    (lookup path id).toList = identityQuery path.toList .equal (quotedIdentity id).toList := by
  have middle : " WHERE id = ".toList = " WHERE".toList ++
      (spaced (FieldName.userIdentity.toList :: Operator.equal.words) ++ [' ']) := by decide
  unfold lookup
  rw [identityQuery_eq, String.toList_append, String.toList_append, String.toList_append, middle]
  simp [identityFilter]

theorem toList_lookupAmong (path : String) (ids : List String) :
    (lookupAmong path ids).toList = identityQuery path.toList .isIn
      ('(' :: (listed (ids.map fun id => (quotedIdentity id).toList) ++ [')'])) := by
  have middle : " WHERE id IN (".toList = " WHERE".toList ++
      (spaced (FieldName.userIdentity.toList :: Operator.isIn.words) ++ [' ', '(']) := by decide
  have comma : ", ".toList = [',', ' '] := rfl
  have closing : ")".toList = [')'] := rfl
  unfold lookupAmong
  rw [identityQuery_eq, String.toList_append, String.toList_append, String.toList_append,
    String.toList_append, String.toList_intercalate, List.map_map, middle, comma, closing]
  simp [identityFilter, listed, Function.comp_def]

section Lookup

variable {path : String} (usable : IsPathWord path.toList)

include usable

theorem parse_lookup {id : String} (free : '\'' ∉ id.toList) :
    Plan.parse (lookup path id) = .ok (identitiesWhere path
      ⟨FieldName.identity, .equal, .ofBareText id.toList⟩) := by
  have scalar := isScalarText_quotedIdentity free
  have single : Operator.equal.takesList = false := rfl
  have reads := Condition.ofTokens_scalar isNameText_userIdentity single scalar
  rw [ofText_quotedIdentity] at reads
  exact parse_identityQuery scalar.isValueText usable (toList_lookup path id) reads

theorem parse_lookupAmong {ids : List String} (free : ∀ id ∈ ids, '\'' ∉ id.toList) :
    Plan.parse (lookupAmong path ids) = .ok (identitiesWhere path
      ⟨FieldName.identity, .isIn, .list (ids.map fun id => .ofBareText id.toList)⟩) := by
  have scalars : ∀ text ∈ ids.map fun id => (quotedIdentity id).toList, IsScalarText text := by
    intro text m
    obtain ⟨id, mi, rfl⟩ := List.mem_map.mp m
    exact isScalarText_quotedIdentity (free id mi)
  have pair : ('(', ')') ∈ [('(', ')'), ('[', ']')] := by decide
  have literals : (ids.map fun id => (quotedIdentity id).toList).map Literal.ofText =
      ids.map fun id => .ofBareText id.toList := by
    rw [List.map_map]
    exact List.map_congr_left fun id _ => ofText_quotedIdentity id
  have value := isValueText_bracketed scalars pair
  have written := toList_lookupAmong path ids
  rw [← String.toList_ofList (l := '(' :: (listed _ ++ [')']))] at value written
  have several : Operator.isIn.takesList = true := rfl
  have reads := Condition.ofTokens_list isNameText_userIdentity several scalars pair
    String.toList_ofList
  rw [literals] at reads
  exact parse_identityQuery value usable written reads

end Lookup

theorem markAfter_ne_some {q : Char} {text : List Char} (free : q ∉ text) {mark : Option Char}
    (other : mark ≠ some q) : markAfter mark text ≠ some q := by
  induction text generalizing mark with
  | nil => exact other
  | cons c text ih =>
    have differ : c ≠ q := fun e => free (e ▸ List.mem_cons_self ..)
    rw [markAfter_cons]
    apply ih fun m => free (List.mem_cons_of_mem _ m)
    cases mark with
    | none =>
      by_cases quote : isQuote c = true
      · simpa [quoteAfter, quote] using differ
      · simp [quoteAfter, quote]
    | some d =>
      by_cases closes : c = d
      · simp [quoteAfter, closes]
      · rwa [quoteAfter_some_ne closes]

theorem markAfter_some_identityFilter {q : Char} (quote : isQuote q = true) {id : List Char}
    (free : '\'' ∉ id) : markAfter (some q)
      (" WHERE id =".toList ++ ' ' :: quotation '\'' id) ≠ none := by
  have mark : q = '\'' ∨ q = '"' := by simpa [isQuote] using quote
  have before : markAfter (some q) (" WHERE id =".toList ++ [' ']) = some q := by
    rcases mark with rfl | rfl <;> decide
  have opened : quoteAfter (some q) '\'' ≠ some '\'' := by rcases mark with rfl | rfl <;> decide
  have inside := markAfter_ne_some free opened
  have whole : " WHERE id =".toList ++ ' ' :: quotation '\'' id =
      (" WHERE id =".toList ++ [' ']) ++ '\'' :: (id ++ ['\'']) := by simp [quotation]
  rw [whole, markAfter_append, before, markAfter_cons, markAfter_append]
  cases after : markAfter (quoteAfter (some q) '\'') id with
  | none => decide
  | some d =>
    rw [after] at inside
    have differ : '\'' ≠ d := fun e => inside (by rw [e])
    rw [markAfter_cons, quoteAfter_some_ne differ]
    exact Option.some_ne_none d

theorem Source.words_of_collection {text : List Char} {path : String}
    (h : ofText text = .ok (.collection path)) : words text = [path.toList] := by
  unfold ofText at h
  split at h
  · cases h
  · next word found =>
    obtain rfl : String.ofList word = path := Source.collection.inj (Except.ok.inj h)
    rwa [String.toList_ofList]
  · split at h
    · split at h <;> cases h
    · cases h
  · cases h

theorem Plan.source_of_parse {query : String} {text : List Char} {plan : Plan}
    (trimmed : queryText query.toList = text) (parsed : Plan.parse query = .ok plan) :
    markAfter none text = none ∧ ∃ texts, clauseTexts text = .ok texts ∧
      Source.ofText texts.source = .ok plan.source := by
  obtain ⟨closed, texts, shown, cut, read, -, rfl⟩ := (Plan.parse_eq_ok_iff trimmed).mp parsed
  exact ⟨closed, texts, cut, read.source⟩

theorem cutAt?_of_keyword {path rest : List Char} (some : path ≠ [])
    (same : sameLetters path "WHERE".toList = true) (stop : atGap rest = true) :
    cutAt? Clause.filter.keyword false none (' ' :: (path ++ rest)) = .some ([' '], rest) := by
  have found : dropKeyword? Clause.filter.keyword (path ++ rest) = .some rest := by
    show dropKeyword? ["WHERE"] (path ++ rest) = .some rest
    rw [dropKeyword?, dropWord?_eq_some_iff.mpr ⟨path, rfl, same⟩, Option.bind_some, if_pos stop]
  obtain ⟨c, more, rfl⟩ := List.exists_cons_of_ne_nil some
  rw [List.cons_append] at found
  rw [cutAt?_blank, List.cons_append, cutAt?_cons_of_found found]
  rfl

/-- A path that is the keyword ends the source in front of it. -/
theorem source_of_keyword {select path : List Char} (settled : Settled select)
    {filter? order? limit? : Option (List (List Char))} {texts : ClauseTexts} (some : path ≠ [])
    (same : sameLetters path "WHERE".toList = true)
    (cut : clauseTexts (queryOf [select] [path] filter? order? limit?) = .ok texts) :
    texts.source = [' '] := by
  have selects : ∀ text ∈ [select], Settled text := List.forall_mem_singleton.mpr settled
  have after := atGap_opened .filter filter? (atGap_tailText order? limit?)
  have opens : dropKeyword? Clause.select.keyword
      (queryOf [select] [path] filter? order? limit?) = _ :=
    dropKeyword?_text .select (atGap_spaced_append _ (atGap_opened .source (.some [path]) after))
  have from_ := cutAt?_next selects .source [path] after
  have where_ := cutAt?_of_keyword some same after
  have whole (rest : List Char) : spaced [path] ++ rest = ' ' :: (path ++ rest) := by simp
  rw [whole] at from_
  rw [clauseTexts_of_filter opens from_ where_] at cut
  rw [← Except.ok.inj cut]

theorem isPathWord_of_parse {path id : String} (free : '\'' ∉ id.toList) {plan : Plan}
    (parsed : Plan.parse (lookup path id) = .ok plan) (source : plan.source = .collection path) :
    IsPathWord path.toList := by
  have value := (isScalarText_quotedIdentity free).isValueText
  have trimmed : queryText (lookup path id).toList =
      identityQuery path.toList .equal (quotedIdentity id).toList := by
    rw [toList_lookup]
    exact queryText_filter (isClause_conditionWords isNameText_userIdentity .equal value)
  obtain ⟨closed, texts, cut, read⟩ := Plan.source_of_parse trimmed parsed
  rw [source] at read
  have named := Source.words_of_collection read
  obtain ⟨some, plain⟩ := of_mem_words (named ▸ List.mem_singleton_self path.toList)
  refine ⟨some, plain, ?_, ?_⟩
  · -- A quotation that the path leaves open stays open up to the end.
    have front : markAfter none "SELECT id FROM ".toList = none := by decide
    have whole : " WHERE".toList ++ spaced (identityFilter .equal (quotedIdentity id).toList) =
        " WHERE id =".toList ++ ' ' :: quotation '\'' id.toList := by
      have words : " WHERE id =".toList = " WHERE".toList ++
          spaced (FieldName.userIdentity.toList :: Operator.equal.words) := by decide
      rw [words, toList_quotedIdentity]
      simp [identityFilter]
    rw [identityQuery_eq, whole, markAfter_append, front, markAfter_append] at closed
    cases after : markAfter none path.toList with
    | none => rfl
    | some q =>
      have unopened : ∀ q ∈ (none : Option Char), isQuote q = true := by
        intro q m
        cases m
      have quote := isQuote_of_markAfter unopened path.toList q after
      rw [after] at closed
      exact absurd closed (markAfter_some_identityFilter quote free)
  · -- As the keyword, the path would end the source in front of it.
    rw [← Bool.not_eq_true]
    intro same
    have empty := source_of_keyword isNameText_userIdentity.isScalarText.settled some same cut
    rw [empty] at named
    cases named

/-- The path words are exactly the paths that such a query can name. -/
theorem isPathWord_iff {path id : String} (free : '\'' ∉ id.toList) :
    IsPathWord path.toList ↔
      ∃ plan, Plan.parse (lookup path id) = .ok plan ∧ plan.source = .collection path := by
  constructor
  · intro usable
    exact ⟨_, parse_lookup usable free, rfl⟩
  · rintro ⟨plan, parsed, source⟩
    exact isPathWord_of_parse free parsed source

end DocQuery
