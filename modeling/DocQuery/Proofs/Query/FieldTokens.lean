import DocQuery.Proofs.Query.Brackets
import DocQuery.Proofs.Query.RoundTrip

/-!
# Fields of conditions

The select list and the order of a query read a field only if it is a name. A filter takes whatever
token stands in the place of a field: where that is a name, all three mean the same stored field;
where it is not, the filter is read all the same, and the other two refuse it.
-/

namespace DocQuery

open Text

/-- The stored field that a text in the place of a field means. -/
def FieldName.stored (text : List Char) : String := resolve (String.ofList (bare text))

theorem exists_of_mem_mapM {ε α β : Type} {f : α → Except ε β} {xs : List α} {ys : List β}
    (read : xs.mapM f = .ok ys) : ∀ y ∈ ys, ∃ x ∈ xs, f x = .ok y := by
  induction xs generalizing ys with
  | nil =>
    obtain rfl := Except.ok.inj read
    exact nofun
  | cons x xs ih =>
    rw [List.mapM_cons] at read
    obtain ⟨y, first, read⟩ := exists_of_bind_eq_ok read
    obtain ⟨rest, others, read⟩ := exists_of_bind_eq_ok read
    obtain rfl := Except.ok.inj read
    refine List.forall_mem_cons.mpr ⟨⟨x, List.mem_cons_self .., first⟩, fun z m => ?_⟩
    obtain ⟨w, inside, same⟩ := ih others z m
    exact ⟨w, List.mem_cons_of_mem _ inside, same⟩

theorem SelectItem.exists_name_of_listOfText {text : List Char} {items : List SelectItem}
    (read : listOfText text = .ok items) {field : String} (m : .field field ∈ items) :
    ∃ name, FieldName.isName name = true ∧ field = String.ofList (FieldName.bare name) := by
  unfold listOfText at read
  split at read
  · cases read
  · obtain ⟨list, mapped, read⟩ := exists_of_bind_eq_ok read
    split at read
    · cases read
    · split at read
      · cases read
      · obtain rfl := Except.ok.inj read
        obtain ⟨item, -, same⟩ := exists_of_mem_mapM mapped _ m
        exact ⟨_, ofText_eq_field_iff.mp same⟩

theorem OrderBy.ofText_eq_ok_iff {text : List Char} {order : OrderBy} :
    ofText text = .ok order ↔ ',' ∉ text ∧ ∃ name direction, words text = [name, direction] ∧
      Direction.ofWord? direction = some order.direction ∧ FieldName.isName name = true ∧
      order.field = String.ofList (FieldName.bare name) := by
  constructor
  · intro read
    unfold ofText at read
    split at read
    · cases read
    · next single =>
      split at read
      · next name direction found =>
        split at read
        · cases read
        · next way =>
          split at read
          · next isName =>
            cases read
            exact ⟨single, name, direction, found, way, isName, rfl⟩
          · cases read
      · cases read
      · cases read
  · rintro ⟨single, name, direction, found, way, isName, same⟩
    simp only [ofText, single, found, way, isName, if_true, if_false, ← same]

structure IsOrderWord (text : List Char) : Prop where
  some : text ≠ []
  solid : ∀ c ∈ text, isBlank c = false
  single : ',' ∉ text

theorem OrderBy.ofText_word_iff {word : List Char} (h : IsOrderWord word) {field : String}
    {direction : Direction} :
    ofText (word ++ ' ' :: direction.word.toList) = .ok ⟨field, direction⟩ ↔
      FieldName.isName word = true ∧ field = String.ofList (FieldName.bare word) := by
  have blank : isBlank ' ' = true := by decide
  have behind : words direction.word.toList = [direction.word.toList] := by
    cases direction <;> decide
  have cut : words (word ++ ' ' :: direction.word.toList) = [word, direction.word.toList] := by
    rw [words_append h.some h.solid (Token.atBlank_cons blank _), words_cons_blank blank, behind]
  have single : ',' ∉ word ++ ' ' :: direction.word.toList := by
    have commas : ',' ∉ ' ' :: direction.word.toList := by cases direction <;> decide
    simpa [h.single] using commas
  constructor
  · intro read
    obtain ⟨-, name, other, found, -, isName, same⟩ := ofText_eq_ok_iff.mp read
    cases cut.symm.trans found
    exact ⟨isName, same⟩
  · rintro ⟨isName, same⟩
    exact ofText_eq_ok_iff.mpr
      ⟨single, word, _, cut, direction.ofWord?_word, isName, same⟩

def Condition.withField (c : Condition) (token : String) : Condition :=
  { c with field := String.ofList (FieldName.bare token.toList) }

/-- The token in the place of a field is not looked at: whether there is a condition, and what it
is but for its field, is told by the other two. -/
theorem Condition.ofTokens_eq_map (field other operator value : String) :
    ofTokens other operator value =
      (ofTokens field operator value).map (·.withField other) := by
  unfold ofTokens
  cases Operator.ofToken? operator with
  | none => rfl
  | some op =>
    by_cases takes : op.takesList = true
    · cases Literal.listOfText? value.toList with
      | none => simp only [takes, if_true, Except.map]
      | some list => simp only [takes, if_true, Except.map, withField]
    · by_cases listed : isListText value.toList = true
      · simp only [takes, listed, if_true, Except.map, Bool.false_eq_true, if_false]
      · simp only [takes, listed, Except.map, withField, Bool.false_eq_true, if_false]

theorem Condition.ofTokens_withField {field operator value : String} {c : Condition}
    (read : ofTokens field operator value = .ok c) (other : String) :
    ofTokens other operator value = .ok (c.withField other) := by
  rw [ofTokens_eq_map field, read]
  rfl

theorem Condition.field_of_ofTokens {field operator value : String} {c : Condition}
    (read : ofTokens field operator value = .ok c) :
    c.field = String.ofList (FieldName.bare field.toList) := by
  have same := read.symm.trans (ofTokens_withField read field)
  exact congrArg Condition.field (Except.ok.inj same)

/-- Any token can take the place of a field, and nothing else of the predicate changes. The
induction is on the links of the predicate. -/
theorem Predicate.ofTokens_set_field {tokens : List String} {p : Predicate}
    (read : ofTokens tokens = .ok p) {i : Nat} {c : Condition} (there : p.conditions[i]? = some c)
    (other : String) : ∃ q, ofTokens (tokens.set (4 * i) other) = .ok q ∧
      q.conditions = p.conditions.set i (c.withField other) ∧ q.connectives = p.connectives := by
  induction p generalizing tokens i with
  | condition d =>
    rcases ofTokens_eq_ok_cases read with
      ⟨field, operator, value, first, rfl, condition, same⟩ |
      ⟨_, _, _, _, _, _, _, _, _, _, _, absurd⟩
    · cases same
      cases i with
      | zero =>
        cases there
        refine ⟨.condition (c.withField other), ?_, rfl, rfl⟩
        exact ofTokens_three_eq_ok_iff.mpr ⟨_, Condition.ofTokens_withField condition other, rfl⟩
      | succ i => cases there
    · cases absurd
  | joined k left right _ ih =>
    rcases ofTokens_eq_ok_cases read with
      ⟨_, _, _, _, _, _, absurd⟩ |
      ⟨field, operator, value, word, rest, first, k, right, rfl, link, behind, same⟩
    · cases absurd
    · cases same
      cases i with
      | zero =>
        cases there
        refine ⟨.joined k (.condition (c.withField other)) right, ?_, rfl, rfl⟩
        exact ofTokens_link ⟨Condition.ofTokens_withField link.condition other, link.value,
          link.connective⟩ behind
      | succ i =>
        obtain ⟨q, changed, conditions, connectives⟩ := ih behind there
        refine ⟨.joined k (.condition first) q, ofTokens_link link changed, ?_, ?_⟩
        · simp [Predicate.conditions, conditions]
        · simp [Predicate.connectives, connectives]

theorem Predicate.connectives_mapFields (f : String → String) (p : Predicate) :
    (p.mapFields f).connectives = p.connectives := by
  induction p with
  | condition c => rfl
  | joined k left right ihl ihr => simp only [mapFields, connectives, ihl, ihr]

/-- The select list and the order read a token as this stored field, if it is a name. -/
structure MeansAlike (token : List Char) (field : String) : Prop where
  select : FieldName.isName token = true ↔
    ∃ name, SelectItem.ofText token = .ok (.field name) ∧ FieldName.resolve name = field
  order : IsOrderWord token → ∀ direction, FieldName.isName token = true ↔
    ∃ name, OrderBy.ofText (token ++ ' ' :: direction.word.toList) = .ok ⟨name, direction⟩ ∧
      FieldName.resolve name = field

theorem meansAlike_stored (token : List Char) : MeansAlike token (FieldName.stored token) where
  select := by
    constructor
    · intro name
      exact ⟨_, SelectItem.ofText_eq_field_iff.mpr ⟨name, rfl⟩, rfl⟩
    · rintro ⟨_, read, -⟩
      exact (SelectItem.ofText_eq_field_iff.mp read).1
  order := by
    intro word direction
    constructor
    · intro name
      exact ⟨_, (OrderBy.ofText_word_iff word).mpr ⟨name, rfl⟩, rfl⟩
    · rintro ⟨_, read, -⟩
      exact ((OrderBy.ofText_word_iff word).mp read).1

namespace Plan

variable {query : String} {plan : Plan} {texts : ClauseTexts}

theorem ReadFrom.exists_name_of_select (read : plan.ReadFrom texts) {field : String}
    (m : .field field ∈ plan.resolveIdentity.select) :
    ∃ name, FieldName.isName name = true ∧ field = FieldName.stored name := by
  obtain ⟨item, inside, same⟩ := List.mem_map.mp m
  cases item with
  | field name =>
    cases same
    obtain ⟨text, isName, rfl⟩ := SelectItem.exists_name_of_listOfText read.select inside
    exact ⟨text, isName, rfl⟩
  | call function argument => cases same
  | countAll => cases same
  | wildcard => cases same

theorem ReadFrom.exists_name_of_order (read : plan.ReadFrom texts) {order : OrderBy}
    (m : order ∈ plan.resolveIdentity.order) :
    ∃ name, FieldName.isName name = true ∧ order.field = FieldName.stored name := by
  obtain ⟨named, ordered, rfl⟩ := Option.map_eq_some_iff.mp m
  have clauses := read.order
  cases text : texts.order with
  | none =>
    rw [text, ordered] at clauses
    cases clauses
  | some order =>
    rw [text, ordered, Option.mapM_some] at clauses
    obtain ⟨o, reads, same⟩ := exists_of_bind_eq_ok clauses
    cases same
    obtain ⟨-, name, -, -, -, isName, same⟩ :=
      OrderBy.ofText_eq_ok_iff.mp (eq_ok_of_mapError_eq_ok reads)
    exact ⟨name, isName, congrArg FieldName.resolve same⟩

/-- The field of a condition is the token in its place, whatever that is; the select list and the
order read the token as that field exactly if it is a name. -/
theorem filter_fields_are_tokens {filter : List Char} (parsed : parse query = .ok plan)
    (cut : clauseTexts (queryText query.toList) = .ok texts) (clause : texts.filter = some filter) :
    (∀ field, .field field ∈ plan.select →
      ∃ name, FieldName.isName name = true ∧ field = FieldName.stored name) ∧
    (∀ order ∈ plan.order,
      ∃ name, FieldName.isName name = true ∧ order.field = FieldName.stored name) ∧
    ∃ p, plan.filter = some p ∧ (Token.tokens filter).length + 1 = 4 * p.conditions.length ∧
      ∀ i c, p.conditions[i]? = some c →
        ∃ token, (Token.tokens filter)[4 * i]? = some token ∧
          c.field = FieldName.stored token.toList ∧ MeansAlike token.toList c.field ∧
          ∀ other, ∃ q, Predicate.ofTokens ((Token.tokens filter).set (4 * i) other) = .ok q ∧
            (q.mapFields FieldName.resolve).conditions =
              p.conditions.set i { c with field := FieldName.stored other.toList } ∧
            (q.mapFields FieldName.resolve).connectives = p.connectives := by
  obtain ⟨-, texts', shown, cut', read, -, rfl⟩ := (parse_eq_ok_iff rfl).mp parsed
  obtain rfl := Except.ok.inj (cut.symm.trans cut')
  obtain ⟨p, tree, found⟩ := read.exists_filter clause
  obtain ⟨links, chain, shape⟩ := Predicate.isTreeOf_of_ofTokens tree
  refine ⟨fun _ m => read.exists_name_of_select m, fun _ m => read.exists_name_of_order m,
    p.mapFields FieldName.resolve, ?_, ?_, ?_⟩
  · simp only [resolveIdentity, mapFields, found, Option.map_some]
  · have length := chain.length
    have conditions := shape.conditions_length
    rw [Predicate.conditions_mapFields, List.length_map]
    omega
  · intro i c there
    rw [Predicate.conditions_mapFields, List.getElem?_map] at there
    obtain ⟨d, place, rfl⟩ := Option.map_eq_some_iff.mp there
    obtain ⟨token, operator, value, first, -, -, condition⟩ := shape.conditions i d place
    have field : FieldName.resolve d.field = FieldName.stored token.toList :=
      congrArg FieldName.resolve (Condition.field_of_ofTokens condition)
    refine ⟨token, first, field, field ▸ meansAlike_stored token.toList, fun other => ?_⟩
    obtain ⟨q, changed, conditions, connectives⟩ := Predicate.ofTokens_set_field tree place other
    refine ⟨q, changed, ?_, ?_⟩
    · simp only [Predicate.conditions_mapFields, conditions, List.map_set]
      rfl
    · simp only [Predicate.connectives_mapFields, connectives]

def agePlan : Plan where
  select := [.field "age"]
  source := .collection "t"
  filter := some (.condition ⟨"age", .equal, .string "x"⟩)
  order := some ⟨"age", .ascending⟩
  limit := none

theorem filter_fields_are_tokens_of_age :
    parse "SELECT age FROM t WHERE age = 'x' ORDER BY age ASC" = .ok agePlan ∧
    (∃ name, FieldName.isName name = true ∧ "age" = FieldName.stored name) ∧
    MeansAlike "age".toList "age" ∧
    ∃ q, Predicate.ofTokens ["5", "=", "'x'"] = .ok q ∧
      (q.mapFields FieldName.resolve).conditions = [⟨"5", .equal, .string "x"⟩] := by
  have tokens : Token.tokens " age = 'x' ".toList = ["age", "=", "'x'"] := by decide
  have filter := readFilter_of_tokens tokens
    (Predicate.ofTokens_three_eq_ok_iff.mpr ⟨⟨"age", .equal, .string "x"⟩, rfl, rfl⟩)
  have parsed : parse "SELECT age FROM t WHERE age = 'x' ORDER BY age ASC" = .ok agePlan :=
    (parse_eq_ok_iff rfl).mpr ⟨by decide, _, agePlan, rfl, ⟨rfl, rfl, filter, rfl, rfl⟩, rfl, rfl⟩
  have cut : clauseTexts (queryText
      "SELECT age FROM t WHERE age = 'x' ORDER BY age ASC".toList) =
        .ok ⟨" age ".toList, " t ".toList, some " age = 'x' ".toList, some " age ASC".toList,
          none⟩ := by rfl
  obtain ⟨select, -, p, there, -, fields⟩ := filter_fields_are_tokens parsed cut rfl
  obtain rfl : p = .condition ⟨"age", .equal, .string "x"⟩ := (Option.some.inj there).symm
  obtain ⟨token, found, -, alike, others⟩ := fields 0 _ rfl
  obtain rfl : token = "age" := by
    rw [tokens] at found
    exact (Option.some.inj found).symm
  obtain ⟨q, read, conditions, -⟩ := others "5"
  refine ⟨parsed, select "age" (List.mem_singleton_self _), alike, q, ?_, conditions⟩
  rwa [tokens] at read

theorem filter_takes_number_as_field :
    parse "SELECT * FROM t WHERE 5 = age" = .ok ⟨[.wildcard], .collection "t",
      some (.condition ⟨"5", .equal, .string "age"⟩), none, none⟩ ∧
    SelectItem.ofText "5".toList = .error (.selectItem "5") ∧
    OrderBy.ofText "5 ASC".toList = .error (.orderField "5") ∧
    ¬∀ (query : String) (plan : Plan) (texts : ClauseTexts) (filter : List Char),
      parse query = .ok plan → clauseTexts (queryText query.toList) = .ok texts →
      texts.filter = some filter →
      ∀ i, ∀ token ∈ (Token.tokens filter)[4 * i]?, FieldName.isName token.toList = true := by
  have tokens : Token.tokens " 5 = age".toList = ["5", "=", "age"] := by decide
  have filter := readFilter_of_tokens tokens
    (Predicate.ofTokens_three_eq_ok_iff.mpr ⟨⟨"5", .equal, .string "age"⟩, rfl, rfl⟩)
  have parsed : parse "SELECT * FROM t WHERE 5 = age" = .ok ⟨[.wildcard], .collection "t",
      some (.condition ⟨"5", .equal, .string "age"⟩), none, none⟩ :=
    (parse_eq_ok_iff rfl).mpr ⟨by decide, _, ⟨[.wildcard], .collection "t",
      some (.condition ⟨"5", .equal, .string "age"⟩), none, none⟩, rfl,
      ⟨rfl, rfl, filter, rfl, rfl⟩, rfl, rfl⟩
  refine ⟨parsed, by rfl, by rfl, fun names => ?_⟩
  have cut : clauseTexts (queryText "SELECT * FROM t WHERE 5 = age".toList) =
      .ok ⟨" * ".toList, " t ".toList, some " 5 = age".toList, none, none⟩ := by rfl
  have first : "5" ∈ (Token.tokens " 5 = age".toList)[4 * 0]? := by
    rw [tokens]
    rfl
  have named := names _ _ _ _ parsed cut rfl 0 "5" first
  exact absurd named (by decide)

end Plan

end DocQuery
