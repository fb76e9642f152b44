import DocQuery.Proofs.Query.LiteralTexts
import DocQuery.Proofs.Session.Execution

/-!
# Texts of store queries

The text of a store query tells the query, as long as its scope has no blank and its fields are
identifiers. The scope ends at the first blank, a field and an operator at the next ones, and the
text of a value tells where it ends. What follows is a filter, the order or the limit by its word.
-/

namespace DocQuery

open Text

def Scope.name : Scope → String
  | .collection path => path
  | .group name => name

theorem Scope.toList_display_collection (path : String) : (Scope.collection path).display.toList =
    "collection".toList ++ '(' :: (path.toList ++ [')']) := by
  have shape : (Scope.collection path).display = "collection(" ++ path ++ ")" := rfl
  simp [shape]

theorem Scope.toList_display_group (name : String) : (Scope.group name).display.toList =
    "collection".toList ++ '_' :: ("group(".toList ++ (name.toList ++ [')'])) := by
  have shape : (Scope.group name).display = "collection_group(" ++ name ++ ")" := rfl
  simp [shape]

theorem Scope.display_inj {s t : Scope} (same : s.display.toList = t.display.toList) : s = t := by
  cases s with
  | collection path =>
    cases t with
    | collection other => simpa [toList_display_collection, String.toList_inj] using same
    | group other => simp [toList_display_collection, toList_display_group] at same
  | group name =>
    cases t with
    | collection other => simp [toList_display_collection, toList_display_group] at same
    | group other => simpa [toList_display_group, String.toList_inj] using same

theorem Scope.solid_display {s : Scope} (solid : ∀ c ∈ s.name.toList, isBlank c = false) :
    ∀ c ∈ s.display.toList, (!isBlank c) = true := by
  have word : ∀ c ∈ "collection".toList, isBlank c = false := by decide
  have group : ∀ c ∈ "group(".toList, isBlank c = false := by decide
  have marks : isBlank '(' = false ∧ isBlank '_' = false ∧ isBlank ')' = false := by decide
  intro c m
  rw [Bool.not_eq_true']
  cases s with
  | collection path =>
    simp only [toList_display_collection, List.mem_append, List.mem_cons, List.not_mem_nil,
      or_false] at m
    rcases m with m | rfl | m | rfl
    · exact word c m
    · exact marks.1
    · exact solid c m
    · exact marks.2.2
  | group name =>
    simp only [toList_display_group, List.mem_append, List.mem_cons, List.not_mem_nil,
      or_false] at m
    rcases m with m | rfl | m | m | rfl
    · exact word c m
    · exact marks.2.1
    · exact group c m
    · exact solid c m
    · exact marks.2.2

theorem Operator.storeName_inj {op other : Operator} (same : op.storeName = other.storeName) :
    op = other := by
  cases op <;> cases other <;> first | rfl | exact absurd same (by decide)

theorem Operator.storeName_solid (op : Operator) :
    ∀ c ∈ op.storeName.toList, (c != ' ') = true := by
  cases op <;> decide

theorem solid_of_isIdentifier {name : List Char} (identifier : FieldName.isIdentifier name = true) :
    ∀ c ∈ name, (c != ' ') = true := by
  intro c m
  have plain := isPlain_of_isNameChar (isNameChar_of_isIdentifier identifier c m)
  exact bne_iff_ne.mpr (isPlain_ne plain (by decide))

def Condition.plainZeros (c : Condition) : Condition := { c with value := c.value.plainZeros }

theorem Condition.toList_storeDisplay (c : Condition) (rest : List Char) :
    c.storeDisplay.toList ++ rest = "where(".toList ++ (c.field.toList ++ ' ' ::
      (c.operator.storeName.toList ++ ' ' :: (c.value.display.toList ++ ')' :: rest))) := by
  simp [storeDisplay]

/-- A filter whose field is an identifier and whose value is shown in full. -/
structure Condition.IsShown (c : Condition) : Prop where
  field : FieldName.isIdentifier c.field.toList = true
  value : c.value.IsShownValue

theorem Condition.storeDisplay_append_inj {c d : Condition} (shown : c.IsShown) (shown' : d.IsShown)
    {rest more : List Char}
    (same : c.storeDisplay.toList ++ rest = d.storeDisplay.toList ++ more) :
    c.plainZeros = d.plainZeros ∧ rest = more := by
  have blank (text : List Char) : ∀ c ∈ (' ' :: text).head?, (c != ' ') = false := by simp
  have closing (text : List Char) : ∀ c ∈ (')' :: text).head?, isPlain c = false :=
    fun c m => (Option.some.inj m) ▸ (by decide)
  rw [toList_storeDisplay, toList_storeDisplay] at same
  obtain ⟨fields, same⟩ := append_inj_of_stop (solid_of_isIdentifier shown.field) (blank _)
    (solid_of_isIdentifier shown'.field) (blank _) (List.append_cancel_left same)
  obtain ⟨operators, same⟩ := append_inj_of_stop c.operator.storeName_solid (blank _)
    d.operator.storeName_solid (blank _) (List.tail_eq_of_cons_eq same)
  obtain ⟨values, same⟩ := Literal.display_value_append_inj shown.value shown'.value (closing _)
    (closing _) (List.tail_eq_of_cons_eq same)
  have field := String.toList_inj.mp fields
  have operator := Operator.storeName_inj (String.toList_inj.mp operators)
  exact ⟨by simp only [plainZeros, field, operator, values], List.tail_eq_of_cons_eq same⟩

def OrderBy.storeDisplay (o : OrderBy) : String :=
  "order_by(" ++ o.field ++ " " ++ o.direction.word ++ ")"

theorem OrderBy.toList_storeDisplay (o : OrderBy) (rest : List Char) :
    o.storeDisplay.toList ++ rest = "order_by(".toList ++
      (o.field.toList ++ ' ' :: (o.direction.word.toList ++ ')' :: rest)) := by
  simp [storeDisplay]

theorem OrderBy.storeDisplay_append_inj {o o' : OrderBy}
    (identifier : FieldName.isIdentifier o.field.toList = true)
    (identifier' : FieldName.isIdentifier o'.field.toList = true) {rest more : List Char}
    (same : o.storeDisplay.toList ++ rest = o'.storeDisplay.toList ++ more) :
    o = o' ∧ rest = more := by
  have blank (text : List Char) : ∀ c ∈ (' ' :: text).head?, (c != ' ') = false := by simp
  rw [toList_storeDisplay, toList_storeDisplay] at same
  obtain ⟨fields, same⟩ := append_inj_of_stop (solid_of_isIdentifier identifier) (blank _)
    (solid_of_isIdentifier identifier') (blank _) (List.append_cancel_left same)
  have behind := List.tail_eq_of_cons_eq same
  obtain ⟨field, direction⟩ := o
  obtain ⟨field', direction'⟩ := o'
  obtain rfl : field = field' := String.toList_inj.mp fields
  cases direction <;> cases direction'
  case ascending.ascending | descending.descending =>
    exact ⟨rfl, List.tail_eq_of_cons_eq (List.append_cancel_left behind)⟩
  all_goals exact absurd (congrArg List.head? behind) (by simp [Direction.word])

def limitDisplay (n : Nat) : String := "limit(" ++ toString n ++ ")"

theorem limitDisplay_append_inj {n m : Nat} {rest more : List Char}
    (same : (limitDisplay n).toList ++ rest = (limitDisplay m).toList ++ more) :
    n = m ∧ rest = more := by
  have shape (n : Nat) (rest : List Char) : (limitDisplay n).toList ++ rest =
      "limit(".toList ++ (Nat.toDigits 10 n ++ ')' :: rest) := by simp [limitDisplay]
  have closing (text : List Char) : ∀ c ∈ (')' :: text).head?, c.isDigit = false :=
    fun c m => (Option.some.inj m) ▸ (by decide)
  rw [shape, shape] at same
  obtain ⟨digits, same⟩ := append_inj_of_stop isDigit_of_mem_toDigits (closing _)
    isDigit_of_mem_toDigits (closing _) (List.append_cancel_left same)
  have number := congrArg digitsValue digits
  rw [digitsValue_toDigits, digitsValue_toDigits] at number
  exact ⟨number, List.tail_eq_of_cons_eq same⟩

/-- What the text of a store query shows behind the scope, one by one. -/
inductive StoreStep where
  | filter (c : Condition)
  | order (o : OrderBy)
  | limit (n : Nat)

namespace StoreStep

def display : StoreStep → String
  | .filter c => c.storeDisplay
  | .order o => o.storeDisplay
  | .limit n => limitDisplay n

def plainZeros : StoreStep → StoreStep
  | .filter c => .filter c.plainZeros
  | step => step

def filter? : StoreStep → Option Condition
  | .filter c => some c
  | _ => none

def order? : StoreStep → Option OrderBy
  | .order o => some o
  | _ => none

def limit? : StoreStep → Option Nat
  | .limit n => some n
  | _ => none

def IsShown : StoreStep → Prop
  | .filter c => c.IsShown
  | .order o => FieldName.isIdentifier o.field.toList = true
  | .limit _ => True

/-- The word in front of a step tells its kind, what is behind it the step. -/
theorem display_append_inj {a b : StoreStep} (shown : a.IsShown) (shown' : b.IsShown)
    {rest more : List Char} (same : a.display.toList ++ rest = b.display.toList ++ more) :
    a.plainZeros = b.plainZeros ∧ rest = more := by
  have first (step : StoreStep) (rest : List Char) : (step.display.toList ++ rest).head? =
      some (match step with | .filter _ => 'w' | .order _ => 'o' | .limit _ => 'l') := by
    cases step with
    | filter c => simp [display, Condition.storeDisplay]
    | order o => simp [display, OrderBy.storeDisplay]
    | limit n => simp [display, limitDisplay]
  have words := congrArg List.head? same
  rw [first, first] at words
  cases a <;> cases b
  case filter.filter c d =>
    obtain ⟨conditions, behind⟩ := Condition.storeDisplay_append_inj shown shown' same
    exact ⟨congrArg StoreStep.filter conditions, behind⟩
  case order.order o o' =>
    obtain ⟨orders, behind⟩ := OrderBy.storeDisplay_append_inj shown shown' same
    exact ⟨congrArg StoreStep.order orders, behind⟩
  case limit.limit n m =>
    obtain ⟨limits, behind⟩ := limitDisplay_append_inj same
    exact ⟨congrArg StoreStep.limit limits, behind⟩
  all_goals exact absurd words (by simp)

def texts (steps : List StoreStep) : List Char :=
  steps.flatMap fun step => " | ".toList ++ step.display.toList

theorem texts_inj {steps others : List StoreStep} (shown : ∀ step ∈ steps, step.IsShown)
    (shown' : ∀ step ∈ others, step.IsShown) (same : texts steps = texts others) :
    steps.map plainZeros = others.map plainZeros := by
  have bar (step : StoreStep) (steps : List StoreStep) : texts (step :: steps) =
      ' ' :: '|' :: ' ' :: (step.display.toList ++ texts steps) := by simp [texts]
  induction steps generalizing others with
  | nil =>
    cases others with
    | nil => rfl
    | cons b others =>
      rw [bar] at same
      cases same
  | cons a steps ih =>
    cases others with
    | nil =>
      rw [bar] at same
      cases same
    | cons b others =>
      obtain ⟨one, several⟩ := List.forall_mem_cons.mp shown
      obtain ⟨other, several'⟩ := List.forall_mem_cons.mp shown'
      simp only [bar, List.cons.injEq, true_and] at same
      obtain ⟨first, behind⟩ := display_append_inj one other same
      simp only [List.map_cons, first, ih several several' behind]

end StoreStep

namespace StoreQuery

def steps (q : StoreQuery) : List StoreStep :=
  q.filters.map .filter ++ q.order.toList.map .order ++ q.limit.toList.map .limit

theorem toList_display (q : StoreQuery) :
    q.display.toList = q.scope.display.toList ++ StoreStep.texts q.steps := by
  have shape : q.display =
      " | ".intercalate (q.scope.display :: q.steps.map StoreStep.display) := by
    have filters : (q.filters.map StoreStep.filter).map StoreStep.display =
        q.filters.map Condition.storeDisplay := List.map_map
    have order : (q.order.toList.map StoreStep.order).map StoreStep.display =
        q.order.toList.map OrderBy.storeDisplay := List.map_map
    have limit : (q.limit.toList.map StoreStep.limit).map StoreStep.display =
        q.limit.toList.map limitDisplay := List.map_map
    rw [steps, List.map_append, List.map_append, filters, order, limit]
    rfl
  rw [shape, String.toList_intercalate, List.map_cons, intercalate_cons_eq_append, List.map_map,
    List.flatMap_map]
  rfl

/-- The store query with the positive zero for every negative one in its filters. -/
def plainZeros (q : StoreQuery) : StoreQuery :=
  { q with filters := q.filters.map Condition.plainZeros }

theorem steps_plainZeros (q : StoreQuery) :
    q.plainZeros.steps = q.steps.map StoreStep.plainZeros := by
  simp only [steps, plainZeros, List.map_append, List.map_map]
  rfl

theorem filterMap_steps (q : StoreQuery) : q.steps.filterMap StoreStep.filter? = q.filters ∧
    (q.steps.filterMap StoreStep.order?).head? = q.order ∧
    (q.steps.filterMap StoreStep.limit?).head? = q.limit := by
  cases order : q.order <;> cases limit : q.limit <;>
    simp [steps, order, limit, List.filterMap_map, List.filterMap_cons, Function.comp_def,
      StoreStep.filter?, StoreStep.order?, StoreStep.limit?]

theorem eq_of_steps {q r : StoreQuery} (scopes : q.scope = r.scope) (steps : q.steps = r.steps) :
    q = r := by
  obtain ⟨filters, orders, limits⟩ := q.filterMap_steps
  obtain ⟨filters', orders', limits'⟩ := r.filterMap_steps
  rw [steps] at filters orders limits
  cases q
  cases r
  congr 1
  · exact filters.symm.trans filters'
  · exact orders.symm.trans orders'
  · exact limits.symm.trans limits'

/-- A store query whose text shows all of it. -/
structure IsShown (q : StoreQuery) : Prop where
  scope : ∀ c ∈ q.scope.name.toList, isBlank c = false
  filters : ∀ c ∈ q.filters, c.IsShown
  order : ∀ o ∈ q.order, FieldName.isIdentifier o.field.toList = true

theorem IsShown.isShown_steps {q : StoreQuery} (h : q.IsShown) :
    ∀ step ∈ q.steps, step.IsShown := by
  intro step m
  simp only [steps, List.mem_append, List.mem_map, Option.mem_toList] at m
  rcases m with (⟨c, m, rfl⟩ | ⟨o, m, rfl⟩) | ⟨n, -, rfl⟩
  · exact h.filters c m
  · exact h.order o m
  · trivial

theorem display_plainZeros {q : StoreQuery} (h : q.IsShown) : q.plainZeros.display = q.display := by
  have same : q.filters.map (fun c => c.plainZeros.storeDisplay) =
      q.filters.map Condition.storeDisplay := by
    refine List.map_congr_left fun c m => ?_
    simp only [Condition.storeDisplay, Condition.plainZeros,
      Literal.display_plainZeros (h.filters c m).value]
  simp only [display, plainZeros, List.map_map, Function.comp_def, same]

/-- Store queries that are shown in full have one text exactly if they are the same but for the
signs of zeros. -/
theorem display_eq_iff {q r : StoreQuery} (h : q.IsShown) (h' : r.IsShown) :
    q.display = r.display ↔ q.plainZeros = r.plainZeros := by
  constructor
  · intro same
    have texts := congrArg String.toList same
    have stop (steps : List StoreStep) :
        ∀ c ∈ (StoreStep.texts steps).head?, (!isBlank c) = false := by
      cases steps with
      | nil => exact nofun
      | cons step steps => exact fun c m => (Option.some.inj m) ▸ (by decide)
    rw [toList_display, toList_display] at texts
    obtain ⟨scopes, behind⟩ := append_inj_of_stop (Scope.solid_display h.scope) (stop _)
      (Scope.solid_display h'.scope) (stop _) texts
    have steps := StoreStep.texts_inj h.isShown_steps h'.isShown_steps behind
    rw [← steps_plainZeros, ← steps_plainZeros] at steps
    exact eq_of_steps (Scope.display_inj scopes) steps
  · intro same
    rw [← display_plainZeros h, ← display_plainZeros h', same]

end StoreQuery

theorem Path.solid_trim {path : String} (solid : ∀ c ∈ path.toList, isBlank c = false) :
    ∀ c ∈ (trim path).toList, isBlank c = false := by
  intro c m
  rw [trim, String.toList_ofList] at m
  exact solid c (mem_of_mem_strip m)

theorem Path.solid_resolve {path : String} {base : Option String}
    (solid : ∀ c ∈ path.toList, isBlank c = false)
    (solidBase : ∀ b ∈ base, ∀ c ∈ b.toList, isBlank c = false) :
    ∀ c ∈ (resolve path base).toList, isBlank c = false := by
  have own := solid_trim solid
  unfold resolve
  split
  · exact own
  · cases base with
    | none => exact own
    | some b =>
      have under := solid_trim (solidBase b rfl)
      have slash : ∀ c ∈ "/".toList, isBlank c = false := by decide
      simp only [Option.map_some]
      split
      · exact own
      · rw [String.toList_append, String.toList_append]
        exact List.forall_mem_append.mpr ⟨List.forall_mem_append.mpr ⟨under, slash⟩, own⟩

theorem Predicate.isShownValue_of_ofTokens {tokens : List String} {p : Predicate}
    (read : ofTokens tokens = .ok p) : ∀ c ∈ p.conditions, c.value.IsShownValue := by
  obtain ⟨links, -, tree⟩ := isTreeOf_of_ofTokens read
  intro c m
  obtain ⟨i, found⟩ := List.getElem?_of_mem m
  obtain ⟨field, operator, value, -, -, -, condition⟩ := tree.conditions i c found
  exact Condition.isShownValue_of_ofTokens condition

theorem Plan.isShownValue_of_parse {query : String} {plan : Plan}
    (parsed : parse query = .ok plan) : ∀ c ∈ plan.conditions, c.value.IsShownValue := by
  obtain ⟨-, texts, shown, -, read, -, rfl⟩ := (parse_eq_ok_iff rfl).mp parsed
  intro c m
  cases found : shown.filter with
  | none => simp [conditions, resolveIdentity, mapFields, found] at m
  | some p =>
    obtain ⟨tokens, tree⟩ := read.exists_tokens found
    simp only [conditions, resolveIdentity, mapFields, found, Option.map_some, Option.getD_some,
      Predicate.conditions_mapFields] at m
    obtain ⟨d, inside, rfl⟩ := List.mem_map.mp m
    exact Predicate.isShownValue_of_ofTokens tree d inside

/-- The query is explained as the store query, under a base path without blanks, and the fields of
its filters and of its order are identifiers, as the stored name of the identity is. -/
structure IsExplainedAs (query : String) (settings : Settings) (capabilities : Capabilities)
    (q : StoreQuery) : Prop where
  explained : explain capabilities settings query = .ok q
  base : ∀ base ∈ settings.basePath, ∀ c ∈ base.toList, isBlank c = false
  filters : ∀ c ∈ q.filters, FieldName.isIdentifier c.field.toList = true
  order : ∀ o ∈ q.order, FieldName.isIdentifier o.field.toList = true

theorem IsExplainedAs.isShown {query : String} {settings : Settings} {capabilities : Capabilities}
    {q : StoreQuery} (h : IsExplainedAs query settings capabilities q) : q.IsShown := by
  obtain ⟨plan, found⟩ := explain_eq_ok_iff.mp h.explained
  obtain ⟨parsed, store⟩ := planned_eq_ok_iff.mp found
  obtain ⟨-, rfl⟩ := (plan.storeQuery_eq_ok_iff settings capabilities q).mp store
  refine ⟨?_, fun c m => ⟨h.filters c m, plan.isShownValue_of_parse parsed c m⟩, h.order⟩
  have source := (Plan.isWellFormed_of_parse parsed).source.plain
  have scope : (plan.request settings plan.conditions).scope =
      plan.source.scope settings.basePath := rfl
  rw [scope]
  cases from_ : plan.source with
  | collection path =>
    rw [from_] at source
    exact Path.solid_resolve source h.base
  | group name =>
    rw [from_] at source
    exact source

/-- Two queries are explained by one text exactly if the store is asked for the same, but for the
signs of zeros. -/
theorem explanation_tells_store_query {query other : String} {settings settings' : Settings}
    {capabilities capabilities' : Capabilities} {q r : StoreQuery}
    (h : IsExplainedAs query settings capabilities q)
    (h' : IsExplainedAs other settings' capabilities' r) :
    q.display = r.display ↔ q.plainZeros = r.plainZeros :=
  StoreQuery.display_eq_iff h.isShown h'.isShown

def zeroQuery (negative : Bool) : StoreQuery where
  scope := .collection "t"
  filters := [⟨"a", .equal, .number (.zero negative)⟩]

theorem explanation_tells_store_query_of_zeros :
    IsExplainedAs "SELECT * FROM t WHERE a = -0" {} .all (zeroQuery true) ∧
    IsExplainedAs "SELECT b FROM /t WHERE a = '0'" { basePath := some "shop" } .comparisonsOnly
      (zeroQuery false) ∧
    (zeroQuery true).display = (zeroQuery false).display := by
  have tokens : Token.tokens " a = -0".toList = ["a", "=", "-0"] ∧
      Token.tokens " a = '0'".toList = ["a", "=", "'0'"] := by decide
  have minus := Plan.readFilter_of_tokens tokens.1
    (Predicate.ofTokens_three_eq_ok_iff.mpr ⟨⟨"a", .equal, .number (.zero true)⟩, rfl, rfl⟩)
  have plain := Plan.readFilter_of_tokens tokens.2
    (Predicate.ofTokens_three_eq_ok_iff.mpr ⟨⟨"a", .equal, .number (.zero false)⟩, rfl, rfl⟩)
  have parsed : Plan.parse "SELECT * FROM t WHERE a = -0" = .ok ⟨[.wildcard], .collection "t",
      some (.condition ⟨"a", .equal, .number (.zero true)⟩), none, none⟩ :=
    (Plan.parse_eq_ok_iff rfl).mpr ⟨by decide, _, ⟨[.wildcard], .collection "t",
      some (.condition ⟨"a", .equal, .number (.zero true)⟩), none, none⟩, rfl,
      ⟨rfl, rfl, minus, rfl, rfl⟩, rfl, rfl⟩
  have parsed' : Plan.parse "SELECT b FROM /t WHERE a = '0'" = .ok ⟨[.field "b"],
      .collection "/t", some (.condition ⟨"a", .equal, .number (.zero false)⟩), none, none⟩ :=
    (Plan.parse_eq_ok_iff rfl).mpr ⟨by decide, _, ⟨[.field "b"], .collection "/t",
      some (.condition ⟨"a", .equal, .number (.zero false)⟩), none, none⟩, rfl,
      ⟨rfl, rfl, plain, rfl, rfl⟩, rfl, rfl⟩
  have letter : FieldName.isIdentifier "a".toList = true := by decide
  have field (negative : Bool) : ∀ c ∈ (zeroQuery negative).filters,
      FieldName.isIdentifier c.field.toList = true := List.forall_mem_singleton.mpr letter
  have first : IsExplainedAs "SELECT * FROM t WHERE a = -0" {} .all (zeroQuery true) :=
    ⟨explain_eq_ok_iff.mpr ⟨_, planned_eq_ok_iff.mpr ⟨parsed, rfl⟩⟩, nofun, field true, nofun⟩
  have second : IsExplainedAs "SELECT b FROM /t WHERE a = '0'" { basePath := some "shop" }
      .comparisonsOnly (zeroQuery false) := by
    refine ⟨explain_eq_ok_iff.mpr ⟨_, planned_eq_ok_iff.mpr ⟨parsed', rfl⟩⟩, ?_, field false, nofun⟩
    intro base m
    obtain rfl : "shop" = base := Option.some.inj m
    decide
  exact ⟨first, second, (explanation_tells_store_query first second).mpr rfl⟩

end DocQuery
