import DocQuery.Proofs.Query.Chain
import DocQuery.Proofs.Text.Letters
import Mathlib.Data.List.Basic

/-!
# The grammar of a filter

The tokens that write a predicate are those of a chain: conditions of three tokens each, with one
connective between every two of them. A value that is spelled like a connective ends the chain it
stands in, so only the last condition may have one; a field may be spelled in any way, since no
cut is made in front of the second token. The reader cuts by position and knows of no chain; that
it reads chains, and nothing else, is proved here.
-/

namespace DocQuery

open Text

namespace Connective

theorem ofToken?_eq_some_iff {token : String} {k : Connective} :
    ofToken? token = some k ↔ sameWord token k.word = true := by
  have apart : sameWord token "AND" = true → sameWord token "OR" = false := by
    intro both
    rw [← Bool.not_eq_true]
    intro either
    simp only [sameWord, sameLetters, beq_iff_eq] at both either
    rw [both] at either
    exact absurd either (by decide)
  unfold ofToken?
  cases both : sameWord token "AND" with
  | true => cases k <;> simp [word, both, apart both]
  | false => cases either : sameWord token "OR" <;> cases k <;> simp [word, both, either]

theorem ofToken?_eq_none_iff {token : String} :
    ofToken? token = none ↔ ∀ k : Connective, sameWord token k.word = false := by
  rw [Option.eq_none_iff_forall_ne_some]
  exact forall_congr' fun k => by rw [ne_eq, ofToken?_eq_some_iff, Bool.not_eq_true]

theorem ofToken?_of_operator {token : String} {op : Operator}
    (read : Operator.ofToken? token = some op) : ofToken? token = none := by
  rw [ofToken?_eq_none_iff]
  intro k
  rw [← Bool.not_eq_true]
  intro same
  have capitals : token.toList.map capital = k.word.toList :=
    map_capital_of_sameLetters same (by cases k <;> decide)
  have symbol := List.find?_some read
  rw [capitals, beq_iff_eq] at symbol
  cases k <;> cases op <;> exact absurd symbol (by decide)

end Connective

theorem Condition.connective_of_operator {field operator value : String} {c : Condition}
    (read : Condition.ofTokens field operator value = .ok c) :
    Connective.ofToken? operator = none := by
  unfold Condition.ofTokens at read
  cases op : Operator.ofToken? operator with
  | none =>
    rw [op] at read
    cases read
  | some _ => exact Connective.ofToken?_of_operator op

/-- The three tokens after a number of links of a chain write this condition. -/
def ConditionAt (tokens : List String) (i : Nat) (c : Condition) : Prop :=
  ∃ field operator value, tokens[4 * i]? = some field ∧ tokens[4 * i + 1]? = some operator ∧
    tokens[4 * i + 2]? = some value ∧ Condition.ofTokens field operator value = .ok c

/-- The token behind that condition is this connective, in any case. -/
def ConnectiveAt (tokens : List String) (i : Nat) (k : Connective) : Prop :=
  ∃ word, tokens[4 * i + 3]? = some word ∧ sameWord word k.word = true

theorem ConditionAt.unique {tokens : List String} {i : Nat} {c d : Condition}
    (hc : ConditionAt tokens i c) (hd : ConditionAt tokens i d) : c = d := by
  obtain ⟨_, _, _, first, second, third, read⟩ := hc
  obtain ⟨_, _, _, first', second', third', read'⟩ := hd
  cases first.symm.trans first'
  cases second.symm.trans second'
  cases third.symm.trans third'
  exact Except.ok.inj (read.symm.trans read')

theorem ConnectiveAt.unique {tokens : List String} {i : Nat} {j k : Connective}
    (hj : ConnectiveAt tokens i j) (hk : ConnectiveAt tokens i k) : j = k := by
  obtain ⟨_, found, same⟩ := hj
  obtain ⟨_, found', same'⟩ := hk
  cases found.symm.trans found'
  rw [← Connective.ofToken?_eq_some_iff] at same same'
  exact Option.some.inj (same.symm.trans same')

/-- Conditions with a number of links between them. -/
structure IsChain (tokens : List String) (links : Nat) : Prop where
  length : tokens.length = 4 * links + 3
  connectives : ∀ i < links, ∃ k, ConnectiveAt tokens i k
  conditions : ∀ i ≤ links, ∃ c, ConditionAt tokens i c
  values : ∀ i < links, ∀ value ∈ tokens[4 * i + 2]?, ∀ k : Connective,
    sameWord value k.word = false

/-- One link of a chain: the tokens of a condition and the connective behind them. -/
structure IsLink (field operator value word : String) (c : Condition) (k : Connective) : Prop where
  condition : Condition.ofTokens field operator value = .ok c
  value : ∀ k : Connective, sameWord value k.word = false
  connective : sameWord word k.word = true

section Links

variable {field operator value word : String} {rest : List String}

theorem conditionAt_zero {c : Condition} :
    ConditionAt (field :: operator :: value :: rest) 0 c ↔
      Condition.ofTokens field operator value = .ok c := by
  constructor
  · rintro ⟨_, _, _, first, second, third, read⟩
    cases first
    cases second
    cases third
    exact read
  · intro read
    exact ⟨field, operator, value, rfl, rfl, rfl, read⟩

theorem connectiveAt_zero {k : Connective} :
    ConnectiveAt (field :: operator :: value :: word :: rest) 0 k ↔
      sameWord word k.word = true := by
  constructor
  · rintro ⟨_, found, same⟩
    cases found
    exact same
  · intro same
    exact ⟨word, rfl, same⟩

end Links

theorem isChain_zero {tokens : List String} :
    IsChain tokens 0 ↔ ∃ field operator value c, tokens = [field, operator, value] ∧
      Condition.ofTokens field operator value = .ok c := by
  constructor
  · intro chain
    obtain ⟨field, operator, value, rfl⟩ := List.length_eq_three.mp chain.length
    obtain ⟨c, read⟩ := chain.conditions 0 (Nat.le_refl 0)
    exact ⟨field, operator, value, c, rfl, conditionAt_zero.mp read⟩
  · rintro ⟨field, operator, value, c, rfl, read⟩
    refine ⟨rfl, by simp, ?_, by simp⟩
    intro i zero
    obtain rfl := Nat.le_zero.mp zero
    exact ⟨c, conditionAt_zero.mpr read⟩

theorem isChain_succ {tokens : List String} {links : Nat} :
    IsChain tokens (links + 1) ↔ ∃ field operator value word rest c k,
      tokens = field :: operator :: value :: word :: rest ∧
      IsLink field operator value word c k ∧ IsChain rest links := by
  constructor
  · intro chain
    match tokens, chain with
    | field :: operator :: value :: word :: rest, chain =>
      obtain ⟨c, read⟩ := chain.conditions 0 (Nat.zero_le _)
      obtain ⟨k, same⟩ := chain.connectives 0 (Nat.succ_pos _)
      refine ⟨field, operator, value, word, rest, c, k, rfl, ⟨conditionAt_zero.mp read,
        chain.values 0 (Nat.succ_pos _) value rfl, connectiveAt_zero.mp same⟩, ?_⟩
      refine ⟨?_, ?_, ?_, ?_⟩
      · have length := chain.length
        simp only [List.length_cons] at length
        omega
      · intro i inside
        exact chain.connectives (i + 1) (Nat.succ_lt_succ inside)
      · intro i inside
        exact chain.conditions (i + 1) (Nat.succ_le_succ inside)
      · intro i inside
        exact chain.values (i + 1) (Nat.succ_lt_succ inside)
    | [], chain | [_], chain | [_, _], chain | [_, _, _], chain =>
      have length := chain.length
      simp only [List.length_cons, List.length_nil] at length
      omega
  · rintro ⟨field, operator, value, word, rest, c, k, rfl, link, chain⟩
    refine ⟨?_, ?_, ?_, ?_⟩
    · have length := chain.length
      simp only [List.length_cons]
      omega
    · rintro (_ | i) inside
      · exact ⟨k, connectiveAt_zero.mpr link.connective⟩
      · exact chain.connectives i (Nat.lt_of_succ_lt_succ inside)
    · rintro (_ | i) inside
      · exact ⟨c, conditionAt_zero.mpr link.condition⟩
      · exact chain.conditions i (Nat.le_of_succ_le_succ inside)
    · rintro (_ | i) inside
      · intro v m
        obtain rfl : value = v := Option.some.inj m
        exact link.value
      · exact chain.values i (Nat.lt_of_succ_lt_succ inside)

namespace Predicate

def connectives : Predicate → List Connective
  | .condition _ => []
  | .joined k left right => left.connectives ++ k :: right.connectives

/-- What stands left of a connective is always a condition. -/
def IsRightNested : Predicate → Prop
  | .condition _ => True
  | .joined _ left right => (∃ c, left = .condition c) ∧ right.IsRightNested

/-- The tree of a chain: nested to the right, with the conditions and the connectives of the
chain in their order. -/
structure IsTreeOf (p : Predicate) (tokens : List String) (links : Nat) : Prop where
  nested : p.IsRightNested
  conditions_length : p.conditions.length = links + 1
  conditions : ∀ i c, p.conditions[i]? = some c → ConditionAt tokens i c
  connectives_length : p.connectives.length = links
  connectives : ∀ i k, p.connectives[i]? = some k → ConnectiveAt tokens i k

theorem ofTokens_three_eq_ok_iff {field operator value : String} {p : Predicate} :
    ofTokens [field, operator, value] = .ok p ↔
      ∃ c, Condition.ofTokens field operator value = .ok c ∧ p = .condition c := by
  rw [ofTokens_three]
  cases Condition.ofTokens field operator value with
  | error e => simp [Except.map]
  | ok c => simp [Except.map, eq_comm]

/-- Tokens that hold no connective behind the first have a predicate only as one condition. -/
theorem length_eq_three_of_quiet {tokens : List String} {p : Predicate}
    (quiet : ∀ u ∈ tokens.tail, Connective.ofToken? u = none) (read : ofTokens tokens = .ok p) :
    tokens.length = 3 := by
  by_contra three
  have uncut : splitConnective? tokens = none := by
    rw [Option.eq_none_iff_forall_ne_some]
    rintro ⟨left, k, right⟩ cut
    obtain ⟨someLeft, -, -, word, rfl, found⟩ := splitConnective?_eq_some_iff.mp cut
    rw [quiet word (by rw [List.tail_append_of_ne_nil someLeft]; simp)] at found
    cases found
  rw [ofTokens_of_no_split three uncut] at read
  cases read

theorem ofTokens_eq_ok_cases {tokens : List String} {p : Predicate}
    (read : ofTokens tokens = .ok p) :
    (∃ field operator value c, tokens = [field, operator, value] ∧
      Condition.ofTokens field operator value = .ok c ∧ p = .condition c) ∨
    ∃ field operator value word rest c k right,
      tokens = field :: operator :: value :: word :: rest ∧ IsLink field operator value word c k ∧
      ofTokens rest = .ok right ∧ p = .joined k (.condition c) right := by
  by_cases three : tokens.length = 3
  · obtain ⟨field, operator, value, rfl⟩ := List.length_eq_three.mp three
    obtain ⟨c, condition, rfl⟩ := ofTokens_three_eq_ok_iff.mp read
    exact .inl ⟨field, operator, value, c, rfl, condition, rfl⟩
  · cases cut : splitConnective? tokens with
    | none =>
      rw [ofTokens_of_no_split three cut] at read
      cases read
    | some parts =>
      obtain ⟨left, k, right⟩ := parts
      obtain ⟨-, -, quiet, word, rfl, found⟩ := splitConnective?_eq_some_iff.mp cut
      rw [ofTokens_of_split three cut] at read
      cases first : ofTokens left with
      | error e =>
        rw [first] at read
        cases read
      | ok l =>
        cases second : ofTokens right with
        | error e =>
          rw [first, second] at read
          cases read
        | ok r =>
          rw [first, second] at read
          -- The cut is the first, so the part in front of it is a condition.
          obtain ⟨field, operator, value, rfl⟩ :=
            List.length_eq_three.mp (length_eq_three_of_quiet quiet first)
          obtain ⟨c, condition, rfl⟩ := ofTokens_three_eq_ok_iff.mp first
          have quietValue := Connective.ofToken?_eq_none_iff.mp (quiet value (by simp))
          exact .inr ⟨field, operator, value, word, right, c, k, r, rfl,
            ⟨condition, quietValue, Connective.ofToken?_eq_some_iff.mp found⟩, second,
            (Except.ok.inj read).symm⟩

theorem ofTokens_link {field operator value word : String} {rest : List String} {c : Condition}
    {k : Connective} {right : Predicate} (link : IsLink field operator value word c k)
    (read : ofTokens rest = .ok right) :
    ofTokens (field :: operator :: value :: word :: rest) =
      .ok (.joined k (.condition c) right) := by
  have some : rest ≠ [] := by
    rintro rfl
    rw [ofTokens_of_no_split (by simp) rfl] at read
    cases read
  have cut : splitConnective? ([field, operator, value] ++ word :: rest) =
      .some ([field, operator, value], k, rest) := by
    refine splitConnective?_of_cutAt ⟨by simp, some, ?_, word, rfl,
      Connective.ofToken?_eq_some_iff.mpr link.connective⟩
    intro u m
    rcases List.mem_pair.mp m with rfl | rfl
    · exact Condition.connective_of_operator link.condition
    · exact Connective.ofToken?_eq_none_iff.mpr link.value
  have three : ([field, operator, value] ++ word :: rest).length ≠ 3 := by simp
  have first := ofTokens_three_eq_ok_iff.mpr ⟨c, link.condition, rfl⟩
  show ofTokens ([field, operator, value] ++ word :: rest) = _
  rw [ofTokens_of_split three cut, first, read]
  rfl

/-- Every chain has a predicate; the induction is on its links. -/
theorem exists_ofTokens_of_isChain {tokens : List String} {links : Nat}
    (chain : IsChain tokens links) : ∃ p, ofTokens tokens = .ok p := by
  induction links generalizing tokens with
  | zero =>
    obtain ⟨field, operator, value, c, rfl, condition⟩ := isChain_zero.mp chain
    exact ⟨_, ofTokens_three_eq_ok_iff.mpr ⟨c, condition, rfl⟩⟩
  | succ links ih =>
    obtain ⟨field, operator, value, word, rest, c, k, rfl, link, chain⟩ := isChain_succ.mp chain
    obtain ⟨right, read⟩ := ih chain
    exact ⟨_, ofTokens_link link read⟩

theorem isTreeOf_condition {field operator value : String} {c : Condition}
    (condition : Condition.ofTokens field operator value = .ok c) :
    (Predicate.condition c).IsTreeOf [field, operator, value] 0 where
  nested := trivial
  conditions_length := rfl
  conditions := by
    rintro (_ | i) d found
    · obtain rfl := Option.some.inj found
      exact conditionAt_zero.mpr condition
    · cases found
  connectives_length := rfl
  connectives := by
    intro i k found
    cases found

theorem isTreeOf_joined {field operator value word : String} {rest : List String} {c : Condition}
    {k : Connective} {right : Predicate} {links : Nat} (link : IsLink field operator value word c k)
    (tree : right.IsTreeOf rest links) :
    (Predicate.joined k (.condition c) right).IsTreeOf
      (field :: operator :: value :: word :: rest) (links + 1) where
  nested := ⟨⟨c, rfl⟩, tree.nested⟩
  conditions_length := congrArg (· + 1) tree.conditions_length
  conditions := by
    rintro (_ | i) d found
    · obtain rfl := Option.some.inj found
      exact conditionAt_zero.mpr link.condition
    · exact tree.conditions i d found
  connectives_length := congrArg (· + 1) tree.connectives_length
  connectives := by
    rintro (_ | i) j found
    · obtain rfl := Option.some.inj found
      exact connectiveAt_zero.mpr link.connective
    · exact tree.connectives i j found

/-- What is read is a chain, and the predicate is its tree; the induction is on the predicate. -/
theorem isTreeOf_of_ofTokens {tokens : List String} {p : Predicate}
    (read : ofTokens tokens = .ok p) : ∃ links, IsChain tokens links ∧ p.IsTreeOf tokens links := by
  induction p generalizing tokens with
  | condition d =>
    rcases ofTokens_eq_ok_cases read with
      ⟨field, operator, value, c, rfl, condition, same⟩ | ⟨_, _, _, _, _, _, _, _, _, _, _, other⟩
    · cases same
      exact ⟨0, isChain_zero.mpr ⟨_, _, _, _, rfl, condition⟩, isTreeOf_condition condition⟩
    · cases other
  | joined k left right _ ih =>
    rcases ofTokens_eq_ok_cases read with
      ⟨_, _, _, _, _, _, other⟩ |
      ⟨field, operator, value, word, rest, c, k, right, rfl, link, behind, same⟩
    · cases other
    · cases same
      obtain ⟨links, chain, tree⟩ := ih behind
      exact ⟨links + 1, isChain_succ.mpr ⟨_, _, _, _, _, _, _, rfl, link, chain⟩,
        isTreeOf_joined link tree⟩

theorem eq_of_isRightNested {p q : Predicate} (hp : p.IsRightNested) (hq : q.IsRightNested)
    (conditions : p.conditions = q.conditions) (connectives : p.connectives = q.connectives) :
    p = q := by
  induction p generalizing q with
  | condition c =>
    cases q with
    | condition d =>
      cases conditions
      rfl
    | joined k left right =>
      obtain ⟨⟨d, rfl⟩, -⟩ := hq
      cases connectives
  | joined k left right _ ih =>
    obtain ⟨⟨c, rfl⟩, hr⟩ := hp
    cases q with
    | condition d => cases connectives
    | joined k' left' right' =>
      obtain ⟨⟨c', rfl⟩, hr'⟩ := hq
      obtain ⟨rfl, restConditions⟩ := List.cons.inj conditions
      obtain ⟨rfl, restConnectives⟩ := List.cons.inj connectives
      rw [ih hr hr' restConditions restConnectives]

theorem IsTreeOf.unique {p q : Predicate} {tokens : List String} {links : Nat}
    (hp : p.IsTreeOf tokens links) (hq : q.IsTreeOf tokens links) : p = q := by
  apply eq_of_isRightNested hp.nested hq.nested
  · apply List.ext_getElem (hp.conditions_length.trans hq.conditions_length.symm)
    intro i inside inside'
    exact (hp.conditions i _ (List.getElem?_eq_getElem inside)).unique
      (hq.conditions i _ (List.getElem?_eq_getElem inside'))
  · apply List.ext_getElem (hp.connectives_length.trans hq.connectives_length.symm)
    intro i inside inside'
    exact (hp.connectives i _ (List.getElem?_eq_getElem inside)).unique
      (hq.connectives i _ (List.getElem?_eq_getElem inside'))

/-- Tokens have a predicate exactly when they are a chain, and it is then the tree of the chain. -/
theorem ofTokens_reads_chains (tokens : List String) :
    ((∃ p, ofTokens tokens = .ok p) ↔ ∃ links, IsChain tokens links) ∧
    (∀ p, ofTokens tokens = .ok p ↔ ∃ links, IsChain tokens links ∧ p.IsTreeOf tokens links) ∧
    ((¬∃ links, IsChain tokens links) ↔
      ∃ e, (ofTokens tokens).mapError ParseError.predicate = .error (.predicate e)) := by
  have reads : (∃ p, ofTokens tokens = .ok p) ↔ ∃ links, IsChain tokens links := by
    constructor
    · rintro ⟨p, read⟩
      obtain ⟨links, chain, -⟩ := isTreeOf_of_ofTokens read
      exact ⟨links, chain⟩
    · rintro ⟨links, chain⟩
      exact exists_ofTokens_of_isChain chain
  refine ⟨reads, fun p => ⟨isTreeOf_of_ofTokens, ?_⟩, ?_⟩
  · rintro ⟨links, chain, tree⟩
    obtain ⟨q, read⟩ := exists_ofTokens_of_isChain chain
    obtain ⟨links', chain', tree'⟩ := isTreeOf_of_ofTokens read
    obtain rfl : links' = links := by
      have length := chain'.length.symm.trans chain.length
      omega
    rw [read, tree'.unique tree]
  · rw [← reads]
    cases ofTokens tokens with
    | ok p => simp [Except.mapError]
    | error e => simp [Except.mapError]

end Predicate

end DocQuery
