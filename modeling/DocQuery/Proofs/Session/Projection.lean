import DocQuery.Proofs.Query.WellFormed
import DocQuery.Proofs.Session.Execution

/-!
# Items that are projected

A count of all documents is no column of a row, and no execution asks for it as one: a plan that
counts makes no rows, and in a well-formed plan that makes rows no item counts. So it does not
matter what columns a row would have for such an item.
-/

namespace DocQuery

/-- The row of a document, with these columns for an item that counts. -/
def Document.rowWith (counted : List (String × Json)) (settings : Settings)
    (select : List SelectItem) (d : Document) : Row :=
  Fields.ofPairs (select.flatMap fun item =>
    if item = .countAll then counted else d.columns settings item)

section Execution

variable {m : Type → Type} [Monad m]

def Plan.runBy (project : Settings → List SelectItem → Document → Row) (plan : Plan)
    (store : DocumentStore m) (settings : Settings) (request : StoreQuery) :
    m (Except QueryError Output) :=
  if plan.isCount then do
    let n ← store.count request
    return (n.mapError .store).map .count
  else if request.limit = some 0 then
    pure (.ok (.rows []))
  else do
    let docs ← store.fetch request
    return (docs.mapError .store).map fun docs =>
      .rows (docs.map (project settings plan.select))

def executeBy (project : Settings → List SelectItem → Document → Row) (store : DocumentStore m)
    (settings : Settings) (query : String) : m (Except QueryError Output) :=
  match planned store.capabilities settings query with
  | .error e => pure (.error e)
  | .ok (plan, request) => plan.runBy project store settings request

theorem executeBy_row (store : DocumentStore m) (settings : Settings) (query : String) :
    executeBy Document.row store settings query = execute store settings query := rfl

theorem Document.rowWith_of_not_mem (counted : List (String × Json)) (settings : Settings)
    {select : List SelectItem} (rows : .countAll ∉ select) (d : Document) :
    d.rowWith counted settings select = d.row settings select := by
  unfold rowWith row
  congr 1
  apply List.flatMap_congr
  intro item inside
  rw [if_neg (ne_of_mem_of_not_mem inside rows)]

theorem Plan.IsWellFormed.not_mem_countAll {plan : Plan} (formed : plan.IsWellFormed)
    (rows : plan.isCount = false) : .countAll ∉ plan.select := by
  intro inside
  rw [isCount_iff.mpr (formed.select.count inside)] at rows
  cases rows

theorem Plan.runBy_rowWith {plan : Plan} (formed : plan.IsWellFormed)
    (counted : List (String × Json)) (store : DocumentStore m) (settings : Settings)
    (request : StoreQuery) :
    plan.runBy (Document.rowWith counted) store settings request =
      plan.run store settings request := by
  cases rows : plan.isCount with
  | true =>
    unfold runBy run
    rw [rows]
    rfl
  | false =>
    have same := funext
      (Document.rowWith_of_not_mem counted settings (formed.not_mem_countAll rows))
    unfold runBy run
    rw [rows, same]

end Execution

/-- Every plan that is read off a query is well formed, and no execution of a query projects a
document to an item that counts: whatever columns the row had for it, the outcome is the same. -/
theorem parsed_plans_are_wellFormed (query : String) :
    (∀ plan, Plan.parse query = .ok plan → plan.IsWellFormed) ∧
    ∀ (m : Type → Type) [Monad m] (store : DocumentStore m) (settings : Settings)
      (counted : List (String × Json)),
      executeBy (Document.rowWith counted) store settings query =
        execute store settings query := by
  refine ⟨fun plan parsed => Plan.isWellFormed_of_parse parsed, ?_⟩
  intro m _ store settings counted
  unfold executeBy execute
  cases found : planned store.capabilities settings query with
  | error e => rfl
  | ok p =>
    have formed := Plan.isWellFormed_of_parse (planned_eq_ok_iff.mp found).1
    exact Plan.runBy_rowWith formed counted store settings p.2

def paidOrders : Predicate :=
  .joined .both (.condition ⟨"id", .isIn, .list [.string "o1", .string "o2"]⟩)
    (.condition ⟨"paid", .equal, .boolean true⟩)

theorem tokens_paidOrders : Token.tokens " id IN ('o1', 'o2') AND paid = true".toList =
    ["id", "IN", "('o1', 'o2')", "AND", "paid", "=", "true"] := by decide

theorem ofTokens_paidOrders :
    Predicate.ofTokens (Token.tokens " id IN ('o1', 'o2') AND paid = true".toList) =
      .ok paidOrders := by
  have link : IsLink "id" "IN" "('o1', 'o2')" "AND"
      ⟨"id", .isIn, .list [.string "o1", .string "o2"]⟩ .both :=
    ⟨rfl, fun k => by cases k <;> decide, by decide⟩
  rw [tokens_paidOrders, Predicate.ofTokens_link link
    (Predicate.ofTokens_three_eq_ok_iff.mpr ⟨⟨"paid", .equal, .boolean true⟩, rfl, rfl⟩)]
  rfl

theorem parsed_plans_are_wellFormed_of_orders :
    ∃ plan, Plan.parse "SELECT id FROM GROUP orders WHERE id IN ('o1', 'o2') AND paid = true" =
        .ok plan ∧ plan.IsWellFormed ∧ plan.fieldNames = ["__name__", "__name__", "paid"] := by
  let shown : Plan := ⟨[.field "id"], .group "orders", some paidOrders, none, none⟩
  have filter : ((some " id IN ('o1', 'o2') AND paid = true".toList).mapM fun text =>
      (Predicate.ofTokens (Token.tokens text)).mapError ParseError.predicate) =
        .ok (some paidOrders) := by
    rw [Option.mapM_some, ofTokens_paidOrders]
    rfl
  have parsed : Plan.parse
      "SELECT id FROM GROUP orders WHERE id IN ('o1', 'o2') AND paid = true" =
        .ok shown.resolveIdentity :=
    (Plan.parse_eq_ok_iff rfl).mpr ⟨by decide, _, shown, rfl, ⟨rfl, rfl, filter, rfl, rfl⟩, rfl,
      rfl⟩
  exact ⟨_, parsed, (parsed_plans_are_wellFormed _).1 _ parsed, rfl⟩

end DocQuery
