import Mathlib.Tactic.Linarith
import Mathlib.Tactic.Ring
import Mathlib.Tactic.FieldSimp
import OrderMessaging.Contracts.Reference
import OrderMessaging.Processing.StoreHistory

/-!
Which contract-valid events the order table keeps as they are. The contract
bounds an amount from below only and a text by its length only; the columns
hold whole hundredths below 10^16 and texts without U+0000.
-/

namespace OrderMessaging.Processing.StoreFidelity

open OrderMessaging.PyText OrderMessaging.PyValue OrderMessaging.Relation
open OrderMessaging.Contracts.Models OrderMessaging.Contracts.Validation
open OrderMessaging.Contracts.Reference OrderMessaging.Processing.PostgresOrderStore
open OrderMessaging.Processing.OrderLedger OrderMessaging.Processing.StoreHistory

set_option autoImplicit false

/-- `store` reports a new event and `fetch_order` gives back what it carried. -/
def StoredFaithfully (event : OrderCreatedEvent) (tables : Tables) : Prop :=
  ∃ result stored, (store event tables).1 = .ok result ∧ result.isNew = true ∧
    fetchOrder (store event tables).2 event.data.orderId.text = some stored ∧
    stored.customerId = event.data.customerId.text ∧
    stored.amount = event.data.amount.value ∧
    stored.currency = event.data.currency.text ∧
    stored.sourceEventId = event.eventId ∧
    stored.correlationId = event.correlationId.text

/-- The amount is a whole number of hundredths below the bound of the column. -/
def WholeHundredths (amount : ℚ) : Prop := ∃ count : Nat, count < 10 ^ 18 ∧ amount = count / 100

def NulFree (event : OrderCreatedEvent) : Prop :=
  0 ∉ event.data.orderId.text ∧ 0 ∉ event.data.customerId.text ∧ 0 ∉ event.correlationId.text

section Amounts

theorem round_hundredths (count : Nat) : roundToHundredths (count / 100 : ℚ) = count := by
  have nonnegative : ¬(count / 100 : ℚ) < 0 := by
    apply not_lt_of_ge
    positivity
  unfold roundToHundredths
  rw [if_neg nonnegative, Int.floor_eq_iff]
  have scaled : (count / 100 : ℚ) * 100 = count := by
    field_simp
  rw [scaled]
  constructor
  · push_cast
    linarith
  · push_cast
    linarith

theorem amount_column_exact {amount : ℚ} (positive : 0 < amount) :
    (∃ stored, amountColumn (.finite amount) = .ok stored ∧ stored.toFloat = .finite amount) ↔
      WholeHundredths amount := by
  constructor
  · intro exact
    obtain ⟨stored, column, same⟩ := exact
    cases stored with
    | nan => cases same
    | hundredths value valuePositive bounded =>
        refine ⟨value, bounded, ?_⟩
        injection same with equal
        exact equal.symm
  · intro whole
    obtain ⟨count, bounded, equal⟩ := whole
    subst equal
    have countPositive : 0 < count := by
      apply Nat.pos_of_ne_zero
      intro zero
      rw [zero] at positive
      norm_num at positive
    refine ⟨.hundredths count countPositive bounded, ?_, rfl⟩
    have fits : ¬10 ^ 18 ≤ (count : Int).natAbs := by
      rw [Int.natAbs_natCast]
      omega
    simp only [amountColumn, round_hundredths, if_neg fits, Int.toNat_natCast]
    rw [dif_pos ⟨countPositive, bounded⟩]

end Amounts

theorem fetch_order_iff {tables : Tables} {orderId : Str} {stored : StoredOrder} :
    fetchOrder tables orderId = some stored ↔
      ∃ row ∈ tables.orders, row.orderId = orderId ∧ toStoredOrder row = stored := by
  unfold fetchOrder
  rw [Option.map_eq_some_iff]
  constructor
  · intro found
    obtain ⟨row, held, same⟩ := found
    have present := lookup_eq_some.mp held
    exact ⟨row, present.1, present.2, same⟩
  · intro found
    obtain ⟨row, member, own, same⟩ := found
    exact ⟨row, lookup_eq_some.mpr ⟨member, own⟩, same⟩

section Faithful

variable {event : OrderCreatedEvent} {tables : Tables}

theorem stored_of_row {row : OrderRow} (fits : orderRow event = .ok row)
    (fresh : claimOf tables event.eventId = none)
    (freshOrder : ∀ other ∈ tables.orders, other.orderId ≠ event.data.orderId.text)
    (freshSource : ∀ other ∈ tables.orders, other.sourceEventId ≠ event.eventId) :
    (store event tables).1 = .ok ⟨true, true⟩ ∧
      fetchOrder (store event tables).2 event.data.orderId.text = some (toStoredOrder row) := by
  have fields := order_row_iff.mp fits
  have ownOrder : row.orderId = event.data.orderId.text := (text_column_iff.mp fields.1).2
  have outcome := store_outcome event tables
  revert outcome
  generalize store event tables = reply
  rcases reply with ⟨result, reached⟩
  intro outcome
  cases outcome with
  | known claim held =>
      rw [fresh] at held
      cases held
  | refused fault absent reason =>
      cases reason with
      | column _ unfit =>
          rw [fits] at unfit
          cases unfit
      | order found other again member taken =>
          rw [fits] at again
          cases again
          exact absurd (taken.trans ownOrder) (freshOrder other member)
      | source found other again member taken =>
          rw [fits] at again
          cases again
          exact absurd (taken.trans (order_row_source fits)) (freshSource other member)
  | written found again absent rowOrder rowSource =>
      rw [fits] at again
      cases again
      refine ⟨rfl, ?_⟩
      apply fetch_order_iff.mpr
      exact ⟨row, Finset.mem_insert_self row tables.orders, ownOrder, rfl⟩

theorem row_of_stored {result : EventStoreResult} (stored : (store event tables).1 = .ok result)
    (isNew : result.isNew = true) :
    ∃ row, orderRow event = .ok row ∧ row ∈ (store event tables).2.orders := by
  have outcome := store_outcome event tables
  revert outcome stored
  generalize store event tables = reply
  rcases reply with ⟨reply, reached⟩
  intro stored outcome
  cases outcome with
  | known claim held =>
      cases stored
      cases isNew
  | refused fault absent reason => cases stored
  | written row fits absent rowOrder rowSource =>
      exact ⟨row, fits, Finset.mem_insert_self row tables.orders⟩

/-- A reachable state that knows neither the event nor the order stores the
event faithfully exactly when the columns can hold it. -/
theorem stored_faithfully_iff (calls : List Call) (event : OrderCreatedEvent) (amount : ℚ)
    (finite : event.data.amount.value = .finite amount)
    (newEvent : claimOf (run calls).tables event.eventId = none)
    (newOrder : fetchOrder (run calls).tables event.data.orderId.text = none) :
    StoredFaithfully event (run calls).tables ↔ WholeHundredths amount ∧ NulFree event := by
  obtain ⟨ledger, holds, _⟩ := run_traced calls
  have positive : 0 < amount := by
    have accepted := event.data.amount.positive
    rw [finite] at accepted
    simpa [PyFloat.positive] using accepted
  have freshOrder : ∀ other ∈ (run calls).tables.orders,
      other.orderId ≠ event.data.orderId.text :=
    lookup_eq_none.mp (Option.map_eq_none_iff.mp newOrder)
  have freshSource : ∀ other ∈ (run calls).tables.orders, other.sourceEventId ≠ event.eventId := by
    have absent := (claim_none_iff holds event.eventId).mp newEvent
    have none := holds.orders event.eventId
    rw [absent, Option.map_none] at none
    exact lookup_eq_none.mp none
  constructor
  · intro faithful
    obtain ⟨result, stored, replied, isNew, fetched, _, amountSame, _⟩ := faithful
    obtain ⟨row, fits, member⟩ := row_of_stored replied isNew
    have fields := order_row_iff.mp fits
    have ownOrder := (text_column_iff.mp fields.1).2
    obtain ⟨found, foundMember, foundOrder, same⟩ := fetch_order_iff.mp fetched
    have sameRow : found = row :=
      (store event (run calls).tables).2.ordersPkey foundMember member
        (foundOrder.trans ownOrder.symm)
    subst sameRow
    have column := fields.2.2.1
    rw [finite] at column amountSame
    rw [← same] at amountSame
    refine ⟨(amount_column_exact positive).mp ⟨found.amount, column, amountSame⟩, ?_⟩
    exact ⟨(text_column_iff.mp fields.1).1, (text_column_iff.mp fields.2.1).1,
      (text_column_iff.mp fields.2.2.2.1).1⟩
  · intro storable
    obtain ⟨whole, orderFree, customerFree, correlationFree⟩ := storable
    obtain ⟨column, held, exact⟩ := (amount_column_exact positive).mpr whole
    have fits : orderRow event = .ok ⟨event.data.orderId.text, event.data.customerId.text, column,
        event.data.currency.text, event.eventId, event.correlationId.text⟩ := by
      apply order_row_iff.mpr
      rw [finite]
      exact ⟨text_column_iff.mpr ⟨orderFree, rfl⟩, text_column_iff.mpr ⟨customerFree, rfl⟩, held,
        text_column_iff.mpr ⟨correlationFree, rfl⟩, rfl, rfl⟩
    obtain ⟨replied, fetched⟩ := stored_of_row fits newEvent freshOrder freshSource
    refine ⟨_, _, replied, rfl, fetched, rfl, ?_, rfl, rfl, rfl⟩
    rw [finite]
    exact exact

end Faithful

section Boundary

theorem fresh_claim (eventId : Uuid) : claimOf (run []).tables eventId = none :=
  lookup_eq_none.mpr (by simp [run, Session.fresh, initializeStore, emptyTables])

theorem fresh_order (orderId : Str) : fetchOrder (run []).tables orderId = none := by
  unfold fetchOrder
  rw [Option.map_eq_none_iff]
  exact lookup_eq_none.mpr (by simp [run, Session.fresh, initializeStore, emptyTables])

theorem documented_row : ∃ row, orderRow documentedEvent = .ok row := by
  have stored : (orderRow documentedEvent).toOption.isSome = true := by
    decide +kernel
  cases fits : orderRow documentedEvent with
  | ok row => exact ⟨row, rfl⟩
  | error fault =>
      rw [fits] at stored
      cases stored

theorem documented_order_stored :
    StoredFaithfully documentedEvent (run []).tables :=
  (stored_faithfully_iff [] _ 500 rfl (fresh_claim _) (fresh_order _)).mpr
    ⟨⟨50000, by norm_num, by norm_num⟩, by decide +kernel, by decide +kernel, by decide +kernel⟩

/-- A tenth of a hundredth is a valid amount that no row can hold. -/
theorem thousandth_refused :
    parseOrderCreatedEvent referenceRuntime
        (.dict (orderPayloadOf (.int 1) (.float (.finite (1 / 1000))) "INR")) =
      .ok (documentedOrder (1 / 1000) (by norm_num)) ∧
    claimOf (run []).tables (documentedOrder (1 / 1000) (by norm_num)).eventId = none ∧
    fetchOrder (run []).tables (documentedOrder (1 / 1000) (by norm_num)).data.orderId.text = none ∧
    ¬StoredFaithfully (documentedOrder (1 / 1000) (by norm_num)) (run []).tables := by
  refine ⟨by decide +kernel, fresh_claim _, fresh_order _, ?_⟩
  intro faithful
  obtain ⟨result, stored, replied, isNew, _⟩ := faithful
  obtain ⟨row, fits, _⟩ := row_of_stored replied isNew
  have column := (order_row_iff.mp fits).2.2.1
  have refused : amountColumn (.finite (1 / 1000)) = .error ⟨checkViolation,
      "new row violates check constraint \"orders_amount_check\""⟩ := by decide +kernel
  have same : (documentedOrder (1 / 1000) (by norm_num)).data.amount.value =
      .finite (1 / 1000) := rfl
  rw [same, refused] at column
  cases column

end Boundary

end OrderMessaging.Processing.StoreFidelity
