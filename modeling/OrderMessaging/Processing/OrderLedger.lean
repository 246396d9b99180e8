import OrderMessaging.Library.ClaimLedger
import OrderMessaging.Processing.PostgresOrderStore

/-!
What the two tables are for: a ledger that maps an event ID to the order it
produced and to whether its effects are complete. The store's calls refine the
ledger's actions, so a claim row and an order row of one event come and go
together in every state that atomic calls reach.
-/

namespace OrderMessaging.Processing.OrderLedger

open OrderMessaging.PyException OrderMessaging.Relation OrderMessaging.ClaimLedger
open OrderMessaging.Contracts.Models OrderMessaging.Processing.PostgresOrderStore

set_option autoImplicit false

abbrev EventLedger := Ledger Uuid OrderRow

def statusOfEntry (entry : Entry OrderRow) : Status :=
  if entry.completed then .completed else .pending

def claimRow (eventId : Uuid) (entry : Entry OrderRow) : ProcessedEventRow :=
  ⟨eventId, "order.created", statusOfEntry entry⟩

structure Represents (tables : Tables) (ledger : EventLedger) : Prop where
  claims : ∀ eventId, claimOf tables eventId = (ledger eventId).map (claimRow eventId)
  orders : ∀ eventId, orderOfEvent tables eventId = (ledger eventId).map Entry.record

theorem represents_empty : Represents emptyTables fun _ => none := by
  constructor
  · intro eventId
    exact lookup_eq_none.mpr (by simp [emptyTables])
  · intro eventId
    exact lookup_eq_none.mpr (by simp [emptyTables])

/-- The tables hold nothing that the ledger does not. -/
theorem tables_eq_of_represents {left right : Tables} {ledger : EventLedger}
    (leftHolds : Represents left ledger) (rightHolds : Represents right ledger) : left = right := by
  apply Tables.ext
  · have same : ∀ eventId, orderOfEvent left eventId = orderOfEvent right eventId := by
      intro eventId
      rw [leftHolds.orders, rightHolds.orders]
    exact eq_of_lookup same
  · have same : ∀ eventId, claimOf left eventId = claimOf right eventId := by
      intro eventId
      rw [leftHolds.claims, rightHolds.claims]
    exact eq_of_lookup same

section Calls

variable {tables : Tables} {ledger : EventLedger}

theorem claim_none_iff (holds : Represents tables ledger) (eventId : Uuid) :
    claimOf tables eventId = none ↔ ledger eventId = none := by
  rw [holds.claims, Option.map_eq_none_iff]

theorem represents_claim (holds : Represents tables ledger) {event : OrderCreatedEvent}
    {row : OrderRow} (fits : orderRow event = .ok row)
    (fresh : ∀ other ∈ tables.processedEvents, other.eventId ≠ event.eventId)
    (freshOrder : ∀ other ∈ tables.orders, other.orderId ≠ row.orderId)
    (freshSource : ∀ other ∈ tables.orders, other.sourceEventId ≠ row.sourceEventId) :
    Represents
      (insertOrderRow (insertClaimRow tables ⟨event.eventId, event.eventType, .pending⟩ fresh)
        row freshOrder freshSource)
      (apply (.claim event.eventId row) ledger) := by
  have source := order_row_source fits
  have absent := (claim_none_iff holds event.eventId).mp (lookup_eq_none.mpr fresh)
  have claimed := apply_claim_absent absent row
  constructor
  · intro wanted
    have found := claim_of_insert_claim_row tables wanted
      ⟨event.eventId, event.eventType, .pending⟩ fresh
    refine Eq.trans found ?_
    by_cases same : wanted = event.eventId
    · subst same
      rw [if_pos rfl, claimed]
      rfl
    · rw [if_neg same, apply_other ledger same]
      exact holds.claims wanted
  · intro wanted
    have found := order_of_insert_order_row
      (insertClaimRow tables ⟨event.eventId, event.eventType, .pending⟩ fresh) wanted row
      freshOrder freshSource
    refine Eq.trans found ?_
    rw [source]
    by_cases same : wanted = event.eventId
    · subst same
      rw [if_pos rfl, claimed]
      rfl
    · rw [if_neg same, apply_other ledger same]
      exact holds.orders wanted

theorem represents_complete (holds : Represents tables ledger) (eventId : Uuid) :
    Represents (completeClaim tables eventId) (apply (.complete eventId) ledger) := by
  have completed := apply_complete ledger eventId
  constructor
  · intro wanted
    rw [claim_of_complete_claim, holds.claims wanted]
    by_cases same : wanted = eventId
    · subst same
      rw [completed]
      cases ledger wanted with
      | none => rfl
      | some entry => simp [complete, claimRow, statusOfEntry, Entry.finish]
    · rw [apply_other ledger same]
      cases ledger wanted with
      | none => rfl
      | some entry => simp [complete, claimRow, same]
  · intro wanted
    have kept : orderOfEvent (completeClaim tables eventId) wanted = orderOfEvent tables wanted := rfl
    rw [kept, holds.orders wanted]
    by_cases same : wanted = eventId
    · subst same
      rw [completed]
      cases ledger wanted <;> rfl
    · rw [apply_other ledger same]

theorem represents_forget (holds : Represents tables ledger) (eventId : Uuid) :
    Represents (dropClaims (dropOrders tables eventId) eventId)
      (apply (.forget eventId) ledger) := by
  have forgotten := apply_forget ledger eventId
  constructor
  · intro wanted
    rw [claim_of_drop_claims]
    by_cases same : wanted = eventId
    · subst same
      rw [if_pos rfl, forgotten]
      rfl
    · rw [if_neg same, apply_other ledger same]
      exact holds.claims wanted
  · intro wanted
    have dropped := order_of_drop_orders tables wanted eventId
    refine Eq.trans dropped ?_
    by_cases same : wanted = eventId
    · subst same
      rw [if_pos rfl, forgotten]
      rfl
    · rw [if_neg same, apply_other ledger same]
      exact holds.orders wanted

/-- `store` as a step of the ledger. -/
inductive LedgerStore (event : OrderCreatedEvent) (tables : Tables) (ledger : EventLedger) :
    Except Exc EventStoreResult → Tables → EventLedger → Prop where
  | known (entry : Entry OrderRow) (held : ledger event.eventId = some entry) :
      LedgerStore event tables ledger (.ok ⟨false, !entry.completed⟩) tables ledger
  | written (row : OrderRow) (reached : Tables) (fits : orderRow event = .ok row)
      (absent : ledger event.eventId = none) :
      LedgerStore event tables ledger (.ok ⟨true, true⟩) reached
        (apply (.claim event.eventId row) ledger)
  | refused (fault : Exc) (absent : ledger event.eventId = none)
      (reason : orderRow event = .error fault ∨ ∃ row, orderRow event = .ok row ∧
        ∃ eventId entry, ledger eventId = some entry ∧ entry.record.orderId = row.orderId) :
      LedgerStore event tables ledger (.error fault) tables ledger

theorem store_refines (holds : Represents tables ledger) (event : OrderCreatedEvent) :
    ∃ result reached after, store event tables = (result, reached) ∧
      LedgerStore event tables ledger result reached after ∧ Represents reached after := by
  have outcome := store_outcome event tables
  revert outcome
  generalize store event tables = reply
  rcases reply with ⟨result, reached⟩
  intro outcome
  refine ⟨result, reached, ?_⟩
  cases outcome with
  | known claim held =>
      have listed := holds.claims event.eventId
      rw [held] at listed
      cases entry : ledger event.eventId with
      | none =>
          rw [entry] at listed
          cases listed
      | some entry' =>
          rw [entry, Option.map_some, Option.some.injEq] at listed
          have downstream : decide (claim.status ≠ .completed) = !entry'.completed := by
            rw [listed, claimRow, statusOfEntry]
            cases entry'.completed <;> rfl
          refine ⟨ledger, rfl, ?_, holds⟩
          rw [downstream]
          exact .known entry' entry
  | written row fits fresh freshOrder freshSource =>
      have absent := (claim_none_iff holds event.eventId).mp (lookup_eq_none.mpr fresh)
      exact ⟨_, rfl, .written row _ fits absent,
        represents_claim holds fits fresh freshOrder freshSource⟩
  | refused fault fresh reason =>
      have absent := (claim_none_iff holds event.eventId).mp (lookup_eq_none.mpr fresh)
      refine ⟨ledger, rfl, .refused fault absent ?_, holds⟩
      have recorded : ∀ other ∈ reached.orders, ∃ entry,
          ledger other.sourceEventId = some entry ∧ entry.record = other := by
        intro other member
        have held : orderOfEvent reached other.sourceEventId = some other :=
          lookup_eq_some.mpr ⟨member, rfl⟩
        rw [holds.orders] at held
        exact Option.map_eq_some_iff.mp held
      cases reason with
      | column _ unfit => exact .inl unfit
      | order row other fits member taken =>
          obtain ⟨entry, held, same⟩ := recorded other member
          exact .inr ⟨row, fits, other.sourceEventId, entry, held, by rw [same, taken]⟩
      | source row other fits member taken =>
          obtain ⟨entry, held, _⟩ := recorded other member
          rw [taken, order_row_source fits, absent] at held
          cases held

/-- A store of an event and an order that the tables do not know. -/
theorem store_writes (holds : Represents tables ledger) {event : OrderCreatedEvent} {row : OrderRow}
    (fits : orderRow event = .ok row) (absent : ledger event.eventId = none)
    (fresh : ∀ eventId entry, ledger eventId = some entry → entry.record.orderId ≠ row.orderId) :
    ∃ reached, store event tables = (.ok ⟨true, true⟩, reached) ∧
      Represents reached (apply (.claim event.eventId row) ledger) := by
  obtain ⟨result, reached, after, ran, stepped, represented⟩ := store_refines holds event
  cases stepped with
  | known entry held =>
      rw [absent] at held
      cases held
  | written own _ again _ =>
      rw [fits] at again
      cases again
      exact ⟨reached, ran, represented⟩
  | refused fault _ reason =>
      rcases reason with unfit | ⟨own, again, eventId, entry, held, taken⟩
      · rw [fits] at unfit
        cases unfit
      · rw [fits] at again
        cases again
        exact absurd taken (fresh eventId entry held)

/-- The tables after a store into empty ones. -/
theorem first_store {event : OrderCreatedEvent} {row : OrderRow} (fits : orderRow event = .ok row) :
    ∃ reached, store event emptyTables = (.ok ⟨true, true⟩, reached) ∧
      Represents reached (apply (.claim event.eventId row) fun _ => none) ∧
      (∃ claim, claimOf reached event.eventId = some claim) ∧
      orderOfEvent reached event.eventId = some row := by
  obtain ⟨reached, ran, represented⟩ := store_writes represents_empty fits rfl (by
    intro eventId entry held
    cases held)
  have claimed : apply (.claim event.eventId row) (fun _ => none) event.eventId =
      some ⟨row, false⟩ := apply_claim_absent rfl row
  refine ⟨reached, ran, represented, ⟨claimRow event.eventId ⟨row, false⟩, ?_⟩, ?_⟩
  · rw [represented.claims, claimed]
    rfl
  · rw [represented.orders, claimed]
    rfl

/-- `mark_completed` as a step of the ledger. -/
inductive LedgerMark (eventId : Uuid) (tables : Tables) (ledger : EventLedger) :
    Except Exc Unit → Tables → EventLedger → Prop where
  | marked (entry : Entry OrderRow) (reached : Tables) (held : ledger eventId = some entry) :
      LedgerMark eventId tables ledger (.ok ()) reached (apply (.complete eventId) ledger)
  | unknown (absent : ledger eventId = none) :
      LedgerMark eventId tables ledger (.error (cannotComplete eventId)) tables ledger

theorem mark_refines (holds : Represents tables ledger) (eventId : Uuid) :
    ∃ result reached after, markCompleted eventId tables = (result, reached) ∧
      LedgerMark eventId tables ledger result reached after ∧ Represents reached after := by
  have outcome := mark_outcome eventId tables
  revert outcome
  generalize markCompleted eventId tables = reply
  rcases reply with ⟨result, reached⟩
  intro outcome
  refine ⟨result, reached, ?_⟩
  cases outcome with
  | marked claim held =>
      rw [holds.claims] at held
      obtain ⟨entry, present, _⟩ := Option.map_eq_some_iff.mp held
      exact ⟨_, rfl, .marked entry _ present, represents_complete holds eventId⟩
  | unknown absent =>
      exact ⟨ledger, rfl, .unknown ((claim_none_iff holds eventId).mp absent), holds⟩

theorem mark_completes (holds : Represents tables ledger) {eventId : Uuid}
    {entry : Entry OrderRow} (held : ledger eventId = some entry) :
    ∃ reached, markCompleted eventId tables = (.ok (), reached) ∧
      Represents reached (apply (.complete eventId) ledger) := by
  obtain ⟨result, reached, after, ran, stepped, represented⟩ := mark_refines holds eventId
  cases stepped with
  | marked => exact ⟨reached, ran, represented⟩
  | unknown absent =>
      rw [held] at absent
      cases absent

theorem discard_refines (holds : Represents tables ledger) (eventId : Uuid) :
    ∃ reached, discard eventId tables = (.ok (), reached) ∧
      Represents reached (apply (.forget eventId) ledger) :=
  ⟨_, discard_apply eventId tables, represents_forget holds eventId⟩

end Calls

section Readers

variable {tables : Tables} {ledger : EventLedger}

theorem has_processed_iff (holds : Represents tables ledger) (eventId : Uuid) :
    hasProcessed tables eventId = true ↔
      ∃ entry, ledger eventId = some entry ∧ entry.completed = true := by
  have listed := holds.claims eventId
  unfold hasProcessed
  rw [decide_eq_true_iff]
  constructor
  · intro found
    obtain ⟨claim, member, same, done⟩ := found
    have held : claimOf tables eventId = some claim := lookup_eq_some.mpr ⟨member, same⟩
    rw [listed] at held
    obtain ⟨entry, present, row⟩ := Option.map_eq_some_iff.mp held
    refine ⟨entry, present, ?_⟩
    rw [← row, claimRow, statusOfEntry] at done
    cases entry' : entry.completed with
    | true => rfl
    | false =>
        rw [entry'] at done
        cases done
  · intro found
    obtain ⟨entry, present, done⟩ := found
    rw [present, Option.map_some] at listed
    obtain ⟨member, same⟩ := lookup_eq_some.mp listed
    refine ⟨claimRow eventId entry, member, same, ?_⟩
    rw [claimRow, statusOfEntry, done]
    rfl

/-- Claims and orders carry the same event IDs. -/
theorem represents_paired (holds : Represents tables ledger) :
    tables.processedEvents.image ProcessedEventRow.eventId =
      tables.orders.image OrderRow.sourceEventId := by
  ext eventId
  have claims : (∃ claim ∈ tables.processedEvents, claim.eventId = eventId) ↔
      ledger eventId ≠ none := by
    rw [← not_iff_not, not_not, ← claim_none_iff holds eventId, claimOf, lookup_eq_none]
    simp
  have orders : (∃ row ∈ tables.orders, row.sourceEventId = eventId) ↔ ledger eventId ≠ none := by
    have none_iff : orderOfEvent tables eventId = none ↔ ledger eventId = none := by
      rw [holds.orders, Option.map_eq_none_iff]
    rw [← not_iff_not, not_not, ← none_iff, orderOfEvent, lookup_eq_none]
    simp
  rw [Finset.mem_image, Finset.mem_image, claims, orders]

/-- As many orders as claimed events: both counts count event IDs. -/
theorem counts_agree (holds : Represents tables ledger) :
    orderCount tables = processedEventCount tables := by
  have paired := represents_paired holds
  have orders := Finset.card_image_of_injOn tables.ordersSourceEventIdKey
  have claims := Finset.card_image_of_injOn tables.processedEventsPkey
  rw [orderCount, processedEventCount, ← orders, ← claims, paired]

end Readers

end OrderMessaging.Processing.OrderLedger
