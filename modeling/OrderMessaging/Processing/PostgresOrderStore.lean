import Mathlib.Data.Finset.Card
import Mathlib.Data.Rat.Floor
import OrderMessaging.Library.Relation
import OrderMessaging.Contracts.Models

/-!
The two tables of one order-store schema and the transactions over them. The
column types and constraints are part of the rows and of the tables, so a state
that PostgreSQL would refuse cannot be built. The three timestamp columns have
no reader here and are left out.
-/

namespace OrderMessaging.Processing.PostgresOrderStore

open OrderMessaging.PyText OrderMessaging.PyException OrderMessaging.PyValue
open OrderMessaging.Relation OrderMessaging.Contracts.Models

set_option autoImplicit false

/-- `NUMERIC(18, 2)` under `CHECK (amount > 0)`: hundredths, or the NaN that
PostgreSQL keeps in a numeric column and orders above every number. -/
inductive Numeric where
  | hundredths (value : Nat) (positive : 0 < value) (bounded : value < 10 ^ 18)
  | nan
  deriving DecidableEq

structure OrderRow where
  orderId : Str
  customerId : Str
  amount : Numeric
  currency : Str
  sourceEventId : Uuid
  correlationId : Str
  deriving DecidableEq

inductive Status where
  | pending
  | completed
  deriving DecidableEq

structure ProcessedEventRow where
  eventId : Uuid
  eventType : Str
  status : Status
  deriving DecidableEq

@[ext]
structure Tables where
  orders : Finset OrderRow
  processedEvents : Finset ProcessedEventRow
  ordersPkey : Set.InjOn OrderRow.orderId orders
  ordersSourceEventIdKey : Set.InjOn OrderRow.sourceEventId orders
  processedEventsPkey : Set.InjOn ProcessedEventRow.eventId processedEvents
  deriving DecidableEq

structure StoredOrder where
  orderId : Str
  customerId : Str
  amount : PyFloat
  currency : Str
  sourceEventId : Uuid
  correlationId : Str
  deriving DecidableEq

structure EventStoreResult where
  isNew : Bool
  downstreamRequired : Bool
  deriving DecidableEq

abbrev Sql (Value : Type) := Statement Exc Tables Value

def databaseError : ExcClass := baseException.subclass "Error"
def dataError : ExcClass := databaseError.subclass "DataError"
def numericValueOutOfRange : ExcClass := dataError.subclass "NumericValueOutOfRange"
def integrityError : ExcClass := databaseError.subclass "IntegrityError"
def uniqueViolation : ExcClass := integrityError.subclass "UniqueViolation"
def checkViolation : ExcClass := integrityError.subclass "CheckViolation"

def orderTaken : Exc :=
  ⟨uniqueViolation, "duplicate key value violates unique constraint \"orders_pkey\""⟩

def sourceTaken : Exc :=
  ⟨uniqueViolation,
    "duplicate key value violates unique constraint \"orders_source_event_id_key\""⟩

section Columns

/-- `TEXT` holds every text but one with U+0000. -/
def textColumn (text : Str) : Except Exc Str :=
  if 0 ∈ text then .error ⟨dataError, "PostgreSQL text fields cannot contain NUL (0x00) bytes"⟩
  else .ok text

/-- Rounds half away from zero to the scale of the column. -/
def roundToHundredths (value : ℚ) : Int :=
  if value < 0 then -⌊-value * 100 + 1 / 2⌋ else ⌊value * 100 + 1 / 2⌋

/-- `Decimal(str(amount))` stored in the amount column. -/
def amountColumn : PyFloat → Except Exc Numeric
  | .finite value =>
      let rounded := roundToHundredths value
      if 10 ^ 18 ≤ rounded.natAbs then .error ⟨numericValueOutOfRange, "numeric field overflow"⟩
      else if valid : 0 < rounded.toNat ∧ rounded.toNat < 10 ^ 18 then
        .ok (.hundredths rounded.toNat valid.1 valid.2)
      else .error ⟨checkViolation, "new row violates check constraint \"orders_amount_check\""⟩
  | .inf _ => .error ⟨numericValueOutOfRange, "numeric field overflow"⟩
  | .nan => .ok .nan

def Numeric.toFloat : Numeric → PyFloat
  | hundredths value _ _ => .finite (value / 100)
  | nan => .nan

/-- The row that `store` inserts for an event, when every column accepts it. -/
def orderRow (event : OrderCreatedEvent) : Except Exc OrderRow := do
  let orderId ← textColumn event.data.orderId.text
  let customerId ← textColumn event.data.customerId.text
  let amount ← amountColumn event.data.amount.value
  let correlationId ← textColumn event.correlationId.text
  .ok ⟨orderId, customerId, amount, event.data.currency.text, event.eventId, correlationId⟩

end Columns

section Statements

def claimOf (tables : Tables) (eventId : Uuid) : Option ProcessedEventRow :=
  lookup ProcessedEventRow.eventId tables.processedEvents tables.processedEventsPkey eventId

def orderOfEvent (tables : Tables) (eventId : Uuid) : Option OrderRow :=
  lookup OrderRow.sourceEventId tables.orders tables.ordersSourceEventIdKey eventId

def insertClaimRow (tables : Tables) (row : ProcessedEventRow)
    (fresh : ∀ other ∈ tables.processedEvents, other.eventId ≠ row.eventId) : Tables :=
  { tables with
    processedEvents := insert row tables.processedEvents
    processedEventsPkey := inj_on_insert tables.processedEventsPkey fresh }

/-- `INSERT INTO processed_events … ON CONFLICT (event_id) DO NOTHING RETURNING event_id`. -/
def insertClaim (eventId : Uuid) (eventType : Str) : Sql (Option Uuid) := fun tables =>
  if fresh : ∀ other ∈ tables.processedEvents, other.eventId ≠ eventId then
    (.ok (some eventId), insertClaimRow tables ⟨eventId, eventType, .pending⟩ fresh)
  else (.ok none, tables)

/-- `SELECT status FROM processed_events WHERE event_id = … FOR UPDATE`. -/
def selectStatus (eventId : Uuid) : Sql (Option Status) :=
  Statement.query fun tables => (claimOf tables eventId).map ProcessedEventRow.status

def insertOrderRow (tables : Tables) (row : OrderRow)
    (freshOrder : ∀ other ∈ tables.orders, other.orderId ≠ row.orderId)
    (freshSource : ∀ other ∈ tables.orders, other.sourceEventId ≠ row.sourceEventId) : Tables :=
  { tables with
    orders := insert row tables.orders
    ordersPkey := inj_on_insert tables.ordersPkey freshOrder
    ordersSourceEventIdKey := inj_on_insert tables.ordersSourceEventIdKey freshSource }

/-- `INSERT INTO orders …`. -/
def insertOrder (event : OrderCreatedEvent) : Sql Unit := fun tables =>
  match orderRow event with
  | .error refused => (.error refused, tables)
  | .ok row =>
      if freshOrder : ∀ other ∈ tables.orders, other.orderId ≠ row.orderId then
        if freshSource : ∀ other ∈ tables.orders, other.sourceEventId ≠ row.sourceEventId then
          (.ok (), insertOrderRow tables row freshOrder freshSource)
        else (.error sourceTaken, tables)
      else (.error orderTaken, tables)

def complete (eventId : Uuid) (row : ProcessedEventRow) : ProcessedEventRow :=
  if row.eventId = eventId then { row with status := .completed } else row

theorem complete_event_id (eventId : Uuid) (row : ProcessedEventRow) :
    (complete eventId row).eventId = row.eventId := by
  rw [complete]
  split <;> rfl

def completeClaim (tables : Tables) (eventId : Uuid) : Tables :=
  { tables with
    processedEvents := tables.processedEvents.image (complete eventId)
    processedEventsPkey :=
      inj_on_image _ (complete_event_id eventId) tables.processedEventsPkey }

/-- `UPDATE processed_events SET status = 'completed' …`, with its row count. -/
def updateCompleted (eventId : Uuid) : Sql Nat := fun tables =>
  (.ok (tables.processedEvents.filter fun row => row.eventId = eventId).card,
    completeClaim tables eventId)

def dropOrders (tables : Tables) (eventId : Uuid) : Tables :=
  { tables with
    orders := tables.orders.filter fun row => row.sourceEventId ≠ eventId
    ordersPkey := inj_on_filter _ tables.ordersPkey
    ordersSourceEventIdKey := inj_on_filter _ tables.ordersSourceEventIdKey }

def dropClaims (tables : Tables) (eventId : Uuid) : Tables :=
  { tables with
    processedEvents := tables.processedEvents.filter fun row => row.eventId ≠ eventId
    processedEventsPkey := inj_on_filter _ tables.processedEventsPkey }

/-- `DELETE FROM orders WHERE source_event_id = …`. -/
def deleteOrders (eventId : Uuid) : Sql Unit := fun tables => (.ok (), dropOrders tables eventId)

/-- `DELETE FROM processed_events WHERE event_id = …`. -/
def deleteClaims (eventId : Uuid) : Sql Unit := fun tables => (.ok (), dropClaims tables eventId)

end Statements

section Operations

def emptyTables : Tables := ⟨∅, ∅, by simp, by simp, by simp⟩

/-- `CREATE … IF NOT EXISTS`: existing tables stay as they are. -/
def initializeStore (existing : Option Tables) : Tables := existing.getD emptyTables

def claimDisappeared (eventId : Uuid) : Exc :=
  ⟨runtimeError, "Event claim disappeared for " ++ eventId.str ++ "."⟩

def storeStatements (event : OrderCreatedEvent) : Sql EventStoreResult := do
  let claimed ← insertClaim event.eventId event.eventType
  match claimed with
  | none =>
      match ← selectStatus event.eventId with
      | none => Statement.raise (claimDisappeared event.eventId)
      | some status => pure ⟨false, decide (status ≠ .completed)⟩
  | some _ =>
      insertOrder event
      pure ⟨true, true⟩

def store (event : OrderCreatedEvent) : Tables → Except Exc EventStoreResult × Tables :=
  transaction (storeStatements event)

def cannotComplete (eventId : Uuid) : Exc :=
  ⟨runtimeError, "Cannot complete unknown event " ++ eventId.str ++ "."⟩

def markCompletedStatements (eventId : Uuid) : Sql Unit := do
  let rowcount ← updateCompleted eventId
  if rowcount ≠ 1 then Statement.raise (cannotComplete eventId) else pure ()

def markCompleted (eventId : Uuid) : Tables → Except Exc Unit × Tables :=
  transaction (markCompletedStatements eventId)

def discardStatements (eventId : Uuid) : Sql Unit := do
  deleteOrders eventId
  deleteClaims eventId

def discard (eventId : Uuid) : Tables → Except Exc Unit × Tables :=
  transaction (discardStatements eventId)

def toStoredOrder (row : OrderRow) : StoredOrder :=
  ⟨row.orderId, row.customerId, row.amount.toFloat, row.currency, row.sourceEventId,
    row.correlationId⟩

def fetchOrder (tables : Tables) (orderId : Str) : Option StoredOrder :=
  (lookup OrderRow.orderId tables.orders tables.ordersPkey orderId).map toStoredOrder

def hasProcessed (tables : Tables) (eventId : Uuid) : Bool :=
  decide (∃ row ∈ tables.processedEvents, row.eventId = eventId ∧ row.status = .completed)

def orderCount (tables : Tables) : Nat := tables.orders.card

def processedEventCount (tables : Tables) : Nat := tables.processedEvents.card

end Operations

section Outcomes

/-- Why an order row is refused. -/
inductive Refusal (event : OrderCreatedEvent) (before : Tables) : Exc → Prop where
  | column (fault : Exc) (unfit : orderRow event = .error fault) : Refusal event before fault
  | order (row other : OrderRow) (fits : orderRow event = .ok row)
      (member : other ∈ before.orders) (taken : other.orderId = row.orderId) :
      Refusal event before orderTaken
  | source (row other : OrderRow) (fits : orderRow event = .ok row)
      (member : other ∈ before.orders) (taken : other.sourceEventId = row.sourceEventId) :
      Refusal event before sourceTaken

/-- Everything one `store` call can do. -/
inductive StoreOutcome (event : OrderCreatedEvent) (before : Tables) :
    Except Exc EventStoreResult → Tables → Prop where
  | known (claim : ProcessedEventRow) (held : claimOf before event.eventId = some claim) :
      StoreOutcome event before (.ok ⟨false, decide (claim.status ≠ .completed)⟩) before
  | written (row : OrderRow) (fits : orderRow event = .ok row)
      (fresh : ∀ other ∈ before.processedEvents, other.eventId ≠ event.eventId)
      (freshOrder : ∀ other ∈ before.orders, other.orderId ≠ row.orderId)
      (freshSource : ∀ other ∈ before.orders, other.sourceEventId ≠ row.sourceEventId) :
      StoreOutcome event before (.ok ⟨true, true⟩)
        (insertOrderRow (insertClaimRow before ⟨event.eventId, event.eventType, .pending⟩ fresh)
          row freshOrder freshSource)
  | refused (fault : Exc)
      (fresh : ∀ other ∈ before.processedEvents, other.eventId ≠ event.eventId)
      (reason : Refusal event before fault) : StoreOutcome event before (.error fault) before

/-- Everything the order insert can do. -/
inductive InsertOutcome (event : OrderCreatedEvent) (before : Tables) :
    Except Exc Unit → Tables → Prop where
  | inserted (row : OrderRow) (fits : orderRow event = .ok row)
      (freshOrder : ∀ other ∈ before.orders, other.orderId ≠ row.orderId)
      (freshSource : ∀ other ∈ before.orders, other.sourceEventId ≠ row.sourceEventId) :
      InsertOutcome event before (.ok ()) (insertOrderRow before row freshOrder freshSource)
  | refused (fault : Exc) (reason : Refusal event before fault) :
      InsertOutcome event before (.error fault) before

theorem insert_outcome (event : OrderCreatedEvent) (before : Tables) :
    InsertOutcome event before (insertOrder event before).1 (insertOrder event before).2 := by
  unfold insertOrder
  cases fits : orderRow event with
  | error fault => exact .refused fault (.column fault fits)
  | ok row =>
      by_cases freshOrder : ∀ other ∈ before.orders, other.orderId ≠ row.orderId
      · by_cases freshSource : ∀ other ∈ before.orders, other.sourceEventId ≠ row.sourceEventId
        · simp only [dif_pos freshOrder, dif_pos freshSource]
          exact .inserted row fits freshOrder freshSource
        · simp only [dif_pos freshOrder, dif_neg freshSource]
          simp only [not_forall, not_not] at freshSource
          obtain ⟨other, member, taken⟩ := freshSource
          exact .refused _ (.source row other fits member taken)
      · simp only [dif_neg freshOrder]
        simp only [not_forall, not_not] at freshOrder
        obtain ⟨other, member, taken⟩ := freshOrder
        exact .refused _ (.order row other fits member taken)

theorem store_outcome (event : OrderCreatedEvent) (before : Tables) :
    StoreOutcome event before (store event before).1 (store event before).2 := by
  unfold store transaction storeStatements
  rw [Statement.bind_apply]
  by_cases fresh : ∀ other ∈ before.processedEvents, other.eventId ≠ event.eventId
  · simp only [insertClaim, dif_pos fresh, Statement.bind_apply, Statement.pure_apply]
    have inserted := insert_outcome event
      (insertClaimRow before ⟨event.eventId, event.eventType, .pending⟩ fresh)
    revert inserted
    generalize insertOrder event _ = reply
    rcases reply with ⟨result, reached⟩
    intro inserted
    cases inserted with
    | inserted row fits freshOrder freshSource =>
        exact .written row fits fresh freshOrder freshSource
    | refused fault reason =>
        apply StoreOutcome.refused fault fresh
        cases reason with
        | column _ unfit => exact .column fault unfit
        | order row other fits member taken => exact .order row other fits member taken
        | source row other fits member taken => exact .source row other fits member taken
  · simp only [insertClaim, dif_neg fresh, Statement.bind_apply, selectStatus, Statement.query]
    cases held : claimOf before event.eventId with
    | none => exact absurd (lookup_eq_none.mp held) fresh
    | some claim => exact .known claim held

/-- Everything one `mark_completed` call can do. -/
inductive MarkOutcome (eventId : Uuid) (before : Tables) : Except Exc Unit → Tables → Prop where
  | marked (claim : ProcessedEventRow) (held : claimOf before eventId = some claim) :
      MarkOutcome eventId before (.ok ()) (completeClaim before eventId)
  | unknown (absent : claimOf before eventId = none) :
      MarkOutcome eventId before (.error (cannotComplete eventId)) before

theorem mark_outcome (eventId : Uuid) (before : Tables) :
    MarkOutcome eventId before (markCompleted eventId before).1
      (markCompleted eventId before).2 := by
  unfold markCompleted transaction markCompletedStatements
  rw [Statement.bind_apply]
  simp only [updateCompleted]
  cases held : claimOf before eventId with
  | none =>
      have missing := lookup_eq_none.mp held
      have zero : (before.processedEvents.filter fun row => row.eventId = eventId).card = 0 := by
        rw [Finset.card_eq_zero, Finset.filter_eq_empty_iff]
        exact fun row member => missing row member
      rw [zero]
      exact .unknown held
  | some claim =>
      have present := lookup_eq_some.mp held
      have one : (before.processedEvents.filter fun row => row.eventId = eventId).card = 1 := by
        rw [Finset.card_eq_one]
        refine ⟨claim, ?_⟩
        ext row
        rw [Finset.mem_filter, Finset.mem_singleton]
        constructor
        · intro found
          exact before.processedEventsPkey found.1 present.1 (found.2.trans present.2.symm)
        · intro same
          rw [same]
          exact present
      rw [one]
      exact .marked claim held

theorem discard_apply (eventId : Uuid) (before : Tables) :
    discard eventId before = (.ok (), dropClaims (dropOrders before eventId) eventId) := rfl

end Outcomes

section Lookups

theorem claim_event_id {tables : Tables} {eventId : Uuid} {claim : ProcessedEventRow}
    (held : claimOf tables eventId = some claim) : claim.eventId = eventId :=
  (lookup_eq_some.mp held).2

theorem order_row_iff {event : OrderCreatedEvent} {row : OrderRow} :
    orderRow event = .ok row ↔
      textColumn event.data.orderId.text = .ok row.orderId ∧
      textColumn event.data.customerId.text = .ok row.customerId ∧
      amountColumn event.data.amount.value = .ok row.amount ∧
      textColumn event.correlationId.text = .ok row.correlationId ∧
      row.currency = event.data.currency.text ∧ row.sourceEventId = event.eventId := by
  simp only [orderRow, bind_ok_iff, Except.ok.injEq]
  constructor
  · intro built
    obtain ⟨orderId, order, customerId, customer, amount, column, correlationId, correlation, same⟩ :=
      built
    subst same
    exact ⟨order, customer, column, correlation, rfl, rfl⟩
  · intro fields
    obtain ⟨order, customer, column, correlation, currency, source⟩ := fields
    refine ⟨_, order, _, customer, _, column, _, correlation, ?_⟩
    rw [← currency, ← source]

theorem order_row_source {event : OrderCreatedEvent} {row : OrderRow}
    (fits : orderRow event = .ok row) : row.sourceEventId = event.eventId :=
  (order_row_iff.mp fits).2.2.2.2.2

theorem text_column_iff {text stored : Str} :
    textColumn text = .ok stored ↔ 0 ∉ text ∧ stored = text := by
  unfold textColumn
  by_cases nul : 0 ∈ text
  · simp [nul]
  · simp [nul, eq_comm]

variable (tables : Tables) (wanted : Uuid)

theorem claim_of_insert_claim_row (row : ProcessedEventRow)
    (fresh : ∀ other ∈ tables.processedEvents, other.eventId ≠ row.eventId) :
    claimOf (insertClaimRow tables row fresh) wanted =
      if wanted = row.eventId then some row else claimOf tables wanted :=
  lookup_insert _ _ wanted

theorem order_of_insert_order_row (row : OrderRow)
    (freshOrder : ∀ other ∈ tables.orders, other.orderId ≠ row.orderId)
    (freshSource : ∀ other ∈ tables.orders, other.sourceEventId ≠ row.sourceEventId) :
    orderOfEvent (insertOrderRow tables row freshOrder freshSource) wanted =
      if wanted = row.sourceEventId then some row else orderOfEvent tables wanted :=
  lookup_insert _ _ wanted

theorem claim_of_complete_claim (eventId : Uuid) :
    claimOf (completeClaim tables eventId) wanted =
      (claimOf tables wanted).map (complete eventId) :=
  lookup_image (complete_event_id eventId) _ _ wanted

theorem order_of_drop_orders (eventId : Uuid) :
    orderOfEvent (dropOrders tables eventId) wanted =
      if wanted = eventId then none else orderOfEvent tables wanted :=
  lookup_filter_ne _ _ wanted

theorem claim_of_drop_claims (eventId : Uuid) :
    claimOf (dropClaims tables eventId) wanted =
      if wanted = eventId then none else claimOf tables wanted :=
  lookup_filter_ne _ _ wanted

end Lookups

end OrderMessaging.Processing.PostgresOrderStore
