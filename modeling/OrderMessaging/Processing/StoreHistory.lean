import OrderMessaging.Processing.OrderLedger

/-!
Sequences of store calls on one schema, each call an atomic transaction, with
the replies they got. Every order row can be traced to the `store` call that
wrote it, and an event's status only ever moves forward or disappears.
-/

namespace OrderMessaging.Processing.StoreHistory

open OrderMessaging.PyException OrderMessaging.Relation OrderMessaging.ClaimLedger
open OrderMessaging.Contracts.Models OrderMessaging.Processing.PostgresOrderStore
open OrderMessaging.Processing.OrderLedger

set_option autoImplicit false

inductive Call where
  | initializeStore
  | store (event : OrderCreatedEvent)
  | markCompleted (eventId : Uuid)
  | discard (eventId : Uuid)
  /-- A call whose connection fails before its transaction commits. -/
  | interrupted (fault : Exc)

/-- `none` is what the calls return that return nothing. -/
abbrev Reply := Except Exc (Option EventStoreResult)

def Call.perform : Call → Tables → Reply × Tables
  | initializeStore, tables => (.ok none, PostgresOrderStore.initializeStore (some tables))
  | store event, tables =>
      let (result, reached) := PostgresOrderStore.store event tables
      (result.map some, reached)
  | markCompleted eventId, tables =>
      let (result, reached) := PostgresOrderStore.markCompleted eventId tables
      (result.map fun _ => none, reached)
  | discard eventId, tables =>
      let (result, reached) := PostgresOrderStore.discard eventId tables
      (result.map fun _ => none, reached)
  | interrupted fault, tables => (.error fault, tables)

/-- The tables and every call so far with its reply, the latest call first. -/
structure Session where
  tables : Tables
  history : List (Call × Reply)

def Session.fresh : Session := ⟨PostgresOrderStore.initializeStore none, []⟩

def Session.step (session : Session) (call : Call) : Session :=
  ⟨(call.perform session.tables).2, (call, (call.perform session.tables).1) :: session.history⟩

def run (calls : List Call) : Session := calls.foldl Session.step Session.fresh

def statusOf (tables : Tables) (eventId : Uuid) : Option Status :=
  (claimOf tables eventId).map ProcessedEventRow.status

/-- The row of the last `store` call for the event that reported it new, unless
the event was discarded since. -/
def lastWritten (eventId : Uuid) : List (Call × Reply) → Option OrderRow
  | [] => none
  | (.store event, .ok (some result)) :: earlier =>
      if event.eventId = eventId ∧ result.isNew = true then (orderRow event).toOption
      else lastWritten eventId earlier
  | (.discard discarded, .ok _) :: earlier =>
      if discarded = eventId then none else lastWritten eventId earlier
  | _ :: earlier => lastWritten eventId earlier

inductive StatusMove (call : Call) (eventId : Uuid) : Option Status → Option Status → Prop where
  | same (status : Option Status) : StatusMove call eventId status status
  | claimed (event : OrderCreatedEvent) (stored : call = .store event)
      (own : event.eventId = eventId) : StatusMove call eventId none (some .pending)
  | completed (marked : call = .markCompleted eventId) :
      StatusMove call eventId (some .pending) (some .completed)
  | discarded (dropped : call = .discard eventId) (status : Option Status) :
      StatusMove call eventId status none

/-- What holds of a session and of any call made in it. -/
structure StoreLaws (session : Session) (call : Call) : Prop where
  orderIdsUnique : Set.InjOn OrderRow.orderId session.tables.orders
  sourcesUnique : Set.InjOn OrderRow.sourceEventId session.tables.orders
  raisedUnchanged : ∀ fault, (call.perform session.tables).1 = .error fault →
    (call.perform session.tables).2 = session.tables
  claimedUnchanged : ∀ event claim, call = .store event →
    claimOf session.tables event.eventId = some claim →
    (call.perform session.tables).2 = session.tables
  orderWritten : ∀ eventId, orderOfEvent session.tables eventId = lastWritten eventId session.history
  orderKept : ∀ eventId row, call ≠ .discard eventId → orderOfEvent session.tables eventId = some row →
    orderOfEvent (call.perform session.tables).2 eventId = some row
  othersKept : ∀ eventId, call = .discard eventId ∨ call = .markCompleted eventId →
    (∀ row : OrderRow, row.sourceEventId ≠ eventId →
      (row ∈ (call.perform session.tables).2.orders ↔ row ∈ session.tables.orders)) ∧
    (∀ row : ProcessedEventRow, row.eventId ≠ eventId →
      (row ∈ (call.perform session.tables).2.processedEvents ↔
        row ∈ session.tables.processedEvents))
  statusMoves : ∀ eventId, StatusMove call eventId (statusOf session.tables eventId)
    (statusOf (call.perform session.tables).2 eventId)
  downstreamReported : ∀ event result, call = .store event →
    (call.perform session.tables).1 = .ok (some result) →
    (result.downstreamRequired = false ↔
      statusOf session.tables event.eventId = some .completed)

section Steps

/-- A call as a step of the ledger, with the tables it leaves. -/
inductive LedgerCall (tables : Tables) (ledger : EventLedger) :
    Call → Reply → Tables → EventLedger → Prop where
  | idle (call : Call) (reply : Reply) (noStore : ∀ event, call ≠ .store event)
      (noDiscard : ∀ eventId, call ≠ .discard eventId) :
      LedgerCall tables ledger call reply tables ledger
  | known (event : OrderCreatedEvent) (entry : Entry OrderRow)
      (held : ledger event.eventId = some entry) :
      LedgerCall tables ledger (.store event) (.ok (some ⟨false, !entry.completed⟩)) tables ledger
  | refused (event : OrderCreatedEvent) (fault : Exc) (absent : ledger event.eventId = none) :
      LedgerCall tables ledger (.store event) (.error fault) tables ledger
  | written (event : OrderCreatedEvent) (row : OrderRow) (reached : Tables)
      (fits : orderRow event = .ok row) (absent : ledger event.eventId = none) :
      LedgerCall tables ledger (.store event) (.ok (some ⟨true, true⟩)) reached
        (apply (.claim event.eventId row) ledger)
  | marked (eventId : Uuid) (entry : Entry OrderRow) (reached : Tables)
      (held : ledger eventId = some entry) :
      LedgerCall tables ledger (.markCompleted eventId) (.ok none) reached
        (apply (.complete eventId) ledger)
  | discarded (eventId : Uuid) (reached : Tables) :
      LedgerCall tables ledger (.discard eventId) (.ok none) reached
        (apply (.forget eventId) ledger)

variable {tables : Tables} {ledger : EventLedger}

theorem perform_refines (holds : Represents tables ledger) (call : Call) :
    ∃ reply reached after, call.perform tables = (reply, reached) ∧
      LedgerCall tables ledger call reply reached after ∧ Represents reached after := by
  cases call with
  | initializeStore => exact ⟨_, _, ledger, rfl, .idle _ _ (by simp) (by simp), holds⟩
  | interrupted fault => exact ⟨_, _, ledger, rfl, .idle _ _ (by simp) (by simp), holds⟩
  | store event =>
      obtain ⟨result, reached, after, ran, stepped, represented⟩ := store_refines holds event
      refine ⟨result.map some, reached, after, by rw [Call.perform, ran], ?_, represented⟩
      cases stepped with
      | known entry held => exact .known event entry held
      | written row _ fits absent => exact .written event row _ fits absent
      | refused fault absent reason => exact .refused event fault absent
  | markCompleted eventId =>
      obtain ⟨result, reached, after, ran, stepped, represented⟩ := mark_refines holds eventId
      refine ⟨result.map fun _ => none, reached, after, by rw [Call.perform, ran], ?_, represented⟩
      cases stepped with
      | marked entry _ held => exact .marked eventId entry _ held
      | unknown absent => exact .idle _ _ (by simp) (by simp)
  | discard eventId =>
      obtain ⟨reached, ran, represented⟩ := discard_refines holds eventId
      have performed : (Call.discard eventId).perform tables = (.ok none, reached) := by
        rw [Call.perform, ran]
        rfl
      exact ⟨.ok none, reached, _, performed, .discarded eventId _, represented⟩

theorem ledger_call_other {call : Call} {reply : Reply} {reached : Tables} {after : EventLedger}
    (stepped : LedgerCall tables ledger call reply reached after) {eventId : Uuid}
    (noDiscard : call ≠ .discard eventId) {entry : Entry OrderRow}
    (held : ledger eventId = some entry) :
    ∃ later, after eventId = some later ∧ later.record = entry.record := by
  have kept : Extends ledger after → ∃ later, after eventId = some later ∧
      later.record = entry.record := by
    intro extended
    obtain ⟨later, present, recorded, _⟩ := extended eventId entry held
    exact ⟨later, present, recorded⟩
  cases stepped with
  | idle | known | refused => exact kept (extends_refl _)
  | written event row _ fits absent => exact kept (extends_claim _ _ _)
  | marked other _ _ present => exact kept (extends_complete _ _)
  | discarded other _ =>
      have different : eventId ≠ other := by
        intro same
        apply noDiscard
        rw [same]
      refine ⟨entry, ?_, rfl⟩
      rw [apply_other ledger different, held]

/-- The session's ledger, and where each of its records came from. -/
def Traced (session : Session) (ledger : EventLedger) : Prop :=
  Represents session.tables ledger ∧
    ∀ eventId, (ledger eventId).map Entry.record = lastWritten eventId session.history

theorem traced_step {session : Session} (traced : Traced session ledger) (call : Call) :
    ∃ after, Traced (session.step call) after := by
  obtain ⟨holds, written⟩ := traced
  obtain ⟨reply, reached, after, ran, stepped, represented⟩ := perform_refines holds call
  refine ⟨after, ?_⟩
  unfold Traced Session.step
  rw [ran]
  refine ⟨represented, ?_⟩
  intro eventId
  cases stepped with
  | idle _ _ noStore noDiscard =>
      rw [written eventId]
      cases call with
      | store event => exact absurd rfl (noStore event)
      | discard other => exact absurd rfl (noDiscard other)
      | initializeStore | markCompleted _ | interrupted _ => rw [lastWritten] <;> simp
  | known event entry held => simp [lastWritten, written eventId]
  | refused event fault absent =>
      rw [written eventId, lastWritten] <;> simp
  | written event row _ fits absent =>
      simp only [lastWritten, fits, and_true]
      by_cases same : event.eventId = eventId
      · subst same
        have claimed := apply_claim_absent absent row
        rw [claimed, if_pos rfl]
        rfl
      · have different : eventId ≠ event.eventId := fun equal => same equal.symm
        rw [if_neg same, apply_other ledger different, written eventId]
  | marked other entry _ held =>
      have kept : lastWritten eventId ((Call.markCompleted other, .ok none) :: session.history) =
          lastWritten eventId session.history := by
        rw [lastWritten] <;> simp
      rw [kept, ← written eventId]
      by_cases same : eventId = other
      · subst same
        have completed := apply_complete ledger eventId
        rw [completed, held]
        rfl
      · rw [apply_other ledger same]
  | discarded other _ =>
      simp only [lastWritten]
      by_cases same : other = eventId
      · subst same
        have forgotten := apply_forget ledger other
        rw [if_pos rfl, forgotten]
        rfl
      · have different : eventId ≠ other := fun equal => same equal.symm
        rw [if_neg same, apply_other ledger different, written eventId]

theorem run_traced (calls : List Call) : ∃ ledger, Traced (run calls) ledger := by
  unfold run
  refine List.foldlRecOn (motive := fun session => ∃ ledger, Traced session ledger)
    calls Session.step ?_ ?_
  · exact ⟨fun _ => none, represents_empty, fun eventId => rfl⟩
  · intro session traced call _
    obtain ⟨ledger, holds⟩ := traced
    exact traced_step holds call

end Steps

section Laws

variable {tables : Tables} {ledger : EventLedger}

theorem status_of_represents (holds : Represents tables ledger) (eventId : Uuid) :
    statusOf tables eventId = (ledger eventId).map statusOfEntry := by
  rw [statusOf, holds.claims, Option.map_map]
  rfl

theorem status_completed_iff {entry : Entry OrderRow} :
    some (statusOfEntry entry) = some Status.completed ↔ entry.completed = true := by
  rw [statusOfEntry]
  cases entry.completed <;> simp

variable {call : Call} {reply : Reply} {reached : Tables} {after : EventLedger}

theorem ledger_call_status (stepped : LedgerCall tables ledger call reply reached after)
    (eventId : Uuid) :
    StatusMove call eventId ((ledger eventId).map statusOfEntry)
      ((after eventId).map statusOfEntry) := by
  cases stepped with
  | idle | known | refused => exact .same _
  | written event row _ fits absent =>
      by_cases same : eventId = event.eventId
      · subst same
        have claimed := apply_claim_absent absent row
        rw [claimed, absent]
        exact .claimed event rfl rfl
      · rw [apply_other ledger same]
        exact .same _
  | marked other entry _ held =>
      by_cases same : eventId = other
      · subst same
        have completed := apply_complete ledger eventId
        rw [held, Option.map_some] at completed
        rw [completed, held]
        cases done : entry.completed with
        | true =>
            have unchanged : statusOfEntry entry.finish = statusOfEntry entry := by
              rw [statusOfEntry, statusOfEntry, done, Entry.finish]
            rw [Option.map_some, Option.map_some, unchanged]
            exact .same _
        | false =>
            have pending : statusOfEntry entry = .pending := by
              rw [statusOfEntry, done]
              rfl
            rw [Option.map_some, Option.map_some, pending]
            exact .completed rfl
      · rw [apply_other ledger same]
        exact .same _
  | discarded other _ =>
      by_cases same : eventId = other
      · subst same
        have forgotten := apply_forget ledger eventId
        rw [forgotten]
        exact .discarded rfl _
      · rw [apply_other ledger same]
        exact .same _

theorem rows_kept {before : Tables} (holds : Represents before ledger)
    (represented : Represents reached after) {eventId : Uuid}
    (same : ∀ other, other ≠ eventId → after other = ledger other) :
    (∀ row : OrderRow, row.sourceEventId ≠ eventId → (row ∈ reached.orders ↔ row ∈ before.orders)) ∧
    (∀ row : ProcessedEventRow, row.eventId ≠ eventId →
      (row ∈ reached.processedEvents ↔ row ∈ before.processedEvents)) := by
  constructor
  · intro row other
    have found (state : Tables) :
        row ∈ state.orders ↔ orderOfEvent state row.sourceEventId = some row := by
      rw [orderOfEvent, lookup_eq_some]
      simp
    rw [found, found, holds.orders, represented.orders, same _ other]
  · intro row other
    have found (state : Tables) :
        row ∈ state.processedEvents ↔ claimOf state row.eventId = some row := by
      rw [claimOf, lookup_eq_some]
      simp
    rw [found, found, holds.claims, represented.claims, same _ other]

/-- The store history invariant: it holds after every sequence of calls, of any
call made there. -/
theorem store_history (calls : List Call) (call : Call) : StoreLaws (run calls) call := by
  obtain ⟨ledger, holds, written⟩ := run_traced calls
  obtain ⟨reply, reached, after, ran, stepped, represented⟩ := perform_refines holds call
  constructor
  case orderIdsUnique => exact (run calls).tables.ordersPkey
  case sourcesUnique => exact (run calls).tables.ordersSourceEventIdKey
  case raisedUnchanged =>
    rw [ran]
    intro fault raised
    cases stepped with
    | idle | known | refused => rfl
    | written | marked | discarded => cases raised
  case claimedUnchanged =>
    rw [ran]
    intro event claim stored claimed
    cases stepped with
    | idle | known | refused => rfl
    | marked | discarded => cases stored
    | written _ row _ fits absent =>
        cases stored
        rw [holds.claims, absent] at claimed
        cases claimed
  case orderWritten =>
    intro eventId
    rw [holds.orders, written eventId]
  case orderKept =>
    rw [ran]
    intro eventId row noDiscard present
    rw [holds.orders] at present
    obtain ⟨entry, held, recorded⟩ := Option.map_eq_some_iff.mp present
    obtain ⟨later, kept, same⟩ := ledger_call_other stepped noDiscard held
    rw [represented.orders, kept, Option.map_some, same, recorded]
  case othersKept =>
    rw [ran]
    intro eventId own
    apply rows_kept holds represented
    intro other different
    cases stepped with
    | idle | known | refused => rfl
    | written => rcases own with discard | mark <;> simp_all
    | marked marked _ _ _ =>
        have target : marked = eventId := by rcases own with discard | mark <;> simp_all
        rw [target]
        exact apply_other ledger different
    | discarded dropped _ =>
        have target : dropped = eventId := by rcases own with discard | mark <;> simp_all
        rw [target]
        exact apply_other ledger different
  case statusMoves =>
    rw [ran]
    intro eventId
    rw [status_of_represents holds, status_of_represents represented]
    exact ledger_call_status stepped eventId
  case downstreamReported =>
    rw [ran]
    intro event result stored replied
    rw [status_of_represents holds]
    cases stepped with
    | idle _ _ noStore _ => exact absurd stored (noStore event)
    | marked | discarded => cases stored
    | refused => cases replied
    | known _ entry held =>
        cases stored
        cases replied
        rw [held, Option.map_some, status_completed_iff]
        simp
    | written _ row _ fits absent =>
        cases stored
        cases replied
        rw [absent]
        simp

end Laws

end OrderMessaging.Processing.StoreHistory
