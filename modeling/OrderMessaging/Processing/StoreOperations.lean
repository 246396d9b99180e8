import OrderMessaging.Processing.StoreHistory

/-!
The store calls as operations that consumers make, against a database that also
remembers which events were ever completed. A store call that raises leaves the
database unchanged.
-/

namespace OrderMessaging.Processing.StoreOperations

open OrderMessaging.PyException OrderMessaging.Relation OrderMessaging.ClaimLedger
open OrderMessaging.Contracts.Models OrderMessaging.Processing.PostgresOrderStore
open OrderMessaging.Processing.OrderLedger OrderMessaging.Processing.StoreHistory

set_option autoImplicit false

inductive StoreOp where
  | store (event : OrderCreatedEvent)
  | markCompleted (eventId : Uuid)
  | discard (eventId : Uuid)

abbrev StoreOp.Ret : StoreOp → Type
  | store _ => EventStoreResult
  | markCompleted _ => Unit
  | discard _ => Unit

/-- The tables, and the events whose `mark_completed` has succeeded so far. -/
structure Database where
  tables : Tables
  completions : List Uuid

/-- One transaction; a failure ends it before it commits. -/
def StoreOp.run : (op : StoreOp) → Option Exc → Database → Except Exc op.Ret × Database
  | _, some failure, database => (.error failure, database)
  | store event, none, database =>
      let (result, tables) := PostgresOrderStore.store event database.tables
      (result, { database with tables := tables })
  | markCompleted eventId, none, database =>
      match PostgresOrderStore.markCompleted eventId database.tables with
      | (.ok (), tables) => (.ok (), ⟨tables, eventId :: database.completions⟩)
      | (.error fault, tables) => (.error fault, { database with tables := tables })
  | discard eventId, none, database =>
      let (result, tables) := PostgresOrderStore.discard eventId database.tables
      (result, { database with tables := tables })

/-- A store call as a step of the ledger, with the database it leaves. -/
inductive LedgerOp (database : Database) (ledger : EventLedger) :
    (op : StoreOp) → Except Exc op.Ret → Database → EventLedger → Prop where
  | failed (op : StoreOp) (fault : Exc) : LedgerOp database ledger op (.error fault) database ledger
  | known (event : OrderCreatedEvent) (entry : Entry OrderRow)
      (held : ledger event.eventId = some entry) :
      LedgerOp database ledger (.store event) (.ok ⟨false, !entry.completed⟩) database ledger
  | written (event : OrderCreatedEvent) (row : OrderRow) (reached : Tables)
      (fits : orderRow event = .ok row) (absent : ledger event.eventId = none) :
      LedgerOp database ledger (.store event) (.ok ⟨true, true⟩)
        { database with tables := reached } (apply (.claim event.eventId row) ledger)
  | marked (eventId : Uuid) (entry : Entry OrderRow) (reached : Tables)
      (held : ledger eventId = some entry) :
      LedgerOp database ledger (.markCompleted eventId) (.ok ())
        ⟨reached, eventId :: database.completions⟩ (apply (.complete eventId) ledger)
  | discarded (eventId : Uuid) (reached : Tables) :
      LedgerOp database ledger (.discard eventId) (.ok ())
        { database with tables := reached } (apply (.forget eventId) ledger)

theorem run_refines {database : Database} {ledger : EventLedger}
    (holds : Represents database.tables ledger) (op : StoreOp) (failure : Option Exc) :
    ∃ result reached after, op.run failure database = (result, reached) ∧
      LedgerOp database ledger op result reached after ∧ Represents reached.tables after := by
  cases failure with
  | some fault => exact ⟨_, _, ledger, by rw [StoreOp.run], .failed op fault, holds⟩
  | none =>
      cases op with
      | store event =>
          obtain ⟨result, reached, after, ran, stepped, represented⟩ := store_refines holds event
          refine ⟨result, { database with tables := reached }, after, by rw [StoreOp.run, ran], ?_,
            represented⟩
          cases stepped with
          | known entry held => exact .known event entry held
          | written row _ fits absent => exact .written event row _ fits absent
          | refused fault absent reason => exact .failed _ fault
      | markCompleted eventId =>
          obtain ⟨result, reached, after, ran, stepped, represented⟩ := mark_refines holds eventId
          cases stepped with
          | marked entry _ held =>
              exact ⟨.ok (), ⟨reached, eventId :: database.completions⟩, _,
                by rw [StoreOp.run, ran], .marked eventId entry _ held, represented⟩
          | unknown absent =>
              exact ⟨_, database, ledger, by rw [StoreOp.run, ran], .failed _ _, holds⟩
      | discard eventId =>
          obtain ⟨reached, ran, represented⟩ := discard_refines holds eventId
          exact ⟨.ok (), { database with tables := reached }, _, by rw [StoreOp.run, ran],
            .discarded eventId _, represented⟩

theorem ledger_op_extends {database reached : Database} {ledger after : EventLedger} {op : StoreOp}
    {result : Except Exc op.Ret} (stepped : LedgerOp database ledger op result reached after)
    (kept : ∀ eventId, op ≠ .discard eventId) : Extends ledger after := by
  cases stepped with
  | failed | known => exact extends_refl _
  | written event row _ fits absent => exact extends_claim _ _ _
  | marked eventId entry _ held => exact extends_complete _ _
  | discarded eventId _ => exact absurd rfl (kept eventId)

section Completion

/-- The `processed_events` row of the event is 'completed'. -/
def Completed (tables : Tables) (eventId : Uuid) : Prop :=
  statusOf tables eventId = some .completed

theorem completed_iff {tables : Tables} {ledger : EventLedger} (holds : Represents tables ledger)
    (eventId : Uuid) :
    Completed tables eventId ↔ ∃ entry, ledger eventId = some entry ∧ entry.completed = true := by
  unfold Completed
  rw [status_of_represents holds]
  cases ledger eventId with
  | none => simp
  | some entry =>
      rw [Option.map_some, status_completed_iff]
      simp

theorem completed_extends {before after : Tables} {ledger later : EventLedger}
    (holds : Represents before ledger) (represented : Represents after later)
    (extended : Extends ledger later) {eventId : Uuid} (completed : Completed before eventId) :
    Completed after eventId := by
  obtain ⟨entry, held, done⟩ := (completed_iff holds eventId).mp completed
  obtain ⟨kept, present, _, stays⟩ := extended eventId entry held
  exact (completed_iff represented eventId).mpr ⟨kept, present, stays done⟩

variable {database reached : Database} {ledger after : EventLedger}

/-- A store call that asks for no downstream work has found the event completed. -/
theorem stored_completed {event : OrderCreatedEvent} {stored : EventStoreResult}
    (stepped : LedgerOp database ledger (.store event) (.ok stored) reached after)
    (represented : Represents reached.tables after)
    (finished : stored.downstreamRequired = false) : Completed reached.tables event.eventId := by
  cases stepped with
  | known _ entry held =>
      have done : entry.completed = true := by simpa using finished
      exact (completed_iff represented event.eventId).mpr ⟨entry, held, done⟩
  | written _ row _ fits absent => cases finished

theorem marked_completed {eventId : Uuid}
    (stepped : LedgerOp database ledger (.markCompleted eventId) (.ok ()) reached after)
    (represented : Represents reached.tables after) : Completed reached.tables eventId := by
  cases stepped with
  | marked _ entry _ held =>
      have completed := apply_complete ledger eventId
      rw [held, Option.map_some] at completed
      exact (completed_iff represented eventId).mpr ⟨entry.finish, completed, rfl⟩

theorem discarded_absent {eventId : Uuid}
    (stepped : LedgerOp database ledger (.discard eventId) (.ok ()) reached after) :
    after eventId = none := by
  cases stepped with
  | discarded _ _ =>
      exact apply_forget ledger eventId

/-- Only a discard of the event takes a completed entry away. -/
theorem ledger_op_keeps {op : StoreOp} {result : Except Exc op.Ret}
    (stepped : LedgerOp database ledger op result reached after) {eventId : Uuid}
    {entry : Entry OrderRow} (held : ledger eventId = some entry)
    (completed : entry.completed = true) (kept : op ≠ .discard eventId) :
    after eventId = some entry := by
  cases stepped with
  | failed | known => exact held
  | written event row _ fits absent =>
      by_cases same : eventId = event.eventId
      · rw [same, absent] at held
        cases held
      · rw [apply_other ledger same, held]
  | marked other before _ present =>
      by_cases same : eventId = other
      · subst same
        have finished := apply_complete ledger eventId
        rw [held, Option.map_some] at finished
        rw [finished, Entry.finish, ← completed]
      · rw [apply_other ledger same, held]
  | discarded other _ =>
      have different : eventId ≠ other := by
        intro same
        exact kept (congrArg StoreOp.discard same.symm)
      rw [apply_other ledger different, held]

theorem run_keeps (holds : Represents database.tables ledger) (op : StoreOp) (failure : Option Exc)
    {eventId : Uuid} (completed : Completed database.tables eventId)
    (kept : failure = none → op ≠ .discard eventId) :
    Completed (op.run failure database).2.tables eventId ∧
      orderOfEvent (op.run failure database).2.tables eventId = orderOfEvent database.tables eventId := by
  cases failure with
  | some fault => exact ⟨completed, rfl⟩
  | none =>
      obtain ⟨entry, held, done⟩ := (completed_iff holds eventId).mp completed
      obtain ⟨result, reached, after, ran, stepped, represented⟩ := run_refines holds op none
      have still := ledger_op_keeps stepped held done (kept rfl)
      rw [ran]
      refine ⟨(completed_iff represented eventId).mpr ⟨entry, still, done⟩, ?_⟩
      rw [represented.orders, holds.orders, still, held]

/-- Only a successful `mark_completed` completes. -/
theorem run_marked (holds : Represents database.tables ledger) (op : StoreOp)
    (failure : Option Exc)
    (marked : ∀ eventId, Completed database.tables eventId → eventId ∈ database.completions) :
    ∀ eventId, Completed (op.run failure database).2.tables eventId →
      eventId ∈ (op.run failure database).2.completions := by
  obtain ⟨result, reached, after, ran, stepped, represented⟩ := run_refines holds op failure
  intro eventId completed
  rw [ran] at completed ⊢
  obtain ⟨entry, held, done⟩ := (completed_iff represented eventId).mp completed
  have before : ledger eventId = some entry → eventId ∈ database.completions := by
    intro present
    exact marked eventId ((completed_iff holds eventId).mpr ⟨entry, present, done⟩)
  cases stepped with
  | failed | known => exact before held
  | written event row _ fits absent =>
      by_cases same : eventId = event.eventId
      · subst same
        rw [apply_claim_absent absent row] at held
        cases held
        cases done
      · rw [apply_other ledger same] at held
        exact before held
  | marked other _ _ present =>
      by_cases same : eventId = other
      · rw [same]
        exact List.mem_cons_self
      · rw [apply_other ledger same] at held
        exact List.mem_cons_of_mem other (before held)
  | discarded other _ =>
      by_cases same : eventId = other
      · subst same
        rw [apply_forget] at held
        cases held
      · rw [apply_other ledger same] at held
        exact before held

theorem run_completions (holds : Represents database.tables ledger) (op : StoreOp)
    (failure : Option Exc) {eventId : Uuid}
    (member : eventId ∈ (op.run failure database).2.completions) :
    eventId ∈ database.completions ∨ Completed (op.run failure database).2.tables eventId := by
  obtain ⟨result, reached, after, ran, stepped, represented⟩ := run_refines holds op failure
  rw [ran] at member ⊢
  cases stepped with
  | failed | known | written _ _ _ _ _ | discarded _ _ => exact .inl member
  | marked other entry _ held =>
      rcases List.mem_cons.mp member with same | before
      · rw [same]
        exact .inr (marked_completed (.marked other entry _ held) represented)
      · exact .inl before

/-- A completed event has exactly one order. -/
theorem completed_order {tables : Tables} (holds : Represents tables ledger) {eventId : Uuid}
    (completed : Completed tables eventId) :
    ∃! row, row ∈ tables.orders ∧ row.sourceEventId = eventId := by
  obtain ⟨entry, held, _⟩ := (completed_iff holds eventId).mp completed
  have listed := holds.orders eventId
  rw [held, Option.map_some] at listed
  have present := lookup_eq_some.mp listed
  refine ⟨entry.record, present, ?_⟩
  intro other member
  exact tables.ordersSourceEventIdKey member.1 present.1 (member.2.trans present.2.symm)

/-- A first store and its completion succeed. -/
theorem fresh_store_completes {event : OrderCreatedEvent} {row : OrderRow}
    (fits : orderRow event = .ok row) :
    ∃ stored marked, StoreOp.run (.store event) none ⟨emptyTables, []⟩ =
        (.ok ⟨true, true⟩, stored) ∧
      StoreOp.run (.markCompleted event.eventId) none stored = (.ok (), marked) := by
  obtain ⟨tables, ran, represented, _⟩ := first_store fits
  have stored : StoreOp.run (.store event) none ⟨emptyTables, []⟩ =
      (.ok ⟨true, true⟩, ⟨tables, []⟩) := by
    simp only [StoreOp.run, ran]
  have claimed : apply (.claim event.eventId row) (fun _ => none) event.eventId =
      some ⟨row, false⟩ := apply_claim_absent rfl row
  obtain ⟨reached, marks, _⟩ := mark_completes represented claimed
  exact ⟨_, ⟨reached, [event.eventId]⟩, stored, by simp only [StoreOp.run, marks]⟩

end Completion

section Sources

variable {source : OrderCreatedEvent → Prop} {database reached : Database}
variable {ledger after : EventLedger}

/-- Every entry of the ledger is the order of one of these events. -/
def HoldsOnly (source : OrderCreatedEvent → Prop) (ledger : EventLedger) : Prop :=
  ∀ eventId entry, ledger eventId = some entry → ∃ event,
    source event ∧ event.eventId = eventId ∧ orderRow event = .ok entry.record

theorem ledger_op_holds_only {op : StoreOp} {result : Except Exc op.Ret}
    (stepped : LedgerOp database ledger op result reached after)
    (stores : ∀ event, op = .store event → source event) (only : HoldsOnly source ledger) :
    HoldsOnly source after := by
  intro eventId entry held
  cases stepped with
  | failed | known => exact only eventId entry held
  | written event row _ fits absent =>
      by_cases same : eventId = event.eventId
      · subst same
        rw [apply_claim_absent absent row] at held
        cases held
        exact ⟨event, stores event rfl, rfl, fits⟩
      · rw [apply_other ledger same] at held
        exact only eventId entry held
  | marked other before _ present =>
      by_cases same : eventId = other
      · subst same
        rw [apply_complete, present, Option.map_some] at held
        cases held
        exact only eventId before present
      · rw [apply_other ledger same] at held
        exact only eventId entry held
  | discarded other _ =>
      by_cases same : eventId = other
      · subst same
        rw [apply_forget] at held
        cases held
      · rw [apply_other ledger same] at held
        exact only eventId entry held

theorem holds_only_iff {tables : Tables} (holds : Represents tables ledger) :
    HoldsOnly source ledger ↔
      ∀ row ∈ tables.orders, ∃ event, source event ∧ orderRow event = .ok row := by
  constructor
  · intro only row member
    have listed := holds.orders row.sourceEventId
    have found : orderOfEvent tables row.sourceEventId = some row :=
      lookup_eq_some.mpr ⟨member, rfl⟩
    rw [found] at listed
    obtain ⟨entry, held, same⟩ := Option.map_eq_some_iff.mp listed.symm
    obtain ⟨event, sourced, _, fits⟩ := only _ entry held
    rw [same] at fits
    exact ⟨event, sourced, fits⟩
  · intro orders eventId entry held
    have listed := holds.orders eventId
    rw [held] at listed
    obtain ⟨member, own⟩ := lookup_eq_some.mp listed
    obtain ⟨event, sourced, fits⟩ := orders _ member
    exact ⟨event, sourced, (order_row_source fits).symm.trans own, fits⟩

theorem holds_only_claims {tables : Tables} (holds : Represents tables ledger)
    (only : HoldsOnly source ledger) :
    ∀ claim ∈ tables.processedEvents, ∃ event, source event ∧ event.eventId = claim.eventId := by
  intro claim member
  have listed := holds.claims claim.eventId
  have found : claimOf tables claim.eventId = some claim := lookup_eq_some.mpr ⟨member, rfl⟩
  rw [found] at listed
  obtain ⟨entry, held, _⟩ := Option.map_eq_some_iff.mp listed.symm
  obtain ⟨event, sourced, named, _⟩ := only _ entry held
  exact ⟨event, sourced, named⟩

end Sources

end OrderMessaging.Processing.StoreOperations
