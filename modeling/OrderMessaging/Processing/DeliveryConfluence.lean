import OrderMessaging.Processing.DecodeAgreement
import OrderMessaging.Processing.DeliveryOutcome
import OrderMessaging.Processing.StoreFidelity

/-!
Sequences of deliveries over a fixed set of events, by consumers without a
dead-letter publisher: any order, any repetition, any failure, any crash. The
final tables depend on the events alone, and without failures every event is
notified once.
-/

namespace OrderMessaging.Processing.DeliveryConfluence

open OrderMessaging.PyText OrderMessaging.PyException OrderMessaging.PyValue
open OrderMessaging.Program OrderMessaging.Relation OrderMessaging.ClaimLedger
open OrderMessaging.Contracts.Models OrderMessaging.Contracts.Reference
open OrderMessaging.Processing.PostgresOrderStore OrderMessaging.Processing.DecodeAgreement
open OrderMessaging.Processing.OrderLedger OrderMessaging.Processing.StoreOperations
open OrderMessaging.Processing.KafkaCollaborators OrderMessaging.Processing.KafkaDelivery
open OrderMessaging.Processing.DeliveryOutcome

set_option autoImplicit false

/-- The events of a run: each fits its columns, and no two share an identity. -/
structure Storable (events : List OrderCreatedEvent) : Prop where
  fits : ∀ event ∈ events, ∃ row, orderRow event = .ok row
  eventIds : ∀ left ∈ events, ∀ right ∈ events, left.eventId = right.eventId → left = right
  orderIds : ∀ left ∈ events, ∀ right ∈ events,
    left.data.orderId.text = right.data.orderId.text → left = right

/-- One delivery by one consumer; a crash stops it before the call of that number. -/
structure Delivery where
  consumer : KafkaOrderConsumer
  timeoutSeconds : ℚ
  polls : Nat
  env : Nat → (op : Op) → op.Choice
  crash : Option Nat

section Runs

variable (runtime : Runtime) (events : List OrderCreatedEvent)

def Delivery.execution (delivery : Delivery) (world : World) :
    Execution Exc Op World ProcessedKafkaRecord :=
  execute exec delivery.env 0
    (processOne runtime delivery.consumer delivery.timeoutSeconds delivery.polls) world

def deliver (world : World) (delivery : Delivery) : World :=
  match delivery.crash with
  | none => (delivery.execution runtime world).final
  | some call => ((delivery.execution runtime world).worlds[call]?).getD
      (delivery.execution runtime world).final

def deliverAll (deliveries : List Delivery) (world : World) : World :=
  deliveries.foldl (deliver runtime) world

/-- A polled message is a broker error or a record of one of the events. -/
def RecordOf (message : Message) : Prop :=
  message.error.isSome ∨
    ∃ payload, ∃ event ∈ events, decodeValue runtime message.value = .ok (payload, event)

def Polled : (op : Op) → op.Choice → Prop
  | .poll, .ok (some message) => RecordOf runtime events message
  | _, _ => True

structure DeliversEvents (delivery : Delivery) : Prop where
  noDeadLetters : delivery.consumer.deadLetterTopic = none
  polled : ∀ index op, Polled runtime events op (delivery.env index op)

/-- The delivery received a record of the event and returned normally. -/
def Succeeded (world : World) (delivery : Delivery) (event : OrderCreatedEvent) : Prop :=
  delivery.crash = none ∧ ∃ message payload record,
    (delivery.execution runtime world).outcome = .ok record ∧
    (delivery.execution runtime world).final.received = message :: world.received ∧
    decodeValue runtime message.value = .ok (payload, event)

/-- No call fails: the store, the notification and the commit all succeed. -/
def Smooth : (op : Op) → op.Choice → Prop
  | .order _, failure => failure = none
  | .notify _, failure => failure = none
  | .commit _, answer => ∃ partitions, answer = .ok partitions ∧ commitAccepted partitions = true
  | _, _ => True

def Undisturbed (delivery : Delivery) : Prop :=
  delivery.crash = none ∧ ∀ index op, Smooth op (delivery.env index op)

end Runs

section Contents

variable {runtime : Runtime} {events : List OrderCreatedEvent}

/-- The tables hold rows of the events and nothing else. -/
def Records (events : List OrderCreatedEvent) (ledger : EventLedger) : Prop :=
  ∀ eventId entry, ledger eventId = some entry →
    ∃ event ∈ events, event.eventId = eventId ∧ orderRow event = .ok entry.record

/-- What every call of a delivery preserves: the tables record only the events,
and what `start` had completed is still completed. -/
structure Progressed (events : List OrderCreatedEvent) (start world : World) : Prop where
  recorded : ∃ ledger, Represents world.database.tables ledger ∧ Records events ledger
  kept : ∀ eventId, Completed start.database.tables eventId →
    Completed world.database.tables eventId

/-- The calls of a delivery of these events without a dead-letter publisher. -/
def Handles (events : List OrderCreatedEvent) : Op → Prop
  | .order (.store event) => event ∈ events
  | .order (.discard _) => False
  | _ => True

theorem records_step {database reached : Database} {ledger after : EventLedger} {op : StoreOp}
    {result : Except Exc op.Ret} (stepped : LedgerOp database ledger op result reached after)
    (handles : Handles events (.order op)) (records : Records events ledger) :
    Records events after := by
  intro eventId entry held
  cases stepped with
  | failed | known => exact records eventId entry held
  | written event row _ fits absent =>
      by_cases same : eventId = event.eventId
      · subst same
        have claimed := apply_claim_absent absent row
        rw [claimed] at held
        cases held
        exact ⟨event, handles, rfl, fits⟩
      · rw [apply_other ledger same] at held
        exact records eventId entry held
  | marked other before _ present =>
      by_cases same : eventId = other
      · subst same
        rw [apply_complete, present, Option.map_some] at held
        cases held
        exact records eventId before present
      · rw [apply_other ledger same] at held
        exact records eventId entry held
  | discarded other _ => cases handles

theorem call_progressed {start : World} (op : Op) (choice : op.Choice) (world : World)
    (handles : Handles events op) (progressed : Progressed events start world) :
    Progressed events start (exec op choice world).2 := by
  cases op with
  | order op =>
      obtain ⟨⟨ledger, holds, records⟩, kept⟩ := progressed
      obtain ⟨result, reached, after, ran, stepped, represented⟩ := run_refines holds op choice
      have noDiscard : ∀ eventId, op ≠ .discard eventId := by
        intro eventId same
        subst same
        exact handles
      have extended := ledger_op_extends stepped noDiscard
      simp only [exec, ran]
      refine ⟨⟨after, represented, records_step stepped handles records⟩, ?_⟩
      intro eventId completed
      exact completed_extends holds represented extended (kept eventId completed)
  | poll =>
      rcases choice with fault | _ | message
      · exact progressed
      · exact progressed
      · exact ⟨progressed.recorded, progressed.kept⟩
  | notify event =>
      cases choice with
      | none => exact ⟨progressed.recorded, progressed.kept⟩
      | some fault => exact progressed
  | wait | uuid4 | utcNow => exact progressed
  | produce record => cases choice <;> exact progressed
  | flush record =>
      cases choice with
      | error fault => exact progressed
      | ok report =>
          simp only [exec]
          split
          · exact progressed
          · exact ⟨progressed.recorded, progressed.kept⟩
  | commit message =>
      cases choice with
      | error fault => exact progressed
      | ok partitions =>
          simp only [exec]
          split
          · exact ⟨progressed.recorded, progressed.kept⟩
          · exact progressed

variable {consumer : KafkaOrderConsumer} {message : Message}

theorem commit_makes (eventId : Str) : Makes (Handles events) (commit message eventId) := by
  apply makes_mapFault
  apply makes_bind (makes_perform trivial)
  intro partitions
  split
  · exact makes_done _
  · exact makes_done _

theorem attempt_once_makes {event : OrderCreatedEvent} (member : event ∈ events)
    (initialIsNew : Option Bool) :
    Makes (Handles events) (attemptOnce consumer event initialIsNew) := by
  have mark : Makes (Handles events)
      (Prog.perform (Op.order (.markCompleted event.eventId)) : Prog Exc Op.Ret Unit) :=
    makes_perform trivial
  apply makes_bind
  · exact makes_attempt (makes_perform member)
  · intro stored
    cases stored with
    | error fault => exact makes_done _
    | ok result =>
        apply makes_bind
        · apply makes_attempt
          unfold effects
          by_cases required : result.downstreamRequired = true
          · by_cases hasDownstream : consumer.downstream = true
            · rw [if_pos required, if_pos hasDownstream]
              exact makes_bind (makes_perform trivial) fun _ => mark
            · rw [if_pos required, if_neg hasDownstream]
              exact mark
          · rw [if_neg required]
            exact makes_done _
        · intro outcome
          exact makes_done _

theorem retry_loop_makes {event : OrderCreatedEvent} {payload : PyVal} (member : event ∈ events)
    (noDeadLetters : consumer.deadLetterTopic = none) :
    Makes (Handles events) (retryLoop runtime consumer message payload event 0 none) := by
  let invariant : Nat → Option Bool → Unit → Prop := fun _ _ _ => True
  have entry : invariant 0 none () := trivial
  apply upholds_retry_loop ?_ entry
  intro made initialIsNew _ _
  apply upholds_mono (attempt_once_makes member initialIsNew)
  intro outcome world _
  rcases outcome with fault | ⟨initialIsNew, cause | _⟩
  · trivial
  · simp only [AttemptEnds]
    split
    · apply (upholds_perform _ _).mpr
      intro waited _
      refine ⟨trivial, ?_⟩
      intro answer
      cases answer <;> trivial
    · unfold giveUp
      rw [noDeadLetters]
      exact makes_done _
  · exact makes_bind (commit_makes _) fun _ => makes_done _

theorem process_makes (noDeadLetters : consumer.deadLetterTopic = none)
    (ofEvent : RecordOf runtime events message) :
    Makes (Handles events) (process runtime consumer message) := by
  unfold process
  split
  next error broken => exact makes_done _
  next sound =>
    rcases ofEvent with broken | ⟨payload, event, member, decoded⟩
    · rw [sound] at broken
      cases broken
    · rw [decoded]
      exact retry_loop_makes member noDeadLetters

/-- A delivery of the events keeps the tables within them, call by call. -/
theorem process_one_progressed {delivery : Delivery}
    (delivers : DeliversEvents runtime events delivery)
    {start world : World} (progressed : Progressed events start world) :
    ∀ reached ∈ (delivery.execution runtime world).worlds, Progressed events start reached := by
  unfold Delivery.execution
  rw [← execute_within delivery.env delivers.polled]
  apply execute_invariant
  unfold processOne
  by_cases late : delivery.timeoutSeconds ≤ 0
  · rw [if_pos late]
    exact progressed
  · rw [if_neg late]
    apply (upholds_bind _ _ _ _).mpr
    -- the poll loop only ever hands out records of the events
    have received : Upholds (within exec (Polled runtime events)) Eq
        (fun _ => Progressed events start)
        (fun outcome final => Progressed events start final ∧
          Polled runtime events .poll outcome)
        (receive delivery.polls) world := by
      induction delivery.polls with
      | zero => exact ⟨progressed, trivial⟩
      | succ polls ih =>
          unfold receive
          refine upholds_call ?_ ?_
          · exact progressed
          intro answer
          rcases answer with ⟨fault | _ | message, polled⟩
          · exact ⟨progressed, trivial⟩
          · exact ih
          · exact ⟨⟨progressed.recorded, progressed.kept⟩, polled⟩
    apply upholds_mono received
    intro outcome reached handed
    rcases outcome with fault | _ | message
    · exact handed.1
    · exact handed.1
    · have made : Makes (Handles events) (process runtime delivery.consumer message) :=
        process_makes delivers.noDeadLetters handed.2
      apply upholds_of_makes ?_ made handed.1
      intro op choice before handles
      exact call_progressed op choice.val before handles

theorem deliver_mem_worlds (delivery : Delivery) (world : World) :
    deliver runtime world delivery ∈ (delivery.execution runtime world).worlds := by
  have last : (delivery.execution runtime world).final ∈
      (delivery.execution runtime world).worlds :=
    List.mem_append_right _ (List.mem_singleton_self _)
  unfold deliver
  cases delivery.crash with
  | none => exact last
  | some call =>
      cases stopped : (delivery.execution runtime world).worlds[call]? with
      | none =>
          simp only [stopped, Option.getD_none]
          exact last
      | some reached =>
          simp only [stopped, Option.getD_some]
          exact List.mem_of_getElem? stopped

theorem deliver_all_progressed {deliveries : List Delivery} {start world : World}
    (delivers : ∀ delivery ∈ deliveries, DeliversEvents runtime events delivery)
    (progressed : Progressed events start world) :
    Progressed events start (deliverAll runtime deliveries world) := by
  induction deliveries generalizing world with
  | nil => exact progressed
  | cons delivery rest ih =>
      apply ih
      · intro later member
        exact delivers later (List.mem_cons_of_mem delivery member)
      · have own := delivers delivery List.mem_cons_self
        exact process_one_progressed own progressed _ (deliver_mem_worlds delivery world)

/-- A delivery that returns has completed the event of its record. -/
theorem succeeded_completed {delivery : Delivery} {world : World} {event : OrderCreatedEvent}
    (noDeadLetters : delivery.consumer.deadLetterTopic = none)
    (paired : ∃ ledger, Represents world.database.tables ledger)
    (succeeded : Succeeded runtime world delivery event) :
    Completed (deliver runtime world delivery).database.tables event.eventId := by
  obtain ⟨uncrashed, message, payload, record, returned, received, decoded⟩ := succeeded
  have delivered := process_one_delivers runtime delivery.consumer delivery.timeoutSeconds
    delivery.polls paired
  obtain ⟨_, ended⟩ := execute_upholds delivery.env 0 delivered
  have outcome : Ended runtime delivery.consumer world (delivery.execution runtime world).outcome
    (delivery.execution runtime world).final := ended
  rw [returned] at outcome
  obtain ⟨handled, finished⟩ := outcome
  have sameMessage : handled = message := by
    have receivedTwice := finished.received.symm.trans received
    injection receivedTwice
  subst sameMessage
  unfold deliver
  rw [uncrashed]
  cases lettered : record.deadLettered with
  | true =>
      obtain ⟨⟨topic, _, destination, _⟩, _⟩ := finished.deadLettered lettered
      rw [noDeadLetters] at destination
      cases destination
  | false =>
      obtain ⟨_, other, again, completed, _⟩ := finished.completed lettered
      rw [decoded] at again
      cases again
      exact completed

/-- Exactly one order per event, with that event's data, and every claim completed. -/
structure SettledOn (events : List OrderCreatedEvent) (tables : Tables) : Prop where
  orders : ∀ row, row ∈ tables.orders ↔ ∃ event ∈ events, orderRow event = .ok row
  claims : ∀ claim, claim ∈ tables.processedEvents ↔
    ∃ event ∈ events, claim = ⟨event.eventId, event.eventType, .completed⟩

theorem settled_unique {left right : Tables} (leftSettled : SettledOn events left)
    (rightSettled : SettledOn events right) : left = right := by
  apply Tables.ext
  · ext row
    rw [leftSettled.orders, rightSettled.orders]
  · ext claim
    rw [leftSettled.claims, rightSettled.claims]

theorem settled_of_completed (storable : Storable events) {tables : Tables} {ledger : EventLedger}
    (holds : Represents tables ledger) (records : Records events ledger)
    (completed : ∀ event ∈ events, Completed tables event.eventId) : SettledOn events tables := by
  have entryOf : ∀ event ∈ events, ∃ entry, ledger event.eventId = some entry ∧
      entry.completed = true ∧ orderRow event = .ok entry.record := by
    intro event member
    obtain ⟨entry, held, done⟩ := (completed_iff holds event.eventId).mp (completed event member)
    obtain ⟨other, otherMember, sameId, fits⟩ := records event.eventId entry held
    have same := storable.eventIds other otherMember event member sameId
    rw [same] at fits
    exact ⟨entry, held, done, fits⟩
  constructor
  · intro row
    have found : row ∈ tables.orders ↔ orderOfEvent tables row.sourceEventId = some row := by
      rw [orderOfEvent, lookup_eq_some]
      simp
    rw [found, holds.orders]
    constructor
    · intro listed
      obtain ⟨entry, held, recorded⟩ := Option.map_eq_some_iff.mp listed
      obtain ⟨event, member, _, fits⟩ := records _ entry held
      rw [recorded] at fits
      exact ⟨event, member, fits⟩
    · intro written
      obtain ⟨event, member, fits⟩ := written
      obtain ⟨entry, held, _, recorded⟩ := entryOf event member
      rw [fits] at recorded
      injection recorded with same
      rw [order_row_source fits, held, Option.map_some, same]
  · intro claim
    have found : claim ∈ tables.processedEvents ↔ claimOf tables claim.eventId = some claim := by
      rw [claimOf, lookup_eq_some]
      simp
    rw [found, holds.claims]
    constructor
    · intro listed
      obtain ⟨entry, held, shown⟩ := Option.map_eq_some_iff.mp listed
      obtain ⟨event, member, own, _⟩ := records _ entry held
      obtain ⟨again, heldAgain, done, _⟩ := entryOf event member
      rw [own, held] at heldAgain
      injection heldAgain with same
      refine ⟨event, member, ?_⟩
      rw [← shown, claimRow, statusOfEntry, same, done, own]
      rfl
    · intro listed
      obtain ⟨event, member, shown⟩ := listed
      obtain ⟨entry, held, done, _⟩ := entryOf event member
      rw [shown]
      simp only [held, Option.map_some, claimRow, statusOfEntry, done]
      rfl

end Contents

section Undisturbed

variable {runtime : Runtime} {events : List OrderCreatedEvent} {consumer : KafkaOrderConsumer}

/-- Between undisturbed deliveries every known event is completed and notified once. -/
def Tally (ledger : EventLedger) (notified : List Uuid) : Prop :=
  ∀ eventId, match ledger eventId with
    | none => notified.count eventId = 0
    | some entry => entry.completed = true ∧ notified.count eventId = 1

/-- The tables between deliveries, and if `counted` also the notifications. -/
structure Clean (counted : Prop) (events : List OrderCreatedEvent) (world : World) : Prop where
  tallied : ∃ ledger, Represents world.database.tables ledger ∧ Records events ledger ∧
    (counted → Tally ledger world.notified)

theorem tally_notified {ledger : EventLedger} {notified : List Uuid} {eventId : Uuid}
    {row : OrderRow} (tally : Tally ledger notified) (absent : ledger eventId = none) :
    Tally (apply (.complete eventId) (apply (.claim eventId row) ledger))
      (eventId :: notified) := by
  have claimed := apply_claim_absent absent row
  have completed := apply_complete (apply (.claim eventId row) ledger) eventId
  rw [claimed, Option.map_some] at completed
  intro wanted
  have before := tally wanted
  by_cases same : wanted = eventId
  · subst same
    rw [completed]
    rw [absent] at before
    have once : (wanted :: notified).count wanted = 1 := by rw [List.count_cons_self, before]
    exact ⟨rfl, once⟩
  · rw [apply_other _ same, apply_other _ same]
    have skipped : (eventId :: notified).count wanted = notified.count wanted :=
      List.count_cons_of_ne fun equal => same equal.symm
    rw [skipped]
    exact before

/-- The choices of an undisturbed delivery of the events. -/
def Calm (runtime : Runtime) (events : List OrderCreatedEvent) (op : Op) (choice : op.Choice) :
    Prop :=
  Polled runtime events op choice ∧ Smooth op choice

/-- A store that meets no failure: the event is known already, or it is entered. -/
theorem store_succeeds {database : Database} {ledger : EventLedger} {event : OrderCreatedEvent}
    (storable : Storable events) (member : event ∈ events)
    (holds : Represents database.tables ledger) (records : Records events ledger) :
    ∃ stored reached after entry,
      StoreOp.run (.store event) none database = (.ok stored, reached) ∧
      Represents reached.tables after ∧ Records events after ∧
      after event.eventId = some entry ∧ stored.downstreamRequired = !entry.completed ∧
      (after = ledger ∨ entry.completed = false ∧ ledger event.eventId = none ∧
        ∃ row, after = apply (.claim event.eventId row) ledger) := by
  obtain ⟨result, tables, after, ran, stepped, represented⟩ := store_refines holds event
  have performed : StoreOp.run (.store event) none database =
      (result, { database with tables := tables }) := by rw [StoreOp.run, ran]
  cases stepped with
  | known entry held =>
      exact ⟨_, _, ledger, entry, performed, represented, records, held, rfl, .inl rfl⟩
  | written row _ fits absent =>
      have written : LedgerOp database ledger (.store event) (.ok ⟨true, true⟩)
          { database with tables := tables } (apply (.claim event.eventId row) ledger) :=
        .written event row tables fits absent
      exact ⟨_, _, _, ⟨row, false⟩, performed, represented, records_step written member records,
        apply_claim_absent absent row, rfl, .inr ⟨rfl, absent, row, rfl⟩⟩
  | refused fault absent reason =>
      obtain ⟨row, fits⟩ := storable.fits event member
      rcases reason with refusal | ⟨again, fitsAgain, eventId, entry, held, taken⟩
      · rw [fits] at refusal
        cases refusal
      · obtain ⟨other, otherMember, own, recorded⟩ := records eventId entry held
        have otherOrder := (text_column_iff.mp (order_row_iff.mp recorded).1).2
        have ownOrder := (text_column_iff.mp (order_row_iff.mp fitsAgain).1).2
        have same := storable.orderIds other otherMember event member
          (otherOrder.symm.trans (taken.trans ownOrder))
        rw [← own, same, absent] at held
        cases held

theorem mark_succeeds {database : Database} {ledger : EventLedger} {eventId : Uuid}
    {entry : Entry OrderRow} (holds : Represents database.tables ledger)
    (records : Records events ledger) (held : ledger eventId = some entry) :
    ∃ reached, StoreOp.run (.markCompleted eventId) none database = (.ok (), reached) ∧
      Represents reached.tables (apply (.complete eventId) ledger) ∧
      Records events (apply (.complete eventId) ledger) := by
  obtain ⟨tables, ran, represented⟩ := mark_completes holds held
  have marked : LedgerOp database ledger (.markCompleted eventId) (.ok ())
      ⟨tables, eventId :: database.completions⟩ (apply (.complete eventId) ledger) :=
    .marked eventId entry tables held
  exact ⟨_, by rw [StoreOp.run, ran], represented, records_step marked trivial records⟩

variable {counted : Prop}

theorem attempt_once_clean {world : World} {event : OrderCreatedEvent} (storable : Storable events)
    (member : event ∈ events) (hasDownstream : consumer.downstream = true)
    (clean : Clean counted events world) (initialIsNew : Option Bool) :
    Upholds (within exec (Calm runtime events)) Eq (fun _ _ => True)
      (fun outcome final => (∃ flag, outcome = .ok (flag, .ok ())) ∧ Clean counted events final ∧
        final.received = world.received)
      (attemptOnce consumer event initialIsNew) world := by
  obtain ⟨ledger, holds, records, tally⟩ := clean.tallied
  obtain ⟨stored, reached, after, entry, ran, represented, recorded, held, required, how⟩ :=
    store_succeeds storable member holds records
  unfold attemptOnce
  apply (upholds_bind _ _ _ _).mpr
  apply (upholds_attempt _ _ _).mpr
  apply (upholds_perform _ _).mpr
  intro entered same
  subst same
  refine ⟨trivial, ?_⟩
  rintro ⟨failure, _, smooth⟩
  have noFailure : failure = none := smooth
  subst noFailure
  simp only [within, exec, ran]
  apply (upholds_bind _ _ _ _).mpr
  apply (upholds_attempt _ _ _).mpr
  unfold effects
  rw [required]
  cases done : entry.completed with
  | true =>
      -- a completed entry is no new one
      have known : after = ledger := by
        rcases how with known | ⟨pending, _⟩
        · exact known
        · rw [done] at pending
          cases pending
      subst known
      exact ⟨⟨_, rfl⟩, ⟨after, represented, recorded, tally⟩, rfl⟩
  | false =>
      obtain ⟨final, marked, shown, kept⟩ := mark_succeeds represented recorded held
      rw [if_pos (by rfl), if_pos hasDownstream]
      apply upholds_call trivial
      rintro ⟨refused, _, quiet⟩
      have noRefusal : refused = none := quiet
      subst noRefusal
      simp only [within, exec, continues_ok]
      intro entered same
      subst same
      refine ⟨trivial, ?_⟩
      rintro ⟨failure, _, smooth⟩
      have noFailure : failure = none := smooth
      subst noFailure
      simp only [within, exec, marked]
      refine ⟨⟨_, rfl⟩, ⟨_, shown, kept, ?_⟩, rfl⟩
      intro counts
      rcases how with known | ⟨_, absent, row, entered⟩
      · subst known
        have completed := tally counts event.eventId
        rw [held] at completed
        have contrary := done.symm.trans completed.1
        cases contrary
      · subst entered
        exact tally_notified (tally counts) absent

variable {message : Message}

theorem commit_clean {world : World} (eventId : Str) (clean : Clean counted events world) :
    Upholds (within exec (Calm runtime events)) Eq (fun _ _ => True)
      (fun outcome final => outcome = .ok () ∧ Clean counted events final ∧
        final.received = world.received)
      (commit message eventId) world := by
  unfold commit
  apply (upholds_mapFault _ _ _ _).mpr
  apply upholds_call trivial
  rintro ⟨answer, _, smooth⟩
  obtain ⟨partitions, accepted, all⟩ : ∃ partitions, answer = .ok partitions ∧
    commitAccepted partitions = true := smooth
  subst accepted
  have clear : partitions.filterMap id = [] := by
    apply List.filterMap_eq_nil_iff.mpr
    intro error member
    exact Option.isNone_iff_eq_none.mp (List.all_eq_true.mp all error member)
  simp only [within, exec, if_pos all, continues_ok, clear]
  exact ⟨rfl, ⟨clean.tallied⟩, rfl⟩

/-- An undisturbed delivery of a record of an event returns; it is clean anyway. -/
theorem process_clean {world : World} (storable : Storable events)
    (hasDownstream : consumer.downstream = true) (ofEvent : RecordOf runtime events message)
    (clean : Clean counted events world) :
    Upholds (within exec (Calm runtime events)) Eq (fun _ _ => True)
      (fun outcome final => Clean counted events final ∧ final.received = world.received ∧
        (message.error = none → ∃ record, outcome = .ok record ∧ record.deadLettered = false))
      (process runtime consumer message) world := by
  unfold process
  split
  next error broken =>
    refine ⟨clean, rfl, ?_⟩
    intro unbroken
    rw [broken] at unbroken
    cases unbroken
  next sound =>
    rcases ofEvent with broken | ⟨payload, event, member, decoded⟩
    · rw [sound] at broken
      cases broken
    · rw [decoded]
      let invariant : Nat → Option Bool → World → Prop := fun _ _ entered =>
        Clean counted events entered ∧ entered.received = world.received
      have entry : invariant 0 none world := ⟨clean, rfl⟩
      apply upholds_retry_loop ?_ entry
      rintro made initialIsNew entered ⟨enteredClean, received⟩
      apply upholds_mono
        (attempt_once_clean storable member hasDownstream enteredClean initialIsNew)
      rintro outcome reached ⟨⟨flag, succeeded⟩, reachedClean, kept⟩
      subst succeeded
      simp only [AttemptEnds]
      unfold finish
      apply (upholds_bind _ _ _ _).mpr
      apply upholds_mono (commit_clean event.eventId.str reachedClean)
      rintro outcome final ⟨succeeded, finalClean, same⟩
      subst succeeded
      exact ⟨finalClean, same.trans (kept.trans received), fun _ => ⟨_, rfl, rfl⟩⟩

theorem process_one_clean {delivery : Delivery} {world : World} (storable : Storable events)
    (delivers : DeliversEvents runtime events delivery) (undisturbed : Undisturbed delivery)
    (hasDownstream : delivery.consumer.downstream = true) (clean : Clean counted events world) :
    Clean counted events (deliver runtime world delivery) := by
  have calm : ∀ index op, Calm runtime events op (delivery.env index op) := by
    intro index op
    exact ⟨delivers.polled index op, undisturbed.2 index op⟩
  have upheld : Upholds (within exec (Calm runtime events)) Eq (fun _ _ => True)
      (fun _ final => Clean counted events final)
      (processOne runtime delivery.consumer delivery.timeoutSeconds delivery.polls) world := by
    unfold processOne
    by_cases late : delivery.timeoutSeconds ≤ 0
    · rw [if_pos late]
      exact clean
    · rw [if_neg late]
      apply (upholds_bind _ _ _ _).mpr
      have received : Upholds (within exec (Calm runtime events)) Eq (fun _ _ => True)
          (fun outcome final => Clean counted events final ∧ Polled runtime events .poll outcome)
          (receive delivery.polls) world := by
        induction delivery.polls with
        | zero => exact ⟨clean, trivial⟩
        | succ polls ih =>
            unfold receive
            apply upholds_call trivial
            rintro ⟨fault | _ | message, polled, _⟩
            · exact ⟨clean, trivial⟩
            · exact ih
            · exact ⟨⟨clean.tallied⟩, polled⟩
      apply upholds_mono received
      rintro outcome reached ⟨reachedClean, handed⟩
      rcases outcome with fault | _ | message
      · exact reachedClean
      · exact reachedClean
      · apply upholds_mono (process_clean storable hasDownstream handed reachedClean)
        intro outcome final concluded
        exact concluded.1
  obtain ⟨_, ended⟩ :=
    execute_upholds (fun index op => ⟨delivery.env index op, calm index op⟩) 0 upheld
  rw [execute_within] at ended
  unfold deliver
  rw [undisturbed.1]
  exact ended

theorem deliver_all_clean {deliveries : List Delivery} {world : World} (storable : Storable events)
    (delivers : ∀ delivery ∈ deliveries, DeliversEvents runtime events delivery)
    (undisturbed : ∀ delivery ∈ deliveries, Undisturbed delivery ∧
      delivery.consumer.downstream = true)
    (clean : Clean counted events world) :
    Clean counted events (deliverAll runtime deliveries world) := by
  induction deliveries generalizing world with
  | nil => exact clean
  | cons delivery rest ih =>
      have own := delivers delivery List.mem_cons_self
      obtain ⟨quiet, hasDownstream⟩ := undisturbed delivery List.mem_cons_self
      apply ih
      · intro later member
        exact delivers later (List.mem_cons_of_mem delivery member)
      · intro later member
        exact undisturbed later (List.mem_cons_of_mem delivery member)
      · exact process_one_clean storable own quiet hasDownstream clean

end Undisturbed

section Confluence

variable {runtime : Runtime} {events : List OrderCreatedEvent}

theorem empty_progressed : Progressed events emptyWorld emptyWorld := by
  refine ⟨⟨fun _ => none, represents_empty, ?_⟩, fun _ completed => completed⟩
  intro eventId entry held
  cases held

theorem empty_clean : Clean True events emptyWorld := by
  refine ⟨⟨fun _ => none, represents_empty, ?_, ?_⟩⟩
  · intro eventId entry held
    cases held
  · intro _ eventId
    rfl

/-- Every event has a delivery in the sequence that runs to success. -/
def Covered (runtime : Runtime) (events : List OrderCreatedEvent) (deliveries : List Delivery) :
    Prop :=
  ∀ event ∈ events, ∃ before delivery after, deliveries = before ++ delivery :: after ∧
    Succeeded runtime (deliverAll runtime before emptyWorld) delivery event

theorem covered_completed {deliveries : List Delivery}
    (delivers : ∀ delivery ∈ deliveries, DeliversEvents runtime events delivery)
    (covered : Covered runtime events deliveries) :
    ∀ event ∈ events,
      Completed (deliverAll runtime deliveries emptyWorld).database.tables event.eventId := by
  intro event member
  obtain ⟨before, delivery, after, split, succeeded⟩ := covered event member
  subst split
  have early : ∀ earlier ∈ before, DeliversEvents runtime events earlier := by
    intro earlier listed
    exact delivers earlier (List.mem_append_left _ listed)
  have late : ∀ later ∈ after, DeliversEvents runtime events later := by
    intro later listed
    exact delivers later (List.mem_append_right _ (List.mem_cons_of_mem delivery listed))
  have own := delivers delivery (List.mem_append_right _ List.mem_cons_self)
  have reached := deliver_all_progressed early empty_progressed
  obtain ⟨ledger, holds, records⟩ := reached.recorded
  have completed := succeeded_completed own.noDeadLetters ⟨ledger, holds⟩ succeeded
  have next := process_one_progressed own reached _ (deliver_mem_worlds delivery _)
  have onward : Progressed events
      (deliver runtime (deliverAll runtime before emptyWorld) delivery)
      (deliver runtime (deliverAll runtime before emptyWorld) delivery) :=
    ⟨next.recorded, fun _ done => done⟩
  have final := deliver_all_progressed late onward
  unfold deliverAll at final ⊢
  rw [List.foldl_append, List.foldl_cons]
  exact final.kept event.eventId completed

/-- The final tables are those of the events, whatever the deliveries were; and
undisturbed deliveries notify each event once. -/
theorem delivery_confluence (runtime : Runtime) (events : List OrderCreatedEvent)
    (storable : Storable events) (deliveries : List Delivery)
    (delivers : ∀ delivery ∈ deliveries, DeliversEvents runtime events delivery)
    (covered : Covered runtime events deliveries) :
    SettledOn events (deliverAll runtime deliveries emptyWorld).database.tables ∧
      (∀ tables, SettledOn events tables →
        (deliverAll runtime deliveries emptyWorld).database.tables = tables) ∧
      ((∀ delivery ∈ deliveries, Undisturbed delivery ∧ delivery.consumer.downstream = true) →
        ∀ event ∈ events,
          (deliverAll runtime deliveries emptyWorld).notified.count event.eventId = 1) := by
  have completed := covered_completed delivers covered
  obtain ⟨_, reached, recorded⟩ := (deliver_all_progressed delivers empty_progressed).recorded
  have settled := settled_of_completed storable reached recorded completed
  refine ⟨settled, ?_, ?_⟩
  · intro tables same
    exact settled_unique settled same
  · intro undisturbed event member
    obtain ⟨ledger, holds, _, tally⟩ :=
      (deliver_all_clean storable delivers undisturbed empty_clean).tallied
    obtain ⟨entry, held, _⟩ := (completed_iff holds event.eventId).mp (completed event member)
    have once := tally trivial event.eventId
    rw [held] at once
    exact once.2

section Smooth

variable {message : Message} {payload : PyVal} {event : OrderCreatedEvent}

def smoothEnv (message : Message) : Nat → (op : Op) → op.Choice
  | _, .poll => .ok (some message)
  | _, .order _ => none
  | _, .notify _ => none
  | _, .wait _ => ()
  | _, .uuid4 => ⟨0⟩
  | _, .utcNow => []
  | _, .produce _ => none
  | _, .flush _ => .ok ⟨0, []⟩
  | _, .commit _ => .ok []

/-- A delivery of the record in which nothing fails. -/
def smoothDelivery (deadLetterTopic : Option Str) (message : Message) : Delivery :=
  ⟨⟨"order-consumers", "orders", true, defaultRetryPolicy, deadLetterTopic⟩, 10, 1,
    smoothEnv message, none⟩

variable {deadLetterTopic : Option Str}

theorem smooth_undisturbed : Undisturbed (smoothDelivery deadLetterTopic message) := by
  refine ⟨rfl, ?_⟩
  intro index op
  cases op with
  | order _ | notify _ => rfl
  | commit _ => exact ⟨[], rfl, rfl⟩
  | poll | wait _ | uuid4 | utcNow | produce _ | flush _ => trivial

theorem smooth_polled (member : event ∈ events)
    (decoded : decodeValue runtime message.value = .ok (payload, event)) (index : Nat) (op : Op) :
    Polled runtime events op (smoothEnv message index op) := by
  cases op with
  | poll => exact .inr ⟨payload, event, member, decoded⟩
  | order _ | notify _ | commit _ | wait _ | uuid4 | utcNow | produce _ | flush _ => trivial

/-- After its one poll the delivery is the processing of the record. -/
theorem smooth_execution (world : World) :
    ((smoothDelivery deadLetterTopic message).execution runtime world).outcome =
        (execute exec (smoothEnv message) 1
          (process runtime (smoothDelivery deadLetterTopic message).consumer message)
          { world with received := message :: world.received }).outcome ∧
      ((smoothDelivery deadLetterTopic message).execution runtime world).final =
        (execute exec (smoothEnv message) 1
          (process runtime (smoothDelivery deadLetterTopic message).consumer message)
          { world with received := message :: world.received }).final := by
  have positive : ¬ ((smoothDelivery deadLetterTopic message).timeoutSeconds ≤ 0) := by
    simp only [smoothDelivery]
    norm_num
  unfold Delivery.execution processOne
  rw [if_neg positive]
  exact ⟨rfl, rfl⟩

theorem smooth_returns (deadLetterTopic : Option Str) (storable : Storable events)
    (member : event ∈ events) (sound : message.error = none)
    (decoded : decodeValue runtime message.value = .ok (payload, event)) {world : World}
    {counted : Prop} (clean : Clean counted events world) :
    ∃ record, record.deadLettered = false ∧
      ((smoothDelivery deadLetterTopic message).execution runtime world).outcome = .ok record ∧
      ((smoothDelivery deadLetterTopic message).execution runtime world).final.received =
        message :: world.received := by
  have calm : ∀ index op, Calm runtime events op (smoothEnv message index op) := by
    intro index op
    exact ⟨smooth_polled member decoded index op, (@smooth_undisturbed message none).2 index op⟩
  have received : Clean counted events { world with received := message :: world.received } :=
    ⟨clean.tallied⟩
  have hasDownstream : (smoothDelivery deadLetterTopic message).consumer.downstream = true := rfl
  have upheld := process_clean storable hasDownstream (smooth_polled member decoded 0 .poll) received
  obtain ⟨_, _, same, returned⟩ := execute_upholds
    (fun index op => ⟨smoothEnv message index op, calm index op⟩) 1 upheld
  rw [execute_within] at same returned
  obtain ⟨record, outcome, lettered⟩ := returned sound
  obtain ⟨sameOutcome, sameFinal⟩ := @smooth_execution runtime message deadLetterTopic world
  refine ⟨record, lettered, sameOutcome.trans outcome, ?_⟩
  rw [sameFinal]
  exact same

/-- A smooth delivery succeeds after any deliveries, failed and stopped ones included. -/
theorem smooth_succeeds (storable : Storable events) (member : event ∈ events)
    (sound : message.error = none)
    (decoded : decodeValue runtime message.value = .ok (payload, event)) {before : List Delivery}
    (delivers : ∀ delivery ∈ before, DeliversEvents runtime events delivery) :
    Succeeded runtime (deliverAll runtime before emptyWorld) (smoothDelivery none message) event := by
  obtain ⟨ledger, holds, records⟩ := (deliver_all_progressed delivers empty_progressed).recorded
  have clean : Clean False events (deliverAll runtime before emptyWorld) :=
    ⟨ledger, holds, records, False.elim⟩
  obtain ⟨record, _, returned, received⟩ := smooth_returns none storable member sound decoded clean
  exact ⟨rfl, message, payload, record, returned, received, decoded⟩

/-- The same delivery by a process that dies before that call. -/
def crashedDelivery (message : Message) (call : Nat) : Delivery :=
  { smoothDelivery none message with crash := some call }

end Smooth

theorem documented_storable : Storable [documentedEvent] := by
  constructor
  · intro event member
    rw [List.mem_singleton.mp member]
    exact StoreFidelity.documented_row
  · intro left leftMember right rightMember _
    rw [List.mem_singleton.mp leftMember, List.mem_singleton.mp rightMember]
  · intro left leftMember right rightMember _
    rw [List.mem_singleton.mp leftMember, List.mem_singleton.mp rightMember]

def orderMessage (value : Option ByteArray) : Message := ⟨none, "orders", 0, 0, none, value⟩

theorem order_message_value (value : Option ByteArray) : (orderMessage value).value = value := rfl

theorem order_message_decoded :
    ∃ payload, decodeValue referenceRuntime (orderMessage (encodeUtf8 orderBody)).value =
      .ok (payload, documentedEvent) := by
  rw [order_message_value]
  exact order_body_decoded

theorem later_message_decoded :
    ∃ payload, decodeValue referenceRuntime (orderMessage (encodeUtf8 laterBody)).value =
      .ok (payload, laterEvent) := by
  rw [order_message_value]
  exact later_body_decoded

theorem later_row : ∃ row, orderRow laterEvent = .ok row := by
  obtain ⟨row, fits⟩ := StoreFidelity.documented_row
  obtain ⟨_, customer, amount, correlation, _⟩ := order_row_iff.mp fits
  refine ⟨{ row with
    orderId := laterEvent.data.orderId.text, currency := laterEvent.data.currency.text,
    sourceEventId := laterEvent.eventId }, order_row_iff.mpr ⟨?_, customer, amount, correlation,
    rfl, rfl⟩⟩
  exact text_column_iff.mpr ⟨by decide, rfl⟩

theorem two_orders_storable : Storable [documentedEvent, laterEvent] := by
  have eventIds : documentedEvent.eventId ≠ laterEvent.eventId := by decide
  have orderIds : documentedEvent.data.orderId.text ≠ laterEvent.data.orderId.text := by decide
  constructor
  case fits =>
    intro event member
    rcases List.mem_pair.mp member with rfl | rfl
    · exact StoreFidelity.documented_row
    · exact later_row
  all_goals
    intro left leftMember right rightMember same
    rcases List.mem_pair.mp leftMember with rfl | rfl <;>
      rcases List.mem_pair.mp rightMember with rfl | rfl
  case eventIds.inl.inr => exact absurd same eventIds
  case eventIds.inr.inl => exact absurd same.symm eventIds
  case orderIds.inl.inr => exact absurd same orderIds
  case orderIds.inr.inl => exact absurd same.symm orderIds
  all_goals rfl

section Sequences

variable (first later : Message)

/-- The first record's delivery stops between the store and the notification; the
record comes again, and once more after the second one. -/
def interrupted : List Delivery :=
  [crashedDelivery first 2, smoothDelivery none first, smoothDelivery none later,
    smoothDelivery none first]

/-- Both records without a failure, one of them twice, the other way round. -/
def uninterrupted : List Delivery :=
  [smoothDelivery none later, smoothDelivery none first, smoothDelivery none later]

variable {first later} {firstPayload laterPayload : PyVal}
  {firstEvent secondEvent : OrderCreatedEvent}

theorem interrupted_delivers (firstMember : firstEvent ∈ events)
    (firstDecoded : decodeValue runtime first.value = .ok (firstPayload, firstEvent))
    (secondMember : secondEvent ∈ events)
    (laterDecoded : decodeValue runtime later.value = .ok (laterPayload, secondEvent)) :
    ∀ delivery ∈ interrupted first later, DeliversEvents runtime events delivery := by
  have firstPolled := smooth_polled firstMember firstDecoded
  have laterPolled := smooth_polled secondMember laterDecoded
  simp only [interrupted, List.forall_mem_cons]
  exact ⟨⟨rfl, firstPolled⟩, ⟨rfl, firstPolled⟩, ⟨rfl, laterPolled⟩, ⟨rfl, firstPolled⟩,
    List.forall_mem_nil _⟩

theorem uninterrupted_delivers (firstMember : firstEvent ∈ events)
    (firstDecoded : decodeValue runtime first.value = .ok (firstPayload, firstEvent))
    (secondMember : secondEvent ∈ events)
    (laterDecoded : decodeValue runtime later.value = .ok (laterPayload, secondEvent)) :
    ∀ delivery ∈ uninterrupted first later, DeliversEvents runtime events delivery := by
  have firstPolled := smooth_polled firstMember firstDecoded
  have laterPolled := smooth_polled secondMember laterDecoded
  simp only [uninterrupted, List.forall_mem_cons]
  exact ⟨⟨rfl, laterPolled⟩, ⟨rfl, firstPolled⟩, ⟨rfl, laterPolled⟩, List.forall_mem_nil _⟩

theorem uninterrupted_undisturbed : ∀ delivery ∈ uninterrupted first later,
    Undisturbed delivery ∧ delivery.consumer.downstream = true := by
  simp only [uninterrupted, List.forall_mem_cons]
  exact ⟨⟨smooth_undisturbed, rfl⟩, ⟨smooth_undisturbed, rfl⟩, ⟨smooth_undisturbed, rfl⟩,
    List.forall_mem_nil _⟩

/-- A smooth delivery of each of two events covers them, whatever else is delivered. -/
theorem smooth_covered {deliveries : List Delivery} (storable : Storable [firstEvent, secondEvent])
    (delivers : ∀ delivery ∈ deliveries,
      DeliversEvents runtime [firstEvent, secondEvent] delivery)
    (firstSound : first.error = none) (laterSound : later.error = none)
    (firstDecoded : decodeValue runtime first.value = .ok (firstPayload, firstEvent))
    (laterDecoded : decodeValue runtime later.value = .ok (laterPayload, secondEvent))
    (firstListed : smoothDelivery none first ∈ deliveries)
    (laterListed : smoothDelivery none later ∈ deliveries) :
    Covered runtime [firstEvent, secondEvent] deliveries := by
  have succeeds : ∀ {message : Message} {payload : PyVal}, ∀ event ∈ [firstEvent, secondEvent],
      message.error = none → decodeValue runtime message.value = .ok (payload, event) →
      smoothDelivery none message ∈ deliveries →
      ∃ before delivery after, deliveries = before ++ delivery :: after ∧
        Succeeded runtime (deliverAll runtime before emptyWorld) delivery event := by
    intro message payload event member sound decoded listed
    obtain ⟨before, after, split⟩ := List.append_of_mem listed
    refine ⟨before, _, after, split, smooth_succeeds storable member sound decoded ?_⟩
    intro earlier among
    exact delivers earlier (split ▸ List.mem_append_left _ among)
  intro event member
  rcases List.mem_pair.mp member with rfl | rfl
  · exact succeeds _ member firstSound firstDecoded firstListed
  · exact succeeds _ member laterSound laterDecoded laterListed

end Sequences

/-- The tables after the interrupted run are those of the uninterrupted one. -/
theorem documented_orders_settled :
    SettledOn [documentedEvent, laterEvent] (deliverAll referenceRuntime
        (interrupted (orderMessage (encodeUtf8 orderBody)) (orderMessage (encodeUtf8 laterBody)))
        emptyWorld).database.tables ∧
      (deliverAll referenceRuntime
        (interrupted (orderMessage (encodeUtf8 orderBody)) (orderMessage (encodeUtf8 laterBody)))
        emptyWorld).database.tables = (deliverAll referenceRuntime
        (uninterrupted (orderMessage (encodeUtf8 orderBody)) (orderMessage (encodeUtf8 laterBody)))
        emptyWorld).database.tables ∧
      ∀ eventId ∈ [documentedEvent.eventId, laterEvent.eventId], (deliverAll referenceRuntime
        (uninterrupted (orderMessage (encodeUtf8 orderBody)) (orderMessage (encodeUtf8 laterBody)))
        emptyWorld).notified.count eventId = 1 := by
  obtain ⟨firstPayload, firstDecoded⟩ := order_message_decoded
  obtain ⟨laterPayload, laterDecoded⟩ := later_message_decoded
  have storable := two_orders_storable
  have firstSound : (orderMessage (encodeUtf8 orderBody)).error = none := rfl
  have laterSound : (orderMessage (encodeUtf8 laterBody)).error = none := rfl
  revert firstDecoded laterDecoded firstSound laterSound storable
  generalize orderMessage (encodeUtf8 orderBody) = first
  generalize orderMessage (encodeUtf8 laterBody) = later
  generalize documentedEvent = firstEvent
  generalize laterEvent = secondEvent
  intro firstDecoded laterDecoded storable firstSound laterSound
  have firstMember : firstEvent ∈ [firstEvent, secondEvent] := List.mem_cons_self
  have secondMember : secondEvent ∈ [firstEvent, secondEvent] :=
    List.mem_cons_of_mem _ (List.mem_singleton_self _)
  have delivers := interrupted_delivers firstMember firstDecoded secondMember laterDecoded
  have deliversToo := uninterrupted_delivers firstMember firstDecoded secondMember laterDecoded
  have covered := smooth_covered storable delivers firstSound laterSound firstDecoded laterDecoded
    (by simp [interrupted]) (by simp [interrupted])
  have coveredToo := smooth_covered storable deliversToo firstSound laterSound firstDecoded
    laterDecoded (by simp [uninterrupted]) (by simp [uninterrupted])
  obtain ⟨settled, unique, _⟩ := delivery_confluence referenceRuntime [firstEvent, secondEvent]
    storable (interrupted first later) delivers covered
  obtain ⟨settledToo, _, notified⟩ := delivery_confluence referenceRuntime
    [firstEvent, secondEvent] storable (uninterrupted first later) deliversToo coveredToo
  have once := notified uninterrupted_undisturbed
  refine ⟨settled, unique _ settledToo, ?_⟩
  intro eventId listed
  rcases List.mem_pair.mp listed with rfl | rfl
  · exact once _ firstMember
  · exact once _ secondMember

end Confluence

end OrderMessaging.Processing.DeliveryConfluence
