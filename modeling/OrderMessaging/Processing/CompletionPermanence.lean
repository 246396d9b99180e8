import OrderMessaging.Library.Interleaving
import OrderMessaging.Processing.DeliveryConfluence
import OrderMessaging.Processing.DeliveryFailure

/-!
Any number of Kafka consumers over one store, their calls interleaved in any
order. A completed event stays completed, with the same order, exactly as long
as no delivery of it that has failed for good goes on: what such a delivery does
next is to discard the event, completed or not, and no other delivery discards it.
A redelivery whose store call fails is one.
-/

namespace OrderMessaging.Processing.CompletionPermanence

open OrderMessaging.PyText OrderMessaging.PyException OrderMessaging.PyValue
open OrderMessaging.Program OrderMessaging.Transcript
open OrderMessaging.Interleaving OrderMessaging.Relation OrderMessaging.ClaimLedger
open OrderMessaging.Contracts.Models OrderMessaging.Contracts.Reference
open OrderMessaging.Processing.PostgresOrderStore OrderMessaging.Processing.OrderLedger
open OrderMessaging.Processing.StoreOperations OrderMessaging.Processing.KafkaCollaborators
open OrderMessaging.Processing.RetryAndDeadLetter OrderMessaging.Processing.KafkaDelivery
open OrderMessaging.Processing.DeliveryOutcome OrderMessaging.Processing.DecodeAgreement
open OrderMessaging.Processing.DeliveryConfluence OrderMessaging.Processing.DeliveryTranscript
open OrderMessaging.Processing.DeliveryFailure

set_option autoImplicit false

/-- One `process_one` call of one consumer. -/
structure Turn where
  consumer : KafkaOrderConsumer
  timeoutSeconds : ℚ
  polls : Nat

abbrev Consumers := System Exc Op.Ret ProcessedKafkaRecord World

section Runs

variable (runtime : Runtime)

def Turn.program (turn : Turn) : Prog Exc Op.Ret ProcessedKafkaRecord :=
  processOne runtime turn.consumer turn.timeoutSeconds turn.polls

/-- The consumers after these steps, over a freshly initialised store. -/
def consumers (labels : List (Label Turn Op.Choice)) : Consumers :=
  run exec (Turn.program runtime) labels (System.idle emptyWorld)

/-- From its completion on, the event's row is completed and its order the same. -/
def Permanent (labels : List (Label Turn Op.Choice)) (eventId : Uuid) : Prop :=
  ∀ early middle late, labels = early ++ middle ++ late →
    eventId ∈ (consumers runtime early).world.database.completions →
      Completed (consumers runtime (early ++ middle)).world.database.tables eventId ∧
      ∃ row, orderOfEvent (consumers runtime early).world.database.tables eventId = some row ∧
        orderOfEvent (consumers runtime (early ++ middle)).world.database.tables eventId = some row

/-- The delivery that the thread is in has failed for good on a record of the event,
as far as it has been answered. -/
def FailedDelivery (labels : List (Label Turn Op.Choice)) (thread : Nat) (eventId : Uuid) : Prop :=
  ∃ turn calls, heard exec (Turn.program runtime) labels emptyWorld thread = some (turn, calls) ∧
    FailedFor runtime turn.consumer calls eventId

/-- No delivery of the event that has failed for good goes on, with a store that
answers its next call, after the event was completed. -/
def NoLateFailure (labels : List (Label Turn Op.Choice)) (eventId : Uuid) : Prop :=
  ∀ early thread answer late, labels = early ++ .advance thread answer :: late →
    eventId ∈ (consumers runtime early).world.database.completions →
    FailedDelivery runtime early thread eventId →
      answer (.order (.discard eventId)) ≠ none

/-- The step is a `discard` of the event that does not raise. -/
def Discards (system : Consumers) (label : Label Turn Op.Choice) (eventId : Uuid) : Prop :=
  callOf system label = some ⟨.order (.discard eventId), (none : Option Exc)⟩

/-- No step of the run discards the event while its row is completed. -/
def SparesCompleted (labels : List (Label Turn Op.Choice)) (eventId : Uuid) : Prop :=
  ∀ early label late, labels = early ++ label :: late →
    Completed (consumers runtime early).world.database.tables eventId →
      ¬ Discards (consumers runtime early) label eventId

theorem consumers_snoc (labels : List (Label Turn Op.Choice)) (label : Label Turn Op.Choice) :
    consumers runtime (labels ++ [label]) =
      step exec (Turn.program runtime) (consumers runtime labels) label := by
  rw [consumers, run_append]
  rfl

end Runs

section Invariants

variable {runtime : Runtime} {eventId : Uuid}

/-- A step changes the database by one store operation, or not at all. -/
theorem step_database (runtime : Runtime) (system : Consumers) (label : Label Turn Op.Choice) :
    (∃ storeOp failure, callOf system label = some ⟨.order storeOp, failure⟩ ∧
      (step exec (Turn.program runtime) system label).world.database =
        (storeOp.run failure system.world.database).2) ∨
    (step exec (Turn.program runtime) system label).world.database = system.world.database := by
  rw [step_world]
  cases called : callOf system label with
  | none => exact .inr rfl
  | some call =>
      obtain ⟨op, choice⟩ := call
      rcases exec_database op choice system.world with ⟨storeOp, failure, same, changed⟩ | unchanged
      · exact .inl ⟨storeOp, failure, congrArg some same, changed⟩
      · exact .inr unchanged

theorem step_tracked (runtime : Runtime) {system : Consumers} (tracked : Tracked system.world)
    (label : Label Turn Op.Choice) :
    Tracked (step exec (Turn.program runtime) system label).world := by
  rw [step_world]
  cases callOf system label with
  | none => exact tracked
  | some call => exact exec_tracked tracked call.1 call.2

theorem run_tracked (runtime : Runtime) (labels : List (Label Turn Op.Choice)) :
    Tracked (consumers runtime labels).world := by
  induction labels using List.reverseRecOn with
  | nil => exact empty_tracked
  | append_singleton labels label ih =>
      rw [consumers_snoc]
      exact step_tracked runtime ih label

/-- What a step that spares the completed event preserves. -/
theorem step_keeps (runtime : Runtime) {system : Consumers} (tracked : Tracked system.world)
    {label : Label Turn Op.Choice}
    (completed : Completed system.world.database.tables eventId)
    (spared : ¬ Discards system label eventId) :
    Completed (step exec (Turn.program runtime) system label).world.database.tables eventId ∧
      orderOfEvent (step exec (Turn.program runtime) system label).world.database.tables eventId =
        orderOfEvent system.world.database.tables eventId := by
  obtain ⟨⟨ledger, holds⟩, _⟩ := tracked
  rcases step_database runtime system label with ⟨op, failure, called, changed⟩ | unchanged
  · rw [changed]
    apply run_keeps holds op failure completed
    intro succeeded discards
    rw [succeeded, discards] at called
    exact spared called
  · rw [unchanged]
    exact ⟨completed, rfl⟩

theorem step_discards {system : Consumers} (tracked : Tracked system.world)
    {label : Label Turn Op.Choice} (discards : Discards system label eventId) :
    ¬ Completed (step exec (Turn.program runtime) system label).world.database.tables eventId := by
  obtain ⟨⟨ledger, holds⟩, _⟩ := tracked
  obtain ⟨reached, ran, represented⟩ := discard_refines holds eventId
  have changed : (step exec (Turn.program runtime) system label).world.database.tables =
      reached := by
    rw [step_world, discards]
    simp only [exec, StoreOp.run, ran]
  rw [changed]
  intro completed
  obtain ⟨entry, held, _⟩ := (completed_iff represented eventId).mp completed
  rw [apply_forget] at held
  cases held

end Invariants

section Permanence

variable (runtime : Runtime) {labels : List (Label Turn Op.Choice)} {eventId : Uuid}

theorem spares_mono {early late : List (Label Turn Op.Choice)}
    (spares : SparesCompleted runtime (early ++ late) eventId) :
    SparesCompleted runtime early eventId := by
  intro first label rest split
  subst split
  apply spares first label (rest ++ late)
  rw [List.append_assoc, List.cons_append]

/-- In a run that spares it, every event that was ever completed still is. -/
theorem spared_completed (spares : SparesCompleted runtime labels eventId)
    (member : eventId ∈ (consumers runtime labels).world.database.completions) :
    Completed (consumers runtime labels).world.database.tables eventId := by
  induction labels using List.reverseRecOn with
  | nil => cases member
  | append_singleton labels label ih =>
      have tracked : Tracked (consumers runtime labels).world := run_tracked runtime labels
      obtain ⟨ledger, holds⟩ := tracked.paired
      have spared := spares labels label [] rfl
      have still : eventId ∈ (consumers runtime labels).world.database.completions →
          Completed (consumers runtime (labels ++ [label])).world.database.tables eventId := by
        intro before
        have completed := ih (spares_mono runtime spares) before
        rw [consumers_snoc]
        exact (step_keeps runtime tracked completed (spared completed)).1
      rw [consumers_snoc] at member still ⊢
      rcases step_database runtime (consumers runtime labels) label with
        ⟨op, failure, _, changed⟩ | unchanged
      · rw [changed] at member still ⊢
        rcases run_completions holds op failure member with before | completed
        · exact still before
        · exact completed
      · rw [unchanged] at member
        exact still member

theorem spared_order {early middle : List (Label Turn Op.Choice)}
    (spares : SparesCompleted runtime (early ++ middle) eventId)
    (completed : Completed (consumers runtime early).world.database.tables eventId) :
    Completed (consumers runtime (early ++ middle)).world.database.tables eventId ∧
      orderOfEvent (consumers runtime (early ++ middle)).world.database.tables eventId =
        orderOfEvent (consumers runtime early).world.database.tables eventId := by
  induction middle using List.reverseRecOn with
  | nil =>
      rw [List.append_nil]
      exact ⟨completed, rfl⟩
  | append_singleton middle label ih =>
      rw [← List.append_assoc] at spares ⊢
      obtain ⟨still, same⟩ := ih (spares_mono runtime spares)
      have tracked : Tracked (consumers runtime (early ++ middle)).world := run_tracked runtime _
      have spared := spares (early ++ middle) label [] rfl still
      obtain ⟨kept, unchanged⟩ := step_keeps runtime tracked still spared
      rw [consumers_snoc]
      exact ⟨kept, unchanged.trans same⟩

theorem permanent_iff_spares (runtime : Runtime) (labels : List (Label Turn Op.Choice))
    (eventId : Uuid) :
    Permanent runtime labels eventId ↔ SparesCompleted runtime labels eventId := by
  constructor
  · intro permanent early label late split completed discards
    have tracked : Tracked (consumers runtime early).world := run_tracked runtime early
    have member := tracked.marked eventId completed
    have whole : labels = early ++ [label] ++ late := by
      rw [split, List.append_assoc, List.singleton_append]
    obtain ⟨still, _⟩ := permanent early [label] late whole member
    rw [consumers_snoc] at still
    exact step_discards tracked discards still
  · intro spares early middle late split member
    subst split
    have spared := spares_mono runtime spares
    have completed := spared_completed runtime (spares_mono runtime spared) member
    obtain ⟨still, same⟩ := spared_order runtime spared completed
    obtain ⟨ledger, holds⟩ := (run_tracked runtime early).paired
    obtain ⟨entry, held, _⟩ := (completed_iff holds eventId).mp completed
    have listed := holds.orders eventId
    rw [held, Option.map_some] at listed
    exact ⟨still, entry.record, listed, same.trans listed⟩

/-- The step of a thread discards the event exactly when its delivery has failed for
good on a record of the event and the store answers. -/
theorem discards_iff {thread : Nat} {answer : (op : Op) → op.Choice} :
    Discards (consumers runtime labels) (.advance thread answer) eventId ↔
      FailedDelivery runtime labels thread eventId ∧ answer (.order (.discard eventId)) = none := by
  have recorded : Recorded exec (Turn.program runtime) (consumers runtime labels)
      (heard exec (Turn.program runtime) labels emptyWorld) := run_recorded labels emptyWorld
  constructor
  · intro discards
    cases held : (consumers runtime labels).threads thread with
    | none =>
        simp only [Discards, callOf, held] at discards
        cases discards
    | some running =>
        cases running with
        | done outcome =>
            simp only [Discards, callOf, held] at discards
            cases discards
        | call op next =>
            obtain ⟨turn, calls, rest, outcome, said, further, whole, answered⟩ :=
              recorded_continues recorded answer held
            obtain ⟨reply, late, rfl, _⟩ := transcribes_call_iff.mp further
            simp only [Discards, callOf, held, Option.some.injEq, Sigma.mk.injEq] at discards
            obtain ⟨rfl, answers⟩ := discards
            refine ⟨⟨turn, calls, said, ?_⟩, eq_of_heq answers⟩
            exact discard_after_failure whole (local_calls_answered answered)
  · rintro ⟨⟨turn, calls, said, failed⟩, answers⟩
    cases held : (consumers runtime labels).threads thread with
    | none =>
        have silent := recorded thread
        rw [held, said] at silent
        cases silent
    | some running =>
        obtain ⟨own, first, rest, outcome, again, further, whole, answered⟩ :=
          recorded_continues recorded answer held
        cases said.symm.trans again
        obtain ⟨reply, late, rfl⟩ :=
          failure_then_discard whole (local_calls_answered answered) failed
        cases running with
        | done ended => cases (transcribes_done_iff.mp further).1
        | call op next =>
            obtain ⟨_, _, same, _⟩ := transcribes_call_iff.mp further
            cases same
            simp only [Discards, callOf, held, answers]

/-- A completed event is permanent exactly in the runs in which no delivery of it that
has failed for good goes on after its completion. -/
theorem permanent_iff_no_late_failure (runtime : Runtime) (labels : List (Label Turn Op.Choice))
    (eventId : Uuid) :
    Permanent runtime labels eventId ↔ NoLateFailure runtime labels eventId := by
  rw [permanent_iff_spares]
  constructor
  · intro spares early thread answer late split member failed answers
    have spared : SparesCompleted runtime early eventId := by
      rw [split] at spares
      exact spares_mono runtime spares
    have completed := spared_completed runtime spared member
    exact spares early _ late split completed ((discards_iff runtime).mpr ⟨failed, answers⟩)
  · intro noLate early label late split completed discards
    have member := (run_tracked runtime early).marked eventId completed
    cases label with
    | start thread input => cases discards
    | stop thread => cases discards
    | advance thread answer =>
        obtain ⟨failed, answers⟩ := (discards_iff runtime).mp discards
        exact noLate early thread answer late split member failed answers

end Permanence

section Redelivery

variable {runtime : Runtime} {message : Message} {payload : PyVal} {event : OrderCreatedEvent}

def deadLetteringConsumer : KafkaOrderConsumer :=
  ⟨"order-consumers", "orders", true, defaultRetryPolicy, some "orders.dlq"⟩

def oneTurn : Turn := ⟨deadLetteringConsumer, 10, 1⟩

/-- A redelivery whose store call raises. -/
def storeRaises (message : Message) (fault : Exc) : (op : Op) → op.Choice
  | .order (.store _) => some fault
  | op => smoothEnv message 0 op

/-- The record is delivered once without failure. -/
def firstDelivery (runtime : Runtime) (message : Message) : List (Label Turn Op.Choice) :=
  .start 0 oneTurn ::
    drive exec 0 (smoothEnv message) 0 (oneTurn.program runtime) emptyWorld

/-- The record is polled again, and its store call raises. -/
def failedRedelivery (message : Message) (fault : Exc) : List (Label Turn Op.Choice) :=
  [.start 0 oneTurn, .advance 0 (storeRaises message fault), .advance 0 (storeRaises message fault)]

theorem first_delivery_completes (storable : Storable [event]) (sound : message.error = none)
    (decoded : decodeValue runtime message.value = .ok (payload, event)) :
    Completed (consumers runtime (firstDelivery runtime message)).world.database.tables
        event.eventId ∧
      (consumers runtime (firstDelivery runtime message)).threads 0 = none := by
  have paired : ∃ ledger, Represents emptyWorld.database.tables ledger :=
    ⟨fun _ => none, represents_empty⟩
  have delivered := process_one_delivers runtime deadLetteringConsumer 10 1 paired
  obtain ⟨_, ended⟩ := execute_upholds (smoothEnv message) 0 delivered
  obtain ⟨record, lettered, returned, received⟩ :=
    smooth_returns (some "orders.dlq") storable (List.mem_singleton_self event) sound decoded
      empty_clean
  have outcome : Ended runtime deadLetteringConsumer emptyWorld
      ((smoothDelivery (some "orders.dlq") message).execution runtime emptyWorld).outcome
      ((smoothDelivery (some "orders.dlq") message).execution runtime emptyWorld).final := ended
  rw [returned] at outcome
  obtain ⟨handled, finished⟩ := outcome
  have sameMessage : handled = message := by
    have receivedTwice := finished.received.symm.trans received
    injection receivedTwice
  subst sameMessage
  obtain ⟨_, other, again, completed, _⟩ := finished.completed lettered
  rw [decoded] at again
  cases again
  have idle : (System.idle emptyWorld : Consumers).threads 0 = none := rfl
  have started := step_start_thread exec (Turn.program runtime) idle oneTurn
  have driven := run_drive exec (Turn.program runtime) 0 (smoothEnv handled) 0 started
  have final : consumers runtime (firstDelivery runtime handled) = _ := driven
  rw [final]
  refine ⟨completed, ?_⟩
  simp only [Function.update_self]

theorem turn_polls (runtime : Runtime) (message : Message) :
    ∃ next, oneTurn.program runtime = .call .poll next ∧
    next (.ok (some message)) = process runtime deadLetteringConsumer message := by
  have positive : ¬ (oneTurn.timeoutSeconds ≤ 0) := by
    simp only [oneTurn]
    norm_num
  unfold Turn.program processOne
  rw [if_neg positive]
  exact ⟨_, rfl, rfl⟩

theorem process_stores (sound : message.error = none)
    (decoded : decodeValue runtime message.value = .ok (payload, event)) (fault : Exc) :
    ∃ next, process runtime deadLetteringConsumer message = .call (.order (.store event)) next ∧
      ∃ after, next (.error fault) = .call (.order (.discard event.eventId)) after := by
  unfold process
  simp only [sound, decoded]
  rw [retryLoop]
  refine ⟨_, rfl, ?_⟩
  have last : ¬ (deadLetteringConsumer.retryPolicy.isRetryable fault = true ∧
      0 + 1 < deadLetteringConsumer.retryPolicy.maxAttempts) := by
    intro again
    exact absurd again.2 (Nat.lt_irrefl 1)
  simp only [Prog.attempt, Prog.bind, Prog.pure_eq, if_neg last]
  exact ⟨_, rfl⟩

/-- After a failed store call the delivery gives up, and its next call is the discard. -/
theorem failed_redelivery_discards (fault : Exc) {system : Consumers}
    (idle : system.threads 0 = none) (sound : message.error = none)
    (decoded : decodeValue runtime message.value = .ok (payload, event)) :
    Discards (run exec (Turn.program runtime) (failedRedelivery message fault) system)
      (.advance 0 (storeRaises message fault)) event.eventId := by
  obtain ⟨polled, begins, received⟩ := turn_polls runtime message
  obtain ⟨stored, processed, after, gaveUp⟩ := process_stores sound decoded fault
  have begun := step_start_thread exec (Turn.program runtime) idle oneTurn
  rw [begins] at begun
  have storing := step_advance_thread exec (Turn.program runtime) begun (storeRaises message fault)
  simp only [exec, storeRaises, smoothEnv, received, processed] at storing
  have discarding :=
    step_advance_thread exec (Turn.program runtime) storing (storeRaises message fault)
  simp only [exec, storeRaises, StoreOp.run, gaveUp] at discarding
  simp only [failedRedelivery, run, List.foldl_cons, List.foldl_nil, Discards, callOf]
  rw [discarding]
  rfl

/-- The record is delivered, and then redelivered while the store fails. -/
def redelivery (runtime : Runtime) (message : Message) (fault : Exc) :
    List (Label Turn Op.Choice) :=
  firstDelivery runtime message ++ failedRedelivery message fault ++
    [.advance 0 (storeRaises message fault)]

theorem redelivery_not_permanent (storable : Storable [event]) (sound : message.error = none)
    (decoded : decodeValue runtime message.value = .ok (payload, event)) (fault : Exc) :
    ¬ Permanent runtime (redelivery runtime message fault) event.eventId := by
  intro permanent
  obtain ⟨completed, idle⟩ := first_delivery_completes storable sound decoded
  have member := (run_tracked runtime _).marked event.eventId completed
  have discards := failed_redelivery_discards fault idle sound decoded
  obtain ⟨still, _⟩ := permanent (firstDelivery runtime message)
    (failedRedelivery message fault ++ [.advance 0 (storeRaises message fault)]) [] (by
      rw [List.append_nil, ← List.append_assoc]
      rfl) member
  have reached :
      consumers runtime (firstDelivery runtime message ++ failedRedelivery message fault) =
      run exec (Turn.program runtime) (failedRedelivery message fault)
        (consumers runtime (firstDelivery runtime message)) := run_append exec _ _ _ _
  rw [← List.append_assoc, consumers_snoc] at still
  rw [← reached] at discards
  exact step_discards (run_tracked runtime _) discards still

end Redelivery

def unreachable : Exc := ⟨runtimeError, "database unreachable"⟩

/-- A redelivery during a store outage deletes a completed order. -/
theorem completed_order_discarded :
    ¬ Permanent referenceRuntime
      (redelivery referenceRuntime (orderMessage (encodeUtf8 orderBody)) unreachable)
      documentedEvent.eventId := by
  obtain ⟨payload, decoded⟩ := order_message_decoded
  have storable := documented_storable
  have sound : (orderMessage (encodeUtf8 orderBody)).error = none := rfl
  revert decoded sound storable
  generalize orderMessage (encodeUtf8 orderBody) = message
  generalize documentedEvent = event
  intro decoded storable sound
  exact redelivery_not_permanent storable sound decoded unreachable

end OrderMessaging.Processing.CompletionPermanence
