import OrderMessaging.Processing.DeliveryConfluence
import OrderMessaging.Processing.DeadLetterEnvelope
import OrderMessaging.Processing.RetryAccounting

/-!
What becomes of an order that the downstream service has been told about. The
handler of the retry loop does not ask how far the attempt came: when the last
step of a delivery fails for good, the order is discarded and its event
dead-lettered, also after an accepted notification.
-/

namespace OrderMessaging.Processing.AcceptedNotification

open OrderMessaging.PyText OrderMessaging.PyException OrderMessaging.PyValue
open OrderMessaging.JsonText OrderMessaging.Program OrderMessaging.Transcript
open OrderMessaging.Contracts.Models
open OrderMessaging.Contracts.Reference OrderMessaging.Processing.PostgresOrderStore
open OrderMessaging.Processing.StoreOperations OrderMessaging.Processing.KafkaCollaborators
open OrderMessaging.Processing.RetryAndDeadLetter OrderMessaging.Processing.KafkaDelivery
open OrderMessaging.Processing.DecodeAgreement OrderMessaging.Processing.DeliveryConfluence
open OrderMessaging.Processing.DeliveryTranscript OrderMessaging.Processing.RetryAccounting
open OrderMessaging.Processing.DeadLetterEnvelope

set_option autoImplicit false

/-- No event whose notification was accepted is discarded, and nothing is
dead-lettered after one. -/
def NotUndone (calls : Calls) : Prop :=
  ∀ event, ⟨.notify event, .ok ()⟩ ∈ calls →
    (∀ answer, ⟨.order (.discard event.eventId), answer⟩ ∉ calls) ∧
    ∀ record answer, ⟨.produce record, answer⟩ ∉ calls

def raised (exchange : Exchange Exc Op.Ret) : Bool :=
  match exchange.answer with
  | .ok _ => false
  | .error _ => true

/-- The last store, notification or completion call of the delivery raised. -/
def LastEffectRaised (calls : Calls) : Prop :=
  ∃ exchange, (effectCalls calls).getLast? = some exchange ∧ raised exchange = true

section Endings

variable {runtime : Runtime} {consumer : KafkaOrderConsumer} {message : Message}
variable {payload : PyVal} {event : OrderCreatedEvent}

theorem raised_iff {op : Op} {answer : Except Exc op.Ret} :
    raised ⟨op, answer⟩ = true ↔ ∃ fault, answer = .error fault := by
  cases answer <;> simp [raised]

/-- An attempt fails with what its last call raises. -/
theorem attempt_last (consumer : KafkaOrderConsumer) (event : OrderCreatedEvent)
    (answers : AttemptAnswers) :
    ∃ op answer, (answers.calls consumer event).getLast? = some ⟨op, answer⟩ ∧
      ∀ cause, answers.outcome consumer = .error cause ↔ answer = .error cause := by
  cases stored : answers.store with
  | error fault =>
      obtain ⟨calls, ended⟩ := attempt_failed consumer event stored
      rw [calls, ended]
      exact ⟨_, _, rfl, by simp⟩
  | ok result =>
      obtain ⟨calls, ended⟩ := attempt_stored consumer event stored
      rw [calls, ended]
      by_cases required : result.downstreamRequired = true
      · rw [if_pos required, if_pos required, AttemptAnswers.downstreamCalls]
        by_cases hasDownstream : consumer.downstream = true
        · rw [if_pos hasDownstream, if_pos hasDownstream]
          cases answers.notify with
          | error fault => exact ⟨_, _, rfl, by simp [Except.bind]⟩
          | ok _ => exact ⟨_, _, rfl, fun _ => Iff.rfl⟩
        · rw [if_neg hasDownstream, if_neg hasDownstream]
          exact ⟨_, _, rfl, fun _ => Iff.rfl⟩
      · rw [if_neg required, if_neg required]
        exact ⟨_, _, rfl, by simp⟩

/-- What an attempt failed with is what its last call raised. -/
theorem attempt_fault_raised {answers : AttemptAnswers} {cause : Exc}
    (failed : answers.outcome consumer = .error cause) :
    ∃ op, ⟨op, .error cause⟩ ∈ answers.calls consumer event := by
  obtain ⟨op, answer, found, fails⟩ := attempt_last consumer event answers
  refine ⟨op, List.mem_of_getLast? ?_⟩
  rw [found, (fails cause).mp failed]

theorem effects_last (answers : AttemptAnswers) (rest : Calls)
    (quiet : effectCalls rest = []) :
    LastEffectRaised (answers.calls consumer event ++ rest) ↔
      ∃ cause, answers.outcome consumer = .error cause := by
  obtain ⟨op, answer, found, fails⟩ := attempt_last consumer event answers
  have effects : effectCalls (answers.calls consumer event ++ rest) =
      answers.calls consumer event := by
    rw [effect_calls_append, effect_calls_self (attempt_stage answers), quiet, List.append_nil]
  rw [LastEffectRaised, effects, found]
  simp [raised_iff, fails]

/-- The last effect of an attempt that the loop gave up on raised. -/
theorem gave_up_last {answers : AttemptAnswers} {attempts : Nat} {initialIsNew : Option Bool}
    {cause : Exc} {calls : Calls} {outcome : Except Exc ProcessedKafkaRecord}
    (failed : answers.outcome consumer = .error cause)
    (given : GivesUp runtime consumer message payload event attempts initialIsNew cause calls
      outcome) :
    LastEffectRaised (answers.calls consumer event ++ calls) :=
  (effects_last answers calls (effect_calls_nil fun exchange member =>
    (gives_up_quiet given exchange member).1)).mpr ⟨cause, failed⟩

/-- Only the notifications of the delivery's own event are attempted. -/
theorem attempt_own (answers : AttemptAnswers) (other : OrderCreatedEvent)
    (answer : Except Exc Unit) (member : ⟨.notify other, answer⟩ ∈ answers.calls consumer event) :
    other = event := by
  have group : AttemptGroup event (answers.calls consumer event) := attempt_group consumer answers
  obtain ⟨_, rest, same, own, _, _, _⟩ := group.shape
  rw [same] at member
  rcases List.mem_cons.mp member with head | later
  · cases head
  · rcases own _ later with notify | mark
    · cases notify
      rfl
    · cases mark

/-- How a delivery's loop ends, seen from its last effect. -/
structure LoopEnd (runtime : Runtime) (consumer : KafkaOrderConsumer) (event : OrderCreatedEvent)
    (calls : Calls) : Prop where
  own : ∀ other answer, ⟨.notify other, answer⟩ ∈ calls → other = event
  discarded : LastEffectRaised calls → consumer.deadLetterTopic.isSome = true →
    ∃ answer, ⟨.order (.discard event.eventId), answer⟩ ∈ calls
  kept : (¬LastEffectRaised calls ∨ consumer.deadLetterTopic = none) →
    ∀ exchange ∈ calls, stage exchange.op ≠ .discard ∧ stage exchange.op ≠ .publish

theorem last_effect_append {early late : Calls} (later : effectCalls late ≠ []) :
    LastEffectRaised (early ++ late) ↔ LastEffectRaised late := by
  rw [LastEffectRaised, effect_calls_append, List.getLast?_append_of_ne_nil _ later]
  rfl

/-- A retried attempt does not hold the last effect. -/
theorem retried_last (consumer : KafkaOrderConsumer) (event : OrderCreatedEvent)
    (answers : AttemptAnswers) (backoff : ℚ) {rest : Calls}
    (further : effectCalls rest ≠ []) :
    LastEffectRaised (answers.calls consumer event ++ ⟨.wait backoff, .ok ()⟩ :: rest) ↔
      LastEffectRaised rest := by
  have waited : effectCalls (⟨.wait backoff, .ok ()⟩ :: rest) = effectCalls rest := by
    simp [effectCalls, stage]
  rw [last_effect_append (by rw [waited]; exact further), LastEffectRaised, waited]
  rfl

theorem attempt_started (answers : AttemptAnswers) (rest : Calls) :
    effectCalls (answers.calls consumer event ++ rest) ≠ [] := by
  rw [effect_calls_append, effect_calls_self (attempt_stage answers)]
  simp [AttemptAnswers.calls]

theorem finished_end {answers : AttemptAnswers} (answer : Except Exc (List (Option Str)))
    (succeeded : answers.outcome consumer = .ok ()) :
    LoopEnd runtime consumer event (answers.calls consumer event ++ [⟨.commit message, answer⟩]) := by
  refine ⟨?_, ?_, ?_⟩
  · intro other reply member
    rcases List.mem_append.mp member with attempt | last
    · exact attempt_own answers other reply attempt
    · cases List.mem_singleton.mp last
  · intro failed
    obtain ⟨cause, contrary⟩ := (effects_last answers _ (by simp [effectCalls, stage])).mp failed
    rw [succeeded] at contrary
    cases contrary
  · intro _ exchange member
    rcases List.mem_append.mp member with attempt | last
    · simp [attempt_stage answers exchange attempt]
    · rw [List.mem_singleton.mp last]
      simp [stage]

theorem retried_end (answers : AttemptAnswers) {rest : Calls} (nonempty : effectCalls rest ≠ [])
    (ends : LoopEnd runtime consumer event rest) :
    LoopEnd runtime consumer event (answers.calls consumer event ++
      ⟨.wait consumer.retryPolicy.backoffSeconds, .ok ()⟩ :: rest) := by
  have last := retried_last consumer event answers consumer.retryPolicy.backoffSeconds nonempty
  refine ⟨?_, ?_, ?_⟩
  · intro other reply member
    rcases List.mem_append.mp member with attempt | late
    · exact attempt_own answers other reply attempt
    · rcases List.mem_cons.mp late with wait | later
      · cases wait
      · exact ends.own other reply later
  · intro raised publisher
    obtain ⟨answer, discarded⟩ := ends.discarded (last.mp raised) publisher
    exact ⟨answer, List.mem_append_right _ (List.mem_cons_of_mem _ discarded)⟩
  · intro spared exchange member
    rw [last] at spared
    rcases List.mem_append.mp member with attempt | late
    · simp [attempt_stage answers exchange attempt]
    · rcases List.mem_cons.mp late with rfl | later
      · simp [stage]
      · exact ends.kept spared exchange later

theorem gave_up_end {answers : AttemptAnswers} {attempts : Nat} {initialIsNew : Option Bool}
    {cause : Exc} {rest : Calls} {outcome : Except Exc ProcessedKafkaRecord}
    (failed : answers.outcome consumer = .error cause)
    (given : GivesUp runtime consumer message payload event attempts initialIsNew cause rest
      outcome) :
    LoopEnd runtime consumer event (answers.calls consumer event ++ rest) := by
  have last := gave_up_last failed given
  refine ⟨?_, ?_, ?_⟩
  · intro other reply member
    rcases List.mem_append.mp member with attempt | late
    · exact attempt_own answers other reply attempt
    · exact absurd rfl (gives_up_quiet given _ late).1
  · intro _ publisher
    cases given with
    | noPublisher absent =>
        rw [absent] at publisher
        cases publisher
    | undiscarded topic fault destination =>
        exact ⟨_, List.mem_append_right _ List.mem_cons_self⟩
    | deadLettered topic calls _ destination published =>
        exact ⟨_, List.mem_append_right _ List.mem_cons_self⟩
  · rintro (spared | absent) exchange member
    · exact absurd last spared
    · rcases List.mem_append.mp member with attempt | late
      · simp [attempt_stage answers exchange attempt]
      · cases given with
        | noPublisher _ => cases late
        | undiscarded topic fault destination =>
            rw [absent] at destination
            cases destination
        | deadLettered topic calls _ destination published =>
            rw [absent] at destination
            cases destination

/-- By induction on the attempts of the loop. -/
theorem loop_end {made : Nat} {initialIsNew : Option Bool} {calls : Calls}
    {outcome : Except Exc ProcessedKafkaRecord}
    (loops : Loops runtime consumer message payload event made initialIsNew calls outcome) :
    effectCalls calls ≠ [] ∧ LoopEnd runtime consumer event calls := by
  induction loops with
  | finished made initialIsNew answers answer succeeded =>
      exact ⟨attempt_started answers _, finished_end answer succeeded⟩
  | retried made initialIsNew answers cause rest outcome failed retries further ih =>
      obtain ⟨nonempty, ends⟩ := ih
      exact ⟨attempt_started answers _, retried_end answers nonempty ends⟩
  | gaveUp made initialIsNew answers cause rest outcome failed forGood given =>
      exact ⟨attempt_started answers _, gave_up_end failed given⟩

end Endings

/-- A delivery undoes an accepted notification exactly when its last effect raised
and a dead-letter publisher is there to hand the event to. -/
theorem not_undone_iff (runtime : Runtime) (consumer : KafkaOrderConsumer) (timeoutSeconds : ℚ)
    (polls : Nat) (calls : Calls) (outcome : Except Exc ProcessedKafkaRecord)
    (transcribed : Transcribes (processOne runtime consumer timeoutSeconds polls) calls outcome)
    (returned : LocalCallsReturn calls) :
    NotUndone calls ↔ ¬(consumer.deadLetterTopic.isSome = true ∧
      (∃ event, ⟨.notify event, .ok ()⟩ ∈ calls) ∧ LastEffectRaised calls) := by
  have unnotified : (∀ exchange ∈ calls, stage exchange.op ≠ .effect) →
      (NotUndone calls ↔ ¬(consumer.deadLetterTopic.isSome = true ∧
        (∃ event, ⟨.notify event, .ok ()⟩ ∈ calls) ∧ LastEffectRaised calls)) := by
    intro quiet
    constructor
    · rintro _ ⟨_, ⟨event, member⟩, _⟩
      exact quiet _ member rfl
    · intro _ event member
      exact absurd rfl (quiet _ member)
  rcases process_one_parts returned transcribed with
    ⟨message, polled, rest, rfl, receives, _, _, processed⟩ | ⟨receives, _⟩
  · have polledQuiet : ∀ exchange ∈ polled, stage exchange.op ≠ .effect := by
      intro exchange member
      simp [receives exchange member]
    cases processed with
    | broken error reported | invalid cause sound undecoded absent =>
        apply unnotified
        intro exchange member
        rw [List.append_nil] at member
        exact polledQuiet exchange member
    | invalidDeadLettered cause topic _ _ sound undecoded destination published =>
        apply unnotified
        intro exchange member
        rcases List.mem_append.mp member with inPolled | inRest
        · exact polledQuiet exchange inPolled
        · rcases dead_letters_stage published exchange inRest with publish | commit
          · simp [publish]
          · simp [commit]
    | looped payload event _ _ sound decoded loops =>
        obtain ⟨nonempty, ends⟩ := loop_end loops
        have inRest : ∀ exchange ∈ polled ++ rest, stage exchange.op ≠ .receive →
            exchange ∈ rest := by
          intro exchange member other
          rcases List.mem_append.mp member with inPolled | late
          · exact absurd (receives exchange inPolled) other
          · exact late
        rw [last_effect_append nonempty]
        constructor
        · rintro notUndone ⟨publisher, ⟨told, accepted⟩, raised⟩
          obtain ⟨answer, discarded⟩ := ends.discarded raised publisher
          have same := ends.own told _ (inRest _ accepted (by simp [stage]))
          rw [same] at accepted
          exact (notUndone event accepted).1 answer (List.mem_append_right polled discarded)
        · intro spared told accepted
          have kept : ¬LastEffectRaised rest ∨ consumer.deadLetterTopic = none := by
            by_cases raised : LastEffectRaised rest
            · right
              by_contra publisher
              exact spared ⟨Option.isSome_iff_ne_none.mpr publisher, ⟨told, accepted⟩, raised⟩
            · exact .inl raised
          constructor
          · intro answer discarded
            exact (ends.kept kept _ (inRest _ discarded (by simp [stage]))).1 rfl
          · intro record answer produced
            exact (ends.kept kept _ (inRest _ produced (by simp [stage]))).2 rfl
  · apply unnotified
    intro exchange member
    simp [receives exchange member]

section Undone

/-- A consumer with a dead-letter publisher and the default policy. -/
def letteringConsumer : KafkaOrderConsumer :=
  ⟨"order-consumers", "orders", true, defaultRetryPolicy, some "orders.dlq"⟩

def connectionLost : Exc := ⟨baseException.subclass "OperationalError", "connection lost"⟩

/-- The broker's report of one acknowledged record. -/
def acknowledgement : FlushReport := ⟨0, [.ok ⟨"orders.dlq", 0, 0, none⟩]⟩

/-- The calls of an acknowledged publication and of the commit after it. -/
def letteringCalls (message : Message) (record : DlqRecord) : Calls :=
  [⟨.uuid4, .ok ⟨0⟩⟩, ⟨.utcNow, .ok []⟩, ⟨.produce record, .ok ()⟩,
    ⟨.flush record, .ok acknowledgement⟩, ⟨.commit message, .ok []⟩]

/-- An acknowledged dead letter of any failure that can be presented. -/
theorem lettering_succeeds {message : Message} {originalPayload : PyVal} {error : Exc}
    {attempts : Nat} {event : Option OrderCreatedEvent} (duplicate : Bool)
    (presentable : Presentable (failureOf message originalPayload error attempts event))
    (keyed : TextKeyed originalPayload) :
    ∃ record returned, returned.deadLettered = true ∧
      dlqRecord referenceRuntime "orders.dlq"
        (failureOf message originalPayload error attempts event) ⟨0⟩ [] = .ok record ∧
      DeadLetters referenceRuntime letteringConsumer "orders.dlq" message
        (failureOf message originalPayload error attempts event) duplicate
        (letteringCalls message record) (.ok returned) := by
  obtain ⟨record, built⟩ := dlq_record_built reference_json "orders.dlq" presentable
    (wire_printable keyed ⟨0⟩ [])
  have published := Publishes.flushed ⟨0⟩ [] record acknowledgement built
  exact ⟨record, _, rfl, built, .concluded _ _ (.ok []) published⟩

/-- The calls of a delivery of a new order in which nothing fails. -/
def completedCalls (message : Message) (event : OrderCreatedEvent) : Calls :=
  [⟨.poll, .ok (some message)⟩, ⟨.order (.store event), .ok ⟨true, true⟩⟩,
    ⟨.notify event, .ok ()⟩, ⟨.order (.markCompleted event.eventId), .ok ()⟩,
    ⟨.commit message, .ok []⟩]

theorem completed_transcribes {message : Message} {payload : PyVal} {event : OrderCreatedEvent}
    (sound : message.error = none)
    (decoded : decodeValue referenceRuntime message.value = .ok (payload, event)) :
    ∃ returned, Transcribes (processOne referenceRuntime letteringConsumer 10 1)
      (completedCalls message event) (.ok returned) := by
  have finished : Loops referenceRuntime letteringConsumer message payload event 0 none _ _ :=
    .finished 0 none ⟨.ok ⟨true, true⟩, .ok (), .ok ()⟩ (.ok []) rfl
  exact ⟨_, transcribes_received (by norm_num)
    (.looped payload event _ _ sound decoded finished)⟩

/-- A delivery whose completion succeeded leaves its notification alone. -/
theorem completed_delivery_not_undone :
    NotUndone (completedCalls (orderMessage (encodeUtf8 orderBody)) documentedEvent) := by
  obtain ⟨payload, decoded⟩ := order_message_decoded
  have sound : (orderMessage (encodeUtf8 orderBody)).error = none := rfl
  generalize orderMessage (encodeUtf8 orderBody) = message at *
  generalize documentedEvent = event at *
  obtain ⟨returned, transcribed⟩ := completed_transcribes sound decoded
  refine (not_undone_iff referenceRuntime letteringConsumer 10 1 _ _ transcribed ?_).mpr ?_
  · simp [LocalCallsReturn, completedCalls, isLocal]
  · rintro ⟨_, _, exchange, last, failed⟩
    have effects : (effectCalls (completedCalls message event)).getLast? =
        some ⟨.order (.markCompleted event.eventId), .ok ()⟩ := rfl
    rw [effects] at last
    cases last
    cases failed

/-- The world answers so when nothing fails. -/
theorem lettering_plays (world : World) (message : Message) (record : DlqRecord) :
    Plays exec world (letteringCalls message record)
      (World.commit { world with acknowledged := record :: world.acknowledged } message) := by
  let lettered : World := { world with acknowledged := record :: world.acknowledged }
  refine plays_step (show exec .uuid4 ⟨0⟩ world = (.ok ⟨0⟩, world) from rfl) ?_
  refine plays_step (show exec .utcNow [] world = (.ok [], world) from rfl) ?_
  refine plays_step (show exec (.produce record) none world = (.ok (), world) from rfl) ?_
  refine plays_step (show exec (.flush record) (.ok acknowledgement) world =
    (.ok acknowledgement, lettered) from rfl) ?_
  exact plays_step (show exec (.commit message) (.ok []) lettered =
    (.ok [], lettered.commit message) from rfl) (.nil _)

/-- What the collaborators answer to a delivery whose completion fails. -/
def uncompletedAnswers : AttemptAnswers := ⟨.ok ⟨true, true⟩, .ok (), .error connectionLost⟩

/-- The delivery of a new order whose completion fails after the notification. -/
theorem uncompleted_processed {message : Message} {payload : PyVal} {event : OrderCreatedEvent}
    (sound : message.error = none) (topic : message.topic = ofString "orders")
    (decoded : decodeValue referenceRuntime message.value = .ok (payload, event)) :
    ∃ record returned, returned.deadLettered = true ∧
      Processes referenceRuntime letteringConsumer message
        (⟨.order (.store event), .ok ⟨true, true⟩⟩ :: ⟨.notify event, .ok ()⟩ ::
          ⟨.order (.markCompleted event.eventId), .error connectionLost⟩ ::
          ⟨.order (.discard event.eventId), .ok ()⟩ :: letteringCalls message record)
        (.ok returned) := by
  obtain ⟨text, _, read⟩ := decoded_read decoded
  have presentable : Presentable (failureOf message payload connectionLost 1 (some event)) :=
    failure_presentable (topic ▸ of_string_encodable "orders")
      (of_string_encodable "OperationalError") payload 1 (some event)
  obtain ⟨record, returned, lettered, _, deadLettered⟩ :=
    lettering_succeeds (some true = some false) presentable (loads_text_keyed read)
  have given := GivesUp.deadLettered "orders.dlq" _ _ rfl deadLettered
  have forGood : ¬Retries letteringConsumer connectionLost 1 := fun retries => by
    have allowed : 1 < 1 := retries.2
    omega
  exact ⟨record, returned, lettered, .looped payload event _ _ sound decoded
    (.gaveUp 0 none uncompletedAnswers connectionLost _ _ rfl forGood given)⟩

/-- The downstream service was told about the order, and then the delivery deleted
it and dead-lettered its event. -/
theorem accepted_notification_undone :
    ∃ env calls returned,
      transcript exec env (processOne referenceRuntime letteringConsumer 10 1) emptyWorld = calls ∧
      (execute exec env 0 (processOne referenceRuntime letteringConsumer 10 1)
        emptyWorld).outcome = .ok returned ∧ returned.deadLettered = true ∧
      documentedEvent.eventId ∈ (execute exec env 0
        (processOne referenceRuntime letteringConsumer 10 1) emptyWorld).final.notified ∧
      orderOfEvent (execute exec env 0 (processOne referenceRuntime letteringConsumer 10 1)
        emptyWorld).final.database.tables documentedEvent.eventId = none ∧
      ¬NotUndone calls := by
  obtain ⟨payload, decoded⟩ := order_message_decoded
  obtain ⟨row, fits⟩ := StoreFidelity.documented_row
  obtain ⟨record, returned, lettered, processed⟩ := uncompleted_processed rfl rfl decoded
  generalize orderMessage (encodeUtf8 orderBody) = message at *
  generalize documentedEvent = event at *
  have transcribed := @transcribes_received referenceRuntime letteringConsumer 10 0 _ _ _
    (by norm_num) processed
  obtain ⟨stored, _, storing, _⟩ := fresh_store_completes fits
  let world : World :=
    { emptyWorld with database := stored, received := [message], notified := [event.eventId] }
  let cleaned : World := { world with
    database.tables := dropClaims (dropOrders stored.tables event.eventId) event.eventId }
  have stores : exec (.order (.store event)) none { emptyWorld with received := [message] } =
      (.ok ⟨true, true⟩, { emptyWorld with received := [message], database := stored }) := by
    simp only [exec, emptyWorld, storing]
  have discards : exec (.order (.discard event.eventId)) none world = (.ok (), cleaned) := rfl
  have played : Plays exec emptyWorld
      (⟨.poll, .ok (some message)⟩ :: ⟨.order (.store event), .ok ⟨true, true⟩⟩ ::
        ⟨.notify event, .ok ()⟩ ::
        ⟨.order (.markCompleted event.eventId), .error connectionLost⟩ ::
        ⟨.order (.discard event.eventId), .ok ()⟩ :: letteringCalls message record)
      (World.commit { cleaned with acknowledged := [record] } message) := by
    refine plays_step (show exec .poll (.ok (some message)) emptyWorld =
      (.ok (some message), { emptyWorld with received := [message] }) from rfl) ?_
    refine plays_step stores ?_
    refine plays_step (show exec (.notify event) none _ = (.ok (), world) from rfl) ?_
    refine plays_step (show exec (.order (.markCompleted event.eventId)) (some connectionLost)
      world = (.error connectionLost, world) from rfl) ?_
    exact plays_step discards (lettering_plays cleaned message record)
  obtain ⟨env, said, ended, reached⟩ := exists_run exec transcribed (smoothEnv message 0) played
  refine ⟨env, _, returned, said, ended, lettered, ?_, ?_, ?_⟩
  · rw [reached]
    exact List.mem_cons_self
  · rw [reached]
    change orderOfEvent (dropOrders stored.tables event.eventId) event.eventId = none
    rw [order_of_drop_orders, if_pos rfl]
  · intro spared
    exact (spared event (by simp)).1 (.ok ()) (by simp)

end Undone

end OrderMessaging.Processing.AcceptedNotification
