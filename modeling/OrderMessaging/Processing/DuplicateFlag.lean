import OrderMessaging.Processing.AcceptedNotification

/-!
What the `duplicate` field of a processed record says. The first store call that
returns decides it: until then the delivery has not written anything, and the
handler keeps that first answer through every later attempt and into the
dead-letter exit.
-/

namespace OrderMessaging.Processing.DuplicateFlag

open OrderMessaging.PyText OrderMessaging.PyException OrderMessaging.PyValue
open OrderMessaging.Relation OrderMessaging.Program OrderMessaging.Transcript
open OrderMessaging.Contracts.Models OrderMessaging.Contracts.Reference
open OrderMessaging.Processing.PostgresOrderStore OrderMessaging.Processing.StoreOperations
open OrderMessaging.Processing.KafkaCollaborators OrderMessaging.Processing.RetryAndDeadLetter
open OrderMessaging.Processing.KafkaDelivery
open OrderMessaging.Processing.DecodeAgreement OrderMessaging.Processing.DeliveryConfluence
open OrderMessaging.Processing.DeliveryTranscript OrderMessaging.Processing.AcceptedNotification

set_option autoImplicit false

/-- The event has a row in `processed_events`, whatever its status. -/
def Known (event : OrderCreatedEvent) (world : World) : Prop :=
  ∃ row ∈ world.database.tables.processedEvents, row.eventId = event.eventId

section Calls

variable {event : OrderCreatedEvent} {world reached : World}

theorem store_reports {failure : Option Exc} {result : EventStoreResult}
    (stores : exec (.order (.store event)) failure world = (.ok result, reached)) :
    result.isNew = false ↔ Known event world := by
  cases failure with
  | some fault => cases stores
  | none =>
      have outcome := store_outcome event world.database.tables
      have answered : (store event world.database.tables).1 = .ok result :=
        congrArg Prod.fst stores
      rw [answered] at outcome
      generalize (store event world.database.tables).2 = tables at outcome
      cases outcome with
      | known claim held => exact iff_of_true rfl ⟨claim, lookup_eq_some.mp held⟩
      | written row fits fresh freshOrder freshSource =>
          refine iff_of_false Bool.noConfusion ?_
          rintro ⟨other, member, same⟩
          exact fresh other member same

theorem store_raises {failure : Option Exc} {fault : Exc}
    (stores : exec (.order (.store event)) failure world = (.error fault, reached)) :
    reached.database = world.database := by
  cases failure with
  | some raised =>
      cases stores
      rfl
  | none =>
      have outcome := store_outcome event world.database.tables
      have answered : (store event world.database.tables).1 = .error fault :=
        congrArg Prod.fst stores
      have left : { world.database with tables := (store event world.database.tables).2 } =
          reached.database := congrArg (fun reply => reply.2.database) stores
      rw [answered] at outcome
      rw [← left]
      generalize (store event world.database.tables).2 = tables at outcome
      cases outcome
      rfl

/-- Calls on other collaborators leave the database alone. -/
theorem plays_keep_database {calls : Calls} {final : World} (plays : Plays exec world calls final)
    (others : ∀ exchange ∈ calls, ∀ op, exchange.op ≠ .order op) :
    final.database = world.database := by
  induction plays with
  | nil world => rfl
  | cons op choice world final calls further ih =>
      have kept := ih fun exchange member => others exchange (List.mem_cons_of_mem _ member)
      rcases exec_database op choice world with ⟨storeOp, failure, same, _⟩ | unchanged
      · cases same
        exact absurd rfl (others _ List.mem_cons_self storeOp)
      · rw [kept, unchanged]

end Calls

section Flag

variable {runtime : Runtime} {consumer : KafkaOrderConsumer} {message : Message}
variable {payload : PyVal} {event : OrderCreatedEvent} {known : Prop}

/-- What the handler remembers of its store calls, for an event that was `known`
or not when the delivery began: nothing, and then nothing was written, or the
first answer. -/
def Remembers (event : OrderCreatedEvent) (known : Prop) : Option Bool → World → Prop
  | none, world => Known event world ↔ known
  | some isNew, _ => isNew = false ↔ known

/-- One attempt keeps what is remembered true. -/
theorem attempt_remembers (answers : AttemptAnswers) {initialIsNew : Option Bool}
    {world reached : World} (plays : Plays exec world (answers.calls consumer event) reached)
    (remembers : Remembers event known initialIsNew world) :
    Remembers event known (initialIsNew.or answers.isNew) reached := by
  cases initialIsNew with
  | some isNew => exact remembers
  | none =>
      obtain ⟨failure, after, stores, further⟩ := (plays_cons_iff exec).mp plays
      cases stored : answers.store with
      | ok result =>
          rw [stored] at stores
          simp only [AttemptAnswers.isNew, stored]
          exact (store_reports stores).trans remembers
      | error fault =>
          rw [stored] at stores
          simp only [stored] at further
          cases further
          simp only [AttemptAnswers.isNew, stored, Option.none_or, Remembers, Known]
          rw [store_raises stores]
          exact remembers

/-- The only store call of an attempt is its first. -/
theorem attempt_stored {answers : AttemptAnswers} {other : OrderCreatedEvent}
    {result : EventStoreResult}
    (member : ⟨.order (.store other), .ok result⟩ ∈ answers.calls consumer event) :
    answers.isNew ≠ none := by
  intro unstored
  cases stored : answers.store with
  | ok answer =>
      simp only [AttemptAnswers.isNew, stored] at unstored
      cases unstored
  | error fault =>
      simp only [AttemptAnswers.calls, stored, List.mem_singleton] at member
      cases member

/-- An attempt that succeeds has stored the event. -/
theorem succeeded_stored {answers : AttemptAnswers}
    (succeeded : answers.outcome consumer = .ok ()) : answers.isNew ≠ none := by
  cases stored : answers.store with
  | ok answer => simp [AttemptAnswers.isNew, stored]
  | error fault =>
      simp only [AttemptAnswers.outcome, stored, Bind.bind, Except.bind] at succeeded
      cases succeeded

theorem dead_letters_duplicate {topic : Str} {failure : DeadLetterFailure} {duplicate : Bool}
    {calls : Calls} {record : ProcessedKafkaRecord}
    (lettered : DeadLetters runtime consumer topic message failure duplicate calls (.ok record)) :
    record.duplicate = duplicate := by
  generalize ended : (Except.ok record : Except Exc ProcessedKafkaRecord) = outcome at lettered
  cases lettered with
  | unpublished _ fault published => cases ended
  | concluded first receipt answer published =>
      cases mapped_ok ended.symm
      rfl

theorem finish_duplicate {attempts : Nat} {initialIsNew : Option Bool}
    {answer : Except Exc (List (Option Str))} {record : ProcessedKafkaRecord}
    (finished : finishOutcome consumer message event attempts initialIsNew answer = .ok record) :
    record.duplicate = decide (initialIsNew = some false) := by
  cases mapped_ok finished
  rfl

/-- What the handler remembers when it leaves the loop is what the record says. -/
theorem remembered_duplicate {initialIsNew : Option Bool} {world : World} {duplicate : Bool}
    (stored : initialIsNew ≠ none) (remembers : Remembers event known initialIsNew world)
    (flag : duplicate = decide (initialIsNew = some false)) : duplicate = true ↔ known := by
  cases initialIsNew with
  | none => exact absurd rfl stored
  | some isNew =>
      rw [flag, decide_eq_true_iff, Option.some.injEq]
      exact remembers

theorem loops_duplicate {made : Nat} {initialIsNew : Option Bool} {calls : Calls}
    {outcome : Except Exc ProcessedKafkaRecord}
    (loops : Loops runtime consumer message payload event made initialIsNew calls outcome)
    {world final : World} (plays : Plays exec world calls final)
    (remembers : Remembers event known initialIsNew world) {record : ProcessedKafkaRecord}
    (returned : outcome = .ok record)
    (stored : initialIsNew ≠ none ∨
      ∃ other result, ⟨.order (.store other), .ok result⟩ ∈ calls) :
    record.duplicate = true ↔ known := by
  have learned : ∀ {initialIsNew : Option Bool} {answers : AttemptAnswers},
      initialIsNew ≠ none ∨ answers.isNew ≠ none → initialIsNew.or answers.isNew ≠ none := by
    intro initialIsNew answers either
    rw [ne_eq, Option.or_eq_none_iff]
    tauto
  induction loops generalizing world with
  | finished made initialIsNew answers answer succeeded =>
      obtain ⟨reached, attempted, _⟩ := (plays_append_iff exec).mp plays
      exact remembered_duplicate (learned (.inr (succeeded_stored succeeded)))
        (attempt_remembers answers attempted remembers) (finish_duplicate returned)
  | retried made initialIsNew answers cause rest outcome failed retries further ih =>
      obtain ⟨reached, attempted, later⟩ := (plays_append_iff exec).mp plays
      obtain ⟨_, after, waits, resumed⟩ := (plays_cons_iff exec).mp later
      cases waits
      refine ih resumed (attempt_remembers answers attempted remembers) returned ?_
      rcases stored with before | ⟨other, result, member⟩
      · exact .inl (learned (.inl before))
      · rcases List.mem_append.mp member with own | late
        · exact .inl (learned (.inr (attempt_stored own)))
        · rcases List.mem_cons.mp late with wait | again
          · cases wait
          · exact .inr ⟨other, result, again⟩
  | gaveUp made initialIsNew answers cause rest outcome failed forGood given =>
      obtain ⟨reached, attempted, _⟩ := (plays_append_iff exec).mp plays
      have remembered := attempt_remembers answers attempted remembers
      have known : initialIsNew.or answers.isNew ≠ none := by
        rcases stored with before | ⟨other, result, member⟩
        · exact learned (.inl before)
        · rcases List.mem_append.mp member with own | late
          · exact learned (.inr (attempt_stored own))
          · exact absurd rfl (gives_up_quiet given _ late).1
      subst returned
      generalize ended : (Except.ok record : Except Exc ProcessedKafkaRecord) = outcome at given
      cases given with
      | noPublisher absent => cases ended
      | undiscarded topic fault destination => cases ended
      | deadLettered topic calls _ destination published =>
          subst ended
          exact remembered_duplicate known remembered (dead_letters_duplicate published)

end Flag

/-- A delivery that stored its event and returned a record has `duplicate` set
exactly when the event had a row before the delivery began. -/
theorem duplicate_iff_known (runtime : Runtime) (consumer : KafkaOrderConsumer)
    (timeoutSeconds : ℚ) (polls : Nat) (env : Nat → (op : Op) → op.Choice) (world : World)
    (message : Message) (payload : PyVal) (event : OrderCreatedEvent)
    (record : ProcessedKafkaRecord)
    (received : ⟨.poll, .ok (some message)⟩ ∈
      transcript exec env (processOne runtime consumer timeoutSeconds polls) world)
    (decoded : decodeValue runtime message.value = .ok (payload, event))
    (stored : ∃ other result, ⟨.order (.store other), .ok result⟩ ∈
      transcript exec env (processOne runtime consumer timeoutSeconds polls) world)
    (returned : (execute exec env 0 (processOne runtime consumer timeoutSeconds polls)
      world).outcome = .ok record) :
    record.duplicate = true ↔
      ∃ row ∈ world.database.tables.processedEvents, row.eventId = event.eventId := by
  have transcribed := transcript_transcribes exec env
    (processOne runtime consumer timeoutSeconds polls) world
  have plays := transcript_plays exec env (processOne runtime consumer timeoutSeconds polls) world
  have locals := transcript_local env (processOne runtime consumer timeoutSeconds polls) world
  generalize transcript exec env (processOne runtime consumer timeoutSeconds polls) world =
    calls at *
  rw [returned] at transcribed
  obtain ⟨polled, rest, rfl, receives, processed⟩ :=
    process_one_received locals received transcribed
  obtain ⟨begun, early, late⟩ := (plays_append_iff exec).mp plays
  have untouched : begun.database = world.database := by
    apply plays_keep_database early
    intro exchange member op same
    have polls := receives exchange member
    rw [same] at polls
    cases op <;> cases polls
  obtain ⟨other, result, member⟩ := stored
  have again : ⟨.order (.store other), .ok result⟩ ∈ rest := by
    rcases List.mem_append.mp member with inPolled | inRest
    · cases receives _ inPolled
    · exact inRest
  generalize ended : (Except.ok record : Except Exc ProcessedKafkaRecord) = outcome at processed
  cases processed with
  | broken error reported => cases ended
  | invalid cause sound undecoded absent => cases ended
  | invalidDeadLettered cause topic _ _ sound undecoded destination published =>
      rw [undecoded] at decoded
      cases decoded
  | looped payload' event' _ _ sound decoded' loops =>
      rw [decoded'] at decoded
      cases decoded
      refine loops_duplicate loops late ?_ ended.symm (.inr ⟨other, result, again⟩)
      simp only [Remembers, Known]
      rw [untouched]

/-- A first delivery of the documented order stores it and is no duplicate. -/
theorem first_delivery_no_duplicate :
    ∃ env record, (execute exec env 0 (processOne referenceRuntime letteringConsumer 10 1)
        emptyWorld).outcome = .ok record ∧
      (record.duplicate = true ↔ ∃ row ∈ emptyWorld.database.tables.processedEvents,
        row.eventId = documentedEvent.eventId) := by
  obtain ⟨payload, decoded⟩ := order_message_decoded
  obtain ⟨row, fits⟩ := StoreFidelity.documented_row
  have sound : (orderMessage (encodeUtf8 orderBody)).error = none := rfl
  generalize orderMessage (encodeUtf8 orderBody) = message at *
  generalize documentedEvent = event at *
  obtain ⟨record, transcribed⟩ := completed_transcribes sound decoded
  obtain ⟨stored, marked, storing, marking⟩ := fresh_store_completes fits
  let begun : World := { emptyWorld with received := [message] }
  let notified : World := { begun with database := stored, notified := [event.eventId] }
  have played : Plays exec emptyWorld (completedCalls message event)
      (World.commit { notified with database := marked } message) := by
    refine plays_step (show exec .poll (.ok (some message)) emptyWorld =
      (.ok (some message), begun) from rfl) ?_
    have stores : exec (.order (.store event)) none begun =
        (.ok ⟨true, true⟩, { begun with database := stored }) := by
      simp only [exec, begun, emptyWorld, storing]
    refine plays_step stores ?_
    refine plays_step (show exec (.notify event) none _ = (.ok (), notified) from rfl) ?_
    have marks : exec (.order (.markCompleted event.eventId)) none notified =
        (.ok (), { notified with database := marked }) := by
      simp only [exec, notified, marking]
    refine plays_step marks ?_
    exact plays_step (show exec (.commit message) (.ok []) { notified with database := marked } =
      (.ok [], _) from rfl) (.nil _)
  obtain ⟨env, said, ended, _⟩ := exists_run exec transcribed (smoothEnv message 0) played
  refine ⟨env, record, ended, ?_⟩
  refine duplicate_iff_known referenceRuntime letteringConsumer 10 1 env emptyWorld message payload
    event record ?_ decoded ⟨event, ⟨true, true⟩, ?_⟩ ended
  · rw [said]
    exact List.mem_cons_self
  · rw [said]
    exact List.mem_cons_of_mem _ List.mem_cons_self

end OrderMessaging.Processing.DuplicateFlag
