import OrderMessaging.Processing.KafkaDelivery

/-!
What one Kafka delivery has achieved whenever it commits and whenever it ends.
The delivery runs alone; every collaborator call may raise. An offset is
committed only for a record whose event is completed with its order, or whose
dead-letter envelope was acknowledged in this delivery.
-/

namespace OrderMessaging.Processing.DeliveryOutcome

open OrderMessaging.PyText OrderMessaging.PyException OrderMessaging.PyValue
open OrderMessaging.Program OrderMessaging.Relation OrderMessaging.ClaimLedger
open OrderMessaging.Contracts.Models OrderMessaging.Processing.PostgresOrderStore
open OrderMessaging.Processing.OrderLedger OrderMessaging.Processing.StoreHistory
open OrderMessaging.Processing.StoreOperations OrderMessaging.Processing.KafkaCollaborators
open OrderMessaging.Processing.RetryAndDeadLetter OrderMessaging.Processing.KafkaDelivery

set_option autoImplicit false

section Outcomes

variable (runtime : Runtime) (consumer : KafkaOrderConsumer)

/-- A record on the dead-letter topic whose envelope names this source record. -/
def EnvelopeFor (deadLetterTopic : Str) (message : Message) (record : DlqRecord) : Prop :=
  ∃ failure deadLetterId isoformat, failure.sourceTopic = message.topic ∧
    failure.sourcePartition = message.partition ∧ failure.sourceOffset = message.offset ∧
    dlqRecord runtime deadLetterTopic failure deadLetterId isoformat = .ok record

/-- The record's event is completed and its order row exists. -/
def EffectsDone (message : Message) (world : World) : Prop :=
  ∃ payload event, decodeValue runtime message.value = .ok (payload, event) ∧
    Completed world.database.tables event.eventId ∧
    ∃ row ∈ world.database.tables.orders, row.sourceEventId = event.eventId

/-- An envelope for the record was acknowledged since `start`. -/
def DeadLettered (start : World) (message : Message) (world : World) : Prop :=
  ∃ deadLetterTopic record, consumer.deadLetterTopic = some deadLetterTopic ∧
    EnvelopeFor runtime deadLetterTopic message record ∧
    world.acknowledged = record :: start.acknowledged

/-- No row of the record's event is left, if it has an event. -/
def NothingLeft (message : Message) (world : World) : Prop :=
  ∀ payload event, decodeValue runtime message.value = .ok (payload, event) →
    (∀ claim ∈ world.database.tables.processedEvents, claim.eventId ≠ event.eventId) ∧
    (∀ row ∈ world.database.tables.orders, row.sourceEventId ≠ event.eventId)

/-- What must hold when a commit is attempted. -/
def CommitAllowed (start : World) (message : Message) (world : World) : Prop :=
  message.error = none ∧ world.received = message :: start.received ∧
    (EffectsDone runtime message world ∨ DeadLettered runtime consumer start message world)

def Ready (start : World) : Op → World → Prop
  | .commit message, world => CommitAllowed runtime consumer start message world
  | _, _ => True

/-- How a delivery that received `message` and returned `record` leaves the world. -/
structure Finished (start : World) (message : Message) (record : ProcessedKafkaRecord)
    (final : World) : Prop where
  sound : message.error = none
  received : final.received = message :: start.received
  named : record.topic = message.topic ∧ record.partition = message.partition ∧
    record.offset = message.offset
  offset : final.committed = (start.commit message).committed
  completed : record.deadLettered = false → EffectsDone runtime message final
  deadLettered : record.deadLettered = true →
    DeadLettered runtime consumer start message final ∧ NothingLeft runtime message final

def Concluded (start : World) (message : Message) :
    Except Exc ProcessedKafkaRecord → World → Prop
  | .ok record, final => Finished runtime consumer start message record final
  | .error _, final => final.committed = start.committed

def Ended (start : World) : Except Exc ProcessedKafkaRecord → World → Prop
  | .ok record, final => ∃ message, Finished runtime consumer start message record final
  | .error _, final => final.committed = start.committed

end Outcomes

section Steps

variable {runtime : Runtime} {consumer : KafkaOrderConsumer} {start : World} {message : Message}

/-- The judgment of this module: a delivery alone, its commits checked. -/
abbrev Delivers (runtime : Runtime) (consumer : KafkaOrderConsumer) (start : World)
    {Value : Type} (post : Except Exc Value → World → Prop) (program : Prog Exc Op.Ret Value)
    (world : World) : Prop :=
  Upholds exec Eq (Ready runtime consumer start) post program world

/-- The record is in hand and nothing but the database has changed since `start`. -/
structure Underway (start : World) (message : Message) (world : World) : Prop where
  paired : ∃ ledger, Represents world.database.tables ledger
  sound : message.error = none
  received : world.received = message :: start.received
  acknowledged : world.acknowledged = start.acknowledged
  committed : world.committed = start.committed

theorem commit_delivers {world : World} (eventId : Str)
    (allowed : CommitAllowed runtime consumer start message world) :
    Delivers runtime consumer start
      (fun outcome final => match outcome with
        | .ok _ => final = world.commit message
        | .error _ => final = world)
      (commit message eventId) world := by
  unfold commit
  rw [Delivers, upholds_mapFault]
  have ready : Ready runtime consumer start (.commit message) world := allowed
  apply upholds_call ready
  intro answer
  cases answer with
  | error fault => rfl
  | ok partitions =>
      simp only [exec]
      by_cases accepted : commitAccepted partitions = true
      · have clean : partitions.filterMap id = [] := by
          apply List.filterMap_eq_nil_iff.mpr
          intro error member
          have none := List.all_eq_true.mp accepted error member
          exact Option.isNone_iff_eq_none.mp none
        rw [if_pos accepted, continues_ok, clean]
        rfl
      · rw [if_neg accepted, continues_ok]
        cases errors : partitions.filterMap id with
        | cons error rest => rfl
        | nil =>
            have clean := List.filterMap_eq_nil_iff.mp errors
            have all : commitAccepted partitions = true := by
              apply List.all_eq_true.mpr
              intro error member
              exact Option.isNone_iff_eq_none.mpr (clean error member)
            exact absurd all accepted

theorem publish_delivers {world : World} (deadLetterTopic : Str) (failure : DeadLetterFailure)
    (topic : failure.sourceTopic = message.topic)
    (partition : failure.sourcePartition = message.partition)
    (offset : failure.sourceOffset = message.offset) :
    Delivers runtime consumer start
      (fun outcome final => match outcome with
        | .ok _ => ∃ record, EnvelopeFor runtime deadLetterTopic message record ∧
            final = { world with acknowledged := record :: world.acknowledged }
        | .error _ => final.committed = world.committed)
      (publishFailure runtime deadLetterTopic failure) world := by
  unfold publishFailure
  apply upholds_call trivial
  intro deadLetterId
  apply upholds_call trivial
  intro isoformat
  apply (upholds_bind _ _ _ _).mpr
  rw [upholds_done]
  cases built : dlqRecord runtime deadLetterTopic failure deadLetterId isoformat with
  | error fault => rfl
  | ok record =>
      have envelope : EnvelopeFor runtime deadLetterTopic message record :=
        ⟨failure, deadLetterId, isoformat, topic, partition, offset, built⟩
      apply upholds_call trivial
      intro refused
      cases refused with
      | some fault => rfl
      | none =>
          apply upholds_call trivial
          intro answer
          cases answer with
          | error fault => rfl
          | ok report =>
              simp only [exec]
              by_cases silent : report.delivered = []
              · rw [if_pos silent, continues_ok, silent]
                split
                · rfl
                · rfl
              · rw [if_neg silent, continues_ok]
                split
                · cases delivered : report.delivered with
                  | nil => exact absurd delivered silent
                  | cons first rest =>
                      cases rest with
                      | nil => exact ⟨record, envelope, rfl⟩
                      | cons second others => rfl
                · rfl

theorem dead_letter_delivers {world : World} {deadLetterTopic : Str} {originalPayload : PyVal}
    {error : Exc} {attempts : Nat} {event : Option OrderCreatedEvent} {duplicate : Bool}
    (destination : consumer.deadLetterTopic = some deadLetterTopic)
    (underway : Underway start message world) (nothing : NothingLeft runtime message world) :
    Delivers runtime consumer start (Concluded runtime consumer start message)
      (deadLetter runtime consumer deadLetterTopic message originalPayload error attempts event
        duplicate) world := by
  unfold deadLetter
  apply (upholds_bind _ _ _ _).mpr
  apply upholds_mono (publish_delivers deadLetterTopic _ rfl rfl rfl)
  intro outcome published
  cases outcome with
  | error fault =>
      intro unchanged
      exact unchanged.trans underway.committed
  | ok receipt =>
      intro acknowledged
      obtain ⟨record, envelope, same⟩ := acknowledged
      subst same
      have acked : DeadLettered runtime consumer start message
          { world with acknowledged := record :: world.acknowledged } :=
        ⟨deadLetterTopic, record, destination, envelope, by rw [underway.acknowledged]⟩
      have allowed : CommitAllowed runtime consumer start message
          { world with acknowledged := record :: world.acknowledged } :=
        ⟨underway.sound, underway.received, .inr acked⟩
      apply (upholds_bind _ _ _ _).mpr
      apply upholds_mono (commit_delivers _ allowed)
      intro outcome final
      cases outcome with
      | error fault =>
          intro unchanged
          subst unchanged
          exact underway.committed
      | ok _ =>
          intro committed
          subst committed
          constructor
          case sound => exact underway.sound
          case received => exact underway.received
          case named => exact ⟨rfl, rfl, rfl⟩
          case offset =>
            simp only [World.commit, underway.committed]
          case completed =>
            intro contrary
            cases contrary
          case deadLettered =>
            intro _
            exact ⟨acked, nothing⟩

theorem finish_delivers {world : World} {event : OrderCreatedEvent} {attempts : Nat}
    {initialIsNew : Option Bool} (underway : Underway start message world)
    (done : EffectsDone runtime message world) :
    Delivers runtime consumer start (Concluded runtime consumer start message)
      (finish consumer message event attempts initialIsNew) world := by
  unfold finish
  apply (upholds_bind _ _ _ _).mpr
  apply upholds_mono (commit_delivers _ ⟨underway.sound, underway.received, .inl done⟩)
  intro outcome final
  cases outcome with
  | error fault =>
      intro unchanged
      subst unchanged
      exact underway.committed
  | ok _ =>
      intro committed
      subst committed
      constructor
      case sound => exact underway.sound
      case received => exact underway.received
      case named => exact ⟨rfl, rfl, rfl⟩
      case offset => simp only [World.commit, underway.committed]
      case completed => exact fun _ => done
      case deadLettered =>
        intro contrary
        cases contrary

/-- A store call leaves the delivery under way. -/
theorem order_underway {world : World} (underway : Underway start message world) (op : StoreOp)
    (failure : Option Exc) :
    ∃ result reached ledger after, exec (.order op) failure world = (result, reached) ∧
      LedgerOp world.database ledger op result reached.database after ∧
      Represents reached.database.tables after ∧ Underway start message reached := by
  obtain ⟨ledger, holds⟩ := underway.paired
  obtain ⟨result, database, after, ran, stepped, represented⟩ := run_refines holds op failure
  refine ⟨result, { world with database := database }, ledger, after, ?_, stepped, represented, ?_⟩
  · simp only [exec, ran]
  · exact ⟨⟨after, represented⟩, underway.sound, underway.received, underway.acknowledged,
      underway.committed⟩

/-- How an attempt leaves the world: the delivery is under way, and completed if
the attempt got through. -/
def Attempted (start : World) (message : Message) (event : OrderCreatedEvent) :
    Except Exc (Option Bool × Except Exc Unit) → World → Prop
  | .ok (_, .ok _), final =>
      Underway start message final ∧ Completed final.database.tables event.eventId
  | .ok (_, .error _), final => Underway start message final
  | .error _, _ => False

theorem effects_delivers {world : World} {event : OrderCreatedEvent} {stored : EventStoreResult}
    (underway : Underway start message world)
    (finished : stored.downstreamRequired = false →
      Completed world.database.tables event.eventId) :
    Delivers runtime consumer start
      (fun outcome final => Underway start message final ∧
        (outcome = .ok () → Completed final.database.tables event.eventId))
      (effects consumer event stored) world := by
  have marking : ∀ notified : World, Underway start message notified →
      Delivers runtime consumer start
        (fun outcome final => Underway start message final ∧
          (outcome = .ok () → Completed final.database.tables event.eventId))
        (Prog.perform (Op.order (.markCompleted event.eventId))) notified := by
    intro notified notifiedUnderway
    apply (upholds_perform _ _).mpr
    intro reached same
    subst same
    refine ⟨trivial, ?_⟩
    intro failure
    obtain ⟨result, reached, ledger, after, ran, stepped, represented, still⟩ :=
      order_underway notifiedUnderway (.markCompleted event.eventId) failure
    rw [ran]
    refine ⟨still, ?_⟩
    intro succeeded
    cases succeeded
    exact marked_completed stepped represented
  unfold effects
  by_cases required : stored.downstreamRequired = true
  · rw [if_pos required]
    by_cases hasDownstream : consumer.downstream = true
    · rw [if_pos hasDownstream]
      apply upholds_call trivial
      intro refused
      cases refused with
      | some fault =>
          refine ⟨underway, ?_⟩
          intro contrary
          cases contrary
      | none =>
          apply marking
          exact ⟨underway.paired, underway.sound, underway.received, underway.acknowledged,
            underway.committed⟩
    · rw [if_neg hasDownstream]
      exact marking world underway
  · rw [if_neg required]
    refine ⟨underway, ?_⟩
    intro _
    exact finished (Bool.eq_false_iff.mpr required)

theorem attempt_once_delivers {world : World} (underway : Underway start message world)
    (event : OrderCreatedEvent) (initialIsNew : Option Bool) :
    Delivers runtime consumer start (Attempted start message event)
      (attemptOnce consumer event initialIsNew) world := by
  unfold attemptOnce
  apply (upholds_bind _ _ _ _).mpr
  apply (upholds_attempt _ _ _).mpr
  apply (upholds_perform _ _).mpr
  intro reached same
  subst same
  refine ⟨trivial, ?_⟩
  intro failure
  obtain ⟨result, reached, ledger, after, ran, stepped, represented, still⟩ :=
    order_underway underway (.store event) failure
  rw [ran]
  cases result with
  | error fault => exact still
  | ok stored =>
      have finished : stored.downstreamRequired = false →
          Completed reached.database.tables event.eventId := by
        intro quiet
        exact stored_completed stepped represented quiet
      apply (upholds_bind _ _ _ _).mpr
      apply (upholds_attempt _ _ _).mpr
      apply upholds_mono (effects_delivers still finished)
      intro outcome final reachedEnd
      cases outcome with
      | error fault => exact reachedEnd.1
      | ok _ => exact ⟨reachedEnd.1, reachedEnd.2 rfl⟩

theorem give_up_delivers {world : World} {payload : PyVal} {event : OrderCreatedEvent}
    (decoded : decodeValue runtime message.value = .ok (payload, event))
    (underway : Underway start message world) (attempts : Nat) (initialIsNew : Option Bool)
    (cause : Exc) :
    Delivers runtime consumer start (Concluded runtime consumer start message)
      (giveUp runtime consumer message payload event attempts initialIsNew cause) world := by
  unfold giveUp
  split
  next deadLetterTopic destination =>
    apply upholds_call trivial
    intro failure
    obtain ⟨result, reached, ledger, after, ran, stepped, represented, still⟩ :=
      order_underway underway (.discard event.eventId) failure
    rw [ran]
    cases result with
    | error fault => exact still.committed
    | ok _ =>
        apply dead_letter_delivers destination still
        intro other found again
        rw [decoded] at again
        cases again
        have claims := represented.claims event.eventId
        have orders := represented.orders event.eventId
        rw [discarded_absent stepped, Option.map_none] at claims orders
        exact ⟨lookup_eq_none.mp claims, lookup_eq_none.mp orders⟩
  next absent => exact underway.committed

theorem retry_loop_delivers {world : World} {payload : PyVal} {event : OrderCreatedEvent}
    (decoded : decodeValue runtime message.value = .ok (payload, event))
    (underway : Underway start message world) :
    Delivers runtime consumer start (Concluded runtime consumer start message)
      (retryLoop runtime consumer message payload event 0 none) world := by
  let invariant : Nat → Option Bool → World → Prop := fun _ _ => Underway start message
  have entry : invariant 0 none world := underway
  apply upholds_retry_loop ?_ entry
  intro made initialIsNew entered enteredUnderway
  apply upholds_mono (attempt_once_delivers enteredUnderway event initialIsNew)
  intro outcome reached attempted
  rcases outcome with fault | ⟨initialIsNew, cause | _⟩
  · cases attempted
  · simp only [AttemptEnds]
    split
    · apply (upholds_perform _ _).mpr
      intro waited same
      subst same
      exact ⟨trivial, fun _ => attempted⟩
    · exact give_up_delivers decoded attempted (made + 1) initialIsNew cause
  · obtain ⟨still, completed⟩ := attempted
    obtain ⟨ledger, holds⟩ := still.paired
    obtain ⟨row, present, _⟩ := completed_order holds completed
    exact finish_delivers still ⟨payload, event, decoded, completed, row, present⟩

theorem process_delivers {world : World}
    (paired : ∃ ledger, Represents world.database.tables ledger)
    (received : world = { start with received := message :: start.received }) :
    Delivers runtime consumer start (Concluded runtime consumer start message)
      (process runtime consumer message) world := by
  unfold process
  split
  next error broken =>
    rw [received]
    rfl
  next sound =>
    have underway : Underway start message world := by
      subst received
      exact ⟨paired, sound, rfl, rfl, rfl⟩
    split
    next payload event decoded => exact retry_loop_delivers decoded underway
    next cause refused =>
      split
      next deadLetterTopic destination =>
        apply dead_letter_delivers destination underway
        intro payload event decoded
        rw [refused] at decoded
        cases decoded
      next absent => exact underway.committed

theorem receive_delivers {world : World} (same : world = start) (polls : Nat) :
    Delivers runtime consumer start
      (fun outcome final => match outcome with
        | .ok (some message) => final = { start with received := message :: start.received }
        | .ok none => final = start
        | .error _ => final = start)
      (receive polls) world := by
  induction polls with
  | zero => exact same
  | succ polls ih =>
      unfold receive
      apply upholds_call trivial
      intro answer
      rcases answer with fault | _ | message
      · exact same
      · exact ih
      · rw [same]
        rfl

theorem process_one_delivers (runtime : Runtime) (consumer : KafkaOrderConsumer)
    (timeoutSeconds : ℚ) (polls : Nat) {start : World}
    (paired : ∃ ledger, Represents start.database.tables ledger) :
    Delivers runtime consumer start (Ended runtime consumer start)
      (processOne runtime consumer timeoutSeconds polls) start := by
  unfold processOne
  by_cases late : timeoutSeconds ≤ 0
  · rw [if_pos late]
    rfl
  · rw [if_neg late]
    apply (upholds_bind _ _ _ _).mpr
    apply upholds_mono (receive_delivers rfl polls)
    intro outcome reached received
    rcases outcome with fault | _ | message
    · rw [received]
      rfl
    · rw [received]
      rfl
    · rw [received]
      have handed : ∃ ledger,
          Represents ({ start with received := message :: start.received } : World).database.tables
            ledger := paired
      apply upholds_mono (process_delivers handed rfl)
      intro outcome final concluded
      cases outcome with
      | error fault => exact concluded
      | ok record => exact ⟨message, concluded⟩

end Steps

end OrderMessaging.Processing.DeliveryOutcome
