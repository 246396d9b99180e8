import OrderMessaging.Processing.DeliveryConfluence

/-!
What one Kafka delivery can reach. All its calls concern the record that it
received, so it leaves the rows of every other event, the offset of every other
partition and everything recorded earlier as they were, however it ends.
-/

namespace OrderMessaging.Processing.DeliveryScope

open OrderMessaging.PyText OrderMessaging.PyException OrderMessaging.PyValue
open OrderMessaging.Program OrderMessaging.Relation OrderMessaging.Contracts.Models
open OrderMessaging.Processing.PostgresOrderStore OrderMessaging.Processing.StoreOperations
open OrderMessaging.Processing.KafkaCollaborators OrderMessaging.Processing.RetryAndDeadLetter
open OrderMessaging.Processing.KafkaDelivery OrderMessaging.Processing.DeliveryOutcome
open OrderMessaging.Contracts.Reference (referenceRuntime)
open OrderMessaging.Processing.DeliveryConfluence
  (Delivery deliver deliver_mem_worlds smoothDelivery orderMessage)
open OrderMessaging.Processing.DecodeAgreement (orderBody)

set_option autoImplicit false

section Calls

variable (runtime : Runtime) (consumer : KafkaOrderConsumer) (record : Message)

/-- The record decodes to the event. -/
def Carries (event : OrderCreatedEvent) : Prop :=
  ∃ payload, decodeValue runtime record.value = .ok (payload, event)

/-- The envelope is one of the record, for the consumer's dead-letter topic. -/
def Envelops (envelope : DlqRecord) : Prop :=
  ∃ topic, consumer.deadLetterTopic = some topic ∧ EnvelopeFor runtime topic record envelope

/-- The calls of a delivery of the record, after its poll. -/
inductive Concerns : Op → Prop where
  | store (event : OrderCreatedEvent) (carried : Carries runtime record event) :
      Concerns (.order (.store event))
  | markCompleted (event : OrderCreatedEvent) (carried : Carries runtime record event) :
      Concerns (.order (.markCompleted event.eventId))
  | discard (event : OrderCreatedEvent) (carried : Carries runtime record event)
      (lettering : consumer.deadLetterTopic.isSome = true) :
      Concerns (.order (.discard event.eventId))
  | notify (event : OrderCreatedEvent) (carried : Carries runtime record event)
      (downstream : consumer.downstream = true) : Concerns (.notify event)
  | wait : Concerns (.wait consumer.retryPolicy.backoffSeconds)
  | uuid4 : Concerns .uuid4
  | utcNow : Concerns .utcNow
  | produce (envelope : DlqRecord) (envelops : Envelops runtime consumer record envelope) :
      Concerns (.produce envelope)
  | flush (envelope : DlqRecord) (envelops : Envelops runtime consumer record envelope) :
      Concerns (.flush envelope)
  | commit (sound : record.error = none) : Concerns (.commit record)

end Calls

section Programs

variable {runtime : Runtime} {consumer : KafkaOrderConsumer} {record : Message}

theorem commit_concerns (sound : record.error = none) (eventId : Str) :
    Makes (Concerns runtime consumer record) (commit record eventId) := by
  apply makes_mapFault
  apply makes_bind (makes_perform (.commit sound))
  intro partitions
  split <;> exact makes_done _

theorem publication_concerns {topic : Str} (destination : consumer.deadLetterTopic = some topic)
    {failure : DeadLetterFailure} (sourceTopic : failure.sourceTopic = record.topic)
    (partition : failure.sourcePartition = record.partition)
    (offset : failure.sourceOffset = record.offset) :
    Makes (Concerns runtime consumer record) (publishFailure runtime topic failure) := by
  unfold publishFailure
  apply makes_bind (makes_perform .uuid4)
  intro deadLetterId
  apply makes_bind (makes_perform .utcNow)
  intro isoformat
  cases built : dlqRecord runtime topic failure deadLetterId isoformat with
  | error fault => exact makes_done _
  | ok envelope =>
      have envelops : Envelops runtime consumer record envelope :=
        ⟨topic, destination, failure, deadLetterId, isoformat, sourceTopic, partition, offset,
          built⟩
      apply makes_bind (makes_perform (.produce envelope envelops))
      intro _
      apply makes_bind (makes_perform (.flush envelope envelops))
      intro report
      split
      · split <;> exact makes_done _
      · exact makes_done _

theorem dead_letter_concerns {topic : Str} (sound : record.error = none)
    (destination : consumer.deadLetterTopic = some topic) {originalPayload : PyVal} {error : Exc}
    {attempts : Nat} {event : Option OrderCreatedEvent} {duplicate : Bool} :
    Makes (Concerns runtime consumer record)
      (deadLetter runtime consumer topic record originalPayload error attempts event
        duplicate) := by
  unfold deadLetter
  apply makes_bind (publication_concerns destination rfl rfl rfl)
  intro receipt
  apply makes_bind (commit_concerns sound _)
  intro _
  exact makes_done _

theorem effects_concerns {event : OrderCreatedEvent} (carried : Carries runtime record event)
    (stored : EventStoreResult) :
    Makes (Concerns runtime consumer record) (effects consumer event stored) := by
  have mark : Makes (Concerns runtime consumer record)
      (Prog.perform (Op.order (.markCompleted event.eventId)) : Prog Exc Op.Ret Unit) :=
    makes_perform (.markCompleted event carried)
  unfold effects
  split
  · split
    next downstream =>
      apply makes_bind (makes_perform (.notify event carried downstream))
      intro _
      exact mark
    next => exact mark
  · exact makes_done _

theorem attempt_concerns {event : OrderCreatedEvent} (carried : Carries runtime record event)
    (initialIsNew : Option Bool) :
    Makes (Concerns runtime consumer record) (attemptOnce consumer event initialIsNew) := by
  apply makes_bind
  · exact makes_attempt (makes_perform (.store event carried))
  · intro stored
    cases stored with
    | error fault => exact makes_done _
    | ok result =>
        apply makes_bind (makes_attempt (effects_concerns carried result))
        intro outcome
        exact makes_done _

theorem give_up_concerns {payload : PyVal} {event : OrderCreatedEvent} {attempts : Nat}
    {initialIsNew : Option Bool} {cause : Exc} (sound : record.error = none)
    (carried : Carries runtime record event) :
    Makes (Concerns runtime consumer record)
      (giveUp runtime consumer record payload event attempts initialIsNew cause) := by
  unfold giveUp
  split
  next topic destination =>
    have lettering : consumer.deadLetterTopic.isSome = true := by rw [destination]; rfl
    apply makes_bind (makes_perform (.discard event carried lettering))
    intro _
    exact dead_letter_concerns sound destination
  next => exact makes_done _

theorem retry_loop_concerns {payload : PyVal} {event : OrderCreatedEvent}
    (sound : record.error = none) (carried : Carries runtime record event) :
    Makes (Concerns runtime consumer record)
      (retryLoop runtime consumer record payload event 0 none) := by
  let invariant : Nat → Option Bool → Unit → Prop := fun _ _ _ => True
  have entry : invariant 0 none () := trivial
  apply upholds_retry_loop ?_ entry
  intro made initialIsNew _ _
  apply upholds_mono (attempt_concerns carried initialIsNew)
  intro outcome world _
  rcases outcome with fault | ⟨initialIsNew, cause | _⟩
  · trivial
  · simp only [AttemptEnds]
    split
    · apply (upholds_perform _ _).mpr
      intro waited _
      refine ⟨.wait, ?_⟩
      intro answer
      cases answer <;> trivial
    · exact give_up_concerns sound carried
  · exact makes_bind (commit_concerns sound _) fun _ => makes_done _

/-- Whatever its collaborators answer, a delivery calls them about its record only. -/
theorem process_concerns (runtime : Runtime) (consumer : KafkaOrderConsumer) (record : Message) :
    Makes (Concerns runtime consumer record) (process runtime consumer record) := by
  unfold process
  split
  next error broken => exact makes_done _
  next sound =>
    split
    next payload event decoded => exact retry_loop_concerns sound ⟨payload, decoded⟩
    next cause refused =>
      split
      next topic destination => exact dead_letter_concerns sound destination
      next => exact makes_done _

end Programs

section Frames

/-- A log that grew at its head by entries of one kind. -/
def Grown {Entry : Type} (kind : Entry → Prop) (before after : List Entry) : Prop :=
  ∃ own, after = own ++ before ∧ ∀ entry ∈ own, kind entry

variable {Entry : Type} {kind : Entry → Prop}

theorem grown_refl (entries : List Entry) : Grown kind entries entries := by
  refine ⟨[], rfl, ?_⟩
  intro entry member
  cases member

theorem grown_cons {entry : Entry} (own : kind entry) (entries : List Entry) :
    Grown kind entries (entry :: entries) := by
  refine ⟨[entry], rfl, ?_⟩
  intro other member
  rw [List.mem_singleton.mp member]
  exact own

theorem grown_trans {first second third : List Entry} (early : Grown kind first second)
    (late : Grown kind second third) : Grown kind first third := by
  obtain ⟨own, rfl, ofKind⟩ := early
  obtain ⟨later, rfl, alsoOfKind⟩ := late
  refine ⟨later ++ own, (List.append_assoc later own first).symm, ?_⟩
  intro entry member
  rcases List.mem_append.mp member with inLater | inOwn
  · exact alsoOfKind entry inLater
  · exact ofKind entry inOwn

/-- The event of a store call. -/
def subject : StoreOp → Uuid
  | .store event => event.eventId
  | .markCompleted eventId => eventId
  | .discard eventId => eventId

/-- The rows of an event. -/
def rowsOf (tables : Tables) (eventId : Uuid) : Option ProcessedEventRow × Option OrderRow :=
  (claimOf tables eventId, orderOfEvent tables eventId)

theorem stored_rows {event : OrderCreatedEvent} {tables reached : Tables}
    {result : Except Exc EventStoreResult} (outcome : StoreOutcome event tables result reached)
    {wanted : Uuid} (other : wanted ≠ event.eventId) :
    rowsOf reached wanted = rowsOf tables wanted := by
  cases outcome with
  | known | refused => rfl
  | written row fits fresh freshOrder freshSource =>
      have claims := claim_of_insert_claim_row tables wanted
        ⟨event.eventId, event.eventType, .pending⟩ fresh
      have orders := order_of_insert_order_row
        (insertClaimRow tables ⟨event.eventId, event.eventType, .pending⟩ fresh) wanted row
        freshOrder freshSource
      rw [if_neg other] at claims
      rw [order_row_source fits, if_neg other] at orders
      exact Prod.ext claims orders

theorem marked_rows {eventId : Uuid} {tables reached : Tables} {result : Except Exc Unit}
    (outcome : MarkOutcome eventId tables result reached) {wanted : Uuid}
    (other : wanted ≠ eventId) : rowsOf reached wanted = rowsOf tables wanted := by
  cases outcome with
  | unknown => rfl
  | marked claim held =>
      apply Prod.ext
      · have claims := claim_of_complete_claim tables wanted eventId
        refine claims.trans ?_
        cases found : claimOf tables wanted with
        | none => rw [rowsOf, found]; rfl
        | some row =>
            have different : row.eventId ≠ eventId := by
              rw [claim_event_id found]
              exact other
            rw [rowsOf, found, Option.map_some, complete, if_neg different]
      · rfl

theorem discarded_rows (tables : Tables) {eventId wanted : Uuid} (other : wanted ≠ eventId) :
    rowsOf (dropClaims (dropOrders tables eventId) eventId) wanted = rowsOf tables wanted := by
  apply Prod.ext
  · have claims := claim_of_drop_claims (dropOrders tables eventId) wanted eventId
    rw [if_neg other] at claims
    exact claims
  · have orders := order_of_drop_orders tables wanted eventId
    rw [if_neg other] at orders
    exact orders

/-- A store call leaves the rows of every other event alone, whether it raises or not. -/
theorem run_rows (op : StoreOp) (failure : Option Exc) (database : Database) {wanted : Uuid}
    (other : wanted ≠ subject op) :
    rowsOf (op.run failure database).2.tables wanted = rowsOf database.tables wanted := by
  cases failure with
  | some fault => rfl
  | none =>
      cases op with
      | store event => exact stored_rows (store_outcome event database.tables) other
      | markCompleted eventId =>
          have outcome := mark_outcome eventId database.tables
          have rows := marked_rows outcome other
          revert rows
          simp only [StoreOp.run]
          rcases markCompleted eventId database.tables with ⟨fault | _, reached⟩
          · exact id
          · exact id
      | discard eventId => exact discarded_rows database.tables other

theorem run_grown (op : StoreOp) (failure : Option Exc) (database : Database) :
    Grown (Eq (subject op)) database.completions
      (op.run failure database).2.completions := by
  cases failure with
  | some fault => exact grown_refl _
  | none =>
      cases op with
      | store event | discard eventId => exact grown_refl _
      | markCompleted eventId =>
          simp only [StoreOp.run]
          rcases markCompleted eventId database.tables with ⟨fault | _, reached⟩
          · exact grown_refl _
          · exact @grown_cons _ (Eq (subject (.markCompleted eventId))) eventId rfl _

end Frames

section Frame

variable (runtime : Runtime) (consumer : KafkaOrderConsumer) (record : Message)

/-- The event identity that the record carries, if it carries an event. -/
def Names (eventId : Uuid) : Prop :=
  ∃ event, Carries runtime record event ∧ event.eventId = eventId

/-- From one world to the other nothing has changed but what belongs to the record. -/
structure Confined (before after : World) : Prop where
  rows : ∀ eventId, ¬Names runtime record eventId →
    rowsOf after.database.tables eventId = rowsOf before.database.tables eventId
  completions : Grown (Names runtime record) before.database.completions
    after.database.completions
  notified : Grown (Names runtime record) before.notified after.notified
  acknowledged : Grown (Envelops runtime consumer record) before.acknowledged after.acknowledged
  committed : ∀ place, place ≠ record.topicPartition →
    after.committed place = before.committed place
  offset : after.committed record.topicPartition = before.committed record.topicPartition ∨
    after.committed record.topicPartition = record.offset + 1
  received : after.received = before.received

variable {runtime consumer record}

theorem confined_refl (world : World) : Confined runtime consumer record world world where
  rows _ _ := rfl
  completions := grown_refl _
  notified := grown_refl _
  acknowledged := grown_refl _
  committed _ _ := rfl
  offset := .inl rfl
  received := rfl

theorem confined_trans {first second third : World}
    (early : Confined runtime consumer record first second)
    (late : Confined runtime consumer record second third) :
    Confined runtime consumer record first third where
  rows eventId other := (late.rows eventId other).trans (early.rows eventId other)
  completions := grown_trans early.completions late.completions
  notified := grown_trans early.notified late.notified
  acknowledged := grown_trans early.acknowledged late.acknowledged
  committed place other := (late.committed place other).trans (early.committed place other)
  offset := by
    rcases late.offset with same | moved
    · rw [same]
      exact early.offset
    · exact .inr moved
  received := late.received.trans early.received

theorem order_confined {op : StoreOp} (own : Names runtime record (subject op))
    (failure : Option Exc) (world : World) :
    Confined runtime consumer record world (exec (.order op) failure world).2 where
  rows eventId other := by
    apply run_rows
    rintro rfl
    exact other own
  completions := by
    obtain ⟨marked, grown, same⟩ := run_grown op failure world.database
    refine ⟨marked, grown, ?_⟩
    intro eventId member
    rw [← same eventId member]
    exact own
  notified := grown_refl _
  acknowledged := grown_refl _
  committed _ _ := rfl
  offset := .inl rfl
  received := rfl

theorem commit_confined (world : World) :
    Confined runtime consumer record world (world.commit record) where
  rows _ _ := rfl
  completions := grown_refl _
  notified := grown_refl _
  acknowledged := grown_refl _
  committed _ other := Function.update_of_ne other ..
  offset := .inr (Function.update_self ..)
  received := rfl

/-- Every call about the record stays within what belongs to the record. -/
theorem call_confined {op : Op} (concerns : Concerns runtime consumer record op)
    (choice : op.Choice) (world : World) :
    Confined runtime consumer record world (exec op choice world).2 := by
  cases concerns with
  | store event carried => exact order_confined ⟨event, carried, rfl⟩ choice world
  | markCompleted event carried => exact order_confined ⟨event, carried, rfl⟩ choice world
  | discard event carried => exact order_confined ⟨event, carried, rfl⟩ choice world
  | notify event carried =>
      cases choice with
      | some fault => exact confined_refl world
      | none =>
          have own : Names runtime record event.eventId := ⟨event, carried, rfl⟩
          exact { confined_refl world with notified := grown_cons own _ }
  | wait | uuid4 | utcNow => exact confined_refl world
  | produce envelope => cases choice <;> exact confined_refl world
  | flush envelope envelops =>
      cases choice with
      | error fault => exact confined_refl world
      | ok report =>
          simp only [exec]
          split
          · exact confined_refl world
          · have same : Confined runtime consumer record world world := confined_refl world
            exact { same with acknowledged := grown_cons envelops _ }
  | commit =>
      cases choice with
      | error fault => exact confined_refl world
      | ok partitions =>
          simp only [exec]
          split
          · exact commit_confined world
          · exact confined_refl world

def World.receive (world : World) (record : Message) : World :=
  { world with received := record :: world.received }

/-- Nothing has happened, or one record was received and the rest belongs to it. -/
def Scoped (runtime : Runtime) (consumer : KafkaOrderConsumer) (start world : World) : Prop :=
  world = start ∨ ∃ record,
    Confined runtime consumer record (World.receive start record) world

theorem receive_scoped (polls : Nat) (start : World) :
    Upholds exec Eq (fun _ => Scoped runtime consumer start)
      (fun outcome final => match outcome with
        | .ok (some record) => final = World.receive start record
        | _ => final = start)
      (receive polls) start := by
  induction polls with
  | zero => rfl
  | succ polls ih =>
      unfold receive
      apply upholds_call (.inl rfl)
      intro answer
      rcases answer with fault | _ | record
      · rfl
      · exact ih
      · rfl

end Frame

/-- In every world that a delivery passes through, and so wherever it is stopped,
all that has changed belongs to the one record that it received. -/
theorem delivery_scoped (runtime : Runtime) (consumer : KafkaOrderConsumer) (timeoutSeconds : ℚ)
    (polls : Nat) (env : Nat → (op : Op) → op.Choice) (start : World) :
    ∀ world ∈ (execute exec env 0 (processOne runtime consumer timeoutSeconds polls) start).worlds,
      Scoped runtime consumer start world := by
  apply execute_invariant
  unfold processOne
  by_cases late : timeoutSeconds ≤ 0
  · rw [if_pos late]
    exact .inl rfl
  · rw [if_neg late]
    apply (upholds_bind _ _ _ _).mpr
    apply upholds_mono (receive_scoped polls start)
    intro outcome reached received
    rcases outcome with fault | _ | record
    · exact .inl received
    · exact .inl received
    · subst received
      have made := process_concerns runtime consumer record
      have kept : Upholds exec Eq
          (fun _ => Confined runtime consumer record (World.receive start record))
          (fun _ => Confined runtime consumer record (World.receive start record))
          (process runtime consumer record) (World.receive start record) := by
        apply upholds_of_makes ?_ made (confined_refl _)
        intro op choice world concerns confined
        exact confined_trans confined (call_confined concerns choice world)
      apply upholds_mono (upholds_ready kept _)
      · intro ended final confined
        exact .inr ⟨record, confined⟩
      · intro op world confined
        exact .inr ⟨record, confined⟩

/-- The process dies after the second call of a delivery. -/
def stoppedDelivery : Delivery :=
  { smoothDelivery (some "orders.dlq") (orderMessage (encodeUtf8 orderBody)) with crash := some 2 }

theorem stopped_delivery_scoped :
    Scoped referenceRuntime stoppedDelivery.consumer emptyWorld
      (deliver referenceRuntime emptyWorld stoppedDelivery) :=
  delivery_scoped referenceRuntime stoppedDelivery.consumer stoppedDelivery.timeoutSeconds
    stoppedDelivery.polls stoppedDelivery.env emptyWorld _
    (deliver_mem_worlds stoppedDelivery emptyWorld)

end OrderMessaging.Processing.DeliveryScope
