import OrderMessaging.Contracts.Validation
import OrderMessaging.Processing.RetryAndDeadLetter

/-!
One Kafka delivery: poll, decode, the retry loop over store, notification and
completion, the dead-letter exits and the offset commit. The time that a delivery
may take is the number of polls it leaves room for; everything after the first
record is independent of the clock.
-/

namespace OrderMessaging.Processing.KafkaDelivery

open OrderMessaging.PyText OrderMessaging.PyException OrderMessaging.PyValue
open OrderMessaging.Program OrderMessaging.Contracts.Models OrderMessaging.Contracts.Validation
open OrderMessaging.Processing.PostgresOrderStore OrderMessaging.Processing.StoreOperations
open OrderMessaging.Processing.KafkaCollaborators OrderMessaging.Processing.RetryAndDeadLetter

set_option autoImplicit false

def orderConsumerError : ExcClass := runtimeError.subclass "OrderConsumerError"
def orderConsumerTimeout : ExcClass := timeoutError.subclass "OrderConsumerTimeout"
def downstreamNotificationError : ExcClass := runtimeError.subclass "DownstreamNotificationError"

structure ProcessedKafkaRecord where
  eventId : Str
  topic : Str
  partition : Nat
  offset : Nat
  groupId : Str
  duplicate : Bool
  attempts : Nat
  deadLettered : Bool

/-- A consumer has a dead-letter topic exactly when it has a publisher. -/
structure KafkaOrderConsumer where
  groupId : Str
  topic : Str
  downstream : Bool
  retryPolicy : RetryPolicy
  deadLetterTopic : Option Str

theorem no_backoff : (0 : ℚ) ≤ 0 := le_refl 0

def defaultRetryPolicy : RetryPolicy :=
  ⟨1, 0, [downstreamNotificationError], Nat.one_pos, no_backoff, timeout_max_nonneg⟩

/-- `topic[partition]@offset`, as the error texts name a record. -/
def Message.place (message : Message) : Str :=
  message.topic ++ "[" ++ PyVal.decimal message.partition ++ "]@" ++ PyVal.decimal message.offset

section Decoding

variable (runtime : Runtime)

def decode (data : ByteArray) : Except Exc Str :=
  match decodeUtf8 data with
  | some text => .ok text
  | none => .error ⟨unicodeDecodeError, runtime.decodeMessage data⟩

def requireObject (payload : PyVal) : Except Exc Unit :=
  if payload.isDict then .ok () else .error ⟨typeError, "event JSON must be an object"⟩

/-- The decoding step: the JSON payload and the event it parses to. -/
def decodeValue (value : Option ByteArray) : Except Exc (PyVal × OrderCreatedEvent) := do
  let text ← match value with
    | some data => decode runtime data
    | none => .ok []
  let payload ← runtime.loads text
  requireObject payload
  let event ← parseOrderCreatedEvent runtime payload
  .ok (payload, event)

def safeOriginalPayload (value : Option ByteArray) : PyVal :=
  match value with
  | none => .none
  | some data =>
      match decode runtime data >>= runtime.loads with
      | .ok payload => payload
      | .error _ => .str (decodeReplacing data)

end Decoding

section Exits

variable (runtime : Runtime) (consumer : KafkaOrderConsumer)

def commitFailed (message : Message) (eventId : Str) (cause : Exc) : Exc :=
  ⟨orderConsumerError, "Effects completed for event " ++ eventId ++
    ", but Kafka offset commit failed for " ++ Message.place message ++ ": " ++ cause.message⟩

/-- A partition error inside the reply is raised and wrapped like any other. -/
def commit (message : Message) (eventId : Str) : Prog Exc Op.Ret Unit :=
  Prog.mapFault (commitFailed message eventId) do
    let committed ← Prog.perform (Op.commit message)
    match committed.filterMap id with
    | error :: _ => Prog.raise ⟨runtimeError, error⟩
    | [] => pure ()

/-- An empty key counts as no key. -/
def keyText (key : Option ByteArray) : Option Str :=
  match key with
  | some bytes => if bytes.size = 0 then none else some (decodeReplacing bytes)
  | none => none

def deadLetter (deadLetterTopic : Str) (message : Message) (originalPayload : PyVal) (error : Exc)
    (attempts : Nat) (event : Option OrderCreatedEvent) (duplicate : Bool) :
    Prog Exc Op.Ret ProcessedKafkaRecord := do
  let failure : DeadLetterFailure :=
    { sourceTopic := message.topic
      sourcePartition := message.partition
      sourceOffset := message.offset
      key := keyText message.key
      eventId := event.map fun event => event.eventId.str
      correlationId := event.map fun event => event.correlationId.text
      attempts := attempts
      errorType := error.type.name
      errorMessage := error.message
      originalPayload := originalPayload }
  let _ ← publishFailure runtime deadLetterTopic failure
  let eventId := (orElse failure.eventId (some "unknown")).getD []
  commit message eventId
  pure ⟨eventId, message.topic, message.partition, message.offset, consumer.groupId, duplicate,
    attempts, true⟩

end Exits

section Loop

variable (runtime : Runtime) (consumer : KafkaOrderConsumer)

/-- The effects of an attempt after its store call. -/
def effects (event : OrderCreatedEvent) (stored : EventStoreResult) : Prog Exc Op.Ret Unit := do
  if stored.downstreamRequired then
    if consumer.downstream then Prog.perform (Op.notify event)
    Prog.perform (Op.order (.markCompleted event.eventId))

/-- One pass through the `try` block. The handler still sees what the first
store call of the delivery reported. -/
def attemptOnce (event : OrderCreatedEvent) (initialIsNew : Option Bool) :
    Prog Exc Op.Ret (Option Bool × Except Exc Unit) := do
  match ← Prog.attempt (Prog.perform (Op.order (.store event))) with
  | .error fault => pure (initialIsNew, .error fault)
  | .ok stored =>
      let initialIsNew := initialIsNew.or (some stored.isNew)
      let outcome ← Prog.attempt (effects consumer event stored)
      pure (initialIsNew, outcome)

def processingFailed (message : Message) (attempts : Nat) (cause : Exc) : Exc :=
  ⟨orderConsumerError, "Order event processing failed before offset commit at " ++
    Message.place message ++ " after " ++ PyVal.decimal attempts ++ " attempt(s): " ++
    cause.message⟩

/-- The rest of a delivery whose last attempt failed for good. -/
def giveUp (message : Message) (payload : PyVal) (event : OrderCreatedEvent) (attempts : Nat)
    (initialIsNew : Option Bool) (cause : Exc) : Prog Exc Op.Ret ProcessedKafkaRecord :=
  match consumer.deadLetterTopic with
  | some deadLetterTopic => do
      Prog.perform (Op.order (.discard event.eventId))
      deadLetter runtime consumer deadLetterTopic message payload cause attempts (some event)
        (initialIsNew = some false)
  | none => Prog.raise (processingFailed message attempts cause)

def finish (message : Message) (event : OrderCreatedEvent) (attempts : Nat)
    (initialIsNew : Option Bool) : Prog Exc Op.Ret ProcessedKafkaRecord := do
  commit message event.eventId.str
  pure ⟨event.eventId.str, message.topic, message.partition, message.offset, consumer.groupId,
    initialIsNew = some false, attempts, false⟩

/-- The `while True` loop, entered with the number of attempts made so far. -/
def retryLoop (message : Message) (payload : PyVal) (event : OrderCreatedEvent) (made : Nat)
    (initialIsNew : Option Bool) : Prog Exc Op.Ret ProcessedKafkaRecord :=
  (attemptOnce consumer event initialIsNew).bind fun (initialIsNew, outcome) =>
    let attempts := made + 1
    match outcome with
    | .ok () => finish consumer message event attempts initialIsNew
    | .error cause =>
        if consumer.retryPolicy.isRetryable cause ∧ attempts < consumer.retryPolicy.maxAttempts then
          (Prog.perform (Op.wait consumer.retryPolicy.backoffSeconds)).bind fun _ =>
            retryLoop message payload event attempts initialIsNew
        else giveUp runtime consumer message payload event attempts initialIsNew cause
termination_by consumer.retryPolicy.maxAttempts - made

end Loop

section LoopRule

variable {Choice : Op → Type} {World : Type}
variable (exec : Semantics Exc Op.Ret Choice World) (rely : World → World → Prop)
variable (pre : Op → World → Prop) (post : Except Exc ProcessedKafkaRecord → World → Prop)
variable (runtime : Runtime) (consumer : KafkaOrderConsumer) (message : Message)
variable (payload : PyVal) (event : OrderCreatedEvent)

/-- What an attempt has to establish for the loop to go on from it: success
finishes the delivery, a retryable failure restores the invariant after the
backoff, any other failure gives up. -/
def AttemptEnds (invariant : Nat → Option Bool → World → Prop) (made : Nat) :
    Except Exc (Option Bool × Except Exc Unit) → World → Prop
  | .ok (initialIsNew, .ok _), world =>
      Upholds exec rely pre post (finish consumer message event (made + 1) initialIsNew) world
  | .ok (initialIsNew, .error cause), world =>
      if consumer.retryPolicy.isRetryable cause ∧ made + 1 < consumer.retryPolicy.maxAttempts then
        Upholds exec rely pre
          (fun waited final => match waited with
            | .ok _ => invariant (made + 1) initialIsNew final
            | .error fault => post (.error fault) final)
          (Prog.perform (Op.wait consumer.retryPolicy.backoffSeconds)) world
      else
        Upholds exec rely pre post
          (giveUp runtime consumer message payload event (made + 1) initialIsNew cause) world
  | .error fault, world => post (.error fault) world

variable {exec rely pre post runtime consumer message payload event}

/-- The rule of the retry loop, by induction on the attempts still allowed. -/
theorem upholds_retry_loop {invariant : Nat → Option Bool → World → Prop}
    (attempt : ∀ made initialIsNew world, invariant made initialIsNew world →
      Upholds exec rely pre
        (AttemptEnds exec rely pre post runtime consumer message payload event invariant made)
        (attemptOnce consumer event initialIsNew) world)
    {made : Nat} {initialIsNew : Option Bool} {world : World}
    (holds : invariant made initialIsNew world) :
    Upholds exec rely pre post
      (retryLoop runtime consumer message payload event made initialIsNew) world := by
  induction remaining : consumer.retryPolicy.maxAttempts - made using Nat.strong_induction_on
    generalizing made initialIsNew world with
  | _ left ih =>
      rw [retryLoop]
      apply (upholds_bind _ _ _ _).mpr
      apply upholds_mono (attempt made initialIsNew world holds)
      intro outcome reached ended
      rcases outcome with fault | ⟨initialIsNew, cause | _⟩
      · exact ended
      · by_cases retry : consumer.retryPolicy.isRetryable cause = true ∧
            made + 1 < consumer.retryPolicy.maxAttempts
        · simp only [AttemptEnds, if_pos retry] at ended
          simp only [continues_ok, if_pos retry]
          apply (upholds_bind _ _ _ _).mpr
          apply upholds_mono ended
          intro waited after restored
          cases waited with
          | error fault => exact restored
          | ok _ =>
              have fewer : consumer.retryPolicy.maxAttempts - (made + 1) < left := by omega
              exact ih _ fewer restored rfl
        · simp only [AttemptEnds, if_neg retry] at ended
          simp only [continues_ok, if_neg retry]
          exact ended
      · exact ended

end LoopRule

section Delivery

variable (runtime : Runtime) (consumer : KafkaOrderConsumer)

def validationFailed (message : Message) (cause : Exc) : Exc :=
  ⟨orderConsumerError, "Order event validation failed before offset commit at " ++
    Message.place message ++ ": " ++ cause.message⟩

def brokerError (message : Message) (error : Str) : Exc :=
  ⟨orderConsumerError, "Kafka consumer error at " ++ message.topic ++ "[" ++
    PyVal.decimal message.partition ++ "]: " ++ error⟩

/-- Everything that follows the receipt of a record. -/
def process (message : Message) : Prog Exc Op.Ret ProcessedKafkaRecord :=
  match message.error with
  | some error => Prog.raise (brokerError message error)
  | none =>
      match decodeValue runtime message.value with
      | .ok (payload, event) => retryLoop runtime consumer message payload event 0 none
      | .error cause =>
          match consumer.deadLetterTopic with
          | some deadLetterTopic =>
              deadLetter runtime consumer deadLetterTopic message
                (safeOriginalPayload runtime message.value) cause 1 none false
          | none => Prog.raise (validationFailed message cause)

/-- The poll loop, for a deadline that leaves room for `polls` polls. -/
def receive : Nat → Prog Exc Op.Ret (Option Message)
  | 0 => pure none
  | polls + 1 => do
      match ← Prog.perform Op.poll with
      | some message => pure (some message)
      | none => receive polls

def noRecord (timeoutSeconds : ℚ) : Exc :=
  ⟨orderConsumerTimeout,
    "No Kafka record arrived on " ++ runtime.repr consumer.topic ++ " within " ++
      runtime.twoDecimals timeoutSeconds ++ " seconds; group_id=" ++
      runtime.repr consumer.groupId ++ "."⟩

def processOne (timeoutSeconds : ℚ) (polls : Nat) : Prog Exc Op.Ret ProcessedKafkaRecord :=
  if timeoutSeconds ≤ 0 then Prog.raise ⟨valueError, "timeout_seconds must be greater than zero."⟩
  else do
    match ← receive polls with
    | none => Prog.raise (noRecord runtime consumer timeoutSeconds)
    | some message => process runtime consumer message

end Delivery

end OrderMessaging.Processing.KafkaDelivery
