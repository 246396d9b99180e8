import OrderMessaging.Processing.DeliveryFailure
import OrderMessaging.Processing.PoisonRecords

/-!
The exceptions that leave a delivery. The commit wraps what it catches, and so do
the branches without a dead-letter publisher; the discard and the publication of
the failure handling are called bare, so whatever they raise goes to the caller.
That includes what `json.dumps` raises on the envelope: it refuses documents that
are nested too deeply, and integers of too many digits.
-/

namespace OrderMessaging.Processing.DeliveryErrors

open OrderMessaging.PyText OrderMessaging.PyException OrderMessaging.PyValue
open OrderMessaging.Program OrderMessaging.Transcript OrderMessaging.Contracts.Models
open OrderMessaging.Contracts.Reference OrderMessaging.Processing.DeadLetterEnvelope
open OrderMessaging.Processing.StoreOperations OrderMessaging.Processing.KafkaCollaborators
open OrderMessaging.Processing.RetryAndDeadLetter OrderMessaging.Processing.KafkaDelivery
open OrderMessaging.Processing.DecodeAgreement OrderMessaging.Processing.DeliveryConfluence
open OrderMessaging.Processing.DeliveryTranscript OrderMessaging.Processing.RetryAccounting
open OrderMessaging.Processing.AcceptedNotification OrderMessaging.Processing.PoisonRecords
open OrderMessaging.Processing.DeliveryFailure

set_option autoImplicit false

def IsConsumerError (fault : Exc) : Prop := fault.isInstance [orderConsumerError] = true

instance (fault : Exc) : Decidable (IsConsumerError fault) :=
  inferInstanceAs (Decidable (_ = true))

/-- The delivery returned a record or raised its documented error. -/
def Documented {Value : Type} : Except Exc Value → Prop
  | .ok _ => True
  | .error fault => IsConsumerError fault

/-- The broker's report acknowledges the one record that was published. -/
def Acknowledges (report : FlushReport) : Prop :=
  report.remaining = 0 ∧ report.errors = [] ∧ report.delivered.length = 1

/-- A call of the failure handling that raised nothing but consumer errors, and
whose flush acknowledged the record. -/
def Contained : Exchange Exc Op.Ret → Prop
  | ⟨.order (.discard _), .error fault⟩ => IsConsumerError fault
  | ⟨.produce _, .error fault⟩ => IsConsumerError fault
  | ⟨.flush _, .error fault⟩ => IsConsumerError fault
  | ⟨.flush _, .ok report⟩ => Acknowledges report
  | _ => True

/-- The failure that the delivery of a record reports, should it come to that: the
value did not decode, or the last of the effects raised. -/
inductive Reports (runtime : Runtime) (message : Message) (calls : Calls) :
    DeadLetterFailure → Prop where
  | undecoded (cause : Exc) (refused : decodeValue runtime message.value = .error cause) :
      Reports runtime message calls
        (failureOf message (safeOriginalPayload runtime message.value) cause 1 none)
  | undone (payload : PyVal) (event : OrderCreatedEvent) (op : Op) (cause : Exc)
      (decoded : decodeValue runtime message.value = .ok (payload, event))
      (last : (effectCalls calls).getLast? = some ⟨op, .error cause⟩) :
      Reports runtime message calls
        (failureOf message payload cause (count isStore calls) (some event))

/-- Once identifier and time of the dead letter are drawn, `json.dumps` prints its
envelope or raises a consumer error. -/
def EnvelopeContained (runtime : Runtime) (failure : DeadLetterFailure) (calls : Calls) : Prop :=
  ∀ deadLetterId isoformat fault, ⟨.uuid4, .ok deadLetterId⟩ ∈ calls →
    ⟨.utcNow, .ok isoformat⟩ ∈ calls →
    runtime.dumps (.dict (failure.toWireDict deadLetterId isoformat)) = .error fault →
    IsConsumerError fault

def PrintContained (runtime : Runtime) (message : Message) (calls : Calls) : Prop :=
  ∀ failure, Reports runtime message calls failure → EnvelopeContained runtime failure calls

section Wrapped

variable {runtime : Runtime} {consumer : KafkaOrderConsumer} {message : Message}

theorem consumer_error (text : Str) : IsConsumerError ⟨orderConsumerError, text⟩ := by
  simp [IsConsumerError, Exc.isInstance, orderConsumerError, ExcClass.subclass]

theorem publish_error_not_documented (text : Str) :
    ¬IsConsumerError ⟨eventPublishError, text⟩ := by
  have foreign : orderConsumerError.name ∉ eventPublishError.ancestors := by decide +kernel
  simp [IsConsumerError, Exc.isInstance, foreign]

theorem commit_documented (eventId : Str) (answer : Except Exc (List (Option Str))) :
    Documented (commitOutcome message eventId answer) := by
  cases answer with
  | error fault => exact consumer_error _
  | ok partitions =>
      rw [commitOutcome]
      split
      · exact consumer_error _
      · trivial

theorem documented_map {Value Other : Type} {outcome : Except Exc Value} (wrap : Value → Other) :
    Documented (outcome.map wrap) ↔ Documented outcome := by
  cases outcome <;> rfl

/-- Calls outside the failure handling have nothing to contain. -/
theorem contained_outside {exchange : Exchange Exc Op.Ret}
    (undiscarded : stage exchange.op ≠ .discard) (unpublished : stage exchange.op ≠ .publish) :
    Contained exchange := by
  obtain ⟨op, answer⟩ := exchange
  cases op with
  | order storeOp =>
      cases storeOp with
      | store event => trivial
      | markCompleted eventId => trivial
      | discard eventId => exact absurd rfl undiscarded
  | produce record => exact absurd rfl unpublished
  | flush record => exact absurd rfl unpublished
  | poll | notify _ | wait _ | uuid4 | utcNow | commit _ => trivial

theorem acknowledged_iff {failure : DeadLetterFailure} {deadLetterId : Uuid} {record : DlqRecord}
    {report : FlushReport} :
    Documented (publicationOutcome failure deadLetterId record report) ↔ Acknowledges report := by
  have refused : ¬Documented (.error (publicationFailed failure report) :
      Except Exc KafkaPublishReceipt) := publish_error_not_documented _
  unfold publicationOutcome
  by_cases clean : report.remaining = 0 ∧ report.errors = []
  · rw [if_pos clean]
    split
    next message single => simp [Documented, Acknowledges, clean, single]
    next other =>
      constructor
      · exact fun documented => absurd documented refused
      · rintro ⟨_, _, one⟩
        obtain ⟨message, single⟩ := List.length_eq_one_iff.mp one
        exact absurd single (other message)
  · rw [if_neg clean]
    constructor
    · exact fun documented => absurd documented refused
    · exact fun acknowledged => absurd ⟨acknowledged.1, acknowledged.2.1⟩ clean

/-- Only the publication's own calls matter for the envelope. -/
theorem envelope_contained_congr {failure : DeadLetterFailure} {calls others : Calls}
    (same : ∀ exchange, stage exchange.op = .publish → (exchange ∈ calls ↔ exchange ∈ others)) :
    EnvelopeContained runtime failure calls ↔ EnvelopeContained runtime failure others := by
  simp only [EnvelopeContained, same ⟨.uuid4, .ok _⟩ rfl, same ⟨.utcNow, .ok _⟩ rfl]

theorem envelope_contained_after {failure : DeadLetterFailure} {first calls : Calls}
    (quiet : ∀ exchange ∈ first, stage exchange.op ≠ .publish) :
    EnvelopeContained runtime failure (first ++ calls) ↔
      EnvelopeContained runtime failure calls := by
  apply envelope_contained_congr
  intro exchange publish
  have absent : exchange ∉ first := fun member => quiet exchange member publish
  simp [absent]

theorem unpublished_contained {failure : DeadLetterFailure} {calls : Calls}
    (quiet : ∀ exchange ∈ calls, stage exchange.op ≠ .publish) :
    EnvelopeContained runtime failure calls := by
  intro deadLetterId isoformat fault drawn
  exact absurd rfl (quiet _ drawn)

theorem drawn_contained_iff {failure : DeadLetterFailure} {calls : Calls} {deadLetterId : Uuid}
    {isoformat : Str} (identifier : ∀ other, ⟨.uuid4, .ok other⟩ ∈ calls ↔ other = deadLetterId)
    (time : ∀ other, ⟨.utcNow, .ok other⟩ ∈ calls ↔ other = isoformat) :
    EnvelopeContained runtime failure calls ↔ ∀ fault,
      runtime.dumps (.dict (failure.toWireDict deadLetterId isoformat)) = .error fault →
        IsConsumerError fault := by
  constructor
  · intro contained fault
    exact contained deadLetterId isoformat fault ((identifier _).mpr rfl) ((time _).mpr rfl)
  · intro contained other later fault drawn dated
    rw [(identifier other).mp drawn, (time later).mp dated]
    exact contained fault

theorem publication_documented_iff (json : JsonTexts runtime) {topic : Str}
    {failure : DeadLetterFailure} {calls : Calls} {outcome : Except Exc KafkaPublishReceipt}
    (presentable : Presentable failure)
    (published : Publishes runtime topic failure calls outcome) :
    Documented outcome ↔
      (∀ exchange ∈ calls, Contained exchange) ∧ EnvelopeContained runtime failure calls := by
  have printed : ∀ {deadLetterId isoformat record},
      dlqRecord runtime topic failure deadLetterId isoformat = .ok record → ∀ fault,
        runtime.dumps (.dict (failure.toWireDict deadLetterId isoformat)) = .error fault →
          IsConsumerError fault := by
    intro deadLetterId isoformat record built fault refused
    rw [(dlq_record_error_iff json topic presentable).mpr refused] at built
    cases built
  cases published with
  | unencodable deadLetterId isoformat fault refused =>
      rw [@drawn_contained_iff runtime failure _ deadLetterId isoformat (by simp) (by simp),
        (dlq_record_error_iff json topic presentable).mp refused]
      simp [Documented, Contained]
  | refused deadLetterId isoformat record fault built =>
      rw [@drawn_contained_iff runtime failure _ deadLetterId isoformat (by simp) (by simp),
        and_iff_left (printed built)]
      simp [Documented, Contained]
  | interrupted deadLetterId isoformat record fault built =>
      rw [@drawn_contained_iff runtime failure _ deadLetterId isoformat (by simp) (by simp),
        and_iff_left (printed built)]
      simp [Documented, Contained]
  | flushed deadLetterId isoformat record report built =>
      rw [@drawn_contained_iff runtime failure _ deadLetterId isoformat (by simp) (by simp),
        and_iff_left (printed built), acknowledged_iff]
      simp [Contained]

theorem dead_letter_documented_iff (json : JsonTexts runtime) {topic : Str}
    {failure : DeadLetterFailure} {duplicate : Bool} {calls : Calls}
    {outcome : Except Exc ProcessedKafkaRecord} (presentable : Presentable failure)
    (published : DeadLetters runtime consumer topic message failure duplicate calls outcome) :
    Documented outcome ↔
      (∀ exchange ∈ calls, Contained exchange) ∧ EnvelopeContained runtime failure calls := by
  cases published with
  | unpublished _ fault published =>
      exact publication_documented_iff json presentable published
  | concluded first receipt answer published =>
      obtain ⟨contained, prints⟩ :=
        (publication_documented_iff json presentable published).mp trivial
      have own : EnvelopeContained runtime failure (first ++ [⟨.commit message, answer⟩]) := by
        apply (envelope_contained_congr ?_).mp prints
        intro exchange publish
        have other : exchange ≠ ⟨.commit message, answer⟩ := by
          rintro rfl
          cases publish
        simp [other]
      rw [deadLetterOutcome, documented_map]
      constructor
      · intro _
        refine ⟨?_, own⟩
        intro exchange member
        rcases List.mem_append.mp member with early | last
        · exact contained exchange early
        · rw [List.mem_singleton.mp last]
          trivial
      · exact fun _ => commit_documented _ answer

variable {payload : PyVal} {event : OrderCreatedEvent}

theorem gives_up_documented_iff (json : JsonTexts runtime) (sourceTopic : Encodable message.topic)
    {attempts : Nat} {initialIsNew : Option Bool} {cause : Exc}
    (named : Encodable cause.type.name) {calls : Calls} {outcome : Except Exc ProcessedKafkaRecord}
    (given : GivesUp runtime consumer message payload event attempts initialIsNew cause calls
      outcome) :
    Documented outcome ↔ (∀ exchange ∈ calls, Contained exchange) ∧
      EnvelopeContained runtime (failureOf message payload cause attempts (some event)) calls := by
  cases given with
  | noPublisher absent =>
      have contained := @unpublished_contained runtime
        (failureOf message payload cause attempts (some event)) [] (by simp)
      simp [Documented, processingFailed, consumer_error, contained]
  | undiscarded topic fault destination =>
      have contained := @unpublished_contained runtime
        (failureOf message payload cause attempts (some event))
        [⟨.order (.discard event.eventId), .error fault⟩] (by simp [stage])
      simp [Documented, Contained, contained]
  | deadLettered topic calls _ destination published =>
      have same := @envelope_contained_after runtime
        (failureOf message payload cause attempts (some event))
        [⟨.order (.discard event.eventId), .ok ()⟩] calls (by simp [stage])
      rw [List.singleton_append] at same
      rw [dead_letter_documented_iff json (failure_presentable sourceTopic named payload attempts
        (some event)) published, List.forall_mem_cons, same]
      simp [Contained]

theorem effect_last {calls : Calls} {exchange : Exchange Exc Op.Ret}
    (last : calls.getLast? = some exchange) (effect : stage exchange.op = .effect) :
    (effectCalls calls).getLast? = some exchange := by
  obtain ⟨early, rfl⟩ := List.getLast?_eq_some_iff.mp last
  have own : effectCalls [exchange] = [exchange] := effect_calls_self (by simp [effect])
  rw [effect_calls_append, own, List.getLast?_concat]

/-- The failure that a delivery reports after its effects have failed for good. -/
theorem reports_undone_iff {polled early tail : Calls} {cause : Exc} {failure : DeadLetterFailure}
    (decoded : decodeValue runtime message.value = .ok (payload, event))
    (receives : ∀ exchange ∈ polled, stage exchange.op = .receive)
    (failed : FailedWith consumer 0 early cause)
    (quiet : ∀ exchange ∈ tail, stage exchange.op ≠ .effect) :
    Reports runtime message (polled ++ (early ++ tail)) failure ↔
      failure = failureOf message payload cause (count isStore early) (some event) := by
  have silent : ∀ exchange ∈ polled, stage exchange.op ≠ .effect := by
    intro exchange member
    simp [receives exchange member]
  have effects : effectCalls (polled ++ (early ++ tail)) = effectCalls early := by
    rw [effect_calls_append, effect_calls_append, effect_calls_nil silent, effect_calls_nil quiet,
      List.nil_append, List.append_nil]
  have stores : count isStore (polled ++ (early ++ tail)) = count isStore early := by
    rw [count_effects (fun _ => stage_of_store), effects, ← count_effects fun _ => stage_of_store]
  obtain ⟨op, final, effect, _⟩ := failed
  have last := effect_last final effect
  constructor
  · rintro (⟨other, refused⟩ | ⟨read, known, own, other, again, raised⟩)
    · rw [decoded] at refused
      cases refused
    · cases decoded.symm.trans again
      rw [effects, last] at raised
      cases raised
      rw [stores]
  · rintro rfl
    rw [← stores]
    exact .undone payload event op cause decoded (by rw [effects, last])

/-- The failure that a delivery reports of a value that did not decode. -/
theorem reports_undecoded_iff {calls : Calls} {cause : Exc} {failure : DeadLetterFailure}
    (undecoded : decodeValue runtime message.value = .error cause) :
    Reports runtime message calls failure ↔
      failure = failureOf message (safeOriginalPayload runtime message.value) cause 1 none := by
  constructor
  · rintro (⟨other, refused⟩ | ⟨read, known, own, other, decoded, raised⟩)
    · cases undecoded.symm.trans refused
      rfl
    · cases undecoded.symm.trans decoded
  · rintro rfl
    exact .undecoded cause undecoded

theorem print_contained_iff {calls : Calls} {failure : DeadLetterFailure}
    (reports : ∀ other, Reports runtime message calls other ↔ other = failure) :
    PrintContained runtime message calls ↔ EnvelopeContained runtime failure calls := by
  simp only [PrintContained, reports, forall_eq]

theorem loop_documented_iff (json : JsonTexts runtime) (sourceTopic : Encodable message.topic)
    {polled calls : Calls} {outcome : Except Exc ProcessedKafkaRecord} (named : ClassesNamed calls)
    (decoded : decodeValue runtime message.value = .ok (payload, event))
    (receives : ∀ exchange ∈ polled, stage exchange.op = .receive)
    (loops : Loops runtime consumer message payload event 0 none calls outcome) :
    Documented outcome ↔
      (∀ exchange ∈ calls, Contained exchange) ∧ PrintContained runtime message (polled ++ calls) := by
  obtain ⟨early, tail, last, rfl, attempted, ending, forGood⟩ := loop_attempted loops
  have stages : ∀ exchange ∈ early, stage exchange.op ≠ .discard ∧ stage exchange.op ≠ .publish := by
    intro exchange member
    rcases attempted.stages exchange member with effect | backoff
    · simp [effect]
    · simp [backoff]
  have unpublished : ∀ exchange ∈ polled ++ early, stage exchange.op ≠ .publish := by
    intro exchange member
    rcases List.mem_append.mp member with received | attempt
    · simp [receives exchange received]
    · exact (stages exchange attempt).2
  have contained : ∀ exchange ∈ early, Contained exchange := fun exchange member =>
    contained_outside (stages exchange member).1 (stages exchange member).2
  rw [List.forall_mem_append, and_iff_right contained]
  cases ending with
  | finished initialIsNew answer succeeded =>
      rw [finishOutcome, documented_map]
      refine iff_of_true (commit_documented _ answer) ⟨by simp [Contained], ?_⟩
      refine fun failure _ => unpublished_contained ?_
      rw [← List.append_assoc]
      intro exchange member
      rcases List.mem_append.mp member with before | commit
      · exact unpublished exchange before
      · simp [List.mem_singleton.mp commit, stage]
  | gaveUp initialIsNew cause _ _ failed given =>
      have failedWith := forGood cause failed
      obtain ⟨op, final, _, _⟩ := id failedWith
      have causeNamed := named _ (List.mem_append_left tail (List.mem_of_getLast? final)) cause rfl
      have reports : ∀ failure, Reports runtime message (polled ++ (early ++ tail)) failure ↔
          failure = failureOf message payload cause (count isStore early) (some event) :=
        fun failure => reports_undone_iff decoded receives failedWith
          fun exchange member => (gives_up_quiet given exchange member).1
      rw [print_contained_iff reports, ← List.append_assoc, envelope_contained_after unpublished,
        gives_up_documented_iff json sourceTopic causeNamed given, Nat.zero_add]

end Wrapped

/-- A delivery that received a record returns or raises its documented error exactly
when the discard and the publication of its failure handling raised nothing else, the
envelope could be printed, and the publication was acknowledged. -/
theorem documented_failures_iff (runtime : Runtime) (json : JsonTexts runtime)
    (consumer : KafkaOrderConsumer) (timeoutSeconds : ℚ) (polls : Nat) (message : Message)
    (sourceTopic : Encodable message.topic) (calls : Calls)
    (outcome : Except Exc ProcessedKafkaRecord)
    (transcribed : Transcribes (processOne runtime consumer timeoutSeconds polls) calls outcome)
    (received : ⟨.poll, .ok (some message)⟩ ∈ calls) (returned : LocalCallsReturn calls)
    (named : ClassesNamed calls) :
    Documented outcome ↔
      (∀ exchange ∈ calls, Contained exchange) ∧ PrintContained runtime message calls := by
  obtain ⟨polled, rest, rfl, receives, processed⟩ :=
    process_one_received returned received transcribed
  have unpublished : ∀ exchange ∈ polled, stage exchange.op ≠ .publish := by
    intro exchange member
    simp [receives exchange member]
  have quiet : ∀ exchange ∈ polled, Contained exchange := by
    intro exchange member
    apply contained_outside <;> simp [receives exchange member]
  rw [List.forall_mem_append, and_iff_right quiet]
  cases processed with
  | broken error reported =>
      refine iff_of_true (consumer_error _) ⟨by simp, fun failure _ => unpublished_contained ?_⟩
      rw [List.append_nil]
      exact unpublished
  | invalid cause sound undecoded absent =>
      refine iff_of_true (consumer_error _) ⟨by simp, fun failure _ => unpublished_contained ?_⟩
      rw [List.append_nil]
      exact unpublished
  | invalidDeadLettered cause topic _ _ sound undecoded destination published =>
      rw [print_contained_iff fun failure => reports_undecoded_iff undecoded,
        envelope_contained_after unpublished]
      exact dead_letter_documented_iff json
        (failure_presentable sourceTopic (decode_fault_named json undecoded) _ 1 none) published
  | looped payload event _ _ sound decoded loops =>
      exact loop_documented_iff json sourceTopic
        (fun exchange member => named exchange (List.mem_append_right _ member)) decoded receives
        loops

section Escapes

/-- The delivery of a readable order in which nothing fails. -/
theorem completed_delivery_documented :
    ∃ outcome, Transcribes (processOne referenceRuntime letteringConsumer 10 1)
        (completedCalls (orderMessage (encodeUtf8 orderBody)) documentedEvent) outcome ∧
      Documented outcome := by
  obtain ⟨payload, decoded⟩ := order_message_decoded
  have sound : (orderMessage (encodeUtf8 orderBody)).error = none := rfl
  have sourceTopic : Encodable (orderMessage (encodeUtf8 orderBody)).topic :=
    of_string_encodable "orders"
  generalize orderMessage (encodeUtf8 orderBody) = message at *
  generalize documentedEvent = event at *
  obtain ⟨record, transcribed⟩ := completed_transcribes sound decoded
  refine ⟨.ok record, transcribed, ?_⟩
  refine (documented_failures_iff referenceRuntime reference_json letteringConsumer 10 1 message
    sourceTopic _ _ transcribed (by simp [completedCalls])
    (by simp [LocalCallsReturn, completedCalls, isLocal]) ?_).mpr ⟨?_, ?_⟩
  · simp [ClassesNamed, completedCalls]
  · simp [completedCalls, Contained]
  · exact fun failure _ => unpublished_contained (by simp [completedCalls, stage])

/-- The broker did not acknowledge the record in time. -/
def unacknowledged : FlushReport := ⟨1, []⟩

/-- A record that is no text is dead-lettered, the broker does not acknowledge the
envelope, and the publisher's own exception leaves the delivery. -/
theorem publish_error_escapes :
    ∃ env fault, ⟨.poll, .ok (some (orderMessage (some strayByte)))⟩ ∈
        transcript exec env (processOne referenceRuntime letteringConsumer 10 1) emptyWorld ∧
      (execute exec env 0 (processOne referenceRuntime letteringConsumer 10 1)
        emptyWorld).outcome = .error fault ∧
      fault.type = eventPublishError ∧ ¬Documented (.error fault : Except Exc ProcessedKafkaRecord)
    := by
  have sourceTopic : Encodable (orderMessage (some strayByte)).topic :=
    of_string_encodable "orders"
  obtain ⟨record, built⟩ := stray_byte_built sourceTopic "orders.dlq" ⟨0⟩ []
  have published := Publishes.flushed ⟨0⟩ [] record unacknowledged built
  have processed : Processes referenceRuntime letteringConsumer (orderMessage (some strayByte)) _ _ :=
    .invalidDeadLettered _ "orders.dlq" _ _ rfl stray_byte_undecoded rfl
      (.unpublished _ _ published)
  have transcribed := @transcribes_received referenceRuntime letteringConsumer 10 0 _ _ _
    (by norm_num) processed
  generalize orderMessage (some strayByte) = message at *
  let received : World := { emptyWorld with received := [message] }
  have played : Plays exec emptyWorld [⟨.poll, .ok (some message)⟩, ⟨.uuid4, .ok ⟨0⟩⟩,
      ⟨.utcNow, .ok []⟩, ⟨.produce record, .ok ()⟩, ⟨.flush record, .ok unacknowledged⟩]
      received := by
    refine plays_step (show exec .poll (.ok (some message)) emptyWorld =
      (.ok (some message), received) from rfl) ?_
    refine plays_step (show exec .uuid4 ⟨0⟩ received = (.ok ⟨0⟩, received) from rfl) ?_
    refine plays_step (show exec .utcNow [] received = (.ok [], received) from rfl) ?_
    refine plays_step (show exec (.produce record) none received = (.ok (), received) from rfl) ?_
    exact plays_step (show exec (.flush record) (.ok unacknowledged) received =
      (.ok unacknowledged, received) from rfl) (.nil _)
  obtain ⟨env, said, ended, _⟩ := exists_run exec transcribed (smoothEnv message 0) played
  refine ⟨env, _, ?_, ended, rfl, publish_error_not_documented _⟩
  rw [said]
  exact List.mem_cons_self

end Escapes

end OrderMessaging.Processing.DeliveryErrors
