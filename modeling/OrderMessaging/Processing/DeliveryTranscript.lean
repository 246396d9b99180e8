import OrderMessaging.Library.Transcript
import OrderMessaging.Processing.KafkaDelivery

/-!
Everything a Kafka delivery can say to its collaborators, said once. The store,
the downstream service, the dead-letter producer and the offset commit may answer
anything; only the clock, the backoff and `uuid4` always return. Each relation
below is the shape of one function's transcripts, and each function is shown to
have exactly these.
-/

namespace OrderMessaging.Processing.DeliveryTranscript

open OrderMessaging.PyText OrderMessaging.PyException OrderMessaging.PyValue
open OrderMessaging.Program OrderMessaging.Transcript OrderMessaging.Contracts.Models
open OrderMessaging.Processing.PostgresOrderStore OrderMessaging.Processing.StoreOperations
open OrderMessaging.Processing.KafkaCollaborators OrderMessaging.Processing.RetryAndDeadLetter
open OrderMessaging.Processing.KafkaDelivery

set_option autoImplicit false

abbrev Calls := List (Exchange Exc Op.Ret)

/-- Calls that no collaborator answers. -/
def isLocal : Op → Bool
  | .wait _ | .uuid4 | .utcNow => true
  | _ => false

def LocalCallsReturn (calls : Calls) : Prop :=
  ∀ exchange ∈ calls, isLocal exchange.op = true → ∃ value, exchange.answer = .ok value

theorem local_calls_append {first rest : Calls} :
    LocalCallsReturn (first ++ rest) ↔ LocalCallsReturn first ∧ LocalCallsReturn rest := by
  constructor
  · intro returned
    constructor
    · intro exchange member
      exact returned exchange (List.mem_append_left rest member)
    · intro exchange member
      exact returned exchange (List.mem_append_right first member)
  · rintro ⟨early, late⟩ exchange member
    rcases List.mem_append.mp member with inFirst | inRest
    · exact early exchange inFirst
    · exact late exchange inRest

theorem local_calls_tail {exchange : Exchange Exc Op.Ret} {rest : Calls}
    (returned : LocalCallsReturn (exchange :: rest)) : LocalCallsReturn rest :=
  fun later member => returned later (List.mem_cons_of_mem exchange member)

theorem local_call_returned {op : Op} {answer : Except Exc op.Ret} {rest : Calls}
    (own : isLocal op = true) (returned : LocalCallsReturn (⟨op, answer⟩ :: rest)) :
    ∃ value, answer = .ok value :=
  returned ⟨op, answer⟩ List.mem_cons_self own

theorem local_calls_answered {calls : Calls}
    (answered : ∀ exchange ∈ calls, Answerable exec exchange) : LocalCallsReturn calls := by
  intro exchange member isLocal
  obtain ⟨choice, before, same⟩ := answered exchange member
  obtain ⟨op, answer⟩ := exchange
  cases op with
  | wait seconds => exact ⟨(), same⟩
  | uuid4 => exact ⟨choice, same⟩
  | utcNow => exact ⟨choice, same⟩
  | poll | order _ | notify _ | produce _ | flush _ | commit _ => cases isLocal

/-- A run against the modelled collaborators. -/
theorem transcript_local (env : Nat → (op : Op) → op.Choice)
    (program : Prog Exc Op.Ret ProcessedKafkaRecord) (world : World) :
    LocalCallsReturn (transcript exec env program world) :=
  local_calls_answered (transcript_answered exec env program world)

section Commit

variable (message : Message) (eventId : Str)

def commitOutcome : Except Exc (List (Option Str)) → Except Exc Unit
  | .error fault => .error (commitFailed message eventId fault)
  | .ok partitions =>
      match partitions.filterMap id with
      | error :: _ => .error (commitFailed message eventId ⟨runtimeError, error⟩)
      | [] => .ok ()

theorem commit_transcribes_iff {calls : Calls} {outcome : Except Exc Unit} :
    Transcribes (commit message eventId) calls outcome ↔
      ∃ answer, calls = [⟨.commit message, answer⟩] ∧
        outcome = commitOutcome message eventId answer := by
  rw [commit, transcribes_mapFault_iff]
  constructor
  · rintro ⟨result, rfl, transcribed⟩
    obtain ⟨answer, rest, rfl, resumed⟩ := transcribes_step_iff.mp transcribed
    cases answer with
    | error fault =>
        obtain ⟨rfl, rfl⟩ := resumed
        exact ⟨.error fault, rfl, rfl⟩
    | ok partitions =>
        refine ⟨.ok partitions, ?_⟩
        simp only [Resumes] at resumed
        simp only [commitOutcome]
        cases errors : partitions.filterMap id with
        | nil =>
            rw [errors] at resumed
            obtain ⟨rfl, rfl⟩ := transcribes_done_iff.mp resumed
            exact ⟨rfl, rfl⟩
        | cons error others =>
            rw [errors] at resumed
            obtain ⟨rfl, rfl⟩ := transcribes_raise_iff.mp resumed
            exact ⟨rfl, rfl⟩
  · rintro ⟨answer, rfl, rfl⟩
    cases answer with
    | error fault =>
        exact ⟨.error fault, rfl, transcribes_step_iff.mpr ⟨_, [], rfl, rfl, rfl⟩⟩
    | ok partitions =>
        simp only [commitOutcome]
        cases errors : partitions.filterMap id with
        | nil =>
            refine ⟨.ok (), rfl, transcribes_step_iff.mpr ⟨_, [], rfl, ?_⟩⟩
            simp only [Resumes, errors]
            exact transcribes_done_iff.mpr ⟨rfl, rfl⟩
        | cons error others =>
            refine ⟨.error ⟨runtimeError, error⟩, rfl, transcribes_step_iff.mpr ⟨_, [], rfl, ?_⟩⟩
            simp only [Resumes, errors]
            exact transcribes_raise_iff.mpr ⟨rfl, rfl⟩

end Commit

section DeadLetter

variable (runtime : Runtime) (consumer : KafkaOrderConsumer)

/-- The producer's verdict on a publication that was flushed. -/
def publicationOutcome (failure : DeadLetterFailure) (deadLetterId : Uuid) (record : DlqRecord)
    (report : FlushReport) : Except Exc KafkaPublishReceipt :=
  if report.remaining = 0 ∧ report.errors = [] then
    match report.delivered with
    | [message] => .ok (receiptOf (failure.recordKey deadLetterId) record.headers message)
    | _ => .error (publicationFailed failure report)
  else .error (publicationFailed failure report)

/-- What `publish_failure` says, and how it ends. -/
inductive Publishes (topic : Str) (failure : DeadLetterFailure) :
    Calls → Except Exc KafkaPublishReceipt → Prop where
  | unencodable (deadLetterId : Uuid) (isoformat : Str) (fault : Exc)
      (refused : dlqRecord runtime topic failure deadLetterId isoformat = .error fault) :
      Publishes topic failure [⟨.uuid4, .ok deadLetterId⟩, ⟨.utcNow, .ok isoformat⟩] (.error fault)
  | refused (deadLetterId : Uuid) (isoformat : Str) (record : DlqRecord) (fault : Exc)
      (built : dlqRecord runtime topic failure deadLetterId isoformat = .ok record) :
      Publishes topic failure [⟨.uuid4, .ok deadLetterId⟩, ⟨.utcNow, .ok isoformat⟩,
        ⟨.produce record, .error fault⟩] (.error fault)
  | interrupted (deadLetterId : Uuid) (isoformat : Str) (record : DlqRecord) (fault : Exc)
      (built : dlqRecord runtime topic failure deadLetterId isoformat = .ok record) :
      Publishes topic failure [⟨.uuid4, .ok deadLetterId⟩, ⟨.utcNow, .ok isoformat⟩,
        ⟨.produce record, .ok ()⟩, ⟨.flush record, .error fault⟩] (.error fault)
  | flushed (deadLetterId : Uuid) (isoformat : Str) (record : DlqRecord) (report : FlushReport)
      (built : dlqRecord runtime topic failure deadLetterId isoformat = .ok record) :
      Publishes topic failure [⟨.uuid4, .ok deadLetterId⟩, ⟨.utcNow, .ok isoformat⟩,
        ⟨.produce record, .ok ()⟩, ⟨.flush record, .ok report⟩]
        (publicationOutcome failure deadLetterId record report)

theorem verdict_transcribes_iff {failure : DeadLetterFailure} {deadLetterId : Uuid}
    {record : DlqRecord} {report : FlushReport} {calls : Calls}
    {outcome : Except Exc KafkaPublishReceipt} :
    Transcribes
      (if report.remaining = 0 ∧ report.errors = [] then
        match report.delivered with
        | [message] => (pure (receiptOf (failure.recordKey deadLetterId) record.headers message) :
            Prog Exc Op.Ret KafkaPublishReceipt)
        | _ => Prog.raise (publicationFailed failure report)
      else Prog.raise (publicationFailed failure report)) calls outcome ↔
      calls = [] ∧ outcome = publicationOutcome failure deadLetterId record report := by
  unfold publicationOutcome
  by_cases clean : report.remaining = 0 ∧ report.errors = []
  · rw [if_pos clean, if_pos clean]
    rcases report.delivered with _ | ⟨message, _ | ⟨second, others⟩⟩
    · exact transcribes_raise_iff
    · exact transcribes_done_iff
    · exact transcribes_raise_iff
  · rw [if_neg clean, if_neg clean]
    exact transcribes_raise_iff

theorem publishes_of_transcribes {topic : Str} {failure : DeadLetterFailure} {calls : Calls}
    {outcome : Except Exc KafkaPublishReceipt} (returned : LocalCallsReturn calls)
    (transcribed : Transcribes (publishFailure runtime topic failure) calls outcome) :
    Publishes runtime topic failure calls outcome := by
  unfold publishFailure at transcribed
  obtain ⟨fresh, afterFresh, rfl, dated⟩ := transcribes_step_iff.mp transcribed
  obtain ⟨deadLetterId, rfl⟩ := local_call_returned rfl returned
  obtain ⟨now, afterNow, rfl, constructed⟩ := transcribes_step_iff.mp dated
  obtain ⟨isoformat, rfl⟩ := local_call_returned rfl (local_calls_tail returned)
  have produced := transcribes_pure_iff.mp constructed
  cases built : dlqRecord runtime topic failure deadLetterId isoformat with
  | error fault =>
      rw [built] at produced
      obtain ⟨rfl, rfl⟩ := produced
      exact .unencodable deadLetterId isoformat fault built
  | ok record =>
      rw [built] at produced
      obtain ⟨accepted, afterProduce, rfl, flushed⟩ := transcribes_step_iff.mp produced
      cases accepted with
      | error fault =>
          obtain ⟨rfl, rfl⟩ := flushed
          exact .refused deadLetterId isoformat record fault built
      | ok _ =>
          obtain ⟨reported, afterFlush, rfl, judged⟩ := transcribes_step_iff.mp flushed
          cases reported with
          | error fault =>
              obtain ⟨rfl, rfl⟩ := judged
              exact .interrupted deadLetterId isoformat record fault built
          | ok report =>
              obtain ⟨rfl, rfl⟩ := verdict_transcribes_iff.mp judged
              exact .flushed deadLetterId isoformat record report built

theorem transcribes_of_publishes {topic : Str} {failure : DeadLetterFailure} {calls : Calls}
    {outcome : Except Exc KafkaPublishReceipt}
    (published : Publishes runtime topic failure calls outcome) :
    Transcribes (publishFailure runtime topic failure) calls outcome := by
  unfold publishFailure
  cases published with
  | unencodable deadLetterId isoformat fault refused =>
      refine transcribes_step_iff.mpr ⟨.ok deadLetterId, _, rfl, ?_⟩
      refine transcribes_step_iff.mpr ⟨.ok isoformat, _, rfl, ?_⟩
      refine transcribes_pure_iff.mpr ?_
      rw [refused]
      exact ⟨rfl, rfl⟩
  | refused deadLetterId isoformat record fault built =>
      refine transcribes_step_iff.mpr ⟨.ok deadLetterId, _, rfl, ?_⟩
      refine transcribes_step_iff.mpr ⟨.ok isoformat, _, rfl, ?_⟩
      refine transcribes_pure_iff.mpr ?_
      rw [built]
      exact transcribes_step_iff.mpr ⟨.error fault, [], rfl, rfl, rfl⟩
  | interrupted deadLetterId isoformat record fault built =>
      refine transcribes_step_iff.mpr ⟨.ok deadLetterId, _, rfl, ?_⟩
      refine transcribes_step_iff.mpr ⟨.ok isoformat, _, rfl, ?_⟩
      refine transcribes_pure_iff.mpr ?_
      rw [built]
      refine transcribes_step_iff.mpr ⟨.ok (), _, rfl, ?_⟩
      exact transcribes_step_iff.mpr ⟨.error fault, [], rfl, rfl, rfl⟩
  | flushed deadLetterId isoformat record report built =>
      refine transcribes_step_iff.mpr ⟨.ok deadLetterId, _, rfl, ?_⟩
      refine transcribes_step_iff.mpr ⟨.ok isoformat, _, rfl, ?_⟩
      refine transcribes_pure_iff.mpr ?_
      rw [built]
      refine transcribes_step_iff.mpr ⟨.ok (), _, rfl, ?_⟩
      refine transcribes_step_iff.mpr ⟨.ok report, [], rfl, ?_⟩
      exact verdict_transcribes_iff.mpr ⟨rfl, rfl⟩

/-- The failure that a dead letter reports. -/
def failureOf (message : Message) (originalPayload : PyVal) (error : Exc) (attempts : Nat)
    (event : Option OrderCreatedEvent) : DeadLetterFailure :=
  { sourceTopic := message.topic
    sourcePartition := message.partition
    sourceOffset := message.offset
    key := keyText message.key
    eventId := event.map fun event => event.eventId.str
    correlationId := event.map fun event => event.correlationId.text
    attempts := attempts
    errorType := error.type.name
    errorMessage := error.message
    originalPayload := originalPayload }

def DeadLetterFailure.identity (failure : DeadLetterFailure) : Str :=
  (orElse failure.eventId (some "unknown")).getD []

/-- The end of a dead-lettered delivery, once the commit has answered. -/
def deadLetterOutcome (message : Message) (failure : DeadLetterFailure) (duplicate : Bool)
    (answer : Except Exc (List (Option Str))) : Except Exc ProcessedKafkaRecord :=
  (commitOutcome message (DeadLetterFailure.identity failure) answer).map fun _ =>
    ⟨DeadLetterFailure.identity failure, message.topic, message.partition, message.offset,
      consumer.groupId, duplicate, failure.attempts, true⟩

/-- What `_dead_letter` says: the publication, and the commit if it succeeded. -/
inductive DeadLetters (topic : Str) (message : Message) (failure : DeadLetterFailure)
    (duplicate : Bool) : Calls → Except Exc ProcessedKafkaRecord → Prop where
  | unpublished (calls : Calls) (fault : Exc)
      (published : Publishes runtime topic failure calls (.error fault)) :
      DeadLetters topic message failure duplicate calls (.error fault)
  | concluded (calls : Calls) (receipt : KafkaPublishReceipt)
      (answer : Except Exc (List (Option Str)))
      (published : Publishes runtime topic failure calls (.ok receipt)) :
      DeadLetters topic message failure duplicate (calls ++ [⟨.commit message, answer⟩])
        (deadLetterOutcome consumer message failure duplicate answer)

/-- A commit and the record that a delivery returns after it. -/
theorem commit_then_transcribes_iff {message : Message} {eventId : Str}
    {record : ProcessedKafkaRecord} {calls : Calls} {outcome : Except Exc ProcessedKafkaRecord} :
    Transcribes ((commit message eventId).bind fun _ => .done (.ok record)) calls outcome ↔
      ∃ answer, calls = [⟨.commit message, answer⟩] ∧
        outcome = (commitOutcome message eventId answer).map fun _ => record := by
  rw [transcribes_bind_iff]
  constructor
  · rintro ⟨first, rest, result, rfl, committed, resumed⟩
    obtain ⟨answer, rfl, rfl⟩ := (commit_transcribes_iff message eventId).mp committed
    refine ⟨answer, ?_⟩
    cases ended : commitOutcome message eventId answer with
    | error fault =>
        rw [ended] at resumed
        obtain ⟨rfl, rfl⟩ := resumed
        exact ⟨rfl, rfl⟩
    | ok _ =>
        rw [ended] at resumed
        obtain ⟨rfl, rfl⟩ := transcribes_done_iff.mp resumed
        exact ⟨rfl, rfl⟩
  · rintro ⟨answer, rfl, rfl⟩
    refine ⟨[⟨.commit message, answer⟩], [], commitOutcome message eventId answer, rfl,
      (commit_transcribes_iff message eventId).mpr ⟨answer, rfl, rfl⟩, ?_⟩
    cases commitOutcome message eventId answer with
    | error fault => exact ⟨rfl, rfl⟩
    | ok _ => exact transcribes_done_iff.mpr ⟨rfl, rfl⟩

theorem dead_letters_of_transcribes {topic : Str} {message : Message} {originalPayload : PyVal}
    {error : Exc} {attempts : Nat} {event : Option OrderCreatedEvent} {duplicate : Bool}
    {calls : Calls} {outcome : Except Exc ProcessedKafkaRecord}
    (returned : LocalCallsReturn calls)
    (transcribed : Transcribes (deadLetter runtime consumer topic message originalPayload error
      attempts event duplicate) calls outcome) :
    DeadLetters runtime consumer topic message
      (failureOf message originalPayload error attempts event) duplicate calls outcome := by
  unfold deadLetter at transcribed
  obtain ⟨first, rest, result, rfl, published, resumed⟩ := transcribes_bind_iff.mp transcribed
  have publishes := publishes_of_transcribes runtime (local_calls_append.mp returned).1 published
  cases result with
  | error fault =>
      obtain ⟨rfl, rfl⟩ := resumed
      rw [List.append_nil]
      exact .unpublished first fault publishes
  | ok receipt =>
      obtain ⟨answer, rfl, rfl⟩ := commit_then_transcribes_iff.mp resumed
      exact .concluded first receipt answer publishes

theorem transcribes_of_dead_letters {topic : Str} {message : Message} {originalPayload : PyVal}
    {error : Exc} {attempts : Nat} {event : Option OrderCreatedEvent} {duplicate : Bool}
    {calls : Calls} {outcome : Except Exc ProcessedKafkaRecord}
    (deadLettered : DeadLetters runtime consumer topic message
      (failureOf message originalPayload error attempts event) duplicate calls outcome) :
    Transcribes (deadLetter runtime consumer topic message originalPayload error attempts event
      duplicate) calls outcome := by
  unfold deadLetter
  refine transcribes_bind_iff.mpr ?_
  cases deadLettered with
  | unpublished _ fault published =>
      exact ⟨calls, [], .error fault, (List.append_nil calls).symm,
        transcribes_of_publishes runtime published, rfl, rfl⟩
  | concluded first receipt answer published =>
      exact ⟨first, _, .ok receipt, rfl, transcribes_of_publishes runtime published,
        commit_then_transcribes_iff.mpr ⟨answer, rfl, rfl⟩⟩

end DeadLetter

section Attempt

variable (consumer : KafkaOrderConsumer) (event : OrderCreatedEvent)

/-- What the collaborators of one attempt would answer. -/
structure AttemptAnswers where
  store : Except Exc EventStoreResult
  notify : Except Exc Unit
  markCompleted : Except Exc Unit

namespace AttemptAnswers

variable (answers : AttemptAnswers)

/-- The calls after a store that left downstream work to do. -/
def downstreamCalls : Calls :=
  if consumer.downstream then
    match answers.notify with
    | .ok () => [⟨.notify event, .ok ()⟩, ⟨.order (.markCompleted event.eventId),
        answers.markCompleted⟩]
    | .error fault => [⟨.notify event, .error fault⟩]
  else [⟨.order (.markCompleted event.eventId), answers.markCompleted⟩]

def calls : Calls :=
  ⟨.order (.store event), answers.store⟩ ::
    match answers.store with
    | .ok stored => if stored.downstreamRequired then answers.downstreamCalls consumer event else []
    | .error _ => []

/-- How the attempt ends: the first of its steps that raises decides. -/
def outcome : Except Exc Unit := do
  let stored ← answers.store
  if stored.downstreamRequired then
    if consumer.downstream then answers.notify
    answers.markCompleted

def isNew : Option Bool :=
  match answers.store with
  | .ok stored => some stored.isNew
  | .error _ => none

end AttemptAnswers

variable {consumer event}

/-- The calls of an attempt whose store returned are those of its effects. -/
theorem effects_transcribes_iff {stored : EventStoreResult} {calls : Calls}
    {outcome : Except Exc Unit} :
    Transcribes (effects consumer event stored) calls outcome ↔
      ∃ answers : AttemptAnswers, answers.store = .ok stored ∧
        answers.calls consumer event = ⟨.order (.store event), .ok stored⟩ :: calls ∧
        outcome = answers.outcome consumer := by
  unfold effects
  constructor
  · intro transcribed
    by_cases required : stored.downstreamRequired = true
    · rw [if_pos required] at transcribed
      by_cases hasDownstream : consumer.downstream = true
      · rw [if_pos hasDownstream] at transcribed
        obtain ⟨notified, rest, rfl, marked⟩ := transcribes_step_iff.mp transcribed
        cases notified with
        | error fault =>
            obtain ⟨rfl, rfl⟩ := marked
            refine ⟨⟨.ok stored, .error fault, .ok ()⟩, rfl, ?_, ?_⟩
            · simp [AttemptAnswers.calls, AttemptAnswers.downstreamCalls, required, hasDownstream]
            · simp [AttemptAnswers.outcome, required, hasDownstream, Bind.bind, Except.bind]
        | ok _ =>
            have single := transcribes_perform_iff.mp marked
            subst single
            refine ⟨⟨.ok stored, .ok (), outcome⟩, rfl, ?_, ?_⟩
            · simp [AttemptAnswers.calls, AttemptAnswers.downstreamCalls, required, hasDownstream]
            · simp [AttemptAnswers.outcome, required, hasDownstream, Bind.bind, Except.bind]
      · rw [if_neg hasDownstream] at transcribed
        have single := transcribes_perform_iff.mp transcribed
        subst single
        refine ⟨⟨.ok stored, .ok (), outcome⟩, rfl, ?_, ?_⟩
        · simp [AttemptAnswers.calls, AttemptAnswers.downstreamCalls, required, hasDownstream]
        · simp [AttemptAnswers.outcome, required, hasDownstream, Bind.bind, Except.bind]
    · rw [if_neg required] at transcribed
      obtain ⟨rfl, rfl⟩ := transcribes_done_iff.mp transcribed
      refine ⟨⟨.ok stored, .ok (), .ok ()⟩, rfl, ?_, ?_⟩
      · simp [AttemptAnswers.calls, required]
      · simp [AttemptAnswers.outcome, required, Bind.bind, Except.bind, Pure.pure, Except.pure]
  · rintro ⟨answers, succeeded, said, rfl⟩
    simp only [AttemptAnswers.calls, succeeded, List.cons.injEq, true_and] at said
    subst said
    simp only [AttemptAnswers.outcome, succeeded, Bind.bind, Except.bind]
    by_cases required : stored.downstreamRequired = true
    · rw [if_pos required, if_pos required, if_pos required]
      unfold AttemptAnswers.downstreamCalls
      by_cases hasDownstream : consumer.downstream = true
      · rw [if_pos hasDownstream, if_pos hasDownstream, if_pos hasDownstream]
        refine transcribes_step_iff.mpr ?_
        cases notified : answers.notify with
        | error fault => exact ⟨.error fault, [], rfl, rfl, rfl⟩
        | ok _ => exact ⟨.ok (), _, rfl, transcribes_perform_iff.mpr rfl⟩
      · rw [if_neg hasDownstream, if_neg hasDownstream, if_neg hasDownstream]
        exact transcribes_perform_iff.mpr rfl
    · rw [if_neg required, if_neg required, if_neg required]
      exact transcribes_done_iff.mpr ⟨rfl, rfl⟩

theorem attempt_once_transcribes_iff {initialIsNew : Option Bool} {calls : Calls}
    {outcome : Except Exc (Option Bool × Except Exc Unit)} :
    Transcribes (attemptOnce consumer event initialIsNew) calls outcome ↔
      ∃ answers : AttemptAnswers, calls = answers.calls consumer event ∧
        outcome = .ok (initialIsNew.or answers.isNew, answers.outcome consumer) := by
  unfold attemptOnce
  refine transcribes_bind_iff.trans ?_
  constructor
  · rintro ⟨first, rest, result, rfl, attempted, resumed⟩
    obtain ⟨stored, rfl, performed⟩ := transcribes_attempt_iff.mp attempted
    rw [transcribes_perform_iff.mp performed]
    cases stored with
    | error fault =>
        obtain ⟨rfl, rfl⟩ := transcribes_done_iff.mp resumed
        refine ⟨⟨.error fault, .ok (), .ok ()⟩, rfl, ?_⟩
        simp [AttemptAnswers.isNew, AttemptAnswers.outcome, Bind.bind, Except.bind]
    | ok stored =>
        obtain ⟨own, tail, ended, rfl, effected, finished⟩ := transcribes_bind_iff.mp resumed
        obtain ⟨reached, rfl, transcribed⟩ := transcribes_attempt_iff.mp effected
        obtain ⟨rfl, rfl⟩ := transcribes_done_iff.mp finished
        obtain ⟨answers, succeeded, said, rfl⟩ := effects_transcribes_iff.mp transcribed
        refine ⟨answers, ?_, ?_⟩
        · rw [said, List.append_nil]
          rfl
        · simp [AttemptAnswers.isNew, succeeded]
  · rintro ⟨answers, rfl, rfl⟩
    cases stored : answers.store with
    | error fault =>
        refine ⟨[⟨.order (.store event), .error fault⟩], [], .ok (.error fault), ?_,
          transcribes_attempt_iff.mpr ⟨_, rfl, transcribes_perform_iff.mpr rfl⟩, ?_⟩
        · simp [AttemptAnswers.calls, stored]
        · refine transcribes_done_iff.mpr ⟨rfl, ?_⟩
          simp [AttemptAnswers.isNew, AttemptAnswers.outcome, stored, Bind.bind, Except.bind]
    | ok result =>
        obtain ⟨rest, said⟩ : ∃ rest, answers.calls consumer event =
            ⟨.order (.store event), .ok result⟩ :: rest := by
          simp [AttemptAnswers.calls, stored]
        refine ⟨[⟨.order (.store event), .ok result⟩], rest, .ok (.ok result), said,
          transcribes_attempt_iff.mpr ⟨_, rfl, transcribes_perform_iff.mpr rfl⟩, ?_⟩
        refine transcribes_bind_iff.mpr ⟨rest, [], .ok (answers.outcome consumer),
          (List.append_nil rest).symm, transcribes_attempt_iff.mpr ⟨_, rfl, ?_⟩, ?_⟩
        · exact effects_transcribes_iff.mpr ⟨answers, stored, said, rfl⟩
        · refine transcribes_done_iff.mpr ⟨rfl, ?_⟩
          simp [AttemptAnswers.isNew, stored]

end Attempt

section Loop

variable (runtime : Runtime) (consumer : KafkaOrderConsumer) (message : Message)
variable (payload : PyVal) (event : OrderCreatedEvent)

/-- The handler goes back to the head of the loop. -/
def Retries (cause : Exc) (attempts : Nat) : Prop :=
  consumer.retryPolicy.isRetryable cause ∧ attempts < consumer.retryPolicy.maxAttempts

def finishOutcome (attempts : Nat) (initialIsNew : Option Bool)
    (answer : Except Exc (List (Option Str))) : Except Exc ProcessedKafkaRecord :=
  (commitOutcome message event.eventId.str answer).map fun _ =>
    ⟨event.eventId.str, message.topic, message.partition, message.offset, consumer.groupId,
      initialIsNew = some false, attempts, false⟩

/-- What a delivery says once its last attempt has failed for good. -/
inductive GivesUp (attempts : Nat) (initialIsNew : Option Bool) (cause : Exc) :
    Calls → Except Exc ProcessedKafkaRecord → Prop where
  | noPublisher (absent : consumer.deadLetterTopic = none) :
      GivesUp attempts initialIsNew cause [] (.error (processingFailed message attempts cause))
  | undiscarded (topic : Str) (fault : Exc) (destination : consumer.deadLetterTopic = some topic) :
      GivesUp attempts initialIsNew cause [⟨.order (.discard event.eventId), .error fault⟩]
        (.error fault)
  | deadLettered (topic : Str) (calls : Calls) (outcome : Except Exc ProcessedKafkaRecord)
      (destination : consumer.deadLetterTopic = some topic)
      (published : DeadLetters runtime consumer topic message
        (failureOf message payload cause attempts (some event)) (initialIsNew = some false)
        calls outcome) :
      GivesUp attempts initialIsNew cause (⟨.order (.discard event.eventId), .ok ()⟩ :: calls)
        outcome

/-- What the retry loop says, entered with the number of attempts made so far. -/
inductive Loops : Nat → Option Bool → Calls → Except Exc ProcessedKafkaRecord → Prop where
  | finished (made : Nat) (initialIsNew : Option Bool) (answers : AttemptAnswers)
      (answer : Except Exc (List (Option Str)))
      (succeeded : answers.outcome consumer = .ok ()) :
      Loops made initialIsNew (answers.calls consumer event ++ [⟨.commit message, answer⟩])
        (finishOutcome consumer message event (made + 1) (initialIsNew.or answers.isNew) answer)
  | retried (made : Nat) (initialIsNew : Option Bool) (answers : AttemptAnswers) (cause : Exc)
      (rest : Calls) (outcome : Except Exc ProcessedKafkaRecord)
      (failed : answers.outcome consumer = .error cause)
      (retries : Retries consumer cause (made + 1))
      (further : Loops (made + 1) (initialIsNew.or answers.isNew) rest outcome) :
      Loops made initialIsNew
        (answers.calls consumer event ++
          ⟨.wait consumer.retryPolicy.backoffSeconds, .ok ()⟩ :: rest) outcome
  | gaveUp (made : Nat) (initialIsNew : Option Bool) (answers : AttemptAnswers) (cause : Exc)
      (rest : Calls) (outcome : Except Exc ProcessedKafkaRecord)
      (failed : answers.outcome consumer = .error cause)
      (forGood : ¬Retries consumer cause (made + 1))
      (given : GivesUp runtime consumer message payload event (made + 1)
        (initialIsNew.or answers.isNew) cause rest outcome) :
      Loops made initialIsNew (answers.calls consumer event ++ rest) outcome

variable {runtime consumer message payload event}

theorem gives_up_of_transcribes {attempts : Nat} {initialIsNew : Option Bool} {cause : Exc}
    {calls : Calls} {outcome : Except Exc ProcessedKafkaRecord}
    (returned : LocalCallsReturn calls)
    (transcribed : Transcribes (giveUp runtime consumer message payload event attempts initialIsNew
      cause) calls outcome) :
    GivesUp runtime consumer message payload event attempts initialIsNew cause calls outcome := by
  unfold giveUp at transcribed
  split at transcribed
  next topic destination =>
    obtain ⟨discarded, rest, rfl, published⟩ := transcribes_step_iff.mp transcribed
    cases discarded with
    | error fault =>
        obtain ⟨rfl, rfl⟩ := published
        exact .undiscarded topic fault destination
    | ok _ =>
        exact .deadLettered topic rest outcome destination
          (dead_letters_of_transcribes runtime consumer (local_calls_tail returned) published)
  next absent =>
    obtain ⟨rfl, rfl⟩ := transcribes_raise_iff.mp transcribed
    exact .noPublisher absent

theorem transcribes_of_gives_up {attempts : Nat} {initialIsNew : Option Bool} {cause : Exc}
    {calls : Calls} {outcome : Except Exc ProcessedKafkaRecord}
    (given : GivesUp runtime consumer message payload event attempts initialIsNew cause calls
      outcome) :
    Transcribes (giveUp runtime consumer message payload event attempts initialIsNew cause) calls
      outcome := by
  unfold giveUp
  cases given with
  | noPublisher absent =>
      rw [absent]
      exact transcribes_raise_iff.mpr ⟨rfl, rfl⟩
  | undiscarded topic fault destination =>
      rw [destination]
      exact transcribes_step_iff.mpr ⟨.error fault, [], rfl, rfl, rfl⟩
  | deadLettered topic rest _ destination published =>
      rw [destination]
      exact transcribes_step_iff.mpr ⟨.ok (), rest, rfl,
        transcribes_of_dead_letters runtime consumer published⟩

/-- By induction on the attempts still allowed. -/
theorem loops_of_transcribes {made : Nat} {initialIsNew : Option Bool} {calls : Calls}
    {outcome : Except Exc ProcessedKafkaRecord} (returned : LocalCallsReturn calls)
    (transcribed : Transcribes (retryLoop runtime consumer message payload event made initialIsNew)
      calls outcome) :
    Loops runtime consumer message payload event made initialIsNew calls outcome := by
  induction remaining : consumer.retryPolicy.maxAttempts - made using Nat.strong_induction_on
    generalizing made initialIsNew calls with
  | _ left ih =>
      rw [retryLoop] at transcribed
      obtain ⟨first, rest, result, rfl, attempted, resumed⟩ := transcribes_bind_iff.mp transcribed
      obtain ⟨answers, rfl, rfl⟩ := attempt_once_transcribes_iff.mp attempted
      have later := (local_calls_append.mp returned).2
      simp only [Resumes] at resumed
      cases ended : answers.outcome consumer with
      | ok _ =>
          rw [ended] at resumed
          obtain ⟨answer, rfl, rfl⟩ := commit_then_transcribes_iff.mp resumed
          exact .finished made initialIsNew answers answer ended
      | error cause =>
          rw [ended] at resumed
          by_cases retry : consumer.retryPolicy.isRetryable cause = true ∧
              made + 1 < consumer.retryPolicy.maxAttempts
          · simp only [if_pos retry] at resumed
            obtain ⟨waited, tail, rfl, again⟩ := transcribes_step_iff.mp resumed
            obtain ⟨_, rfl⟩ := local_call_returned rfl later
            have fewer : consumer.retryPolicy.maxAttempts - (made + 1) < left := by omega
            exact .retried made initialIsNew answers cause tail outcome ended retry
              (ih _ fewer (local_calls_tail later) again rfl)
          · simp only [if_neg retry] at resumed
            exact .gaveUp made initialIsNew answers cause rest outcome ended retry
              (gives_up_of_transcribes later resumed)

theorem transcribes_of_loops {made : Nat} {initialIsNew : Option Bool} {calls : Calls}
    {outcome : Except Exc ProcessedKafkaRecord}
    (loops : Loops runtime consumer message payload event made initialIsNew calls outcome) :
    Transcribes (retryLoop runtime consumer message payload event made initialIsNew) calls
      outcome := by
  induction loops with
  | finished made initialIsNew answers answer succeeded =>
      rw [retryLoop]
      refine transcribes_bind_iff.mpr ⟨_, _, _, rfl,
        attempt_once_transcribes_iff.mpr ⟨answers, rfl, rfl⟩, ?_⟩
      simp only [Resumes, succeeded]
      exact commit_then_transcribes_iff.mpr ⟨answer, rfl, rfl⟩
  | retried made initialIsNew answers cause rest outcome failed retries further ih =>
      rw [retryLoop]
      refine transcribes_bind_iff.mpr ⟨_, _, _, rfl,
        attempt_once_transcribes_iff.mpr ⟨answers, rfl, rfl⟩, ?_⟩
      unfold Retries at retries
      simp only [Resumes, failed, if_pos retries]
      exact transcribes_step_iff.mpr ⟨.ok (), rest, rfl, ih⟩
  | gaveUp made initialIsNew answers cause rest outcome failed forGood given =>
      rw [retryLoop]
      refine transcribes_bind_iff.mpr ⟨_, _, _, rfl,
        attempt_once_transcribes_iff.mpr ⟨answers, rfl, rfl⟩, ?_⟩
      unfold Retries at forGood
      simp only [Resumes, failed, if_neg forGood]
      exact transcribes_of_gives_up given

end Loop

section Stages

/-- The part of a delivery that makes a call. -/
inductive Stage where
  | receive
  | effect
  | backoff
  | discard
  | publish
  | commit
  deriving DecidableEq

def stage : Op → Stage
  | .poll => .receive
  | .order (.store _) | .order (.markCompleted _) | .notify _ => .effect
  | .order (.discard _) => .discard
  | .wait _ => .backoff
  | .uuid4 | .utcNow | .produce _ | .flush _ => .publish
  | .commit _ => .commit

variable {runtime : Runtime} {consumer : KafkaOrderConsumer} {message : Message}
variable {payload : PyVal} {event : OrderCreatedEvent}

theorem attempt_stage (answers : AttemptAnswers) :
    ∀ exchange ∈ answers.calls consumer event, stage exchange.op = .effect := by
  intro exchange member
  rcases List.mem_cons.mp member with rfl | later
  · rfl
  · cases stored : answers.store with
    | error fault => simp [stored] at later
    | ok result =>
        simp only [stored] at later
        by_cases required : result.downstreamRequired = true
        · rw [if_pos required, AttemptAnswers.downstreamCalls] at later
          by_cases hasDownstream : consumer.downstream = true
          · rw [if_pos hasDownstream] at later
            cases notified : answers.notify with
            | error fault =>
                rw [notified, List.mem_singleton] at later
                rw [later]
                rfl
            | ok _ =>
                rw [notified] at later
                rcases List.mem_cons.mp later with rfl | last
                · rfl
                · rw [List.mem_singleton.mp last]
                  rfl
          · rw [if_neg hasDownstream, List.mem_singleton] at later
            rw [later]
            rfl
        · rw [if_neg required] at later
          cases later

theorem publishes_stage {topic : Str} {failure : DeadLetterFailure} {calls : Calls}
    {outcome : Except Exc KafkaPublishReceipt}
    (published : Publishes runtime topic failure calls outcome) :
    ∀ exchange ∈ calls, stage exchange.op = .publish := by
  cases published <;> simp [stage]

theorem dead_letters_stage {topic : Str} {failure : DeadLetterFailure} {duplicate : Bool}
    {calls : Calls} {outcome : Except Exc ProcessedKafkaRecord}
    (published : DeadLetters runtime consumer topic message failure duplicate calls outcome) :
    ∀ exchange ∈ calls, stage exchange.op = .publish ∨ stage exchange.op = .commit := by
  cases published with
  | unpublished _ fault published =>
      exact fun exchange member => .inl (publishes_stage published exchange member)
  | concluded first receipt answer published =>
      intro exchange member
      rcases List.mem_append.mp member with early | last
      · exact .inl (publishes_stage published exchange early)
      · rw [List.mem_singleton.mp last]
        exact .inr rfl

theorem gives_up_stage {attempts : Nat} {initialIsNew : Option Bool} {cause : Exc}
    {calls : Calls} {outcome : Except Exc ProcessedKafkaRecord}
    (given : GivesUp runtime consumer message payload event attempts initialIsNew cause calls
      outcome) :
    ∀ exchange ∈ calls, stage exchange.op = .discard ∨ stage exchange.op = .publish ∨
      stage exchange.op = .commit := by
  cases given with
  | noPublisher absent => simp
  | undiscarded topic fault destination => simp [stage]
  | deadLettered topic rest _ destination published =>
      intro exchange member
      rcases List.mem_cons.mp member with rfl | later
      · exact .inl rfl
      · exact .inr (dead_letters_stage published exchange later)

/-- Giving up polls nothing and repeats no effect. -/
theorem gives_up_quiet {attempts : Nat} {initialIsNew : Option Bool} {cause : Exc}
    {calls : Calls} {outcome : Except Exc ProcessedKafkaRecord}
    (given : GivesUp runtime consumer message payload event attempts initialIsNew cause calls
      outcome) :
    ∀ exchange ∈ calls, stage exchange.op ≠ .effect ∧ stage exchange.op ≠ .receive := by
  intro exchange member
  rcases gives_up_stage given exchange member with discard | publish | commit
  · simp [discard]
  · simp [publish]
  · simp [commit]

theorem loops_stage {made : Nat} {initialIsNew : Option Bool} {calls : Calls}
    {outcome : Except Exc ProcessedKafkaRecord}
    (loops : Loops runtime consumer message payload event made initialIsNew calls outcome) :
    ∀ exchange ∈ calls, stage exchange.op ≠ .receive := by
  have attempted : ∀ answers : AttemptAnswers, ∀ exchange ∈ answers.calls consumer event,
      stage exchange.op ≠ .receive := by
    intro answers exchange member
    rw [attempt_stage answers exchange member]
    decide
  induction loops with
  | finished made initialIsNew answers answer succeeded =>
      intro exchange member
      rcases List.mem_append.mp member with early | last
      · exact attempted answers exchange early
      · rw [List.mem_singleton.mp last]
        simp [stage]
  | retried made initialIsNew answers cause rest outcome failed retries further ih =>
      intro exchange member
      rcases List.mem_append.mp member with early | late
      · exact attempted answers exchange early
      · rcases List.mem_cons.mp late with rfl | later
        · simp [stage]
        · exact ih exchange later
  | gaveUp made initialIsNew answers cause rest outcome failed forGood given =>
      intro exchange member
      rcases List.mem_append.mp member with early | late
      · exact attempted answers exchange early
      · exact (gives_up_quiet given exchange late).2

end Stages

section Delivery

variable (runtime : Runtime) (consumer : KafkaOrderConsumer)

/-- What a delivery says after the record has been received. -/
inductive Processes (message : Message) : Calls → Except Exc ProcessedKafkaRecord → Prop where
  | broken (error : Str) (reported : message.error = some error) :
      Processes message [] (.error (brokerError message error))
  | invalid (cause : Exc) (sound : message.error = none)
      (undecoded : decodeValue runtime message.value = .error cause)
      (absent : consumer.deadLetterTopic = none) :
      Processes message [] (.error (validationFailed message cause))
  | invalidDeadLettered (cause : Exc) (topic : Str) (calls : Calls)
      (outcome : Except Exc ProcessedKafkaRecord) (sound : message.error = none)
      (undecoded : decodeValue runtime message.value = .error cause)
      (destination : consumer.deadLetterTopic = some topic)
      (published : DeadLetters runtime consumer topic message
        (failureOf message (safeOriginalPayload runtime message.value) cause 1 none) false
        calls outcome) :
      Processes message calls outcome
  | looped (payload : PyVal) (event : OrderCreatedEvent) (calls : Calls)
      (outcome : Except Exc ProcessedKafkaRecord) (sound : message.error = none)
      (decoded : decodeValue runtime message.value = .ok (payload, event))
      (loops : Loops runtime consumer message payload event 0 none calls outcome) :
      Processes message calls outcome

variable {runtime consumer}

theorem processes_of_transcribes {message : Message} {calls : Calls}
    {outcome : Except Exc ProcessedKafkaRecord} (returned : LocalCallsReturn calls)
    (transcribed : Transcribes (process runtime consumer message) calls outcome) :
    Processes runtime consumer message calls outcome := by
  unfold process at transcribed
  split at transcribed
  next error reported =>
    obtain ⟨rfl, rfl⟩ := transcribes_raise_iff.mp transcribed
    exact .broken error reported
  next sound =>
    split at transcribed
    next payload event decoded =>
      exact .looped payload event calls outcome sound decoded
        (loops_of_transcribes returned transcribed)
    next cause undecoded =>
      split at transcribed
      next topic destination =>
        exact .invalidDeadLettered cause topic calls outcome sound undecoded destination
          (dead_letters_of_transcribes runtime consumer returned transcribed)
      next absent =>
        obtain ⟨rfl, rfl⟩ := transcribes_raise_iff.mp transcribed
        exact .invalid cause sound undecoded absent

theorem transcribes_of_processes {message : Message} {calls : Calls}
    {outcome : Except Exc ProcessedKafkaRecord}
    (processed : Processes runtime consumer message calls outcome) :
    Transcribes (process runtime consumer message) calls outcome := by
  unfold process
  cases processed with
  | broken error reported =>
      rw [reported]
      exact transcribes_raise_iff.mpr ⟨rfl, rfl⟩
  | invalid cause sound undecoded absent =>
      rw [sound]
      simp only [undecoded, absent]
      exact transcribes_raise_iff.mpr ⟨rfl, rfl⟩
  | invalidDeadLettered cause topic _ _ sound undecoded destination published =>
      rw [sound]
      simp only [undecoded, destination]
      exact transcribes_of_dead_letters runtime consumer published
  | looped payload event _ _ sound decoded loops =>
      rw [sound]
      simp only [decoded]
      exact transcribes_of_loops loops

theorem processes_stage {message : Message} {calls : Calls}
    {outcome : Except Exc ProcessedKafkaRecord}
    (processed : Processes runtime consumer message calls outcome) :
    ∀ exchange ∈ calls, stage exchange.op ≠ .receive := by
  cases processed with
  | broken error reported => simp
  | invalid cause sound undecoded absent => simp
  | invalidDeadLettered cause topic _ _ sound undecoded destination published =>
      intro exchange member
      rcases dead_letters_stage published exchange member with publish | commit
      · simp [publish]
      · simp [commit]
  | looped payload event _ _ sound decoded loops => exact loops_stage loops

/-- The polls that came back empty, before one that did not. -/
def EmptyPolls (calls : Calls) : Prop := ∀ exchange ∈ calls, exchange = ⟨.poll, .ok none⟩

theorem receive_transcribes {polls : Nat} {calls : Calls} {outcome : Except Exc (Option Message)}
    (transcribed : Transcribes (receive polls) calls outcome) :
    (∃ message early, outcome = .ok (some message) ∧ EmptyPolls early ∧
      calls = early ++ [⟨.poll, .ok (some message)⟩]) ∨
    (∃ early, EmptyPolls early ∧ ((outcome = .ok none ∧ calls = early) ∨
      ∃ fault, outcome = .error fault ∧ calls = early ++ [⟨.poll, .error fault⟩])) := by
  induction polls generalizing calls with
  | zero =>
      obtain ⟨rfl, rfl⟩ := transcribes_done_iff.mp transcribed
      exact .inr ⟨[], by simp [EmptyPolls], .inl ⟨rfl, rfl⟩⟩
  | succ polls ih =>
      unfold receive at transcribed
      obtain ⟨answer, rest, rfl, resumed⟩ := transcribes_step_iff.mp transcribed
      rcases answer with fault | _ | message
      · obtain ⟨rfl, rfl⟩ := resumed
        exact .inr ⟨[], by simp [EmptyPolls], .inr ⟨fault, rfl, rfl⟩⟩
      · have extended : ∀ early : Calls, EmptyPolls early →
            EmptyPolls (⟨.poll, .ok none⟩ :: early) := by
          intro early empty exchange member
          rcases List.mem_cons.mp member with rfl | later
          · rfl
          · exact empty exchange later
        rcases ih resumed with ⟨message, early, rfl, empty, rfl⟩ | ⟨early, empty, ended⟩
        · exact .inl ⟨message, _, rfl, extended early empty, rfl⟩
        · refine .inr ⟨_, extended early empty, ?_⟩
          rcases ended with ⟨rfl, rfl⟩ | ⟨fault, rfl, rfl⟩
          · exact .inl ⟨rfl, rfl⟩
          · exact .inr ⟨fault, rfl, rfl⟩
      · obtain ⟨rfl, rfl⟩ := transcribes_done_iff.mp resumed
        exact .inl ⟨message, [], rfl, by simp [EmptyPolls], rfl⟩

theorem empty_polls_silent {early : Calls} (empty : EmptyPolls early) {message : Message} :
    (⟨.poll, .ok (some message)⟩ : Exchange Exc Op.Ret) ∉ early := by
  intro member
  cases empty _ member

/-- A delivery polls until it has a record; what follows is `process`. -/
theorem process_one_transcribes {timeoutSeconds : ℚ} {polls : Nat} {calls : Calls}
    {outcome : Except Exc ProcessedKafkaRecord}
    (transcribed : Transcribes (processOne runtime consumer timeoutSeconds polls) calls outcome) :
    (∃ message early rest, EmptyPolls early ∧
      calls = early ++ ⟨.poll, .ok (some message)⟩ :: rest ∧
      Transcribes (process runtime consumer message) rest outcome) ∨
    ((∀ exchange ∈ calls, exchange.op = .poll) ∧
      (∀ message, ⟨.poll, .ok (some message)⟩ ∉ calls) ∧ ∃ fault, outcome = .error fault) := by
  unfold processOne at transcribed
  by_cases late : timeoutSeconds ≤ 0
  · rw [if_pos late] at transcribed
    obtain ⟨rfl, rfl⟩ := transcribes_raise_iff.mp transcribed
    exact .inr ⟨by simp, by simp, _, rfl⟩
  · rw [if_neg late] at transcribed
    obtain ⟨first, rest, result, rfl, received, resumed⟩ := transcribes_bind_iff.mp transcribed
    have polled : ∀ early : Calls, EmptyPolls early → ∀ exchange ∈ early, exchange.op = .poll := by
      intro early empty exchange member
      rw [empty exchange member]
    rcases receive_transcribes received with
      ⟨message, early, rfl, empty, rfl⟩ | ⟨early, empty, ⟨rfl, rfl⟩ | ⟨fault, rfl, rfl⟩⟩
    · refine .inl ⟨message, early, rest, empty, ?_, resumed⟩
      rw [List.append_assoc]
      rfl
    · obtain ⟨rfl, rfl⟩ := transcribes_raise_iff.mp resumed
      rw [List.append_nil]
      exact .inr ⟨polled first empty, fun message => empty_polls_silent empty, _, rfl⟩
    · obtain ⟨rfl, rfl⟩ := resumed
      rw [List.append_nil]
      refine .inr ⟨?_, ?_, fault, rfl⟩
      · intro exchange member
        rcases List.mem_append.mp member with early' | last
        · exact polled early empty exchange early'
        · rw [List.mem_singleton.mp last]
      · intro message member
        rcases List.mem_append.mp member with early' | last
        · exact empty_polls_silent empty early'
        · cases List.mem_singleton.mp last

/-- The two parts of a delivery: its polls, and what `process` says about the record. -/
theorem process_one_parts {timeoutSeconds : ℚ} {polls : Nat} {calls : Calls}
    {outcome : Except Exc ProcessedKafkaRecord} (returned : LocalCallsReturn calls)
    (transcribed : Transcribes (processOne runtime consumer timeoutSeconds polls) calls outcome) :
    (∃ message polled rest, calls = polled ++ rest ∧
      (∀ exchange ∈ polled, stage exchange.op = .receive) ∧
      ⟨.poll, .ok (some message)⟩ ∈ polled ∧
      (∀ other, ⟨.poll, .ok (some other)⟩ ∈ calls → other = message) ∧
      Processes runtime consumer message rest outcome) ∨
    ((∀ exchange ∈ calls, stage exchange.op = .receive) ∧
      ∀ message, ⟨.poll, .ok (some message)⟩ ∉ calls) := by
  rcases process_one_transcribes transcribed with
    ⟨message, early, rest, empty, rfl, processed⟩ | ⟨polled, silent, _⟩
  · have restReturned := local_calls_tail (local_calls_append.mp returned).2
    have processes := processes_of_transcribes restReturned processed
    refine .inl ⟨message, early ++ [⟨.poll, .ok (some message)⟩], rest, by simp, ?_, by simp, ?_,
      processes⟩
    · intro exchange member
      rcases List.mem_append.mp member with inEarly | last
      · rw [empty exchange inEarly]
        rfl
      · rw [List.mem_singleton.mp last]
        rfl
    · intro other member
      rcases List.mem_append.mp member with inEarly | late
      · exact absurd inEarly (empty_polls_silent empty)
      · rcases List.mem_cons.mp late with poll | later
        · cases poll
          rfl
        · exact absurd rfl (processes_stage processes _ later)
  · refine .inr ⟨?_, silent⟩
    intro exchange member
    rw [polled exchange member]
    rfl

/-- What follows the receipt of a record. -/
theorem process_one_received {timeoutSeconds : ℚ} {polls : Nat} {message : Message}
    {calls : Calls} {outcome : Except Exc ProcessedKafkaRecord}
    (returned : LocalCallsReturn calls) (received : ⟨.poll, .ok (some message)⟩ ∈ calls)
    (transcribed : Transcribes (processOne runtime consumer timeoutSeconds polls) calls outcome) :
    ∃ polled rest, calls = polled ++ rest ∧
      (∀ exchange ∈ polled, stage exchange.op = .receive) ∧
      Processes runtime consumer message rest outcome := by
  rcases process_one_parts returned transcribed with
    ⟨handed, polled, rest, same, receives, _, only, processed⟩ | ⟨_, silent⟩
  · rw [only message received]
    exact ⟨polled, rest, same, receives, processed⟩
  · exact absurd received (silent message)

/-- A first poll that hands out a record leads to any behaviour of `process`. -/
theorem transcribes_received {timeoutSeconds : ℚ} {polls : Nat} {message : Message}
    {calls : Calls} {outcome : Except Exc ProcessedKafkaRecord} (positive : 0 < timeoutSeconds)
    (processed : Processes runtime consumer message calls outcome) :
    Transcribes (processOne runtime consumer timeoutSeconds (polls + 1))
      (⟨.poll, .ok (some message)⟩ :: calls) outcome := by
  unfold processOne
  rw [if_neg (not_le_of_gt positive)]
  refine transcribes_bind_iff.mpr ⟨[⟨.poll, .ok (some message)⟩], calls, .ok (some message), rfl,
    ?_, transcribes_of_processes processed⟩
  unfold receive
  exact transcribes_step_iff.mpr ⟨.ok (some message), [], rfl,
    transcribes_done_iff.mpr ⟨rfl, rfl⟩⟩

end Delivery

end OrderMessaging.Processing.DeliveryTranscript
