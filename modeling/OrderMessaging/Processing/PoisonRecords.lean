import OrderMessaging.Processing.AcceptedNotification

/-!
No record can hold its partition up. Whatever bytes the broker hands out as key
and value, the envelope of the failed record can be built once `json.dumps` prints
it, so a delivery whose failure handling works ends with the offset committed.
-/

namespace OrderMessaging.Processing.PoisonRecords

open OrderMessaging.PyText OrderMessaging.PyException OrderMessaging.PyValue
open OrderMessaging.Transcript OrderMessaging.Contracts.Models
open OrderMessaging.Contracts.Reference OrderMessaging.Processing.DeadLetterEnvelope
open OrderMessaging.Processing.StoreOperations OrderMessaging.Processing.KafkaCollaborators
open OrderMessaging.Processing.RetryAndDeadLetter OrderMessaging.Processing.KafkaDelivery
open OrderMessaging.Processing.DeliveryOutcome OrderMessaging.Processing.DeliveryTranscript
open OrderMessaging.Processing.NotificationClient OrderMessaging.Processing.RetryAccounting
open OrderMessaging.Processing.AcceptedNotification OrderMessaging.Processing.DeliveryConfluence

set_option autoImplicit false

/-- A call of the failure handling that worked: the discard succeeded, the broker
acknowledged the one record it was given, the commit reported no error. -/
def Works : Exchange Exc Op.Ret → Prop
  | ⟨.order (.discard _), answer⟩ => answer = .ok ()
  | ⟨.produce _, answer⟩ => answer = .ok ()
  | ⟨.flush _, answer⟩ => ∃ delivered, answer = .ok ⟨0, [.ok delivered]⟩
  | ⟨.commit _, answer⟩ => ∃ partitions, answer = .ok partitions ∧ commitAccepted partitions = true
  | _ => True

def HandlingWorks (calls : Calls) : Prop := ∀ exchange ∈ calls, Works exchange

/-- The classes of the exceptions that collaborators raised have names that are text. -/
def ClassesNamed (calls : Calls) : Prop :=
  ∀ exchange ∈ calls, ∀ fault, exchange.answer = .error fault → Encodable fault.type.name

def producedRecord : Op → Option DlqRecord
  | .produce record => some record
  | _ => none

def producedRecords (calls : Calls) : List DlqRecord :=
  calls.filterMap fun exchange => producedRecord exchange.op

/-- The offset of the message was committed. -/
def OffsetCommitted (message : Message) (calls : Calls) : Prop :=
  ∃ partitions, ⟨.commit message, .ok partitions⟩ ∈ calls ∧ commitAccepted partitions = true

/-- The record says so, and one envelope for the message was acknowledged. -/
def DeadLetteredOnce (runtime : Runtime) (topic : Str) (message : Message) (calls : Calls)
    (record : ProcessedKafkaRecord) : Prop :=
  record.deadLettered = true ∧ ∃ envelope, producedRecords calls = [envelope] ∧
    EnvelopeFor runtime topic message envelope ∧
    ∃ report : FlushReport, ⟨.flush envelope, .ok report⟩ ∈ calls ∧ report.delivered.length = 1

section Delivery

variable {runtime : Runtime} {consumer : KafkaOrderConsumer} {message : Message}
variable {payload : PyVal} {event : OrderCreatedEvent}

theorem produced_append (first rest : Calls) :
    producedRecords (first ++ rest) = producedRecords first ++ producedRecords rest :=
  List.filterMap_append

theorem produced_nil {calls : Calls} (quiet : ∀ exchange ∈ calls, stage exchange.op ≠ .publish) :
    producedRecords calls = [] := by
  apply List.filterMap_eq_nil_iff.mpr
  intro exchange member
  have own := quiet exchange member
  obtain ⟨op, answer⟩ := exchange
  cases op with
  | produce record => exact absurd rfl own
  | poll | order _ | notify _ | wait _ | uuid4 | utcNow | flush _ | commit _ => rfl

theorem attempt_silent (answers : AttemptAnswers) :
    producedRecords (answers.calls consumer event) = [] := by
  apply produced_nil
  intro exchange member
  simp [attempt_stage answers exchange member]

theorem committed_append {early rest : Calls} (committed : OffsetCommitted message rest) :
    OffsetCommitted message (early ++ rest) := by
  obtain ⟨partitions, member, clean⟩ := committed
  exact ⟨partitions, List.mem_append_right early member, clean⟩

theorem lettered_append {topic : Str} {early rest : Calls} {record : ProcessedKafkaRecord}
    (silent : producedRecords early = [])
    (lettered : DeadLetteredOnce runtime topic message rest record) :
    DeadLetteredOnce runtime topic message (early ++ rest) record := by
  obtain ⟨flag, envelope, single, own, report, flushed, one⟩ := lettered
  refine ⟨flag, envelope, ?_, own, report, List.mem_append_right early flushed, one⟩
  rw [produced_append, silent, single]
  rfl

theorem commit_works {answer : Except Exc (List (Option Str))} (eventId : Str)
    (accepted : ∃ partitions, answer = .ok partitions ∧ commitAccepted partitions = true) :
    commitOutcome message eventId answer = .ok () := by
  obtain ⟨partitions, rfl, clean⟩ := accepted
  have silent : partitions.filterMap id = [] := by
    rw [List.filterMap_eq_nil_iff]
    intro error member
    exact Option.isNone_iff_eq_none.mp (List.all_eq_true.mp clean error member)
  rw [commitOutcome, silent]

/-- A publication whose broker acknowledges succeeds with one record. -/
theorem publication_works (json : JsonTexts runtime) {topic : Str} {failure : DeadLetterFailure}
    {calls : Calls} {outcome : Except Exc KafkaPublishReceipt} (presentable : Presentable failure)
    (printed : ∀ deadLetterId isoformat,
      Printable runtime (.dict (failure.toWireDict deadLetterId isoformat)))
    (works : HandlingWorks calls)
    (published : Publishes runtime topic failure calls outcome) :
    (∃ receipt, outcome = .ok receipt) ∧ ∃ deadLetterId isoformat envelope,
      dlqRecord runtime topic failure deadLetterId isoformat = .ok envelope ∧
      producedRecords calls = [envelope] ∧
      ∃ report : FlushReport, ⟨.flush envelope, .ok report⟩ ∈ calls ∧
        report.delivered.length = 1 := by
  cases published with
  | unencodable deadLetterId isoformat fault refused =>
      obtain ⟨record, built⟩ :=
        dlq_record_built json topic presentable (printed deadLetterId isoformat)
      rw [refused] at built
      cases built
  | refused deadLetterId isoformat record fault built =>
      cases works ⟨.produce record, .error fault⟩ (by simp)
  | interrupted deadLetterId isoformat record fault built =>
      obtain ⟨delivered, same⟩ := works ⟨.flush record, .error fault⟩ (by simp)
      cases same
  | flushed deadLetterId isoformat record report built =>
      obtain ⟨delivered, same⟩ := works ⟨.flush record, .ok report⟩ (by simp)
      cases same
      exact ⟨⟨_, rfl⟩, deadLetterId, isoformat, record, built, rfl, ⟨0, [.ok delivered]⟩, by simp, rfl⟩

theorem dead_letter_works (json : JsonTexts runtime) {policy : RetryPolicy} {topic : Str}
    {originalPayload : PyVal} {error : Exc} {attempts : Nat} {known : Option OrderCreatedEvent}
    {duplicate : Bool} {calls : Calls} {outcome : Except Exc ProcessedKafkaRecord}
    (sourceTopic : Encodable message.topic) (prints : EnvelopePrints runtime policy message)
    (carried : Carried runtime message originalPayload known)
    (allowed : attempts ≤ policy.maxAttempts) (named : Encodable error.type.name)
    (works : HandlingWorks calls)
    (published : DeadLetters runtime consumer topic message
      (failureOf message originalPayload error attempts known) duplicate calls outcome) :
    ∃ record, outcome = .ok record ∧ OffsetCommitted message calls ∧
      DeadLetteredOnce runtime topic message calls record := by
  have presentable : Presentable (failureOf message originalPayload error attempts known) :=
    failure_presentable sourceTopic named originalPayload attempts known
  have printed := fun deadLetterId isoformat =>
    prints originalPayload known carried error attempts deadLetterId isoformat allowed
  cases published with
  | unpublished _ fault published =>
      obtain ⟨⟨receipt, succeeded⟩, _⟩ := publication_works json presentable printed works published
      cases succeeded
  | concluded first receipt answer published =>
      obtain ⟨early, late⟩ := List.forall_mem_append.mp works
      obtain ⟨_, deadLetterId, isoformat, envelope, built, produced, report, flushed, one⟩ :=
        publication_works json presentable printed early published
      have accepted := late ⟨.commit message, answer⟩ (List.mem_singleton.mpr rfl)
      rw [deadLetterOutcome, commit_works _ accepted]
      refine ⟨_, rfl, ?_, rfl, envelope, ?_, ⟨_, deadLetterId, isoformat, rfl, rfl, rfl, built⟩,
        report, List.mem_append_left _ flushed, one⟩
      · obtain ⟨partitions, rfl, clean⟩ := accepted
        exact ⟨partitions, List.mem_append_right first (List.mem_singleton.mpr rfl), clean⟩
      · rw [produced_append, produced]
        rfl

theorem gave_up_works (json : JsonTexts runtime) {topic : Str}
    (publisher : consumer.deadLetterTopic = some topic) (sourceTopic : Encodable message.topic)
    (prints : EnvelopePrints runtime consumer.retryPolicy message)
    (carried : Carried runtime message payload (some event)) {attempts : Nat}
    (allowed : attempts ≤ consumer.retryPolicy.maxAttempts) {initialIsNew : Option Bool}
    {cause : Exc} (named : Encodable cause.type.name) {calls : Calls}
    {outcome : Except Exc ProcessedKafkaRecord} (works : HandlingWorks calls)
    (given : GivesUp runtime consumer message payload event attempts initialIsNew cause calls
      outcome) :
    ∃ record, outcome = .ok record ∧ OffsetCommitted message calls ∧
      DeadLetteredOnce runtime topic message calls record := by
  cases given with
  | noPublisher absent =>
      rw [publisher] at absent
      cases absent
  | undiscarded own fault destination =>
      cases works ⟨.order (.discard event.eventId), .error fault⟩ List.mem_cons_self
  | deadLettered own calls _ destination published =>
      cases publisher.symm.trans destination
      obtain ⟨record, ended, committed, lettered⟩ := dead_letter_works json sourceTopic prints
        carried allowed named (fun exchange member => works exchange (List.mem_cons_of_mem _ member))
        published
      rw [← List.singleton_append]
      exact ⟨record, ended, committed_append committed, lettered_append rfl lettered⟩

/-- What the loop leaves behind when the failure handling works. By induction on
its attempts. -/
theorem loop_works (json : JsonTexts runtime) {topic : Str}
    (publisher : consumer.deadLetterTopic = some topic) (sourceTopic : Encodable message.topic)
    (prints : EnvelopePrints runtime consumer.retryPolicy message)
    (carried : Carried runtime message payload (some event)) {made : Nat}
    (allowed : made < consumer.retryPolicy.maxAttempts) {initialIsNew : Option Bool}
    {calls : Calls} {outcome : Except Exc ProcessedKafkaRecord} (works : HandlingWorks calls)
    (named : ClassesNamed calls)
    (loops : Loops runtime consumer message payload event made initialIsNew calls outcome) :
    ∃ record, outcome = .ok record ∧ OffsetCommitted message calls ∧
      (LastEffectRaised calls → DeadLetteredOnce runtime topic message calls record) ∧
      (¬LastEffectRaised calls → record.deadLettered = false ∧ producedRecords calls = []) := by
  induction loops with
  | finished made initialIsNew answers answer succeeded =>
      have accepted := works ⟨.commit message, answer⟩
        (List.mem_append_right _ (List.mem_singleton.mpr rfl))
      have last : LastEffectRaised (answers.calls consumer event ++ [⟨.commit message, answer⟩]) ↔
          ∃ cause, answers.outcome consumer = .error cause :=
        effects_last answers _ (by simp [effectCalls, stage])
      rw [finishOutcome, commit_works _ accepted]
      refine ⟨_, rfl, ?_, ?_, ?_⟩
      · obtain ⟨partitions, rfl, clean⟩ := accepted
        exact committed_append ⟨partitions, List.mem_singleton.mpr rfl, clean⟩
      · intro raised
        obtain ⟨cause, contrary⟩ := last.mp raised
        rw [succeeded] at contrary
        cases contrary
      · intro _
        refine ⟨rfl, ?_⟩
        rw [produced_append, attempt_silent]
        rfl
  | retried made initialIsNew answers cause rest outcome failed retries further ih =>
      have last := retried_last consumer event answers consumer.retryPolicy.backoffSeconds
        (loop_end further).1
      have silent : producedRecords (answers.calls consumer event ++
          [⟨.wait consumer.retryPolicy.backoffSeconds, .ok ()⟩]) = [] := by
        rw [produced_append, attempt_silent]
        rfl
      rw [List.append_cons] at works named last ⊢
      have laterNamed : ClassesNamed rest := fun exchange member =>
        named exchange (List.mem_append_right _ member)
      obtain ⟨record, ended, committed, lettered, spared⟩ :=
        ih retries.2 (List.forall_mem_append.mp works).2 laterNamed
      refine ⟨record, ended, committed_append committed, ?_, ?_⟩
      · exact fun raised => lettered_append silent (lettered (last.mp raised))
      · intro sound
        rw [last] at sound
        rw [produced_append, silent]
        exact spared sound
  | gaveUp made initialIsNew answers cause rest outcome failed forGood given =>
      obtain ⟨op, raised⟩ := attempt_fault_raised failed
      have causeNamed := named _ (List.mem_append_left _ raised) cause rfl
      obtain ⟨record, ended, committed, lettered⟩ := gave_up_works json publisher sourceTopic prints
        carried allowed causeNamed (List.forall_mem_append.mp works).2 given
      refine ⟨record, ended, committed_append committed, ?_, ?_⟩
      · exact fun _ => lettered_append (attempt_silent answers) lettered
      · exact fun sound => absurd (gave_up_last failed given) sound

end Delivery

end OrderMessaging.Processing.PoisonRecords
