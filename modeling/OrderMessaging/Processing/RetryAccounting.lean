import Mathlib.Data.Nat.Find
import OrderMessaging.Processing.DeliveryConfluence
import OrderMessaging.Processing.DeliveryTranscript
import OrderMessaging.Processing.NotificationClient

/-!
How often a delivery calls each collaborator. The answers of the attempts are
given in advance, attempt by attempt; the loop ends with the first of them that
succeeds, fails for good or is the last allowed, and every count follows from its
number.
-/

namespace OrderMessaging.Processing.RetryAccounting

open OrderMessaging.PyText OrderMessaging.PyException OrderMessaging.PyValue
open OrderMessaging.Program OrderMessaging.Transcript OrderMessaging.Contracts.Models
open OrderMessaging.Processing.PostgresOrderStore OrderMessaging.Processing.StoreOperations
open OrderMessaging.Processing.KafkaCollaborators OrderMessaging.Processing.RetryAndDeadLetter
open OrderMessaging.Processing.KafkaDelivery OrderMessaging.Processing.DeliveryTranscript
open OrderMessaging.Processing.NotificationClient OrderMessaging.Processing.DecodeAgreement
open OrderMessaging.Processing.DeliveryConfluence OrderMessaging.Contracts.Reference

set_option autoImplicit false

section Counting

def isStore : Op → Bool
  | .order (.store _) => true
  | _ => false

def isNotify : Op → Bool
  | .notify _ => true
  | _ => false

def isMark : Op → Bool
  | .order (.markCompleted _) => true
  | _ => false

def isDiscard : Op → Bool
  | .order (.discard _) => true
  | _ => false

theorem stage_of_store {op : Op} (store : isStore op = true) : stage op = .effect := by
  unfold isStore at store
  split at store
  · rfl
  · cases store

theorem stage_of_discard {op : Op} (discard : isDiscard op = true) : stage op = .discard := by
  unfold isDiscard at discard
  split at discard
  · rfl
  · cases discard

def count (kind : Op → Bool) (calls : Calls) : Nat := calls.countP fun exchange => kind exchange.op

def effectCalls (calls : Calls) : Calls :=
  calls.filter fun exchange => stage exchange.op = .effect

theorem count_append (kind : Op → Bool) (first rest : Calls) :
    count kind (first ++ rest) = count kind first + count kind rest := List.countP_append

theorem count_cons (kind : Op → Bool) (exchange : Exchange Exc Op.Ret) (rest : Calls) :
    count kind (exchange :: rest) = count kind rest + if kind exchange.op then 1 else 0 :=
  List.countP_cons

theorem count_zero {kind : Op → Bool} {calls : Calls}
    (none : ∀ exchange ∈ calls, kind exchange.op = false) : count kind calls = 0 := by
  apply List.countP_eq_zero.mpr
  intro exchange member
  rw [none exchange member]
  exact Bool.false_ne_true

theorem effect_calls_append (first rest : Calls) :
    effectCalls (first ++ rest) = effectCalls first ++ effectCalls rest := List.filter_append ..

theorem effect_calls_self {calls : Calls}
    (all : ∀ exchange ∈ calls, stage exchange.op = .effect) : effectCalls calls = calls := by
  apply List.filter_eq_self.mpr
  intro exchange member
  exact decide_eq_true (all exchange member)

theorem effect_calls_nil {calls : Calls}
    (none : ∀ exchange ∈ calls, stage exchange.op ≠ .effect) : effectCalls calls = [] := by
  apply List.filter_eq_nil_iff.mpr
  intro exchange member
  exact fun effect => none exchange member (of_decide_eq_true effect)

/-- Kinds of calls that belong to the attempts are counted among their calls. -/
theorem count_effects {kind : Op → Bool} (own : ∀ op, kind op = true → stage op = .effect)
    (calls : Calls) : count kind calls = count kind (effectCalls calls) := by
  rw [count, count, effectCalls, List.countP_filter]
  apply List.countP_congr
  intro exchange _
  constructor
  · intro counted
    simp [counted, own exchange.op counted]
  · intro both
    exact (Bool.and_eq_true_iff.mp both).1

end Counting

section Script

variable (consumer : KafkaOrderConsumer) (event : OrderCreatedEvent)
variable (outcomes : Nat → AttemptAnswers)

/-- The calls and the outcome of an attempt whose store returned. -/
theorem attempt_stored {answers : AttemptAnswers} {stored : EventStoreResult}
    (succeeded : answers.store = .ok stored) :
    answers.calls consumer event = ⟨.order (.store event), .ok stored⟩ ::
        (if stored.downstreamRequired then answers.downstreamCalls consumer event else []) ∧
      answers.outcome consumer =
        if stored.downstreamRequired then
          (if consumer.downstream then answers.notify.bind fun _ => answers.markCompleted
          else answers.markCompleted)
        else .ok () := by
  constructor
  · rw [AttemptAnswers.calls, succeeded]
  · simp only [AttemptAnswers.outcome, succeeded, Bind.bind, Except.bind]
    by_cases required : stored.downstreamRequired = true
    · by_cases hasDownstream : consumer.downstream = true
      · simp only [required, hasDownstream, if_true]
      · simp [required, hasDownstream]
    · rw [if_neg required, if_neg required]
      rfl

theorem attempt_failed {answers : AttemptAnswers} {fault : Exc}
    (failed : answers.store = .error fault) :
    answers.calls consumer event = [⟨.order (.store event), .error fault⟩] ∧
      answers.outcome consumer = .error fault := by
  constructor
  · simp only [AttemptAnswers.calls, failed]
  · simp only [AttemptAnswers.outcome, failed, Bind.bind, Except.bind]

end Script

section Loop

variable {runtime : Runtime} {consumer : KafkaOrderConsumer} {message : Message}
variable {payload : PyVal} {event : OrderCreatedEvent} {outcomes : Nat → AttemptAnswers}

/-- The rest of a delivery after its last attempt. -/
inductive Ending (runtime : Runtime) (consumer : KafkaOrderConsumer) (message : Message)
    (payload : PyVal) (event : OrderCreatedEvent) (last : Except Exc Unit) (attempts : Nat) :
    Calls → Except Exc ProcessedKafkaRecord → Prop where
  | finished (initialIsNew : Option Bool) (answer : Except Exc (List (Option Str)))
      (succeeded : last = .ok ()) :
      Ending runtime consumer message payload event last attempts [⟨.commit message, answer⟩]
        (finishOutcome consumer message event attempts initialIsNew answer)
  | gaveUp (initialIsNew : Option Bool) (cause : Exc) (calls : Calls)
      (outcome : Except Exc ProcessedKafkaRecord) (failed : last = .error cause)
      (given : GivesUp runtime consumer message payload event attempts initialIsNew cause calls
        outcome) :
      Ending runtime consumer message payload event last attempts calls outcome

end Loop

section Groups

variable {consumer : KafkaOrderConsumer} {event : OrderCreatedEvent}

/-- The calls of one attempt: one store, and at most one notification and one
completion of the same event, after a store that left downstream work to do. -/
structure AttemptGroup (event : OrderCreatedEvent) (group : Calls) : Prop where
  shape : ∃ answer rest, group = ⟨.order (.store event), answer⟩ :: rest ∧
    (∀ exchange ∈ rest, exchange.op = .notify event ∨
      exchange.op = .order (.markCompleted event.eventId)) ∧
    count isNotify rest ≤ 1 ∧ count isMark rest ≤ 1 ∧
    (rest ≠ [] → ∃ stored, answer = .ok stored ∧ stored.downstreamRequired = true)

theorem downstream_calls_shape (consumer : KafkaOrderConsumer) (answers : AttemptAnswers) :
    (∀ exchange ∈ answers.downstreamCalls consumer event, exchange.op = .notify event ∨
      exchange.op = .order (.markCompleted event.eventId)) ∧
      count isNotify (answers.downstreamCalls consumer event) ≤ 1 ∧
      count isMark (answers.downstreamCalls consumer event) ≤ 1 := by
  unfold AttemptAnswers.downstreamCalls
  by_cases hasDownstream : consumer.downstream = true
  · rw [if_pos hasDownstream]
    cases answers.notify with
    | error fault => simp [count, isNotify, isMark]
    | ok _ => simp [count, isNotify, isMark]
  · rw [if_neg hasDownstream]
    simp [count, isNotify, isMark]

theorem attempt_group (consumer : KafkaOrderConsumer) (answers : AttemptAnswers) :
    AttemptGroup event (answers.calls consumer event) := by
  cases stored : answers.store with
  | error fault =>
      rw [(attempt_failed consumer event stored).1]
      exact ⟨_, [], rfl, by simp, by simp [count], by simp [count], by simp⟩
  | ok result =>
      rw [(attempt_stored consumer event stored).1]
      by_cases required : result.downstreamRequired = true
      · rw [if_pos required]
        obtain ⟨own, notifies, marks⟩ := downstream_calls_shape consumer answers
        exact ⟨_, _, rfl, own, notifies, marks, fun _ => ⟨result, rfl, required⟩⟩
      · rw [if_neg required]
        exact ⟨_, [], rfl, by simp, by simp [count], by simp [count], by simp⟩

theorem group_counts {group : Calls} (attempt : AttemptGroup event group) :
    count isStore group = 1 ∧ count isNotify group ≤ 1 := by
  obtain ⟨answer, rest, rfl, own, notifies, _, _⟩ := attempt.shape
  have others : count isStore rest = 0 := by
    apply count_zero
    intro exchange member
    rcases own exchange member with notify | mark
    · rw [notify]
      rfl
    · rw [mark]
      rfl
  constructor
  · rw [count_cons, others]
    rfl
  · rw [count_cons]
    exact notifies

end Groups

section Endings

variable {runtime : Runtime} {consumer : KafkaOrderConsumer} {message : Message}
variable {payload : PyVal} {event : OrderCreatedEvent}

/-- The envelope that a publication produces. -/
def EnvelopeOf (runtime : Runtime) (attempts : Nat) (record : DlqRecord) : Prop :=
  ∃ topic failure deadLetterId isoformat, DeadLetterFailure.attempts failure = attempts ∧
    dlqRecord runtime topic failure deadLetterId isoformat = .ok record

theorem publishes_envelope {topic : Str} {failure : DeadLetterFailure} {calls : Calls}
    {outcome : Except Exc KafkaPublishReceipt}
    (published : Publishes runtime topic failure calls outcome) :
    ∀ record answer, ⟨.produce record, answer⟩ ∈ calls →
      EnvelopeOf runtime failure.attempts record := by
  intro record answer member
  cases published with
  | unencodable deadLetterId isoformat fault refused => simp at member
  | refused deadLetterId isoformat own fault built
  | interrupted deadLetterId isoformat own fault built
  | flushed deadLetterId isoformat own report built =>
      have same : record = own := by
        simp only [List.mem_cons, Exchange.mk.injEq, Op.produce.injEq, reduceCtorEq, false_and,
          List.not_mem_nil, or_false, false_or] at member
        exact member.1
      rw [same]
      exact ⟨topic, failure, deadLetterId, isoformat, rfl, built⟩

/-- What a dead letter says about its attempts. -/
theorem dead_letters_attempts {topic : Str} {failure : DeadLetterFailure} {duplicate : Bool}
    {calls : Calls} {outcome : Except Exc ProcessedKafkaRecord}
    (published : DeadLetters runtime consumer topic message failure duplicate calls outcome) :
    (∀ record, outcome = .ok record → record.attempts = failure.attempts) ∧
      ∀ record answer, ⟨.produce record, answer⟩ ∈ calls →
        EnvelopeOf runtime failure.attempts record := by
  cases published with
  | unpublished _ fault published =>
      refine ⟨?_, publishes_envelope published⟩
      intro record contrary
      cases contrary
  | concluded first receipt answer published =>
      constructor
      · intro record returned
        cases mapped_ok returned
        rfl
      · intro record reply member
        rcases List.mem_append.mp member with early | last
        · exact publishes_envelope published record reply early
        · cases List.mem_singleton.mp last

/-- What the rest of a delivery says about its attempts and its discard. -/
structure EndingAccounts (runtime : Runtime) (consumer : KafkaOrderConsumer)
    (event : OrderCreatedEvent) (last : Except Exc Unit) (attempts : Nat) (calls : Calls)
    (outcome : Except Exc ProcessedKafkaRecord) : Prop where
  quiet : ∀ exchange ∈ calls, stage exchange.op ≠ .effect ∧ stage exchange.op ≠ .receive
  discards : count isDiscard calls ≤ 1
  discarded : ∀ eventId answer, ⟨.order (.discard eventId), answer⟩ ∈ calls →
    eventId = event.eventId ∧ consumer.deadLetterTopic.isSome = true ∧ ∃ cause, last = .error cause
  returned : ∀ record, outcome = .ok record → record.attempts = attempts
  envelopes : ∀ record answer, ⟨.produce record, answer⟩ ∈ calls →
    EnvelopeOf runtime attempts record

theorem finished_accounts {last : Except Exc Unit} {attempts : Nat} {initialIsNew : Option Bool}
    (answer : Except Exc (List (Option Str))) :
    EndingAccounts runtime consumer event last attempts [⟨.commit message, answer⟩]
      (finishOutcome consumer message event attempts initialIsNew answer) := by
  constructor
  case quiet => simp [stage]
  case discards => simp [count, isDiscard]
  case discarded =>
    intro eventId reply member
    cases List.mem_singleton.mp member
  case returned =>
    intro record returned
    cases mapped_ok returned
    rfl
  case envelopes =>
    intro record reply member
    cases List.mem_singleton.mp member

theorem dead_lettered_accounts {topic : Str} {failure : DeadLetterFailure} {duplicate : Bool}
    {cause : Exc} {answer : Except Exc Unit} {calls : Calls}
    {outcome : Except Exc ProcessedKafkaRecord} (destination : consumer.deadLetterTopic = some topic)
    (published : DeadLetters runtime consumer topic message failure duplicate calls outcome) :
    EndingAccounts runtime consumer event (.error cause) failure.attempts
      (⟨.order (.discard event.eventId), answer⟩ :: calls) outcome := by
  obtain ⟨returned, envelopes⟩ := dead_letters_attempts published
  have letters := dead_letters_stage published
  have noDiscard : ∀ exchange ∈ calls, isDiscard exchange.op = false := by
    intro exchange member
    by_contra other
    have discard := stage_of_discard (eq_true_of_ne_false other)
    rcases letters exchange member with publish | commit
    · rw [discard] at publish
      cases publish
    · rw [discard] at commit
      cases commit
  constructor
  case quiet =>
    intro exchange member
    rcases List.mem_cons.mp member with rfl | later
    · simp [stage]
    · rcases letters exchange later with publish | commit
      · simp [publish]
      · simp [commit]
  case discards =>
    rw [count_cons, count_zero noDiscard]
    exact Nat.le_refl 1
  case discarded =>
    intro eventId reply member
    rcases List.mem_cons.mp member with same | later
    · cases same
      exact ⟨rfl, by rw [destination]; rfl, cause, rfl⟩
    · cases noDiscard _ later
  case returned => exact returned
  case envelopes =>
    intro record reply member
    rcases List.mem_cons.mp member with same | later
    · cases same
    · exact envelopes record reply later

theorem ending_accounts {last : Except Exc Unit} {attempts : Nat} {calls : Calls}
    {outcome : Except Exc ProcessedKafkaRecord}
    (ending : Ending runtime consumer message payload event last attempts calls outcome) :
    EndingAccounts runtime consumer event last attempts calls outcome := by
  cases ending with
  | finished initialIsNew answer succeeded => exact finished_accounts answer
  | gaveUp initialIsNew cause _ _ failed given =>
      subst failed
      have quiet := gives_up_quiet given
      cases given with
      | noPublisher absent =>
          constructor
          case quiet => exact quiet
          case discards => simp [count]
          case discarded => simp
          case returned =>
            intro record contrary
            cases contrary
          case envelopes => simp
      | undiscarded topic fault destination =>
          constructor
          case quiet => exact quiet
          case discards => simp [count, isDiscard]
          case discarded =>
            intro eventId reply member
            cases List.mem_singleton.mp member
            exact ⟨rfl, by rw [destination]; rfl, cause, rfl⟩
          case returned =>
            intro record contrary
            cases contrary
          case envelopes =>
            intro record reply member
            cases List.mem_singleton.mp member
      | deadLettered topic rest _ destination published =>
          exact dead_lettered_accounts destination published

end Endings

section Wire

/-- The calls of a delivery whose notifications are HTTP requests. -/
inductive WireOp where
  | own (op : Op)
  | http (op : HttpOp)

abbrev WireOp.Ret : WireOp → Type
  | own op => op.Ret
  | http op => op.Ret

variable {raiseForStatus : HttpResponse → Except Exc Unit} {client : OrderNotificationClient}

end Wire

section Delivery

variable (runtime : Runtime) (consumer : KafkaOrderConsumer) (event : OrderCreatedEvent)
variable (outcomes : Nat → AttemptAnswers)

variable {runtime consumer event outcomes}

/-- A call that the first part does not make is made in the second. -/
theorem split_late {first second early late : Calls} {exchange : Exchange Exc Op.Ret}
    (absent : exchange ∉ first) (same : first ++ second = early ++ exchange :: late) :
    ∃ middle, early = first ++ middle ∧ second = middle ++ exchange :: late := by
  rcases List.append_eq_append_iff.mp same with ⟨middle, rfl, split⟩ | ⟨middle, rfl, split⟩
  · exact ⟨middle, rfl, split⟩
  · cases middle with
    | nil => exact ⟨[], by simp, split.symm⟩
    | cons head rest =>
        rw [List.cons_append, List.cons.injEq] at split
        rw [← split.1] at absent
        exact absurd (List.mem_append_right early List.mem_cons_self) absent

end Delivery

end OrderMessaging.Processing.RetryAccounting
