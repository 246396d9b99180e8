import OrderMessaging.Processing.AcceptedNotification

/-!
When a delivery has failed for good, seen from what its collaborators answered so
far: its last call was an effect that raised, and the retry policy does not go back
to it. A delivery that has a dead-letter publisher discards its event right after
such a failure, and at no other time.
-/

namespace OrderMessaging.Processing.DeliveryFailure

open OrderMessaging.PyText OrderMessaging.PyException OrderMessaging.PyValue
open OrderMessaging.Program OrderMessaging.Transcript OrderMessaging.Contracts.Models
open OrderMessaging.Processing.StoreOperations OrderMessaging.Processing.KafkaCollaborators
open OrderMessaging.Processing.RetryAndDeadLetter OrderMessaging.Processing.KafkaDelivery
open OrderMessaging.Processing.DeliveryTranscript OrderMessaging.Processing.RetryAccounting
open OrderMessaging.Processing.AcceptedNotification

set_option autoImplicit false

/-- The last call so far is an effect that raised the cause, and the handler does not
go back to the head of the loop. Every attempt begins with a store, so the stores
count the attempts. -/
def FailedWith (consumer : KafkaOrderConsumer) (made : Nat) (calls : Calls) (cause : Exc) : Prop :=
  ∃ op, calls.getLast? = some ⟨op, .error cause⟩ ∧ stage op = .effect ∧
    ¬Retries consumer cause (made + count isStore calls)

/-- The delivery received a record of the event, and its effects have failed for good
at a consumer that has a dead-letter publisher. -/
structure FailedFor (runtime : Runtime) (consumer : KafkaOrderConsumer) (calls : Calls)
    (eventId : Uuid) : Prop where
  publisher : consumer.deadLetterTopic.isSome = true
  received : ∃ message payload event, ⟨.poll, .ok (some message)⟩ ∈ calls ∧
    decodeValue runtime message.value = .ok (payload, event) ∧ event.eventId = eventId
  failed : ∃ cause, FailedWith consumer 0 calls cause

section Attempts

variable {consumer : KafkaOrderConsumer} {event : OrderCreatedEvent}

/-- Only the last call of an attempt can raise. -/
theorem attempt_goes_on (answers : AttemptAnswers) :
    ∀ exchange ∈ (answers.calls consumer event).dropLast, raised exchange = false := by
  cases stored : answers.store with
  | error fault =>
      rw [(attempt_failed consumer event stored).1]
      simp
  | ok result =>
      rw [(attempt_stored consumer event stored).1]
      by_cases required : result.downstreamRequired = true
      · rw [if_pos required, AttemptAnswers.downstreamCalls]
        by_cases hasDownstream : consumer.downstream = true
        · rw [if_pos hasDownstream]
          cases answers.notify with
          | error fault => simp [raised]
          | ok _ => simp [raised]
        · rw [if_neg hasDownstream]
          simp [raised]
      · rw [if_neg required]
        simp

/-- A part of an attempt that ends in a raised call is the whole of it. -/
theorem attempt_stops {answers : AttemptAnswers} {first rest : Calls} {op : Op} {cause : Exc}
    (split : answers.calls consumer event = first ++ rest)
    (last : first.getLast? = some ⟨op, .error cause⟩) :
    rest = [] ∧ answers.outcome consumer = .error cause := by
  have ended : rest = [] := by
    by_contra more
    have member : (⟨op, .error cause⟩ : Exchange Exc Op.Ret) ∈
        (answers.calls consumer event).dropLast := by
      rw [split, List.dropLast_append_of_ne_nil more]
      exact List.mem_append_left _ (List.mem_of_getLast? last)
    cases attempt_goes_on answers _ member
  refine ⟨ended, ?_⟩
  rw [ended, List.append_nil] at split
  obtain ⟨own, answer, found, fails⟩ := attempt_last consumer event answers
  rw [split, last] at found
  cases found
  exact (fails cause).mpr rfl

theorem attempt_stores (answers : AttemptAnswers) :
    count isStore (answers.calls consumer event) = 1 :=
  (group_counts (attempt_group consumer answers)).1

theorem retried_stores (answers : AttemptAnswers) (backoff : ℚ) (rest : Calls) :
    count isStore (answers.calls consumer event ++ ⟨.wait backoff, .ok ()⟩ :: rest) =
      1 + count isStore rest := by
  rw [count_append, attempt_stores, count_cons]
  rfl

/-- The attempts of a loop entered after `made` of them, up to the end of the last:
each one before it failed and was retried. -/
structure Attempted (consumer : KafkaOrderConsumer) (made : Nat) (early : Calls)
    (last : Except Exc Unit) : Prop where
  stages : ∀ exchange ∈ early, stage exchange.op = .effect ∨ stage exchange.op = .backoff
  final : ∃ op answer, early.getLast? = some ⟨op, answer⟩ ∧ stage op = .effect ∧
    ∀ cause, last = .error cause ↔ answer = .error cause
  retried : ∀ first rest cause, early = first ++ rest → FailedWith consumer made first cause →
    rest = []

theorem single_attempted (made : Nat) (answers : AttemptAnswers) :
    Attempted consumer made (answers.calls consumer event) (answers.outcome consumer) := by
  constructor
  case stages => exact fun exchange member => .inl (attempt_stage answers exchange member)
  case final =>
    obtain ⟨op, answer, found, fails⟩ := attempt_last consumer event answers
    exact ⟨op, answer, found, attempt_stage answers _ (List.mem_of_getLast? found), fails⟩
  case retried =>
    rintro first rest cause split ⟨op, last, _, _⟩
    exact (attempt_stops split last).1

theorem further_attempted {made : Nat} {answers : AttemptAnswers} {cause : Exc} {backoff : ℚ}
    {early : Calls} {last : Except Exc Unit} (failed : answers.outcome consumer = .error cause)
    (retries : Retries consumer cause (made + 1))
    (attempted : Attempted consumer (made + 1) early last) :
    Attempted consumer made
      (answers.calls consumer event ++ ⟨.wait backoff, .ok ()⟩ :: early) last := by
  obtain ⟨op, answer, found, effect, fails⟩ := attempted.final
  have nonempty : early ≠ [] := by
    rintro rfl
    cases found
  constructor
  case stages =>
    intro exchange member
    rcases List.mem_append.mp member with attempt | late
    · exact .inl (attempt_stage answers exchange attempt)
    · rcases List.mem_cons.mp late with rfl | later
      · exact .inr rfl
      · exact attempted.stages exchange later
  case final =>
    refine ⟨op, answer, ?_, effect, fails⟩
    rw [List.append_cons, List.getLast?_append_of_ne_nil _ nonempty]
    exact found
  case retried =>
    rintro first rest other split ⟨own, ended, stays, forGood⟩
    have notFirst : ∀ more, answers.calls consumer event ≠ first ++ more := by
      intro more same
      obtain ⟨rfl, stopped⟩ := attempt_stops same ended
      rw [failed] at stopped
      cases stopped
      rw [List.append_nil] at same
      rw [← same, attempt_stores] at forGood
      exact forGood retries
    rcases List.append_eq_append_iff.mp split with ⟨middle, rfl, tail⟩ | ⟨middle, same, _⟩
    · rcases middle with _ | ⟨head, middle⟩
      · exact absurd (by simp) (notFirst [])
      · obtain ⟨rfl, rfl⟩ := List.cons_eq_cons.mp tail
        rcases List.eq_nil_or_concat middle with rfl | ⟨init, exchange, rfl⟩
        · rw [List.getLast?_append_cons] at ended
          cases ended
        · apply attempted.retried _ rest other rfl
          refine ⟨own, ?_, stays, ?_⟩
          · rw [List.append_cons, List.getLast?_append_of_ne_nil _ (by simp)] at ended
            exact ended
          · rw [retried_stores, ← Nat.add_assoc] at forGood
            exact forGood
    · exact absurd same (notFirst middle)

end Attempts

section Loop

variable {runtime : Runtime} {consumer : KafkaOrderConsumer} {message : Message}
variable {payload : PyVal} {event : OrderCreatedEvent}

/-- A loop is its attempts and what follows the last of them; the loop gives up only
on what the handler does not retry. By induction on the attempts. -/
theorem loop_attempted {made : Nat} {initialIsNew : Option Bool} {calls : Calls}
    {outcome : Except Exc ProcessedKafkaRecord}
    (loops : Loops runtime consumer message payload event made initialIsNew calls outcome) :
    ∃ early rest last, calls = early ++ rest ∧ Attempted consumer made early last ∧
      Ending runtime consumer message payload event last (made + count isStore early) rest outcome ∧
      ∀ cause, last = .error cause → FailedWith consumer made early cause := by
  induction loops with
  | finished made initialIsNew answers answer succeeded =>
      refine ⟨_, _, _, rfl, single_attempted made answers, ?_, ?_⟩
      · rw [attempt_stores]
        exact .finished _ answer succeeded
      · intro cause failed
        rw [succeeded] at failed
        cases failed
  | retried made initialIsNew answers cause rest outcome failed retries further ih =>
      obtain ⟨early, tail, last, rfl, attempted, ending, forGood⟩ := ih
      refine ⟨answers.calls consumer event ++
        ⟨.wait consumer.retryPolicy.backoffSeconds, .ok ()⟩ :: early, tail, last, by simp,
        further_attempted failed retries attempted, ?_, ?_⟩
      · rw [retried_stores, ← Nat.add_assoc]
        exact ending
      · intro other ended
        obtain ⟨op, final, effect, stays⟩ := forGood other ended
        refine ⟨op, ?_, effect, ?_⟩
        · have nonempty : early ≠ [] := by
            rintro rfl
            cases final
          rw [List.append_cons, List.getLast?_append_of_ne_nil _ nonempty]
          exact final
        · rw [retried_stores, ← Nat.add_assoc]
          exact stays
  | gaveUp made initialIsNew answers cause rest outcome failed forGood given =>
      have counted : made + count isStore (answers.calls consumer event) = made + 1 := by
        rw [attempt_stores]
      refine ⟨_, rest, _, rfl, single_attempted made answers, ?_, ?_⟩
      · rw [counted]
        exact .gaveUp _ cause rest outcome failed given
      · intro other same
        rw [failed] at same
        cases same
        obtain ⟨op, answer, final, fails⟩ := attempt_last consumer event answers
        rw [(fails cause).mp failed] at final
        refine ⟨op, final, attempt_stage answers _ (List.mem_of_getLast? final), ?_⟩
        rw [counted]
        exact forGood

/-- Giving up begins with the discard, if there is a publisher, and discards once. -/
theorem gives_up_starts {attempts : Nat} {initialIsNew : Option Bool} {cause : Exc} {calls : Calls}
    {outcome : Except Exc ProcessedKafkaRecord}
    (publisher : consumer.deadLetterTopic.isSome = true)
    (given : GivesUp runtime consumer message payload event attempts initialIsNew cause calls
      outcome) :
    ∃ answer late, calls = ⟨.order (.discard event.eventId), answer⟩ :: late ∧
      ∀ exchange ∈ late, stage exchange.op ≠ .discard := by
  cases given with
  | noPublisher absent =>
      rw [absent] at publisher
      cases publisher
  | undiscarded topic fault destination => exact ⟨.error fault, [], rfl, by simp⟩
  | deadLettered topic late _ destination published =>
      refine ⟨.ok (), late, rfl, ?_⟩
      intro exchange member
      rcases dead_letters_stage published exchange member with publish | commit
      · simp [publish]
      · simp [commit]

/-- A loop that discards has just failed for good. -/
theorem loop_discard {made : Nat} {initialIsNew : Option Bool} {first late : Calls}
    {eventId : Uuid} {answer : Except Exc Unit} {outcome : Except Exc ProcessedKafkaRecord}
    (loops : Loops runtime consumer message payload event made initialIsNew
      (first ++ ⟨.order (.discard eventId), answer⟩ :: late) outcome) :
    eventId = event.eventId ∧ consumer.deadLetterTopic.isSome = true ∧
      ∃ cause, FailedWith consumer made first cause := by
  obtain ⟨early, rest, last, split, attempted, ending, forGood⟩ := loop_attempted loops
  have absent : (⟨.order (.discard eventId), answer⟩ : Exchange Exc Op.Ret) ∉ early := by
    intro member
    rcases attempted.stages _ member with effect | backoff
    · cases effect
    · cases backoff
  obtain ⟨middle, rfl, same⟩ := split_late absent split.symm
  obtain ⟨_, publisher, cause, failed⟩ := (ending_accounts ending).discarded eventId answer
    (same ▸ List.mem_append_right middle List.mem_cons_self)
  cases ending with
  | finished initialIsNew answer succeeded => cases succeeded.symm.trans failed
  | gaveUp initialIsNew other _ _ _ given =>
      obtain ⟨own, after, starts, quiet⟩ := gives_up_starts publisher given
      rw [starts] at same
      rcases middle with _ | ⟨head, middle⟩
      · cases same
        rw [List.append_nil]
        exact ⟨rfl, publisher, cause, forGood cause failed⟩
      · obtain ⟨_, rfl⟩ := List.cons_eq_cons.mp same
        exact absurd rfl (quiet _ (List.mem_append_right middle List.mem_cons_self))

/-- What follows a failure for good in a loop is the discard. -/
theorem loop_failed {made : Nat} {initialIsNew : Option Bool} {first rest : Calls} {cause : Exc}
    {outcome : Except Exc ProcessedKafkaRecord}
    (publisher : consumer.deadLetterTopic.isSome = true)
    (loops : Loops runtime consumer message payload event made initialIsNew (first ++ rest) outcome)
    (failed : FailedWith consumer made first cause) :
    ∃ answer late, rest = ⟨.order (.discard event.eventId), answer⟩ :: late := by
  obtain ⟨early, tail, last, split, attempted, ending, _⟩ := loop_attempted loops
  obtain ⟨op, raisedLast, effect, _⟩ := id failed
  have within : ∃ more, early = first ++ more := by
    rcases List.append_eq_append_iff.mp split with ⟨middle, same, _⟩ | ⟨middle, rfl, rfl⟩
    · exact ⟨middle, same⟩
    · rcases List.eq_nil_or_concat middle with rfl | ⟨init, exchange, rfl⟩
      · exact ⟨[], by simp⟩
      · have quiet := ((ending_accounts ending).quiet exchange (by simp)).1
        rw [List.concat_eq_append, ← List.append_assoc, List.getLast?_concat] at raisedLast
        cases raisedLast
        exact absurd effect quiet
  obtain ⟨more, rfl⟩ := within
  obtain rfl := attempted.retried first more cause rfl failed
  rw [List.append_nil] at split attempted
  obtain rfl := List.append_cancel_left split
  obtain ⟨own, answer, found, _, fails⟩ := attempted.final
  rw [raisedLast] at found
  cases found
  cases ending with
  | finished initialIsNew answer succeeded =>
      cases succeeded.symm.trans ((fails cause).mpr rfl)
  | gaveUp initialIsNew other _ _ failed given =>
      obtain ⟨answer, late, same, _⟩ := gives_up_starts publisher given
      exact ⟨answer, late, same⟩

end Loop

section Delivery

variable {runtime : Runtime} {consumer : KafkaOrderConsumer} {timeoutSeconds : ℚ} {polls : Nat}
variable {eventId : Uuid} {outcome : Except Exc ProcessedKafkaRecord}

theorem failed_with_append {polled calls : Calls} {cause : Exc} {made : Nat}
    (receives : ∀ exchange ∈ polled, stage exchange.op = .receive) (nonempty : calls ≠ []) :
    FailedWith consumer made (polled ++ calls) cause ↔ FailedWith consumer made calls cause := by
  have silent : count isStore polled = 0 := by
    apply count_zero
    intro exchange member
    by_contra other
    cases (stage_of_store (eq_true_of_ne_false other)).symm.trans (receives exchange member)
  rw [FailedWith, List.getLast?_append_of_ne_nil _ nonempty, count_append, silent, Nat.zero_add]
  rfl

theorem failed_with_nonempty {calls : Calls} {cause : Exc} {made : Nat}
    (failed : FailedWith consumer made calls cause) : calls ≠ [] := by
  rintro rfl
  obtain ⟨_, found, _⟩ := failed
  cases found

/-- A delivery discards an event only right after failing for good on a record of it. -/
theorem discard_after_failure {first late : Calls} {answer : Except Exc Unit}
    (transcribed : Transcribes (processOne runtime consumer timeoutSeconds polls)
      (first ++ ⟨.order (.discard eventId), answer⟩ :: late) outcome)
    (returned : LocalCallsReturn (first ++ ⟨.order (.discard eventId), answer⟩ :: late)) :
    FailedFor runtime consumer first eventId := by
  rcases process_one_parts returned transcribed with
    ⟨message, polled, rest, split, receives, received, _, processed⟩ | ⟨receives, _⟩
  · have absent : (⟨.order (.discard eventId), answer⟩ : Exchange Exc Op.Ret) ∉ polled := by
      intro member
      cases receives _ member
    obtain ⟨middle, rfl, same⟩ := split_late absent split.symm
    cases processed with
    | broken error reported => simp at same
    | invalid cause sound undecoded absent => simp at same
    | invalidDeadLettered cause topic _ _ sound undecoded destination published =>
        rcases dead_letters_stage published _
          (same ▸ List.mem_append_right middle List.mem_cons_self) with publish | commit
        · cases publish
        · cases commit
    | looped payload event _ _ sound decoded loops =>
        rw [same] at loops
        obtain ⟨rfl, publisher, cause, failed⟩ := loop_discard loops
        refine ⟨publisher, ⟨message, payload, event, ?_, decoded, rfl⟩, cause, ?_⟩
        · exact List.mem_append_left _ received
        · exact (failed_with_append receives (failed_with_nonempty failed)).mpr failed
  · cases receives _ (List.mem_append_right first List.mem_cons_self)

/-- A delivery that has failed for good goes on with the discard of its event. -/
theorem failure_then_discard {first rest : Calls}
    (transcribed : Transcribes (processOne runtime consumer timeoutSeconds polls) (first ++ rest)
      outcome)
    (returned : LocalCallsReturn (first ++ rest)) (failed : FailedFor runtime consumer first eventId) :
    ∃ answer late, rest = ⟨.order (.discard eventId), answer⟩ :: late := by
  obtain ⟨publisher, ⟨message, payload, event, received, decoded, rfl⟩, cause, forGood⟩ := failed
  obtain ⟨op, last, effect, _⟩ := id forGood
  have effected : (⟨op, .error cause⟩ : Exchange Exc Op.Ret) ∈ first := List.mem_of_getLast? last
  obtain ⟨polled, processing, split, receives, processed⟩ :=
    process_one_received returned (List.mem_append_left rest received) transcribed
  have absent : (⟨op, .error cause⟩ : Exchange Exc Op.Ret) ∉ polled := by
    intro member
    cases effect.symm.trans (receives _ member)
  obtain ⟨middle, rfl, rfl⟩ : ∃ middle, first = polled ++ middle ∧ processing = middle ++ rest := by
    rcases List.append_eq_append_iff.mp split with ⟨middle, rfl, _⟩ | ⟨middle, rfl, same⟩
    · exact absurd (List.mem_append_left middle effected) absent
    · exact ⟨middle, rfl, same⟩
  have further : middle ≠ [] := by
    rintro rfl
    rw [List.append_nil] at effected
    exact absent effected
  have failedLoop := (failed_with_append receives further).mp forGood
  generalize said : middle ++ rest = processing at processed
  cases processed with
  | broken error reported => exact absurd (List.append_eq_nil_iff.mp said).1 further
  | invalid _ sound undecoded absent => exact absurd (List.append_eq_nil_iff.mp said).1 further
  | invalidDeadLettered other topic _ _ sound undecoded destination published =>
      rw [decoded] at undecoded
      cases undecoded
  | looped _ _ _ _ sound again loops =>
      cases decoded.symm.trans again
      rw [← said] at loops
      exact loop_failed publisher loops failedLoop

end Delivery

end OrderMessaging.Processing.DeliveryFailure
