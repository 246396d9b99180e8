import OrderMessaging.Processing.CompletionPermanence

/-!
Consumers that have a downstream service, any number of them interleaved over one
store. An event is completed only after the service accepted its notification. So
no consumer commits past a record whose event was neither notified nor
dead-lettered, also when it finds the event completed by another consumer.
-/

namespace OrderMessaging.Processing.NotifiedFirst

open OrderMessaging.PyText OrderMessaging.PyException OrderMessaging.PyValue
open OrderMessaging.Program OrderMessaging.Interleaving
open OrderMessaging.Contracts.Models OrderMessaging.Processing.PostgresOrderStore
open OrderMessaging.Processing.StoreOperations OrderMessaging.Processing.KafkaCollaborators
open OrderMessaging.Processing.RetryAndDeadLetter OrderMessaging.Processing.KafkaDelivery
open OrderMessaging.Processing.DeliveryOutcome OrderMessaging.Processing.CompletionPermanence

set_option autoImplicit false

/-- A `process_one` call of a consumer that was given a downstream client. -/
structure NotifyingTurn extends Turn where
  notifies : consumer.downstream = true

section Runs

variable (runtime : Runtime)

def NotifyingTurn.program (turn : NotifyingTurn) : Prog Exc Op.Ret ProcessedKafkaRecord :=
  turn.toTurn.program runtime

def notifiers (labels : List (Label NotifyingTurn Op.Choice)) : Consumers :=
  run exec (NotifyingTurn.program runtime) labels (System.idle emptyWorld)

/-- The service accepted the record's event, or the broker an envelope of the record. -/
def Told (message : Message) (world : World) : Prop :=
  (∃ payload event, decodeValue runtime message.value = .ok (payload, event) ∧
    event.eventId ∈ world.notified) ∨
  ∃ deadLetterTopic, ∃ record ∈ world.acknowledged,
    EnvelopeFor runtime deadLetterTopic message record

/-- What the notifications have to do with completions, commits and results. -/
structure Notified (system : Consumers) : Prop where
  completed : ∀ eventId, Completed system.world.database.tables eventId →
    eventId ∈ system.world.notified
  committed : ∀ (label : Label NotifyingTurn Op.Choice) message choice,
    callOf system label = some ⟨.commit message, choice⟩ → Told runtime message system.world
  returned : ∀ thread record, system.threads thread = some (.done (.ok record)) →
    record.deadLettered = false → ∃ eventId ∈ system.world.notified, record.eventId = eventId.str

end Runs

section Obligations

/-- Notifications and acknowledged envelopes are not taken back. -/
structure Grows (before after : World) : Prop where
  notified : before.notified ⊆ after.notified
  acknowledged : before.acknowledged ⊆ after.acknowledged

structure Honest (world : World) : Prop where
  tracked : Tracked world
  completions : world.database.completions ⊆ world.notified

def Ready (runtime : Runtime) : Op → World → Prop
  | .order (.markCompleted eventId), world => eventId ∈ world.notified
  | .commit message, world => Told runtime message world
  | _, _ => True

def Returned : Except Exc ProcessedKafkaRecord → World → Prop
  | .ok record, world => record.deadLettered = false →
      ∃ eventId ∈ world.notified, record.eventId = eventId.str
  | .error _, _ => True

abbrev Upheld (runtime : Runtime) {Value : Type} (post : Except Exc Value → World → Prop)
    (program : Prog Exc Op.Ret Value) (world : World) : Prop :=
  Upholds exec (Keeps Honest Grows) (Ready runtime) post program world

variable {runtime : Runtime}

theorem grows_refl (world : World) : Grows world world :=
  ⟨List.Subset.refl _, List.Subset.refl _⟩

theorem grows_trans (first second third : World) (early : Grows first second)
    (late : Grows second third) : Grows first third :=
  ⟨List.Subset.trans early.notified late.notified,
    List.Subset.trans early.acknowledged late.acknowledged⟩

theorem growth : Growth Grows Returned where
  refl := grows_refl
  trans := grows_trans
  stable outcome before after := by
    intro between returned
    cases outcome with
    | error fault => trivial
    | ok record =>
        intro delivered
        obtain ⟨eventId, member, same⟩ := returned delivered
        exact ⟨eventId, between.notified member, same⟩

theorem order_honest {world : World} (honest : Honest world) (op : StoreOp) (failure : Option Exc)
    (marks : ∀ eventId, op = .markCompleted eventId → eventId ∈ world.notified) :
    Honest (exec (.order op) failure world).2 := by
  refine ⟨exec_tracked honest.tracked (.order op) failure, ?_⟩
  obtain ⟨ledger, holds⟩ := honest.tracked.paired
  obtain ⟨result, reached, after, ran, stepped, _⟩ := run_refines holds op failure
  simp only [exec, ran]
  cases stepped with
  | failed | known | written _ _ _ _ _ | discarded _ _ => exact honest.completions
  | marked eventId entry _ held => exact List.cons_subset.mpr ⟨marks eventId rfl, honest.completions⟩

/-- A call outside the store grows the world and completes nothing. -/
theorem outside_keeps {before after : World} (grown : Grows before after)
    (database : after.database = before.database) (tracked : Tracked before → Tracked after) :
    Keeps Honest Grows before after := by
  refine ⟨grown, ?_⟩
  intro honest
  refine ⟨tracked honest.tracked, ?_⟩
  rw [database]
  exact List.Subset.trans honest.completions grown.notified

theorem call_keeps (op : Op) (choice : op.Choice) (world : World)
    (allowed : Ready runtime op world) : Keeps Honest Grows world (exec op choice world).2 := by
  have tracked : Tracked world → Tracked (exec op choice world).2 := by
    intro before
    exact exec_tracked before op choice
  cases op with
  | order op =>
      refine ⟨⟨List.Subset.refl _, List.Subset.refl _⟩, ?_⟩
      intro honest
      apply order_honest honest op choice
      intro eventId same
      subst same
      exact allowed
  | poll =>
      rcases choice with fault | _ | message <;>
        exact outside_keeps ⟨List.Subset.refl _, List.Subset.refl _⟩ rfl tracked
  | notify event =>
      cases choice with
      | some fault => exact outside_keeps (grows_refl world) rfl tracked
      | none =>
          exact outside_keeps ⟨List.subset_cons_self _ _, List.Subset.refl _⟩ rfl tracked
  | wait | uuid4 | utcNow => exact outside_keeps (grows_refl world) rfl tracked
  | produce record => cases choice <;> exact outside_keeps (grows_refl world) rfl tracked
  | flush record =>
      cases choice with
      | error fault => exact outside_keeps (grows_refl world) rfl tracked
      | ok report =>
          simp only [exec] at tracked ⊢
          split at tracked
          next silent =>
            rw [if_pos silent]
            exact outside_keeps (grows_refl world) rfl tracked
          next spoken =>
            rw [if_neg spoken]
            exact outside_keeps ⟨List.Subset.refl _, List.subset_cons_self _ _⟩ rfl tracked
  | commit message =>
      cases choice with
      | error fault => exact outside_keeps (grows_refl world) rfl tracked
      | ok partitions =>
          simp only [exec] at tracked ⊢
          split at tracked
          next accepted =>
            rw [if_pos accepted]
            exact outside_keeps ⟨List.Subset.refl _, List.Subset.refl _⟩ rfl tracked
          next refused =>
            rw [if_neg refused]
            exact outside_keeps (grows_refl world) rfl tracked

theorem told_mono {message : Message} {before after : World} (grown : Grows before after)
    (told : Told runtime message before) : Told runtime message after := by
  rcases told with ⟨payload, event, decoded, member⟩ | ⟨topic, record, member, envelope⟩
  · exact .inl ⟨payload, event, decoded, grown.notified member⟩
  · exact .inr ⟨topic, record, grown.acknowledged member, envelope⟩

end Obligations

section Delivery

variable {runtime : Runtime} {consumer : KafkaOrderConsumer} {message : Message}
variable {payload : PyVal} {event : OrderCreatedEvent}

/-- A call whose precondition holds whenever others let it be made. -/
theorem upheld_call {Value : Type} {op : Op} {post : Except Exc Value → World → Prop}
    {next : op.Ret → Prog Exc Op.Ret Value} {world : World}
    (ready : ∀ reached, Keeps Honest Grows world reached → Ready runtime op reached)
    (after : ∀ reached choice, Keeps Honest Grows world (exec op choice reached).2 →
      Continues exec (Keeps Honest Grows) (Ready runtime) post next (exec op choice reached).1
        (exec op choice reached).2) :
    Upheld runtime post ((Prog.perform op).bind next) world := by
  rw [Upheld, upholds_bind, upholds_perform]
  intro reached between
  refine ⟨ready reached between, ?_⟩
  intro choice
  exact after reached choice ((keeps_reliable growth).trans _ _ _ between
    (call_keeps op choice reached (ready reached between)))

theorem commit_upheld {world : World} (told : Told runtime message world) (eventId : Str) :
    Upheld runtime (fun _ final => Keeps Honest Grows world final)
      (commit message eventId) world := by
  unfold commit
  rw [Upheld, upholds_mapFault]
  apply upheld_call
  · intro reached between
    exact told_mono between.1 told
  · intro reached choice between
    cases answered : (exec (.commit message) choice reached).1 with
    | error fault => exact between
    | ok partitions =>
        rw [continues_ok]
        split <;> exact between

variable (message) in
theorem publish_upheld {world : World} (deadLetterTopic : Str) (failure : DeadLetterFailure)
    (topic : failure.sourceTopic = message.topic)
    (partition : failure.sourcePartition = message.partition)
    (offset : failure.sourceOffset = message.offset) :
    Upheld runtime (fun outcome final => ∀ receipt, outcome = .ok receipt →
        Told runtime message final)
      (publishFailure runtime deadLetterTopic failure) world := by
  unfold publishFailure
  apply upheld_call
  · exact fun _ _ => trivial
  intro named deadLetterId _
  apply upheld_call
  · exact fun _ _ => trivial
  intro timed isoformat _
  apply (upholds_bind _ _ _ _).mpr
  rw [upholds_done]
  cases built : dlqRecord runtime deadLetterTopic failure deadLetterId isoformat with
  | error fault => simp
  | ok record =>
      have envelope : EnvelopeFor runtime deadLetterTopic message record :=
        ⟨failure, deadLetterId, isoformat, topic, partition, offset, built⟩
      apply upheld_call
      · exact fun _ _ => trivial
      intro handed refused _
      cases refused with
      | some fault => simp [exec]
      | none =>
          apply upheld_call
          · exact fun _ _ => trivial
          intro flushed answer _
          cases answer with
          | error fault => simp [exec]
          | ok report =>
              simp only [exec]
              by_cases silent : report.delivered = []
              · rw [if_pos silent, continues_ok, silent]
                split <;> simp
              · rw [if_neg silent, continues_ok]
                have told : Told runtime message
                    { flushed with acknowledged := record :: flushed.acknowledged } :=
                  .inr ⟨deadLetterTopic, record, List.mem_cons_self, envelope⟩
                split
                · split
                  · exact fun _ _ => told
                  · simp
                · simp

theorem dead_letter_upheld {world : World} {deadLetterTopic : Str} {originalPayload : PyVal}
    {error : Exc} {attempts : Nat} {event : Option OrderCreatedEvent} {duplicate : Bool} :
    Upheld runtime Returned
      (deadLetter runtime consumer deadLetterTopic message originalPayload error attempts event
        duplicate) world := by
  unfold deadLetter
  apply (upholds_bind _ _ _ _).mpr
  apply upholds_mono (publish_upheld message deadLetterTopic _ rfl rfl rfl)
  intro outcome published told
  cases outcome with
  | error fault => trivial
  | ok receipt =>
      apply (upholds_bind _ _ _ _).mpr
      apply upholds_mono (commit_upheld (told receipt rfl) _)
      intro outcome final _
      cases outcome with
      | error fault => trivial
      | ok _ =>
          intro contrary
          cases contrary

theorem finish_upheld {world : World}
    (decoded : decodeValue runtime message.value = .ok (payload, event))
    (notified : event.eventId ∈ world.notified) (attempts : Nat) (initialIsNew : Option Bool) :
    Upheld runtime Returned (finish consumer message event attempts initialIsNew) world := by
  unfold finish
  apply (upholds_bind _ _ _ _).mpr
  apply upholds_mono (commit_upheld (.inl ⟨payload, event, decoded, notified⟩) _)
  intro outcome final between
  cases outcome with
  | error fault => trivial
  | ok _ => exact fun _ => ⟨event.eventId, between.1.notified notified, rfl⟩

/-- How an attempt ends: notified, if it got through. -/
def Attempted (event : OrderCreatedEvent) :
    Except Exc (Option Bool × Except Exc Unit) → World → Prop
  | .ok (_, .ok _), final => Honest final ∧ event.eventId ∈ final.notified
  | .ok (_, .error _), final => Honest final
  | .error _, _ => False

theorem mark_upheld {world : World} (honest : Honest world)
    (notified : event.eventId ∈ world.notified) :
    Upheld runtime
      (fun (_ : Except Exc Unit) final => Honest final ∧ event.eventId ∈ final.notified)
      (Prog.perform (Op.order (.markCompleted event.eventId))) world := by
  apply (upholds_perform _ _).mpr
  intro reached between
  have ready : Ready runtime (.order (.markCompleted event.eventId)) reached :=
    between.1.notified notified
  refine ⟨ready, ?_⟩
  intro failure
  have after := call_keeps (.order (.markCompleted event.eventId)) failure reached ready
  exact ⟨after.2 (between.2 honest), after.1.notified ready⟩

theorem effects_upheld {world : World} {stored : EventStoreResult}
    (notifies : consumer.downstream = true) (honest : Honest world)
    (known : stored.downstreamRequired = false → event.eventId ∈ world.notified) :
    Upheld runtime
      (fun outcome final => Honest final ∧
        (outcome = .ok () → event.eventId ∈ final.notified))
      (effects consumer event stored) world := by
  unfold effects
  by_cases required : stored.downstreamRequired = true
  · rw [if_pos required, if_pos notifies]
    apply upheld_call
    · exact fun _ _ => trivial
    intro reached refused between
    cases refused with
    | some fault => exact ⟨between.2 honest, by simp⟩
    | none =>
        apply upholds_mono (mark_upheld (between.2 honest) List.mem_cons_self)
        intro outcome final marked
        exact ⟨marked.1, fun _ => marked.2⟩
  · rw [if_neg required]
    exact ⟨honest, fun _ => known (Bool.eq_false_iff.mpr required)⟩

theorem attempt_once_upheld {world : World} (notifies : consumer.downstream = true)
    (honest : Honest world) (initialIsNew : Option Bool) :
    Upheld runtime (Attempted event) (attemptOnce consumer event initialIsNew) world := by
  unfold attemptOnce
  apply (upholds_bind _ _ _ _).mpr
  apply (upholds_attempt _ _ _).mpr
  apply (upholds_perform _ _).mpr
  intro reached between
  refine ⟨trivial, ?_⟩
  intro failure
  have reachedHonest := between.2 honest
  have unmarked : ∀ eventId, StoreOp.store event = .markCompleted eventId →
      eventId ∈ reached.notified := by
    intro eventId contrary
    cases contrary
  have after := order_honest reachedHonest (.store event) failure unmarked
  obtain ⟨ledger, holds⟩ := reachedHonest.tracked.paired
  obtain ⟨result, database, later, ran, stepped, represented⟩ :=
    run_refines holds (.store event) failure
  simp only [exec, ran] at after ⊢
  cases result with
  | error fault => exact after
  | ok stored =>
      -- what is found completed was notified by whoever completed it
      have known : stored.downstreamRequired = false → event.eventId ∈ reached.notified := by
        intro quiet
        exact after.completions
          (after.tracked.marked event.eventId (stored_completed stepped represented quiet))
      apply (upholds_bind _ _ _ _).mpr
      apply (upholds_attempt _ _ _).mpr
      apply upholds_mono (effects_upheld notifies after known)
      intro outcome final ended
      cases outcome with
      | error fault => exact ended.1
      | ok _ => exact ⟨ended.1, ended.2 rfl⟩

theorem give_up_upheld {world : World} (attempts : Nat) (initialIsNew : Option Bool)
    (cause : Exc) :
    Upheld runtime Returned
      (giveUp runtime consumer message payload event attempts initialIsNew cause) world := by
  unfold giveUp
  split
  next deadLetterTopic destination =>
    apply upheld_call
    · exact fun _ _ => trivial
    intro reached failure _
    cases answered : (exec (.order (.discard event.eventId)) failure reached).1 with
    | error fault => trivial
    | ok _ => exact dead_letter_upheld
  next absent => trivial

theorem retry_loop_upheld {world : World} (notifies : consumer.downstream = true)
    (decoded : decodeValue runtime message.value = .ok (payload, event)) (honest : Honest world) :
    Upheld runtime Returned (retryLoop runtime consumer message payload event 0 none) world := by
  let invariant : Nat → Option Bool → World → Prop := fun _ _ => Honest
  have entry : invariant 0 none world := honest
  apply upholds_retry_loop ?_ entry
  intro made initialIsNew entered enteredHonest
  apply upholds_mono (attempt_once_upheld notifies enteredHonest initialIsNew)
  intro outcome reached attempted
  rcases outcome with fault | ⟨initialIsNew, cause | _⟩
  · cases attempted
  · simp only [AttemptEnds]
    split
    · apply (upholds_perform _ _).mpr
      intro waited between
      exact ⟨trivial, fun _ => between.2 attempted⟩
    · exact give_up_upheld (made + 1) initialIsNew cause
  · exact finish_upheld decoded attempted.2 (made + 1) initialIsNew

theorem process_upheld {world : World} (notifies : consumer.downstream = true)
    (honest : Honest world) :
    Upheld runtime Returned (process runtime consumer message) world := by
  unfold process
  split
  next error broken => trivial
  next sound =>
    split
    next payload event decoded => exact retry_loop_upheld notifies decoded honest
    next cause refused =>
      split
      next deadLetterTopic destination => exact dead_letter_upheld
      next absent => trivial

theorem receive_upheld {world : World} (honest : Honest world) (polls : Nat) :
    Upheld runtime (fun _ final => Honest final) (receive polls) world := by
  induction polls generalizing world with
  | zero => exact honest
  | succ polls ih =>
      unfold receive
      apply upheld_call
      · exact fun _ _ => trivial
      intro reached answer between
      rcases answer with fault | _ | message
      · exact between.2 honest
      · exact ih (between.2 honest)
      · exact between.2 honest

theorem turn_upheld (turn : NotifyingTurn) {world : World} (honest : Honest world) :
    Upheld runtime Returned (turn.program runtime) world := by
  unfold NotifyingTurn.program Turn.program processOne
  split
  · trivial
  · apply (upholds_bind _ _ _ _).mpr
    apply upholds_mono (receive_upheld honest turn.polls)
    intro outcome received reachedHonest
    rcases outcome with fault | _ | message
    · trivial
    · trivial
    · exact process_upheld turn.notifies reachedHonest

end Delivery

/-- In every interleaving of consumers with a downstream service, what is completed
was notified, and no offset is committed for a record that nobody was told of. -/
theorem notified_before_completed (runtime : Runtime)
    (labels : List (Label NotifyingTurn Op.Choice)) :
    Notified runtime (notifiers runtime labels) := by
  have honest : Honest emptyWorld := ⟨empty_tracked, List.nil_subset _⟩
  have guarantee (op : Op) (choice : op.Choice) (world : World) (_ : Honest world)
      (ready : Ready runtime op world) : Keeps Honest Grows world (exec op choice world).2 :=
    call_keeps op choice world ready
  have ready (turn : NotifyingTurn) (world : World) (holds : Honest world) :
      Upheld runtime Returned (turn.program runtime) world := turn_upheld turn holds
  have safe := run_safe growth guarantee ready labels (safe_idle growth honest)
  constructor
  case completed =>
    intro eventId completed
    exact safe.holds.completions (safe.holds.tracked.marked eventId completed)
  case committed =>
    intro label message choice called
    exact safe_called growth safe called
  case returned =>
    intro thread record held
    exact safe.upheld thread _ held

end OrderMessaging.Processing.NotifiedFirst
