import OrderMessaging.Messaging.KafkaPublication
import OrderMessaging.Messaging.RoundTrip

/-!
Whom a failed publication is blamed on. The count that `flush` returns is over the
records of all callers, so a call whose own record was acknowledged is told that it
was not whenever another caller's record is still queued.
-/

namespace OrderMessaging.Messaging.PublishVerdict

open OrderMessaging.PyText OrderMessaging.PyException OrderMessaging.Program
open OrderMessaging.Transcript OrderMessaging.Contracts.Models
open OrderMessaging.Contracts.Reference OrderMessaging.Contracts.WireFormat
open OrderMessaging.Messaging.SharedProducer OrderMessaging.Messaging.EventPublishers
open OrderMessaging.Messaging.KafkaPublication OrderMessaging.Messaging.RoundTrip
open OrderMessaging.Processing.KafkaCollaborators (DeliveredMessage)
open OrderMessaging.Processing.RetryAndDeadLetter (KafkaPublishReceipt eventPublishError)

set_option autoImplicit false

def Acknowledged (world : World) (ticket : Nat) : Prop :=
  ∃ message, world.verdicts ticket = some (.ok message)

def Rejected (world : World) (ticket : Nat) : Prop :=
  ∃ error, world.verdicts ticket = some (.error error)

/-- A publication whose produce handed out a ticket and whose flush returned. -/
structure FlushedCall (runtime : PublisherRuntime) (publisher : KafkaEventPublisher)
    (topic : Str) (event : OrderCreatedEvent) (history : List (Nat × Exchange Exc Op.Ret))
    (caller ticket : Nat) (atReturn : World) (outcome : Except Exc KafkaPublishReceipt) :
    Prop where
  finished : Transcribes (publishToKafka runtime publisher topic event) (ownCalls caller history)
    outcome
  handed : ∃ record, (caller, ⟨.produce record, .ok ticket⟩) ∈ history
  /-- `atReturn` is the world in which the flush returned. -/
  returned : ∃ early late undelivered final,
    history = early ++
      (caller, ⟨.flush publisher.deliveryTimeoutSeconds, .ok undelivered⟩) :: late ∧
    Plays exec idleWorld (early.map Prod.snd ++
      [⟨.flush publisher.deliveryTimeoutSeconds, .ok undelivered⟩]) atReturn ∧
    Plays exec atReturn (late.map Prod.snd) final

/-- The call raises `EventPublishError` only over its own record, and returns a
receipt for a record that was acknowledged in time. -/
def BlamesOwnRecord (atReturn : World) (ticket : Nat)
    (outcome : Except Exc KafkaPublishReceipt) : Prop :=
  (∀ fault, outcome = .error fault → fault.isInstance [eventPublishError] = true →
    Rejected atReturn ticket ∨ ¬Acknowledged atReturn ticket) ∧
  (Acknowledged atReturn ticket → ∃ receipt, outcome = .ok receipt)

section Verdict

variable {runtime : PublisherRuntime} {publisher : KafkaEventPublisher} {topic : Str}
variable {event : OrderCreatedEvent} {history : List (Nat × Exchange Exc Op.Ret)}
variable {caller ticket : Nat} {atReturn : World} {outcome : Except Exc KafkaPublishReceipt}

/-- A flush that stands second in a list without others splits it there. -/
theorem split_at_second {Item : Type} {early late rest : List Item} {pivot first second : Item}
    (same : early ++ pivot :: late = first :: second :: rest) (notFirst : pivot ≠ first)
    (notLater : pivot ∉ rest) : pivot = second ∧ late = rest := by
  cases early with
  | nil => exact absurd (List.cons.inj same).1 notFirst
  | cons head early =>
      obtain ⟨_, tail⟩ := List.cons.inj same
      cases early with
      | nil => exact List.cons.inj tail
      | cons next early =>
          obtain ⟨_, remaining⟩ := List.cons.inj tail
          refine absurd ?_ notLater
          rw [← remaining]
          exact List.mem_append_right _ List.mem_cons_self

theorem judges_reads {headers : List (Str × ByteArray)} {undelivered : Nat} {calls : Calls}
    (judged : Judges runtime publisher topic event headers ticket undelivered calls outcome) :
    ∀ exchange ∈ calls, exchange.op = .deliveryErrors ticket ∨
      exchange.op = .deliveredMessages ticket := by
  cases judged <;> simp

/-- An acknowledged record that is no longer queued has been reported so. -/
theorem acknowledged_reported {world : World} (lawful : Lawful world) {message : DeliveredMessage}
    (said : world.verdicts ticket = some (.ok message)) (drained : world.queued = []) :
    world.reports ticket = [.ok message] := by
  rcases lawful.reported ticket with silent | ⟨verdict, earlier, called⟩
  · have inside := lawful.decided ticket _ said
    have waiting : ticket ∈ world.queued :=
      List.mem_filter.mpr ⟨List.mem_range.mpr inside, by rw [silent]; rfl⟩
    rw [drained] at waiting
    cases waiting
  · rw [said] at earlier
    cases earlier
    exact called

/-- What the code reads from its own callback's lists after the flush. -/
theorem reported_read {world final : World} {calls : Calls} {message : DeliveredMessage}
    (plays : Plays exec world calls final) (reported : world.reports ticket = [.ok message]) :
    (∀ answer, ⟨.deliveryErrors ticket, answer⟩ ∈ calls → answer = .ok []) ∧
      ∀ answer, ⟨.deliveredMessages ticket, answer⟩ ∈ calls → answer = .ok [message] := by
  constructor
  · intro answer member
    obtain ⟨choice, before, reached, answered, grown, _, _⟩ := plays_member plays member
    rw [errors_answered answered, World.errors, grown.reports ticket _ reported]
    rfl
  · intro answer member
    obtain ⟨choice, before, reached, answered, grown, _, _⟩ := plays_member plays member
    rw [delivered_answered answered, World.delivered, grown.reports ticket _ reported]
    rfl

/-- What a flushed publication says after its flush, and what follows in the run. -/
theorem flushed_call_judged
    (call : FlushedCall runtime publisher topic event history caller ticket atReturn outcome) :
    ∃ headers calls late final, Lawful atReturn ∧ Plays exec atReturn late final ∧
      (∀ exchange ∈ calls, exchange ∈ late) ∧
      Judges runtime publisher topic event headers ticket atReturn.queued.length calls outcome := by
  obtain ⟨record, handed⟩ := call.handed
  obtain ⟨early, late, undelivered, final, same, before, after⟩ := call.returned
  have lawful := plays_lawful before idle_lawful
  obtain ⟨_, _, flushes⟩ := (plays_append_iff exec).mp before
  obtain ⟨choice, reached, answered, last⟩ := (plays_cons_iff exec).mp flushes
  cases last
  have counted := flush_answered answered
  have own : ownCalls caller history = ownCalls caller early ++
      ⟨.flush publisher.deliveryTimeoutSeconds, .ok undelivered⟩ :: ownCalls caller late := by
    rw [same, own_calls_append, own_calls_cons]
  have produced := mem_own_calls.mpr handed
  have flushed : ⟨.flush publisher.deliveryTimeoutSeconds, .ok undelivered⟩ ∈
      ownCalls caller history := own ▸ List.mem_append_right _ List.mem_cons_self
  have published := publishes_of_transcribes call.finished
  generalize ownCalls caller history = said at own produced flushed published
  cases published with
  | unbuilt fault => cases produced
  | refused other cause built => simp at flushed
  | interrupted other otherTicket cause built => simp at flushed
  | flushed other otherTicket otherCount rest _ built judged =>
      have reads := judges_reads judged
      have notRead : ∀ exchange ∈ rest, exchange.op ≠ .produce record ∧
          exchange.op ≠ .flush publisher.deliveryTimeoutSeconds := by
        intro exchange member
        rcases reads exchange member with errors | messages
        · simp [errors]
        · simp [messages]
      have sameTicket : ticket = otherTicket := by
        rcases List.mem_cons.mp produced with first | second
        · cases first
          rfl
        · rcases List.mem_cons.mp second with flush | later
          · cases flush
          · exact absurd rfl (notRead _ later).1
      obtain ⟨flush, remaining⟩ := split_at_second own.symm (by simp)
        fun member => (notRead _ member).2 rfl
      cases flush
      rw [← sameTicket, counted] at judged
      refine ⟨_, rest, _, final, lawful, after, ?_, judged⟩
      intro exchange member
      rw [← remaining] at member
      exact List.mem_map.mpr ⟨_, mem_own_calls.mp member, rfl⟩

/-- An acknowledged record with nothing left in the queue earns its receipt. -/
theorem drained_receipt
    (call : FlushedCall runtime publisher topic event history caller ticket atReturn outcome)
    (acknowledged : Acknowledged atReturn ticket) (drained : atReturn.queued = []) :
    ∃ receipt, outcome = .ok receipt := by
  obtain ⟨headers, calls, late, final, lawful, plays, within, judged⟩ := flushed_call_judged call
  obtain ⟨message, said⟩ := acknowledged
  obtain ⟨noErrors, oneMessage⟩ :=
    reported_read plays (acknowledged_reported lawful said drained)
  cases judged with
  | unacknowledged queued =>
      rw [drained] at queued
      exact absurd rfl queued
  | errorsUnread fault _ => cases noErrors (.error fault) (within _ List.mem_cons_self)
  | failed error others _ => cases noErrors (.ok (error :: others)) (within _ List.mem_cons_self)
  | messagesUnread fault _ => cases oneMessage (.error fault) (within _ (by simp))
  | delivered own _ => exact ⟨_, rfl⟩
  | unreported messages _ other =>
      cases oneMessage (.ok messages) (within _ (by simp))
      exact absurd rfl other

/-- A receipt is only given when the flush left nothing in the queue. -/
theorem receipt_drained {receipt : KafkaPublishReceipt}
    (call : FlushedCall runtime publisher topic event history caller ticket atReturn
      (.ok receipt)) : atReturn.queued = [] := by
  obtain ⟨headers, calls, late, final, _, _, _, judged⟩ := flushed_call_judged call
  generalize ended : (Except.ok receipt : Except Exc KafkaPublishReceipt) = outcome at judged
  cases judged with
  | unacknowledged | errorsUnread | failed | messagesUnread | unreported => cases ended
  | delivered own drained => exact List.length_eq_zero_iff.mp drained

end Verdict

/-- A publication is blamed rightly exactly when its record was not acknowledged
in time or its flush left no record of any caller in the queue. -/
theorem blames_own_record_iff (runtime : PublisherRuntime) (publisher : KafkaEventPublisher)
    (topic : Str) (event : OrderCreatedEvent) (history : List (Nat × Exchange Exc Op.Ret))
    (caller ticket : Nat) (atReturn : World) (outcome : Except Exc KafkaPublishReceipt)
    (call : FlushedCall runtime publisher topic event history caller ticket atReturn outcome) :
    BlamesOwnRecord atReturn ticket outcome ↔
      (Acknowledged atReturn ticket → atReturn.queued = []) := by
  constructor
  · rintro ⟨_, receipted⟩ acknowledged
    obtain ⟨receipt, rfl⟩ := receipted acknowledged
    exact receipt_drained call
  · intro drained
    refine ⟨?_, fun acknowledged => drained_receipt call acknowledged (drained acknowledged)⟩
    intro fault raised _
    refine .inr fun acknowledged => ?_
    obtain ⟨receipt, returned⟩ := drained_receipt call acknowledged (drained acknowledged)
    rw [raised] at returned
    cases returned

section Runs

def publisher : KafkaEventPublisher := ⟨15⟩

/-- What the broker and the client do about one record. -/
def acknowledging (ticket : Nat) : List ClientEvent :=
  [.acknowledge ticket 0 none, .serve ticket]

/-- Where the first record of a topic is stored. -/
def firstPlace (topic : Str) : DeliveredMessage := ⟨topic, 0, 0, none⟩

/-- The world in which records were handed over and the first was acknowledged. -/
def firstAcknowledged (records : List ProducerRecord) : World :=
  World.passAll { idleWorld with produced := records } (acknowledging 0)

theorem flush_after_first (records : List ProducerRecord) :
    Plays exec { idleWorld with produced := records }
      [⟨.flush publisher.deliveryTimeoutSeconds, .ok (firstAcknowledged records).queued.length⟩]
      (firstAcknowledged records) :=
  plays_step (show exec (.flush publisher.deliveryTimeoutSeconds) (acknowledging 0, none)
    { idleWorld with produced := records } = _ from rfl) (.nil _)

/-- The documented order and another one of the same customer. -/
def crossedEvent : Nat → OrderCreatedEvent
  | 0 => documentedEvent
  | _ => { documentedEvent with eventId := ⟨1⟩ }

theorem crossed_built (caller : Nat) :
    ∃ record, Built referencePublisherRuntime "orders" (crossedEvent caller) record := by
  cases caller with
  | zero =>
      obtain ⟨value, serialized⟩ := valid_serialized reference_printer documented_unicode documented_valid
      exact record_built referencePublisherRuntime "orders" documentedEvent serialized
  | succ caller =>
      have unicode : Reads referencePublisherRuntime referencePublisherRuntime.dumpsUnicode
          (.dict (eventToWireDict referencePublisherRuntime
            { documentedEvent with eventId := ⟨1⟩ })) := by
        decide +kernel
      obtain ⟨value, serialized⟩ := valid_serialized reference_printer unicode
        (validate_typed_iff.mpr ⟨by decide +kernel, by decide +kernel⟩)
      exact record_built referencePublisherRuntime "orders" _ serialized

/-- The world in which the first record was acknowledged and the second rejected. -/
def bothDecided (first second : ProducerRecord) : World :=
  World.passAll { idleWorld with produced := [first, second] }
    [.acknowledge 0 0 none, .reject 1 "message too large", .serve 1, .serve 0]

/-- Two publications that overlap until the first flush has served both records. -/
def decidedHistory (first second : ProducerRecord) : List (Nat × Exchange Exc Op.Ret) :=
  [(0, ⟨.produce first, .ok 0⟩), (1, ⟨.produce second, .ok 1⟩),
    (0, ⟨.flush publisher.deliveryTimeoutSeconds, .ok 0⟩),
    (1, ⟨.flush publisher.deliveryTimeoutSeconds, .ok 0⟩),
    (1, ⟨.deliveryErrors 1, .ok ["message too large"]⟩),
    (0, ⟨.deliveryErrors 0, .ok []⟩),
    (0, ⟨.deliveredMessages 0, .ok [firstPlace first.topic]⟩)]

section Decided

variable (first second : ProducerRecord)

theorem both_produced : Plays exec idleWorld
    [⟨.produce first, .ok 0⟩, ⟨.produce second, .ok 1⟩]
    { idleWorld with produced := [first, second] } :=
  plays_step (show exec (.produce first) ([], none) idleWorld =
    (.ok 0, { idleWorld with produced := [first] }) from rfl)
  (plays_step (show exec (.produce second) ([], none) _ =
    (.ok 1, { idleWorld with produced := [first, second] }) from rfl) (.nil _))

theorem first_flushed : Plays exec { idleWorld with produced := [first, second] }
    [⟨.flush publisher.deliveryTimeoutSeconds, .ok 0⟩] (bothDecided first second) :=
  plays_step (show exec (.flush publisher.deliveryTimeoutSeconds)
    ([.acknowledge 0 0 none, .reject 1 "message too large", .serve 1, .serve 0], none)
    { idleWorld with produced := [first, second] } = _ from rfl) (.nil _)

theorem second_flushed : Plays exec (bothDecided first second)
    [⟨.flush publisher.deliveryTimeoutSeconds, .ok 0⟩] (bothDecided first second) :=
  plays_step (show exec (.flush publisher.deliveryTimeoutSeconds) ([], none)
    (bothDecided first second) = _ from rfl) (.nil _)

theorem both_read : Plays exec (bothDecided first second)
    [⟨.deliveryErrors 1, .ok ["message too large"]⟩, ⟨.deliveryErrors 0, .ok []⟩,
      ⟨.deliveredMessages 0, .ok [firstPlace first.topic]⟩] (bothDecided first second) :=
  plays_step (show exec (.deliveryErrors 1) ([], ()) (bothDecided first second) = _ from rfl)
  (plays_step (show exec (.deliveryErrors 0) ([], ()) (bothDecided first second) = _ from rfl)
  (plays_step (show exec (.deliveredMessages 0) ([], ()) (bothDecided first second) = _ from rfl)
    (.nil _)))

theorem decided_plays : Plays exec idleWorld ((decidedHistory first second).map Prod.snd)
    (bothDecided first second) :=
  plays_append (both_produced first second) (plays_append (first_flushed first second)
    (plays_append (second_flushed first second) (both_read first second)))

variable {first second} {runtime : PublisherRuntime} {topic : Str} {event : OrderCreatedEvent}

theorem delivered_call (named : isBlank topic = false) (built : Built runtime topic event first) :
    ∃ receipt, FlushedCall runtime publisher topic event (decidedHistory first second) 0 0
      (bothDecided first second) (.ok receipt) := by
  have judged : Judges runtime publisher topic event first.headers 0 0 _ _ :=
    .delivered (firstPlace first.topic) rfl
  refine ⟨_, transcribes_of_flushed named built judged, ⟨first, List.mem_cons_self⟩, ?_⟩
  exact ⟨[(0, ⟨.produce first, .ok 0⟩), (1, ⟨.produce second, .ok 1⟩)], _, 0, _, rfl,
    plays_append (both_produced first second) (first_flushed first second),
    plays_append (second_flushed first second) (both_read first second)⟩

theorem rejected_call (named : isBlank topic = false) (built : Built runtime topic event second) :
    ∃ fault, fault.type = eventPublishError ∧
      FlushedCall runtime publisher topic event (decidedHistory first second) 1 1
        (bothDecided first second) (.error fault) := by
  have judged : Judges runtime publisher topic event second.headers 1 0 _ _ :=
    .failed "message too large" [] rfl
  have handed : (1, (⟨.produce second, .ok 1⟩ : Exchange Exc Op.Ret)) ∈
      decidedHistory first second := List.mem_cons_of_mem _ List.mem_cons_self
  refine ⟨_, rfl, transcribes_of_flushed named built judged, ⟨second, handed⟩, ?_⟩
  exact ⟨[(0, ⟨.produce first, .ok 0⟩), (1, ⟨.produce second, .ok 1⟩),
      (0, ⟨.flush publisher.deliveryTimeoutSeconds, .ok 0⟩)], _, 0, _, rfl,
    plays_append (plays_append (both_produced first second) (first_flushed first second))
      (second_flushed first second), both_read first second⟩

end Decided

/-- One of the two is told of its own rejection, the other of its own delivery. -/
theorem overlapping_publications_blame_own :
    ∃ history final atReturn receipt fault,
      Interleaved exec (fun caller => publishToKafka referencePublisherRuntime publisher "orders"
        (crossedEvent caller)) idleWorld history final ∧
      FlushedCall referencePublisherRuntime publisher "orders" (crossedEvent 0) history 0 0 atReturn
        (.ok receipt) ∧
      FlushedCall referencePublisherRuntime publisher "orders" (crossedEvent 1) history 1 1 atReturn
        (.error fault) ∧
      Acknowledged atReturn 0 ∧ Rejected atReturn 1 ∧ fault.type = eventPublishError ∧
      BlamesOwnRecord atReturn 0 (.ok receipt) ∧ BlamesOwnRecord atReturn 1 (.error fault) := by
  obtain ⟨first, firstBuilt⟩ := crossed_built 0
  obtain ⟨second, secondBuilt⟩ := crossed_built 1
  generalize crossedEvent = event at *
  obtain ⟨receipt, delivered⟩ := @delivered_call first second _ _ _ (by decide) firstBuilt
  obtain ⟨fault, type, failed⟩ := @rejected_call first second _ _ _ (by decide) secondBuilt
  refine ⟨decidedHistory first second, _, _, receipt, fault, ⟨decided_plays first second, ?_⟩,
    delivered, failed, ⟨firstPlace first.topic, rfl⟩, ⟨"message too large", rfl⟩, type, ?_, ?_⟩
  · intro caller
    rcases caller with _ | _ | caller
    · exact ⟨[], _, delivered.finished⟩
    · exact ⟨[], _, failed.finished⟩
    · exact exists_transcript ⟨runtimeError, []⟩ _
  · exact (blames_own_record_iff referencePublisherRuntime publisher "orders" (event 0) _ 0 0 _ _
      delivered).mpr fun _ => rfl
  · exact (blames_own_record_iff referencePublisherRuntime publisher "orders" (event 1) _ 1 1 _ _
      failed).mpr fun _ => rfl

/-- Two publications, of which the first flushes while the second record is queued. -/
def crossedHistory (first second : ProducerRecord) : List (Nat × Exchange Exc Op.Ret) :=
  [(0, ⟨.produce first, .ok 0⟩), (1, ⟨.produce second, .ok 1⟩),
    (0, ⟨.flush publisher.deliveryTimeoutSeconds, .ok 1⟩)]

/-- The first record is acknowledged and its publication raises all the same. -/
theorem acknowledged_publication_refused :
    ∃ history final atReturn fault,
      Interleaved exec (fun caller => publishToKafka referencePublisherRuntime publisher "orders"
        (crossedEvent caller)) idleWorld history final ∧
      FlushedCall referencePublisherRuntime publisher "orders" (crossedEvent 0) history 0 0 atReturn
        (.error fault) ∧
      fault.type = eventPublishError ∧ Acknowledged atReturn 0 ∧
      ¬BlamesOwnRecord atReturn 0 (.error fault) := by
  obtain ⟨first, firstBuilt⟩ := crossed_built 0
  obtain ⟨second, secondBuilt⟩ := crossed_built 1
  generalize crossedEvent = event at *
  have played : Plays exec idleWorld ((crossedHistory first second).map Prod.snd)
      (firstAcknowledged [first, second]) :=
    plays_append (both_produced first second) (flush_after_first [first, second])
  have refused : Judges referencePublisherRuntime publisher "orders" (event 0) first.headers 0 1
    _ _ := .unacknowledged one_ne_zero
  have pending : Judges referencePublisherRuntime publisher "orders" (event 1) second.headers 1 1
    _ _ := .unacknowledged one_ne_zero
  have ended := transcribes_of_flushed (by decide) firstBuilt refused
  have further := transcribes_of_flushed (by decide) secondBuilt pending
  have acknowledged : Acknowledged (firstAcknowledged [first, second]) 0 :=
    ⟨firstPlace first.topic, rfl⟩
  refine ⟨crossedHistory first second, _, _, _, ⟨played, ?_⟩, ⟨ended, ?_, ?_⟩, rfl, acknowledged,
    ?_⟩
  · intro caller
    rcases caller with _ | _ | caller
    · exact ⟨[], _, ended⟩
    · exact ⟨_, _, further⟩
    · exact exists_transcript ⟨runtimeError, []⟩ _
  · exact ⟨first, List.mem_cons_self⟩
  · exact ⟨[(0, ⟨.produce first, .ok 0⟩), (1, ⟨.produce second, .ok 1⟩)], [], 1, _, rfl, played,
      .nil _⟩
  · rintro ⟨_, receipted⟩
    obtain ⟨receipt, returned⟩ := receipted acknowledged
    cases returned

end Runs

end OrderMessaging.Messaging.PublishVerdict
