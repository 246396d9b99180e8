import OrderMessaging.Library.Interleaving
import OrderMessaging.Processing.SqsDelivery

/-!
Any number of SQS consumers on one queue and one store. No consumer of this kind
ever discards, so a completed event stays completed, and a consumer that reaches
its delete knows that the event it deletes is.
-/

namespace OrderMessaging.Processing.SqsAcknowledgement

open OrderMessaging.PyText OrderMessaging.PyException OrderMessaging.Program
open OrderMessaging.Interleaving OrderMessaging.Relation OrderMessaging.ClaimLedger
open OrderMessaging.Contracts.Models OrderMessaging.Processing.PostgresOrderStore
open OrderMessaging.Processing.OrderLedger OrderMessaging.Processing.StoreHistory
open OrderMessaging.Processing.StoreOperations OrderMessaging.Processing.SqsDelivery

set_option autoImplicit false

/-- Nothing deleted yet, and a store that any calls may have filled. -/
def opening (calls : List Call) : World := ⟨⟨(StoreHistory.run calls).tables, []⟩, []⟩

def consumers (runtime : Runtime) (queue : Nat → Str) (calls : List Call)
    (labels : List (Label Unit Op.Choice)) : System Exc Op.Ret Str World :=
  Interleaving.run (exec queue) (fun _ => processOne runtime) labels
    (System.idle (opening calls))

/-- A deleted message is an event that is completed and has exactly one order. -/
structure Acknowledged (runtime : Runtime) (queue : Nat → Str) (world : World) : Prop where
  deletedCompleted : ∀ handle ∈ world.deleted, ∃ event,
    decodeBody runtime (queue handle) = .ok event ∧
    Completed world.database.tables event.eventId ∧
    ∃! row, row ∈ world.database.tables.orders ∧ row.sourceEventId = event.eventId
  oneOrder : ∀ left ∈ world.database.tables.orders, ∀ right ∈ world.database.tables.orders,
    left.sourceEventId = right.sourceEventId → left = right

section Invariant

variable (runtime : Runtime) (queue : Nat → Str)

def Delivered (world : World) (handle : Nat) : Prop :=
  ∃ event, decodeBody runtime (queue handle) = .ok event ∧
    Completed world.database.tables event.eventId

def Consistent (world : World) : Prop :=
  (∃ ledger, Represents world.database.tables ledger) ∧
    ∀ handle ∈ world.deleted, Delivered runtime queue world handle

/-- What every consumer may rely on and every call of one guarantees. -/
def Advances (before after : World) : Prop :=
  Consistent runtime queue before → Consistent runtime queue after ∧
    ∀ eventId, Completed before.database.tables eventId → Completed after.database.tables eventId

/-- What a consumer has established when it makes a call. -/
def Allowed : Op → World → Prop
  | .receiveMessage, _ => True
  | .order op, _ => ∀ eventId, op ≠ .discard eventId
  | .deleteMessage handle, world => Delivered runtime queue world handle

variable {runtime queue}

theorem delivered_mono {before after : World}
    (kept : ∀ eventId, Completed before.database.tables eventId →
      Completed after.database.tables eventId)
    {handle : Nat} (delivered : Delivered runtime queue before handle) :
    Delivered runtime queue after handle := by
  obtain ⟨event, decoded, completed⟩ := delivered
  exact ⟨event, decoded, kept _ completed⟩

theorem reliable : Reliable (Advances runtime queue)
    (fun (_ : Except Exc Str) (_ : World) => True) where
  refl world := by
    intro consistent
    exact ⟨consistent, fun _ completed => completed⟩
  trans first second third := by
    intro early late consistent
    obtain ⟨middle, middleKept⟩ := early consistent
    obtain ⟨final, finalKept⟩ := late middle
    exact ⟨final, fun eventId completed => finalKept eventId (middleKept eventId completed)⟩
  stable _ _ _ _ _ := trivial

theorem order_advances (op : StoreOp) (failure : Option Exc) (world : World)
    (kept : ∀ eventId, op ≠ .discard eventId) :
    Advances runtime queue world (exec queue (.order op) failure world).2 := by
  intro consistent
  obtain ⟨⟨ledger, holds⟩, deleted⟩ := consistent
  obtain ⟨result, reached, after, ran, stepped, represented⟩ := run_refines holds op failure
  have extended := ledger_op_extends stepped kept
  have stays : ∀ eventId, Completed world.database.tables eventId →
      Completed reached.tables eventId := by
    intro eventId completed
    exact completed_extends holds represented extended completed
  simp only [exec, ran]
  refine ⟨⟨⟨after, represented⟩, ?_⟩, stays⟩
  intro handle member
  exact delivered_mono stays (deleted handle member)

theorem call_advances (op : Op) (choice : op.Choice) (world : World)
    (allowed : Allowed runtime queue op world) :
    Advances runtime queue world (exec queue op choice world).2 := by
  cases op with
  | receiveMessage => exact reliable.refl world
  | order op => exact order_advances op choice world allowed
  | deleteMessage handle =>
      cases choice with
      | some fault => exact reliable.refl world
      | none =>
          intro consistent
          refine ⟨⟨consistent.1, ?_⟩, fun _ completed => completed⟩
          intro other member
          rcases List.mem_cons.mp member with same | earlier
          · rw [same]
            exact allowed
          · exact consistent.2 other earlier

end Invariant

section Consumer

variable {runtime : Runtime} {queue : Nat → Str}

variable (runtime queue) in
/-- The obligations of a consumer: it may end in any way. -/
abbrev Upheld (program : Prog Exc Op.Ret Str) (world : World) : Prop :=
  Upholds (exec queue) (Advances runtime queue) (Allowed runtime queue) (fun _ _ => True)
    program world

theorem delete_upheld {world : World} {message : SqsMessage} {event : OrderCreatedEvent}
    (consistent : Consistent runtime queue world)
    (sent : message.body = queue message.receiptHandle)
    (decoded : decodeBody runtime message.body = .ok event)
    (completed : Completed world.database.tables event.eventId) :
    Upheld runtime queue
      ((Prog.perform (Op.deleteMessage message.receiptHandle)).bind fun _ => pure event.eventId.str)
      world := by
  rw [Upheld, upholds_bind, upholds_perform]
  intro reached between
  obtain ⟨_, kept⟩ := between consistent
  constructor
  · rw [sent] at decoded
    exact ⟨event, decoded, kept event.eventId completed⟩
  · intro failure
    cases failure with
    | some fault => trivial
    | none => trivial

theorem complete_upheld {world : World} {message : SqsMessage} {event : OrderCreatedEvent}
    (consistent : Consistent runtime queue world)
    (sent : message.body = queue message.receiptHandle)
    (decoded : decodeBody runtime message.body = .ok event) :
    Upheld runtime queue
      ((Prog.perform (Op.order (.markCompleted event.eventId))).bind fun _ =>
        (Prog.perform (Op.deleteMessage message.receiptHandle)).bind fun _ =>
          pure event.eventId.str)
      world := by
  rw [Upheld, upholds_bind, upholds_perform]
  intro reached between
  obtain ⟨reachedConsistent, _⟩ := between consistent
  have noDiscard : ∀ eventId, StoreOp.markCompleted event.eventId ≠ .discard eventId := by simp
  refine ⟨noDiscard, ?_⟩
  intro failure
  have advanced : Advances runtime queue reached _ :=
    order_advances (.markCompleted event.eventId) failure reached noDiscard
  obtain ⟨afterConsistent, _⟩ := advanced reachedConsistent
  obtain ⟨ledger, holds⟩ := reachedConsistent.1
  obtain ⟨result, database, after, ran, stepped, represented⟩ :=
    run_refines holds (.markCompleted event.eventId) failure
  simp only [exec, ran] at afterConsistent ⊢
  cases result with
  | error fault => trivial
  | ok _ =>
      apply delete_upheld afterConsistent sent decoded
      exact marked_completed stepped represented

theorem store_upheld {world : World} {message : SqsMessage} {event : OrderCreatedEvent}
    (consistent : Consistent runtime queue world)
    (sent : message.body = queue message.receiptHandle)
    (decoded : decodeBody runtime message.body = .ok event) :
    Upheld runtime queue
      ((Prog.perform (Op.order (.store event))).bind fun result =>
        if result.downstreamRequired = true then
          (Prog.perform (Op.order (.markCompleted event.eventId))).bind fun _ =>
            (Prog.perform (Op.deleteMessage message.receiptHandle)).bind fun _ =>
              pure event.eventId.str
        else
          (Prog.perform (Op.deleteMessage message.receiptHandle)).bind fun _ =>
            pure event.eventId.str)
      world := by
  rw [Upheld, upholds_bind, upholds_perform]
  intro reached between
  obtain ⟨reachedConsistent, _⟩ := between consistent
  have noDiscard : ∀ eventId, StoreOp.store event ≠ .discard eventId := by simp
  refine ⟨noDiscard, ?_⟩
  intro failure
  have advanced : Advances runtime queue reached _ :=
    order_advances (.store event) failure reached noDiscard
  obtain ⟨afterConsistent, _⟩ := advanced reachedConsistent
  obtain ⟨ledger, holds⟩ := reachedConsistent.1
  obtain ⟨result, database, after, ran, stepped, represented⟩ :=
    run_refines holds (.store event) failure
  simp only [exec, ran] at afterConsistent ⊢
  cases result with
  | error fault => trivial
  | ok stored =>
      rw [continues_ok]
      by_cases required : stored.downstreamRequired = true
      · rw [if_pos required]
        exact complete_upheld afterConsistent sent decoded
      · rw [if_neg required]
        apply delete_upheld afterConsistent sent decoded
        exact stored_completed stepped represented (Bool.eq_false_iff.mpr required)

theorem process_one_upheld {world : World} (consistent : Consistent runtime queue world) :
    Upheld runtime queue (processOne runtime) world := by
  unfold processOne
  simp only [Prog.bind_eq]
  rw [Upheld, upholds_bind, upholds_perform]
  intro received between
  obtain ⟨receivedConsistent, _⟩ := between consistent
  refine ⟨trivial, ?_⟩
  intro answer
  cases answer with
  | error fault => trivial
  | ok picked =>
      cases picked with
      | none => trivial
      | some handle =>
          simp only [exec, Except.map, Option.map_some, Option.toList_some, continues_ok]
          rw [upholds_bind, upholds_done]
          cases decoded : decodeBody runtime (queue handle) with
          | error fault => trivial
          | ok event =>
              rw [continues_ok]
              have sent : (⟨handle, queue handle⟩ : SqsMessage).body = queue handle := rfl
              exact store_upheld receivedConsistent sent decoded

theorem consumers_sound (runtime : Runtime) (queue : Nat → Str) (calls : List Call)
    (early late : List (Label Unit Op.Choice)) :
    Consistent runtime queue (consumers runtime queue calls early).world ∧
      Advances runtime queue (consumers runtime queue calls early).world
        (consumers runtime queue calls (early ++ late)).world := by
  obtain ⟨ledger, holds, _⟩ := run_traced calls
  have origin : Consistent runtime queue (opening calls) := by
    refine ⟨⟨ledger, holds⟩, ?_⟩
    intro handle member
    cases member
  have guarantee (op : Op) (choice : op.Choice) (world : World)
      (_ : Advances runtime queue (opening calls) world)
      (allowed : Allowed runtime queue op world) :
      Advances runtime queue world (exec queue op choice world).2 :=
    call_advances op choice world allowed
  have ready (_ : Unit) (world : World)
      (advanced : Advances runtime queue (opening calls) world) :
      Upheld runtime queue (processOne runtime) world := process_one_upheld (advanced origin).1
  have begun : Sound (exec queue) (Advances runtime queue) (Allowed runtime queue)
      (fun (_ : Except Exc Str) _ => True) (opening calls) (System.idle (opening calls)) :=
    sound_idle reliable (opening calls)
  have first := run_sound reliable guarantee ready early begun
  have second := run_sound_from reliable guarantee ready late first
  rw [consumers, consumers, run_append]
  exact ⟨(first.1 origin).1, second.1⟩

/-- Acknowledgement safety over every interleaving: what is deleted is done, and
what is done stays done. -/
theorem sqs_acknowledgement_safe (runtime : Runtime) (queue : Nat → Str) (calls : List Call)
    (early late : List (Label Unit Op.Choice)) :
    Acknowledged runtime queue (consumers runtime queue calls early).world ∧
      ∀ eventId,
        Completed (consumers runtime queue calls early).world.database.tables eventId →
        Completed (consumers runtime queue calls (early ++ late)).world.database.tables
          eventId := by
  obtain ⟨consistent, advanced⟩ := consumers_sound runtime queue calls early late
  have later := advanced consistent
  obtain ⟨⟨ledger, holds⟩, deleted⟩ := consistent
  refine ⟨⟨?_, ?_⟩, later.2⟩
  · intro handle member
    obtain ⟨event, decoded, completed⟩ := deleted handle member
    exact ⟨event, decoded, completed, completed_order holds completed⟩
  · intro left leftMember right rightMember same
    exact (consumers runtime queue calls early).world.database.tables.ordersSourceEventIdKey
      leftMember rightMember same

end Consumer

end OrderMessaging.Processing.SqsAcknowledgement
