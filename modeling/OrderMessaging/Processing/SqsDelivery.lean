import OrderMessaging.Library.Program
import OrderMessaging.Contracts.Validation
import OrderMessaging.Processing.StoreOperations

/-!
One SQS delivery: receive a message, decode it, store and complete its event,
delete it. The queue keeps every message that was sent and not deleted; a
receive can hand out any of them, again and again.
-/

namespace OrderMessaging.Processing.SqsDelivery

open OrderMessaging.PyText OrderMessaging.PyException OrderMessaging.Program
open OrderMessaging.Contracts.Models OrderMessaging.Contracts.Validation
open OrderMessaging.Processing.PostgresOrderStore OrderMessaging.Processing.StoreOperations

set_option autoImplicit false

/-- A received message: its place in the queue stands for the receipt handle. -/
structure SqsMessage where
  receiptHandle : Nat
  body : Str

inductive Op where
  | receiveMessage
  | order (op : StoreOp)
  | deleteMessage (receiptHandle : Nat)

abbrev Op.Ret : Op → Type
  | receiveMessage => List SqsMessage
  | order op => op.Ret
  | deleteMessage _ => Unit

abbrev Op.Choice : Op → Type
  | receiveMessage => Except Exc (Option Nat)
  | order _ => Option Exc
  | deleteMessage _ => Option Exc

/-- The database and the receipt handles that were deleted, the latest first. -/
structure World where
  database : Database
  deleted : List Nat

/-- `queue` is the body of every message that is ever sent. A receive returns at
most the one message that the environment picks. -/
def exec (queue : Nat → Str) : Semantics Exc Op.Ret Op.Choice World
  | .receiveMessage, answer, world =>
      (answer.map fun picked => (picked.map fun handle => ⟨handle, queue handle⟩).toList, world)
  | .order op, failure, world =>
      let (result, database) := op.run failure world.database
      (result, { world with database := database })
  | .deleteMessage receiptHandle, failure, world =>
      match failure with
      | some fault => (.error fault, world)
      | none => (.ok (), { world with deleted := receiptHandle :: world.deleted })

section Decoding

variable (runtime : Runtime)

def decodeBody (body : Str) : Except Exc OrderCreatedEvent := do
  let payload ← runtime.loads body
  parseOrderCreatedEvent runtime payload

end Decoding

def noMessage : Exc := ⟨timeoutError, "No SQS order event arrived before long poll ended."⟩

/-- `SqsOrderConsumer.process_one`. -/
def processOne (runtime : Runtime) : Prog Exc Op.Ret Str := do
  match ← Prog.perform Op.receiveMessage with
  | [] => Prog.raise noMessage
  | message :: _ =>
      let event ← Prog.done (decodeBody runtime message.body)
      let result ← Prog.perform (Op.order (.store event))
      if result.downstreamRequired then Prog.perform (Op.order (.markCompleted event.eventId))
      Prog.perform (Op.deleteMessage message.receiptHandle)
      pure event.eventId.str

end OrderMessaging.Processing.SqsDelivery
