import OrderMessaging.Library.Program
import OrderMessaging.Processing.StoreOperations

/-!
The calls that a Kafka delivery makes on its collaborators, what each returns
and what it does to the world. Every call can raise; which ones do, and what the
broker and the clock answer, is the environment's choice. A commit that raises or
reports a partition error leaves the offset unchanged.
-/

namespace OrderMessaging.Processing.KafkaCollaborators

open OrderMessaging.PyText OrderMessaging.PyException OrderMessaging.Program
open OrderMessaging.Contracts.Models OrderMessaging.Processing.PostgresOrderStore
open OrderMessaging.Processing.OrderLedger OrderMessaging.Processing.StoreOperations

set_option autoImplicit false

structure Message where
  error : Option Str
  topic : Str
  partition : Nat
  offset : Nat
  key : Option ByteArray
  value : Option ByteArray

/-- A record handed to the dead-letter producer. -/
structure DlqRecord where
  topic : Str
  key : ByteArray
  value : ByteArray
  headers : List (Str × ByteArray)

structure DeliveredMessage where
  topic : Str
  partition : Nat
  offset : Nat
  timestampMs : Option Int

/-- What `flush` returned, and what the delivery callback was called with until
then: an error or the delivered message. -/
structure FlushReport where
  remaining : Nat
  callbacks : List (Except Str DeliveredMessage)

def FlushReport.errors (report : FlushReport) : List Str :=
  report.callbacks.filterMap fun
    | .error error => some error
    | .ok _ => none

def FlushReport.delivered (report : FlushReport) : List DeliveredMessage :=
  report.callbacks.filterMap fun
    | .error _ => none
    | .ok message => some message

inductive Op where
  | poll
  | order (op : StoreOp)
  | notify (event : OrderCreatedEvent)
  | wait (seconds : ℚ)
  | uuid4
  | utcNow
  | produce (record : DlqRecord)
  /-- `flush`, with the record whose delivery callback it serves. -/
  | flush (record : DlqRecord)
  | commit (message : Message)

abbrev Op.Ret : Op → Type
  | poll => Option Message
  | order op => op.Ret
  | notify _ => Unit
  | wait _ => Unit
  | uuid4 => Uuid
  | utcNow => Str
  | produce _ => Unit
  | flush _ => FlushReport
  | commit _ => List (Option Str)

abbrev Op.Choice : Op → Type
  | poll => Except Exc (Option Message)
  | order _ => Option Exc
  | notify _ => Option Exc
  | wait _ => Unit
  | uuid4 => Uuid
  | utcNow => Str
  | produce _ => Option Exc
  | flush _ => Except Exc FlushReport
  | commit _ => Except Exc (List (Option Str))

abbrev TopicPartition := Str × Nat

def Message.topicPartition (message : Message) : TopicPartition :=
  (message.topic, message.partition)

structure World where
  database : Database
  /-- Records that polls returned, the latest first, like the logs below. -/
  received : List Message
  /-- Events whose notification the downstream service accepted. -/
  notified : List Uuid
  /-- Dead-letter records that the broker acknowledged. -/
  acknowledged : List DlqRecord
  committed : TopicPartition → Nat

/-- A fresh store, and a group that has committed nothing. -/
def emptyWorld : World := ⟨⟨emptyTables, []⟩, [], [], [], fun _ => 0⟩

def World.commit (world : World) (message : Message) : World :=
  { world with
    committed := Function.update world.committed message.topicPartition (message.offset + 1) }

/-- Whether `commit` took effect: every partition it returned is without error. -/
def commitAccepted (partitions : List (Option Str)) : Bool := partitions.all Option.isNone

def exec : Semantics Exc Op.Ret Op.Choice World
  | .poll, answer, world =>
      match answer with
      | .ok (some message) =>
          (.ok (some message), { world with received := message :: world.received })
      | _ => (answer, world)
  | .order op, failure, world =>
      let (result, database) := op.run failure world.database
      (result, { world with database := database })
  | .notify event, failure, world =>
      match failure with
      | some fault => (.error fault, world)
      | none => (.ok (), { world with notified := event.eventId :: world.notified })
  | .wait _, _, world => (.ok (), world)
  | .uuid4, fresh, world => (.ok fresh, world)
  | .utcNow, now, world => (.ok now, world)
  | .produce _, failure, world =>
      match failure with
      | some fault => (.error fault, world)
      | none => (.ok (), world)
  | .flush record, answer, world =>
      match answer with
      | .error fault => (.error fault, world)
      | .ok report =>
          if report.delivered = [] then (.ok report, world)
          else (.ok report, { world with acknowledged := record :: world.acknowledged })
  | .commit message, answer, world =>
      match answer with
      | .error fault => (.error fault, world)
      | .ok partitions =>
          if commitAccepted partitions then (.ok partitions, world.commit message)
          else (.ok partitions, world)

section Effects

/-- A call changes the database as its store operation does, or not at all. -/
theorem exec_database (op : Op) (choice : op.Choice) (world : World) :
    (∃ storeOp failure, (⟨op, choice⟩ : (op : Op) × op.Choice) = ⟨.order storeOp, failure⟩ ∧
      (exec op choice world).2.database = (storeOp.run failure world.database).2) ∨
    (exec op choice world).2.database = world.database := by
  cases op with
  | order storeOp => exact .inl ⟨storeOp, choice, rfl, rfl⟩
  | poll => rcases choice with fault | _ | message <;> exact .inr rfl
  | notify event => cases choice <;> exact .inr rfl
  | wait | uuid4 | utcNow => exact .inr rfl
  | produce record => cases choice <;> exact .inr rfl
  | flush record | commit message =>
      cases choice with
      | error fault => exact .inr rfl
      | ok answer =>
          right
          simp only [exec]
          split <;> rfl

/-- The tables are paired, and only a successful `mark_completed` completes. -/
structure Tracked (world : World) : Prop where
  paired : ∃ ledger, Represents world.database.tables ledger
  marked : ∀ eventId, Completed world.database.tables eventId → eventId ∈ world.database.completions

theorem empty_tracked : Tracked emptyWorld := by
  refine ⟨⟨fun _ => none, represents_empty⟩, ?_⟩
  intro eventId completed
  cases completed

theorem exec_tracked {world : World} (tracked : Tracked world) (op : Op) (choice : op.Choice) :
    Tracked (exec op choice world).2 := by
  obtain ⟨⟨ledger, holds⟩, marked⟩ := tracked
  rcases exec_database op choice world with ⟨storeOp, failure, _, changed⟩ | unchanged
  · obtain ⟨result, reached, after, ran, _, represented⟩ := run_refines holds storeOp failure
    constructor
    · rw [changed, ran]
      exact ⟨after, represented⟩
    · rw [changed]
      exact run_marked holds storeOp failure marked
  · constructor
    · rw [unchanged]
      exact ⟨ledger, holds⟩
    · rw [unchanged]
      exact marked

end Effects

end OrderMessaging.Processing.KafkaCollaborators
