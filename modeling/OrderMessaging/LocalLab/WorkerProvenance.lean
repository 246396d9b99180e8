import OrderMessaging.LocalLab.WorkerSettlement
import OrderMessaging.Processing.DeliveryScope

/-!
Where the effects of the worker come from. Whatever fails and however often the
process dies, it stores, completes and dead-letters nothing but what it read from
the topic, at offsets its group is responsible for.
-/

namespace OrderMessaging.LocalLab.WorkerProvenance

open OrderMessaging.PyText OrderMessaging.PyException OrderMessaging.PyValue
open OrderMessaging.Program OrderMessaging.ClaimLedger OrderMessaging.Contracts.Models
open OrderMessaging.Relation
open OrderMessaging.Processing.PostgresOrderStore OrderMessaging.Processing.OrderLedger
open OrderMessaging.Processing.StoreOperations
open OrderMessaging.Processing.KafkaCollaborators OrderMessaging.Processing.RetryAndDeadLetter
open OrderMessaging.Processing.KafkaDelivery OrderMessaging.Processing.DeliveryOutcome
open OrderMessaging.Processing.DeliveryScope
open OrderMessaging.LocalLab.ConsumerWorker OrderMessaging.LocalLab.WorkerSettlement

set_option autoImplicit false

section Sources

variable (runtime : Runtime) (settings : LocalLabConfig) (log : Log) (origin : Nat → Nat)

/-- A record of the topic that the group is responsible for. -/
def Logged (record : Message) : Prop :=
  ∃ partition offset, origin partition ≤ offset ∧ record = message settings log partition offset

/-- The event of such a record. -/
def Sourced (event : OrderCreatedEvent) : Prop :=
  ∃ record payload, Logged settings log origin record ∧
    decodeValue runtime record.value = .ok (payload, event)

/-- An envelope of such a record. -/
def Lettered (envelope : DlqRecord) : Prop :=
  ∃ record, Logged settings log origin record ∧
    EnvelopeFor runtime settings.kafkaDlqTopic record envelope

/-- What a poll of the worker can return. -/
def Hands : (op : Op) → Except Exc op.Ret → Prop
  | .poll, .ok (some record) => record.error.isSome ∨ Logged settings log origin record
  | _, _ => True

def FromLog : Op → Prop
  | .order (.store event) => Sourced runtime settings log origin event
  | .flush envelope => Lettered runtime settings log origin envelope
  | _ => True

/-- Every trace that a worker leaves has its source in the topic. -/
structure Attributed (world : World) : Prop where
  orders : ∀ row ∈ world.database.tables.orders, ∃ event,
    Sourced runtime settings log origin event ∧ orderRow event = .ok row
  claims : ∀ claim ∈ world.database.tables.processedEvents, ∃ event,
    Sourced runtime settings log origin event ∧ event.eventId = claim.eventId
  completions : ∀ eventId ∈ world.database.completions, ∃ event,
    Sourced runtime settings log origin event ∧ event.eventId = eventId
  letters : ∀ envelope ∈ world.acknowledged, Lettered runtime settings log origin envelope

end Sources

section Programs

variable {runtime : Runtime} {settings : LocalLabConfig} {log : Log} {origin : Nat → Nat}
variable {record : Message}

theorem concerns_from_log {consumer : KafkaOrderConsumer}
    (letters : consumer.deadLetterTopic = some settings.kafkaDlqTopic)
    (handed : Hands settings log origin .poll (.ok (some record))) (sound : record.error = none)
    (op : Op) (concerns : Concerns runtime consumer record op) :
    FromLog runtime settings log origin op := by
  have logged : Logged settings log origin record := by
    rcases handed with broken | logged
    · rw [sound] at broken
      cases broken
    · exact logged
  cases concerns with
  | store event carried =>
      obtain ⟨payload, decoded⟩ := carried
      exact ⟨record, payload, logged, decoded⟩
  | flush envelope envelops =>
      obtain ⟨topic, destination, names⟩ := envelops
      rw [← Option.some.inj (letters.symm.trans destination)] at names
      exact ⟨record, logged, names⟩
  | markCompleted | discard | notify | wait | uuid4 | utcNow | produce | commit => trivial

theorem process_from_log (handed : Hands settings log origin .poll (.ok (some record))) :
    Makes (FromLog runtime settings log origin)
      (process runtime (workerConsumer settings) record) := by
  cases sound : record.error with
  | none =>
      apply makes_mono _ (process_concerns runtime (workerConsumer settings) record)
      intro op concerns
      exact concerns_from_log rfl handed sound op concerns
  | some error =>
      unfold process
      rw [sound]
      exact makes_done _

/-- Against polls of the topic, a delivery acts on records of the topic alone. -/
theorem process_one_from_log (timeoutSeconds : ℚ) (polls : Nat) :
    MakesUnder (Hands settings log origin) (FromLog runtime settings log origin)
      (processOne runtime (workerConsumer settings) timeoutSeconds polls) := by
  unfold processOne
  split
  next late => trivial
  next =>
    induction polls with
    | zero => trivial
    | succ polls ih =>
        refine ⟨trivial, ?_⟩
        intro answer handed
        rcases answer with fault | _ | record
        · trivial
        · exact ih
        · exact makes_under (process_from_log handed)

end Programs

section Steps

variable {runtime : Runtime} {settings : LocalLabConfig} {log : Log} {origin : Nat → Nat}
variable {world : World}

theorem order_attributed {op : StoreOp} (failure : Option Exc)
    (paired : ∃ ledger, Represents world.database.tables ledger)
    (fromLog : FromLog runtime settings log origin (.order op))
    (attributed : Attributed runtime settings log origin world) :
    Attributed runtime settings log origin (exec (.order op) failure world).2 := by
  obtain ⟨ledger, holds⟩ := paired
  have only := (holds_only_iff holds).mpr attributed.orders
  obtain ⟨result, reached, after, ran, stepped, represented⟩ := run_refines holds op failure
  have stores : ∀ event, op = .store event → Sourced runtime settings log origin event := by
    intro event same
    subst same
    exact fromLog
  have still := ledger_op_holds_only stepped stores only
  simp only [exec, ran]
  constructor
  case orders => exact (holds_only_iff represented).mp still
  case claims => exact holds_only_claims represented still
  case completions =>
    intro eventId member
    cases stepped with
    | failed | known | written | discarded => exact attributed.completions eventId member
    | marked other entry _ held =>
        rcases List.mem_cons.mp member with same | earlier
        · obtain ⟨event, sourced, named, _⟩ := only other entry held
          exact ⟨event, sourced, named.trans same.symm⟩
        · exact attributed.completions eventId earlier
  case letters => exact attributed.letters

/-- What a call leaves behind has a source, if the call has. -/
theorem exec_attributed (op : Op) (choice : op.Choice)
    (paired : ∃ ledger, Represents world.database.tables ledger)
    (fromLog : FromLog runtime settings log origin op)
    (attributed : Attributed runtime settings log origin world) :
    Attributed runtime settings log origin (exec op choice world).2 := by
  have untouched : ∀ reached : World, reached.database = world.database →
      reached.acknowledged = world.acknowledged →
      Attributed runtime settings log origin reached := by
    intro reached sameDatabase sameLetters
    obtain ⟨orders, claims, completions, letters⟩ := attributed
    rw [← sameDatabase] at orders claims completions
    rw [← sameLetters] at letters
    exact ⟨orders, claims, completions, letters⟩
  cases op with
  | order op => exact order_attributed choice paired fromLog attributed
  | poll => rcases choice with fault | _ | record <;> exact untouched _ rfl rfl
  | notify | produce => cases choice <;> exact untouched _ rfl rfl
  | wait | uuid4 | utcNow => exact attributed
  | flush envelope =>
      cases choice with
      | error fault => exact attributed
      | ok report =>
          simp only [exec]
          split
          · exact attributed
          · refine ⟨attributed.orders, attributed.claims, attributed.completions, ?_⟩
            intro other member
            rcases List.mem_cons.mp member with same | earlier
            · rw [same]
              exact fromLog
            · exact attributed.letters other earlier
  | commit record =>
      cases choice with
      | error fault => exact attributed
      | ok partitions =>
          simp only [exec]
          split <;> exact untouched _ rfl rfl

/-- The worker and the delivery it is in. -/
structure Faithful (runtime : Runtime) (settings : LocalLabConfig) (log : Log)
    (origin : Nat → Nat) (worker : Worker) : Prop where
  attributed : Attributed runtime settings log origin worker.world
  delivery : ∀ session program, worker.session = some session →
    session.running = some program →
    MakesUnder (Hands settings log origin) (FromLog runtime settings log origin) program

/-- A record that a poll hands out lies at or after the origin. -/
theorem call_handed {session : Session} (op : Op) (poll : PollAnswer)
    (answer : (op : Op) → op.Choice)
    (accounted : Accounted runtime settings log origin world session) :
    Hands settings log origin op
      (exec op (chosen settings log session poll answer op) world).1 := by
  cases op with
  | poll =>
      cases poll with
      | nothing | raises => trivial
      | brokerError error partition offset => exact .inl rfl
      | record partition =>
          have responsible := accounted.responsible partition
          have ahead := accounted.ahead partition
          exact .inr ⟨partition, _, responsible.trans ahead, rfl⟩
  | order | notify | wait | uuid4 | utcNow | produce | flush | commit => trivial

theorem step_faithful {worker : Worker}
    (consistent : Consistent runtime settings log origin worker)
    (faithful : Faithful runtime settings log origin worker) (label : Label) :
    Faithful runtime settings log origin (step runtime settings log worker label) := by
  have moved := step_moved runtime settings log worker label
  generalize step runtime settings log worker label = reached at moved ⊢
  cases moved with
  | stays => exact faithful
  | starts =>
      refine ⟨faithful.attributed, ?_⟩
      rintro session program same running
      cases same
      cases running
  | stops =>
      refine ⟨faithful.attributed, ?_⟩
      intro session program contrary
      cases contrary
  | admits session polls held idle =>
      refine ⟨faithful.attributed, ?_⟩
      intro own program same running
      cases same
      cases running
      exact process_one_from_log 2 polls
  | returns | raises =>
      refine ⟨faithful.attributed, ?_⟩
      intro own program same running
      cases same
      cases running
  | calls session op next poll answer held running =>
      obtain ⟨fromLog, after⟩ := faithful.delivery session _ held running
      have handed := call_handed op poll answer (consistent.accounted session held)
      constructor
      case attributed =>
        exact exec_attributed op _ consistent.tracked.paired fromLog faithful.attributed
      case delivery =>
        intro own program same further
        cases same
        cases further
        exact after _ handed

end Steps

theorem run_faithful (runtime : Runtime) (settings : LocalLabConfig) (log : Log)
    (origin : Nat → Nat) (labels : List Label) :
    Faithful runtime settings log origin
      (runKafkaWorker runtime settings log origin labels) := by
  induction labels using List.reverseRecOn with
  | nil =>
      constructor
      case attributed =>
        constructor
        case orders | claims | completions | letters =>
          intro trace member
          cases member
      case delivery =>
        intro session program contrary
        cases contrary
  | append_singleton labels label ih =>
      rw [run_snoc]
      exact step_faithful (run_consistent runtime settings log origin labels) ih label

/-- In every run of the worker, every order, claim, completion and dead letter
comes from a record of the topic that its group is responsible for. -/
theorem worker_effects_attributed (runtime : Runtime) (settings : LocalLabConfig) (log : Log)
    (origin : Nat → Nat) (labels : List Label) :
    Attributed runtime settings log origin
      (runKafkaWorker runtime settings log origin labels).world :=
  (run_faithful runtime settings log origin labels).attributed

end OrderMessaging.LocalLab.WorkerProvenance
