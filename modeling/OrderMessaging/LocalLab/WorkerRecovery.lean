import OrderMessaging.LocalLab.WorkerSettlement
import OrderMessaging.Processing.DeliveryScope
import OrderMessaging.Processing.PoisonRecords

/-!
How the worker catches up. From every state of a run, a restarted process that
can discard, dead-letter and commit takes one delivery for each record: whatever
the store answers, every record it polls is settled and passed.
-/

namespace OrderMessaging.LocalLab.WorkerRecovery

open OrderMessaging.PyText OrderMessaging.PyException OrderMessaging.PyValue
open OrderMessaging.Program OrderMessaging.Transcript OrderMessaging.Contracts.Models
open OrderMessaging.Contracts.Reference OrderMessaging.Processing.PostgresOrderStore
open OrderMessaging.Processing.OrderLedger OrderMessaging.Processing.StoreOperations
open OrderMessaging.Processing.KafkaCollaborators OrderMessaging.Processing.KafkaDelivery
open OrderMessaging.Processing.DecodeAgreement (orderBody)
open OrderMessaging.Processing.DeadLetterEnvelope OrderMessaging.Processing.DeliveryOutcome
open OrderMessaging.Processing.DeliveryScope OrderMessaging.Processing.DeliveryTranscript
open OrderMessaging.Processing.PoisonRecords
open OrderMessaging.LocalLab.ConsumerWorker OrderMessaging.LocalLab.WorkerSettlement

set_option autoImplicit false

/-- The failure handling works; the store and the downstream service may raise
any exceptions whose class names are text. -/
def Recovering : (op : Op) → op.Choice → Prop
  | .order (.discard _), failure => failure = none
  | .order _, failure | .notify _, failure =>
      ∀ fault, failure = some fault → Encodable fault.type.name
  | .produce _, failure => failure = none
  | .flush _, answer => ∃ delivered, answer = .ok ⟨0, [.ok delivered]⟩
  | .commit _, answer => ∃ partitions, answer = .ok partitions ∧ commitAccepted partitions = true
  | _, _ => True

section Answers

theorem column_fault_named {event : OrderCreatedEvent} {fault : Exc}
    (refused : orderRow event = .error fault) : Encodable fault.type.name := by
  have text : ∀ text fault, textColumn text = .error fault → Encodable fault.type.name := by
    intro text fault refused
    unfold textColumn at refused
    split at refused
    · cases refused
      exact of_string_encodable _
    · cases refused
  have amount : ∀ amount fault, amountColumn amount = .error fault →
      Encodable fault.type.name := by
    intro amount fault refused
    unfold amountColumn at refused
    split at refused
    · dsimp only at refused
      split at refused
      · cases refused
        exact of_string_encodable _
      · split at refused
        · cases refused
        · cases refused
          exact of_string_encodable _
    · cases refused
      exact of_string_encodable _
    · cases refused
  unfold orderRow at refused
  simp only [bind, Except.bind] at refused
  split at refused
  next first =>
    cases refused
    exact text _ _ first
  next =>
    split at refused
    next second =>
      cases refused
      exact text _ _ second
    next =>
      split at refused
      next third =>
        cases refused
        exact amount _ _ third
      next =>
        split at refused
        next fourth =>
          cases refused
          exact text _ _ fourth
        next => cases refused

/-- The store's own exceptions have class names that are text. -/
theorem run_fault_named (op : StoreOp) (database : Database) {fault : Exc}
    (raised : (op.run none database).1 = .error fault) : Encodable fault.type.name := by
  cases op with
  | store event =>
      have outcome := store_outcome event database.tables
      have same : (store event database.tables).1 = .error fault := raised
      rw [same] at outcome
      generalize (store event database.tables).2 = reached at outcome
      cases outcome with
      | refused _ fresh reason =>
          cases reason with
          | column _ unfit => exact column_fault_named unfit
          | order | source => exact of_string_encodable _
  | markCompleted eventId =>
      have outcome := mark_outcome eventId database.tables
      have same : (markCompleted eventId database.tables).1 = .error fault := by
        revert raised
        simp only [StoreOp.run]
        rcases markCompleted eventId database.tables with ⟨refused | _, reached⟩
        · exact id
        · intro contrary
          cases contrary
      rw [same] at outcome
      generalize (markCompleted eventId database.tables).2 = reached at outcome
      cases outcome with
      | unknown absent => exact of_string_encodable _
  | discard eventId => cases raised

variable {op : Op} {choice : op.Choice}

theorem recovering_works (recovering : Recovering op choice) (world : World) :
    Works ⟨op, (exec op choice world).1⟩ := by
  cases op with
  | order op =>
      cases op with
      | store | markCompleted => trivial
      | discard eventId =>
          have sound : choice = none := recovering
          subst sound
          rfl
  | produce envelope =>
      have sound : choice = none := recovering
      subst sound
      rfl
  | flush envelope =>
      obtain ⟨delivered, same⟩ := recovering
      subst same
      exact ⟨delivered, rfl⟩
  | commit record =>
      obtain ⟨partitions, same, accepted⟩ := recovering
      subst same
      refine ⟨partitions, ?_, accepted⟩
      simp only [exec, if_pos accepted]
  | poll | notify | wait | uuid4 | utcNow => trivial

theorem recovering_named (recovering : Recovering op choice) (world : World)
    (quiet : op ≠ .poll) {fault : Exc} (raised : (exec op choice world).1 = .error fault) :
    Encodable fault.type.name := by
  cases op with
  | poll => exact absurd rfl quiet
  | order op =>
      have ran : (op.run choice world.database).1 = .error fault := raised
      cases choice with
      | none => exact run_fault_named op world.database ran
      | some refused =>
          cases ran
          cases op with
          | store | markCompleted => exact recovering fault rfl
          | discard => cases recovering
  | notify event =>
      cases choice with
      | none => cases raised
      | some refused =>
          cases raised
          exact recovering fault rfl
  | produce envelope =>
      have sound : choice = none := recovering
      subst sound
      cases raised
  | flush envelope =>
      obtain ⟨delivered, same⟩ := recovering
      subst same
      cases raised
  | commit record =>
      obtain ⟨partitions, same, accepted⟩ := recovering
      subst same
      simp only [exec, if_pos accepted] at raised
      cases raised
  | wait | uuid4 | utcNow => cases raised

end Answers

section Return

variable {runtime : Runtime} {consumer : KafkaOrderConsumer} {record : Message} {topic : Str}

/-- A delivery whose failure handling works returns. -/
theorem processed_returns (json : JsonTexts runtime)
    (publisher : consumer.deadLetterTopic = some topic) (sound : record.error = none)
    (sourceTopic : Encodable record.topic)
    (prints : EnvelopePrints runtime consumer.retryPolicy record) {calls : Calls}
    {outcome : Except Exc ProcessedKafkaRecord} (works : HandlingWorks calls)
    (named : ClassesNamed calls) (processed : Processes runtime consumer record calls outcome) :
    ∃ result, outcome = .ok result := by
  cases processed with
  | broken error reported =>
      rw [sound] at reported
      cases reported
  | invalid cause _ undecoded absent =>
      rw [publisher] at absent
      cases absent
  | invalidDeadLettered cause own _ _ _ undecoded destination published =>
      obtain ⟨result, ended, _⟩ := dead_letter_works json sourceTopic prints
        (.salvaged cause undecoded) consumer.retryPolicy.maxAttempts_pos
        (decode_fault_named json undecoded) works published
      exact ⟨result, ended⟩
  | looped payload event _ _ _ decoded loops =>
      obtain ⟨result, ended, _⟩ := loop_works json publisher sourceTopic prints
        (.decoded payload event decoded) consumer.retryPolicy.maxAttempts_pos works named loops
      exact ⟨result, ended⟩

theorem process_returns (json : JsonTexts runtime)
    (publisher : consumer.deadLetterTopic = some topic) (sound : record.error = none)
    (sourceTopic : Encodable record.topic)
    (prints : EnvelopePrints runtime consumer.retryPolicy record) {env : Nat → (op : Op) → op.Choice}
    (recovering : ∀ index op, Recovering op (env index op)) (index : Nat) (world : World) :
    ∃ result, (execute exec env index (process runtime consumer record) world).outcome =
      .ok result := by
  obtain ⟨calls, _, transcribed, plays⟩ := recording_transcribes (within exec Recovering)
    (fun index op => ⟨env index op, recovering index op⟩) index
    (process runtime consumer record) world []
  rw [execute_within env recovering] at transcribed
  have answered := plays_answered (within exec Recovering) plays
  have returned : LocalCallsReturn calls := by
    intro exchange member isLocal
    obtain ⟨choice, before, same⟩ := answered exchange member
    obtain ⟨op, answer⟩ := exchange
    cases op with
    | wait seconds => exact ⟨(), same⟩
    | uuid4 => exact ⟨choice.val, same⟩
    | utcNow => exact ⟨choice.val, same⟩
    | poll | order _ | notify _ | produce _ | flush _ | commit _ => cases isLocal
  have processed := processes_of_transcribes returned transcribed
  have works : HandlingWorks calls := by
    intro exchange member
    obtain ⟨choice, before, same⟩ := answered exchange member
    obtain ⟨op, answer⟩ := exchange
    have own : answer = (exec op choice.val before).1 := same
    rw [own]
    exact recovering_works choice.property before
  have named : ClassesNamed calls := by
    intro exchange member fault raised
    obtain ⟨choice, before, same⟩ := answered exchange member
    have quiet : exchange.op ≠ .poll := by
      intro polling
      apply processes_stage processed exchange member
      rw [polling]
      rfl
    exact recovering_named choice.property before quiet (same.symm.trans raised)
  exact processed_returns json publisher sound sourceTopic prints works named processed

end Return

section Worker

variable (runtime : Runtime) (settings : LocalLabConfig) (log : Log)

/-- Steps of one delivery, over the calls from a number on. -/
def advances (poll : PollAnswer) (env : Nat → (op : Op) → op.Choice) : Nat → Nat → List Label
  | _, 0 => []
  | index, count + 1 => .advance poll (env index) :: advances poll env (index + 1) count

/-- One delivery after the other from one partition, each in as many steps as listed. -/
def deliveries (partition : Nat) (env : Nat → Nat → (op : Op) → op.Choice) :
    Nat → List Nat → List Label
  | _, [] => []
  | delivery, count :: counts =>
      .check (.ok false) 1 :: (advances (.record partition) (env delivery) 0 count ++
        deliveries partition env (delivery + 1) counts)

def recovery (partition : Nat) (env : Nat → Nat → (op : Op) → op.Choice) (counts : List Nat) :
    List Label :=
  .crash :: .start :: deliveries partition env 0 counts

def steps (worker : Worker) (labels : List Label) : Worker :=
  labels.foldl (step runtime settings log) worker

theorem steps_append (worker : Worker) (first rest : List Label) :
    steps runtime settings log worker (first ++ rest) =
      steps runtime settings log (steps runtime settings log worker first) rest :=
  List.foldl_append

theorem run_append (origin : Nat → Nat) (first rest : List Label) :
    runKafkaWorker runtime settings log origin (first ++ rest) =
      steps runtime settings log (runKafkaWorker runtime settings log origin first) rest :=
  List.foldl_append

variable {runtime settings log}

/-- A delivery without polls does in the worker what it does alone. By induction
on its calls. -/
theorem advances_return {program : Prog Exc Op.Ret ProcessedKafkaRecord} {session : Session}
    {result : ProcessedKafkaRecord} (quiet : Makes (fun op => op ≠ .poll) program)
    (poll : PollAnswer) (env : Nat → (op : Op) → op.Choice) {index : Nat} {world : World}
    (returned : (execute exec env index program world).outcome = .ok result) :
    ∃ count, steps runtime settings log ⟨some { session with running := some program }, world⟩
        (advances poll env index count) =
      ⟨some { session with running := none, inHand := [] },
        (execute exec env index program world).final⟩ := by
  induction program generalizing index world with
  | done outcome =>
      have same : outcome = .ok result := returned
      subst same
      exact ⟨1, rfl⟩
  | call op next ih =>
      obtain ⟨own, after⟩ := quiet () rfl
      obtain ⟨count, reached⟩ := ih (exec op (env index op) world).1 (after _) returned
      refine ⟨count + 1, ?_⟩
      have first : step runtime settings log
          ⟨some { session with running := some (.call op next) }, world⟩
          (.advance poll (env index)) =
          ⟨some { session with running := some (next (exec op (env index op) world).1) },
            (exec op (env index op) world).2⟩ := by
        cases op with
        | poll => exact absurd rfl own
        | order | notify | wait | uuid4 | utcNow | produce | flush | commit => rfl
      simp only [steps, advances, List.foldl_cons, first]
      exact reached

/-- The session after a record of the partition was received and dealt with. -/
def passed (session : Session) (partition : Nat) : Session :=
  { session with
    position := Function.update session.position partition (session.position partition + 1)
    running := none
    inHand := [] }

/-- The envelope of a record of the log prints. -/
def RecordPrints (runtime : Runtime) (settings : LocalLabConfig) (log : Log)
    (partition offset : Nat) : Prop :=
  EnvelopePrints runtime (workerConsumer settings).retryPolicy
    (message settings log partition offset)

/-- One delivery of a recovering worker: the next record is received and committed. -/
theorem delivery_recovers (json : JsonTexts runtime) (topic : Encodable settings.kafkaTopic)
    {session : Session} {world : World} (idle : session.running = none)
    (paired : ∃ ledger, Represents world.database.tables ledger) (partition : Nat)
    (prints : RecordPrints runtime settings log partition (session.position partition))
    {env : Nat → (op : Op) → op.Choice} (recovering : ∀ index op, Recovering op (env index op)) :
    ∃ count final,
      steps runtime settings log ⟨some session, world⟩
        (.check (.ok false) 1 :: advances (.record partition) env 0 count) =
        ⟨some (passed session partition), final⟩ ∧
      final.committed =
        (world.commit (message settings log partition (session.position partition))).committed := by
  have received : ∃ next, processOne runtime (workerConsumer settings) 2 1 = .call .poll next ∧
      next (.ok (some (message settings log partition (session.position partition)))) =
        process runtime (workerConsumer settings)
          (message settings log partition (session.position partition)) :=
    worker_polls runtime settings _
  obtain ⟨next, polls, continues⟩ := received
  generalize same : message settings log partition (session.position partition) = record
    at continues
  unfold RecordPrints at prints
  rw [same] at prints
  have sound : record.error = none := by rw [← same]; rfl
  have sourceTopic : Encodable record.topic := by rw [← same]; exact topic
  have publisher : (workerConsumer settings).deadLetterTopic = some settings.kafkaDlqTopic := rfl
  obtain ⟨result, returned⟩ := process_returns json publisher sound sourceTopic prints recovering 1
    (World.receive world record)
  have quiet : Makes (fun op => op ≠ .poll) (process runtime (workerConsumer settings) record) := by
    apply makes_mono _ (process_concerns runtime (workerConsumer settings) record)
    rintro op concerns rfl
    cases concerns
  obtain ⟨count, reached⟩ := @advances_return runtime settings log _
    (session.receive settings log (.record partition)) result quiet (.record partition) env 1 _
    returned
  have handed : steps runtime settings log ⟨some session, world⟩
      [.check (.ok false) 1, .advance (.record partition) (env 0)] =
      ⟨some { session.receive settings log (.record partition) with
        running := some (process runtime (workerConsumer settings) record) },
        World.receive world record⟩ := by
    simp only [steps, List.foldl_cons, List.foldl_nil, step, idle, polls, chosen, polled, exec,
      same, Session.called, continues]
    rfl
  refine ⟨count + 1, (execute exec env 1 (process runtime (workerConsumer settings) record)
    (World.receive world record)).final, ?_, ?_⟩
  · have split : Label.check (.ok false) 1 :: advances (.record partition) env 0 (count + 1) =
        [.check (.ok false) 1, .advance (.record partition) (env 0)] ++
          advances (.record partition) env 1 count := rfl
    rw [split, steps_append, handed, reached]
    rfl
  · have delivered : Delivers runtime (workerConsumer settings) world
        (Concluded runtime (workerConsumer settings) world record)
        (process runtime (workerConsumer settings) record) (World.receive world record) :=
      process_delivers paired rfl
    obtain ⟨_, ended⟩ := execute_upholds env 1 delivered
    rw [returned] at ended
    have finished : Finished runtime (workerConsumer settings) world record result _ := ended
    exact finished.offset

/-- The session stands at the committed offsets, with no failed delivery behind it. -/
structure Level (settings : LocalLabConfig) (worker : Worker) (session : Session) : Prop where
  held : worker.session = some session
  idle : session.running = none
  unfailed : session.raised = []
  position : ∀ partition, session.position partition = committed settings worker.world partition

theorem steps_consistent {origin : Nat → Nat} {worker : Worker}
    (consistent : Consistent runtime settings log origin worker) (labels : List Label) :
    Consistent runtime settings log origin (steps runtime settings log worker labels) := by
  induction labels generalizing worker with
  | nil => exact consistent
  | cons label rest ih => exact ih (step_consistent consistent label)

/-- One delivery takes a level session to the next level one. -/
theorem delivery_level (json : JsonTexts runtime) (topic : Encodable settings.kafkaTopic)
    {worker : Worker} {session : Session} (tracked : Tracked worker.world)
    (level : Level settings worker session) (partition : Nat)
    (prints : RecordPrints runtime settings log partition
      (committed settings worker.world partition))
    {env : Nat → (op : Op) → op.Choice} (recovering : ∀ index op, Recovering op (env index op)) :
    ∃ count, Level settings
        (steps runtime settings log worker
          (.check (.ok false) 1 :: advances (.record partition) env 0 count))
        (passed session partition) ∧
      ∀ other, committed settings (steps runtime settings log worker
          (.check (.ok false) 1 :: advances (.record partition) env 0 count)).world other =
        committed settings worker.world other + if other = partition then 1 else 0 := by
  obtain ⟨held, world⟩ := worker
  have same : held = some session := level.held
  subst same
  rw [← level.position partition] at prints
  obtain ⟨count, final, reached, offsets⟩ := @delivery_recovers runtime settings log json topic
    session world level.idle tracked.paired partition prints env recovering
  have moved : ∀ other, committed settings final other =
      committed settings world other + if other = partition then 1 else 0 := by
    intro other
    have after : committed settings final other =
        committed settings
          (world.commit (message settings log partition (session.position partition))) other := by
      unfold committed
      rw [offsets]
    have commits : committed settings
        (world.commit (message settings log partition (session.position partition))) other =
        if other = partition then session.position partition + 1
        else committed settings world other := committed_commit rfl other
    have here := level.position partition
    rw [after, commits]
    by_cases own : other = partition
    · subst own
      rw [if_pos rfl, if_pos rfl, here]
    · rw [if_neg own, if_neg own, Nat.add_zero]
  refine ⟨count, ?_⟩
  rw [reached]
  refine ⟨⟨rfl, rfl, level.unfailed, ?_⟩, moved⟩
  intro other
  have here := level.position other
  rw [moved other]
  simp only [passed, Function.update_apply]
  by_cases own : other = partition
  · subst own
    rw [if_pos rfl, if_pos rfl, here]
  · rw [if_neg own, if_neg own, here]
    rfl

/-- As many deliveries as one likes. By induction on their number. -/
theorem deliveries_level (json : JsonTexts runtime) (topic : Encodable settings.kafkaTopic)
    {origin : Nat → Nat} (partition : Nat) {env : Nat → Nat → (op : Op) → op.Choice}
    (recovering : ∀ delivery index op, Recovering op (env delivery index op)) (count : Nat)
    {delivery : Nat} {worker : Worker} {session : Session}
    (consistent : Consistent runtime settings log origin worker)
    (level : Level settings worker session)
    (prints : ∀ offset, committed settings worker.world partition ≤ offset →
      offset < committed settings worker.world partition + count →
      RecordPrints runtime settings log partition offset) :
    ∃ counts own, counts.length = count ∧
      Level settings (steps runtime settings log worker
        (deliveries partition env delivery counts)) own ∧
      own.resumedAt = session.resumedAt ∧
      ∀ other, committed settings (steps runtime settings log worker
          (deliveries partition env delivery counts)).world other =
        committed settings worker.world other + if other = partition then count else 0 := by
  induction count generalizing delivery worker session with
  | zero =>
      refine ⟨[], session, rfl, level, rfl, ?_⟩
      intro other
      rw [ite_self, Nat.add_zero]
      rfl
  | succ count ih =>
      obtain ⟨first, next, moved⟩ := @delivery_level runtime settings log json topic worker session
        consistent.tracked level partition (prints _ (Nat.le_refl _) (by omega)) (env delivery)
        (recovering delivery)
      have kept := steps_consistent consistent
        (.check (.ok false) 1 :: advances (.record partition) (env delivery) 0 first)
      have later : ∀ offset, committed settings (steps runtime settings log worker
            (.check (.ok false) 1 :: advances (.record partition) (env delivery) 0 first)).world
            partition ≤ offset →
          offset < committed settings (steps runtime settings log worker
            (.check (.ok false) 1 :: advances (.record partition) (env delivery) 0 first)).world
            partition + count → RecordPrints runtime settings log partition offset := by
        intro offset fresh below
        rw [moved partition, if_pos rfl] at fresh below
        exact prints offset (by omega) (by omega)
      obtain ⟨counts, own, length, reached, resumed, further⟩ :=
        @ih (delivery + 1) _ _ kept next later
      have whole : deliveries partition env delivery (first :: counts) =
          (.check (.ok false) 1 :: advances (.record partition) (env delivery) 0 first) ++
            deliveries partition env (delivery + 1) counts := rfl
      refine ⟨first :: counts, own, congrArg (· + 1) length, ?_, resumed, ?_⟩
      · rw [whole, steps_append]
        exact reached
      · intro other
        rw [whole, steps_append, further other, moved other]
        by_cases same : other = partition
        · simp only [if_pos same]
          omega
        · simp only [if_neg same]

end Worker

/-- From one world to the other, that many records of the partition were committed
and settled, and no other offset moved. -/
structure CaughtUp (runtime : Runtime) (settings : LocalLabConfig) (log : Log)
    (before after : World) (partition count : Nat) : Prop where
  moved : committed settings after partition = committed settings before partition + count
  others : ∀ other, other ≠ partition →
    committed settings after other = committed settings before other
  settled : ∀ offset, committed settings before partition ≤ offset →
    offset < committed settings before partition + count →
    Settled runtime settings (message settings log partition offset) after

section Recovery

variable {runtime : Runtime} {settings : LocalLabConfig} {log : Log} {origin : Nat → Nat}

theorem recovery_catches_up (json : JsonTexts runtime) (topic : Encodable settings.kafkaTopic)
    {worker : Worker} (consistent : Consistent runtime settings log origin worker)
    (partition : Nat) {env : Nat → Nat → (op : Op) → op.Choice}
    (recovering : ∀ delivery index op, Recovering op (env delivery index op)) (count : Nat)
    (prints : ∀ offset, committed settings worker.world partition ≤ offset →
      offset < committed settings worker.world partition + count →
      RecordPrints runtime settings log partition offset) :
    ∃ counts : List Nat, counts.length = count ∧ CaughtUp runtime settings log worker.world
      (steps runtime settings log worker (recovery partition env counts)).world partition
      count := by
  let position := committed settings worker.world
  let session : Session := ⟨position, position, none, [], []⟩
  let restarted : Worker := ⟨some session, worker.world⟩
  have restarts : steps runtime settings log worker [.crash, .start] = restarted := rfl
  have level : Level settings restarted session := ⟨rfl, rfl, rfl, fun _ => rfl⟩
  have kept : Consistent runtime settings log origin restarted := by
    rw [← restarts]
    exact steps_consistent consistent _
  obtain ⟨counts, own, length, reached, resumed, moved⟩ :=
    @deliveries_level runtime settings log json topic origin partition env recovering count 0
      restarted session kept level prints
  have whole : steps runtime settings log worker (recovery partition env counts) =
      steps runtime settings log restarted (deliveries partition env 0 counts) := rfl
  have accounted := (steps_consistent kept (deliveries partition env 0 counts)).accounted own
    reached.held
  rw [← whole] at reached moved accounted
  refine ⟨counts, length, ?_, ?_, ?_⟩
  · rw [moved partition, if_pos rfl]
  · intro other different
    rw [moved other, if_neg different]
    rfl
  · intro offset fresh below
    have resumedAt : own.resumedAt partition = committed settings worker.world partition :=
      congrFun resumed partition
    have passed : offset < own.position partition := by
      rw [reached.position partition, moved partition, if_pos rfl]
      exact below
    rcases accounted.covered partition offset (resumedAt ▸ fresh) passed with
      settled | raised | inHand
    · exact settled
    · rw [reached.unfailed] at raised
      cases raised
    · rw [accounted.idle reached.idle] at inHand
      cases inHand

end Recovery

/-- From every state of every run, a restarted worker whose failure handling works
settles and commits any number of further records, one delivery for each. -/
theorem worker_recovers (runtime : Runtime) (json : JsonTexts runtime)
    (settings : LocalLabConfig) (topic : Encodable settings.kafkaTopic) (log : Log)
    (origin : Nat → Nat) (labels : List Label) (partition : Nat)
    (env : Nat → Nat → (op : Op) → op.Choice)
    (recovering : ∀ delivery index op, Recovering op (env delivery index op)) (count : Nat)
    (prints : ∀ offset,
      committed settings (runKafkaWorker runtime settings log origin labels).world partition ≤
        offset →
      offset < committed settings (runKafkaWorker runtime settings log origin labels).world
        partition + count →
      RecordPrints runtime settings log partition offset) :
    ∃ counts : List Nat, counts.length = count ∧ CaughtUp runtime settings log
      (runKafkaWorker runtime settings log origin labels).world
      (runKafkaWorker runtime settings log origin
        (labels ++ recovery partition env counts)).world partition count := by
  obtain ⟨counts, length, caughtUp⟩ := @recovery_catches_up runtime settings log origin json topic
    _ (run_consistent runtime settings log origin labels) partition env recovering count prints
  rw [← run_append] at caughtUp
  exact ⟨counts, length, caughtUp⟩

section Poison

/-- Every write to the store fails; discards, dead letters and commits work. -/
def storeDown : (op : Op) → op.Choice
  | .poll => .ok none
  | .order (.discard _) => none
  | .order _ => some ⟨databaseError, "the connection is closed"⟩
  | .notify _ => none
  | .wait _ => ()
  | .uuid4 => ⟨0⟩
  | .utcNow => []
  | .produce _ => none
  | .flush _ => .ok ⟨0, [.ok ⟨"orders.created.local.dlq", 0, 0, none⟩]⟩
  | .commit _ => .ok []

theorem store_down_recovering (op : Op) : Recovering op (storeDown op) := by
  cases op with
  | order op =>
      cases op with
      | discard eventId => rfl
      | store | markCompleted =>
          intro fault raised
          cases raised
          exact of_string_encodable _
  | notify event =>
      intro fault raised
      cases raised
  | produce envelope => rfl
  | flush envelope => exact ⟨_, rfl⟩
  | commit record => exact ⟨[], rfl, rfl⟩
  | poll | wait | uuid4 | utcNow => trivial

/-- After a run that skipped a record, two more are settled although the store is down. -/
theorem skipping_run_recovers :
    ∃ counts : List Nat, counts.length = 2 ∧ CaughtUp referenceRuntime localLab
      (unreadableFirst (encodeUtf8 orderBody))
      (runKafkaWorker referenceRuntime localLab (unreadableFirst (encodeUtf8 orderBody))
        (fun _ => 0) skippingRun).world
      (runKafkaWorker referenceRuntime localLab (unreadableFirst (encodeUtf8 orderBody))
        (fun _ => 0) (skippingRun ++ recovery 0 (fun _ _ => storeDown) counts)).world 0 2 :=
  worker_recovers referenceRuntime reference_json localLab (of_string_encodable _) _ _ _ 0 _
    (fun _ _ => store_down_recovering) 2 fun _ _ _ => reference_envelope_prints _ _

end Poison

end OrderMessaging.LocalLab.WorkerRecovery
