import OrderMessaging.LocalLab.ConsumerWorker
import OrderMessaging.Processing.DeliveryConfluence

/-!
Which records the worker's committed offsets leave behind. Below the committed
offset every record is settled exactly as long as no commit passes a record whose
delivery raised and left it unsettled.
-/

namespace OrderMessaging.LocalLab.WorkerSettlement

open OrderMessaging.PyText OrderMessaging.PyException OrderMessaging.PyValue
open OrderMessaging.Program OrderMessaging.Relation OrderMessaging.ClaimLedger
open OrderMessaging.Contracts.Models OrderMessaging.Contracts.Reference
open OrderMessaging.Processing.PostgresOrderStore OrderMessaging.Processing.StoreOperations
open OrderMessaging.Processing.KafkaCollaborators OrderMessaging.Processing.RetryAndDeadLetter
open OrderMessaging.Processing.KafkaDelivery OrderMessaging.Processing.DeliveryOutcome
open OrderMessaging.Processing.DecodeAgreement OrderMessaging.Processing.DeliveryConfluence
open OrderMessaging.LocalLab.ConsumerWorker

set_option autoImplicit false

section Settlement

variable (runtime : Runtime) (settings : LocalLabConfig) (log : Log) (origin : Nat → Nat)

/-- The record's event was marked completed, or its envelope was acknowledged. -/
def Settled (record : Message) (world : World) : Prop :=
  (∃ payload event, decodeValue runtime record.value = .ok (payload, event) ∧
    event.eventId ∈ world.database.completions) ∨
  ∃ envelope ∈ world.acknowledged, EnvelopeFor runtime settings.kafkaDlqTopic record envelope

/-- Every record of the group below the committed offset is settled. -/
def NoneSkipped (world : World) : Prop :=
  ∀ partition offset, origin partition ≤ offset →
    offset < committed settings world partition →
    Settled runtime settings (message settings log partition offset) world

/-- The step is a commit of the record that takes effect. -/
def Commits (worker : Worker) (session : Session) (label : Label) (record : Message) : Prop :=
  worker.session = some session ∧ ∃ poll answer next partitions,
    label = .advance poll answer ∧ session.running = some (.call (.commit record) next) ∧
    answer (.commit record) = .ok partitions ∧ commitAccepted partitions = true

/-- No commit of the run passes an unsettled record whose delivery raised. -/
def RaisedSettled (labels : List Label) : Prop :=
  ∀ early label late, labels = early ++ label :: late → ∀ session record,
    Commits (runKafkaWorker runtime settings log origin early) session label record →
    ∀ failed ∈ session.raised, failed.partition = record.partition →
      failed.offset < record.offset →
      Settled runtime settings failed (runKafkaWorker runtime settings log origin early).world

end Settlement

section Effects

variable {runtime : Runtime} {settings : LocalLabConfig} {world : World} {record : Message}

theorem run_remembers {database : Database} {eventId : Uuid} (op : StoreOp) (failure : Option Exc)
    (member : eventId ∈ database.completions) :
    eventId ∈ (op.run failure database).2.completions := by
  cases failure with
  | some fault => exact member
  | none =>
      cases op with
      | store event | discard other => exact member
      | markCompleted other =>
          simp only [StoreOp.run]
          split
          · exact List.mem_cons_of_mem other member
          · exact member

theorem exec_settled (op : Op) (choice : op.Choice)
    (settled : Settled runtime settings record world) :
    Settled runtime settings record (exec op choice world).2 := by
  rcases settled with ⟨payload, event, decoded, member⟩ | ⟨envelope, member, names⟩
  · left
    refine ⟨payload, event, decoded, ?_⟩
    rcases exec_database op choice world with ⟨storeOp, failure, _, changed⟩ | unchanged
    · rw [changed]
      exact run_remembers storeOp failure member
    · rw [unchanged]
      exact member
  · right
    refine ⟨envelope, ?_, names⟩
    cases op with
    | order | wait | uuid4 | utcNow => exact member
    | poll => rcases choice with fault | _ | message <;> exact member
    | notify | produce => cases choice <;> exact member
    | flush other =>
        cases choice with
        | error fault => exact member
        | ok report =>
            simp only [exec]
            split
            · exact member
            · exact List.mem_cons_of_mem other member
    | commit =>
        cases choice with
        | error fault => exact member
        | ok partitions =>
            simp only [exec]
            split <;> exact member

/-- Only a commit that takes effect moves the committed offsets. -/
theorem exec_committed (op : Op) (choice : op.Choice) (world : World) :
    (exec op choice world).2.committed = world.committed ∨
      ∃ record partitions, (⟨op, choice⟩ : (op : Op) × op.Choice) =
          ⟨.commit record, Except.ok partitions⟩ ∧
        commitAccepted partitions = true ∧ (exec op choice world).2 = world.commit record := by
  cases op with
  | order | wait | uuid4 | utcNow => exact .inl rfl
  | poll => rcases choice with fault | _ | message <;> exact .inl rfl
  | notify | produce => cases choice <;> exact .inl rfl
  | flush other =>
      left
      cases choice with
      | error fault => rfl
      | ok report =>
          simp only [exec]
          split <;> rfl
  | commit record =>
      cases choice with
      | error fault => exact .inl rfl
      | ok partitions =>
          by_cases accepted : commitAccepted partitions = true
          · right
            refine ⟨record, partitions, rfl, accepted, ?_⟩
            simp only [exec, if_pos accepted]
          · left
            simp only [exec, if_neg accepted]

theorem exec_received (op : Op) (choice : op.Choice) (world : World) (quiet : op ≠ .poll) :
    (exec op choice world).2.received = world.received := by
  cases op with
  | poll => exact absurd rfl quiet
  | order | wait | uuid4 | utcNow => rfl
  | notify | produce => cases choice <;> rfl
  | flush | commit =>
      cases choice with
      | error fault => rfl
      | ok answer =>
          simp only [exec]
          split <;> rfl

end Effects

section Invariant

variable {runtime : Runtime} {settings : LocalLabConfig} {log : Log} {origin : Nat → Nat}
variable {world : World} {session : Session}

/-- A record of the log that the session has handed out. -/
structure Handed (settings : LocalLabConfig) (log : Log) (session : Session) (record : Message) :
    Prop where
  logged : record = message settings log record.partition record.offset
  fresh : session.resumedAt record.partition ≤ record.offset
  passed : record.offset < session.position record.partition

/-- Every record the session has passed is settled, in hand, or has raised. -/
structure Accounted (runtime : Runtime) (settings : LocalLabConfig) (log : Log)
    (origin : Nat → Nat) (world : World) (session : Session) : Prop where
  responsible : ∀ partition, origin partition ≤ session.resumedAt partition
  resumed : ∀ partition, session.resumedAt partition ≤ committed settings world partition
  ahead : ∀ partition, session.resumedAt partition ≤ session.position partition
  handed : ∀ record, record ∈ session.inHand ∨ record ∈ session.raised →
    Handed settings log session record
  covered : ∀ partition offset, session.resumedAt partition ≤ offset →
    offset < session.position partition →
    Settled runtime settings (message settings log partition offset) world ∨
      message settings log partition offset ∈ session.raised ∨
      message settings log partition offset ∈ session.inHand
  idle : session.running = none → session.inHand = []
  underway : ∀ program, session.running = some program → ∃ start polled,
    world.received = polled ++ start.received ∧
    session.inHand = polled.filter (fun record => record.error.isNone) ∧
    Delivers runtime (workerConsumer settings) start
      (Ended runtime (workerConsumer settings) start) program world

structure Consistent (runtime : Runtime) (settings : LocalLabConfig) (log : Log)
    (origin : Nat → Nat) (worker : Worker) : Prop where
  tracked : Tracked worker.world
  responsible : ∀ partition, origin partition ≤ committed settings worker.world partition
  accounted : ∀ session, worker.session = some session →
    Accounted runtime settings log origin worker.world session

theorem only_in_hand {start : World} {polled : List Message} {record : Message}
    (sound : record.error = none) (received : world.received = polled ++ start.received)
    (inHand : session.inHand = polled.filter (fun record => record.error.isNone))
    (latest : world.received = record :: start.received) : session.inHand = [record] := by
  have whole : polled ++ start.received = [record] ++ start.received := received.symm.trans latest
  have alone := List.append_cancel_right whole
  rw [inHand, alone, List.filter_cons, sound]
  rfl

theorem committed_commit {record : Message}
    (logged : record = message settings log record.partition record.offset) (partition : Nat) :
    committed settings (world.commit record) partition =
      if partition = record.partition then record.offset + 1
      else committed settings world partition := by
  have place : record.topicPartition = (settings.kafkaTopic, record.partition) := by
    have topic := congrArg Message.topic logged
    rw [Message.topicPartition, topic]
    rfl
  unfold committed World.commit
  rw [place]
  by_cases same : partition = record.partition
  · rw [if_pos same, same]
    exact Function.update_self ..
  · rw [if_neg same]
    apply Function.update_of_ne
    intro equal
    injection equal with _ samePartition
    exact same samePartition

/-- A record whose delivery may commit it is settled. -/
theorem commit_allowed_settled {start : World} {record : Message} (tracked : Tracked world)
    (allowed : CommitAllowed runtime (workerConsumer settings) start record world) :
    Settled runtime settings record world := by
  rcases allowed.2.2 with ⟨payload, event, decoded, completed, _⟩ | lettered
  · exact .inl ⟨payload, event, decoded, tracked.marked event.eventId completed⟩
  · obtain ⟨topic, envelope, destination, names, acknowledged⟩ := lettered
    have sameTopic : settings.kafkaDlqTopic = topic := Option.some.inj destination
    right
    refine ⟨envelope, ?_, ?_⟩
    · rw [acknowledged]
      exact List.mem_cons_self
    · rw [sameTopic]
      exact names

theorem finished_settled {start : World} {record : Message} {result : ProcessedKafkaRecord}
    (tracked : Tracked world)
    (finished : Finished runtime (workerConsumer settings) start record result world) :
    Settled runtime settings record world := by
  apply commit_allowed_settled tracked
  refine ⟨finished.sound, finished.received, ?_⟩
  cases lettered : result.deadLettered with
  | true => exact .inr (finished.deadLettered lettered).1
  | false => exact .inl (finished.completed lettered)

theorem receive_handed {poll : PollAnswer} {record : Message}
    (accounted : Accounted runtime settings log origin world session)
    (member : record ∈ (session.receive settings log poll).inHand ∨ record ∈ session.raised) :
    Handed settings log (session.receive settings log poll) record := by
  cases poll with
  | nothing | raises | brokerError => exact accounted.handed record member
  | record partition =>
      have before : record ∈ session.inHand ∨ record ∈ session.raised →
          Handed settings log (session.receive settings log (.record partition)) record := by
        intro earlier
        obtain ⟨logged, fresh, passed⟩ := accounted.handed record earlier
        refine ⟨logged, fresh, ?_⟩
        by_cases same : record.partition = partition
        · rw [same] at passed ⊢
          simp only [Session.receive, Function.update_self]
          omega
        · simp only [Session.receive, Function.update_of_ne same]
          exact passed
      rcases member with first | raised
      · rcases List.mem_cons.mp first with same | rest
        · subst same
          refine ⟨rfl, accounted.ahead partition, ?_⟩
          simp only [Session.receive, message, Function.update_self]
          omega
        · exact before (.inl rest)
      · exact before (.inr raised)

theorem receive_covered {poll : PollAnswer}
    (accounted : Accounted runtime settings log origin world session) (partition offset : Nat)
    (fresh : session.resumedAt partition ≤ offset)
    (passed : offset < (session.receive settings log poll).position partition) :
    Settled runtime settings (message settings log partition offset) world ∨
      message settings log partition offset ∈ session.raised ∨
      message settings log partition offset ∈ (session.receive settings log poll).inHand := by
  cases poll with
  | nothing | raises | brokerError => exact accounted.covered partition offset fresh passed
  | record polledPartition =>
      have before : offset < session.position partition →
          Settled runtime settings (message settings log partition offset) world ∨
          message settings log partition offset ∈ session.raised ∨
          message settings log partition offset ∈
            (session.receive settings log (.record polledPartition)).inHand := by
        intro earlier
        rcases accounted.covered partition offset fresh earlier with settled | raised | inHand
        · exact .inl settled
        · exact .inr (.inl raised)
        · exact .inr (.inr (List.mem_cons_of_mem _ inHand))
      by_cases same : partition = polledPartition
      · subst same
        simp only [Session.receive, Function.update_self] at passed
        by_cases last : offset = session.position partition
        · right
          right
          rw [last]
          exact List.mem_cons_self
        · exact before (by omega)
      · simp only [Session.receive, Function.update_of_ne same] at passed
        exact before passed

/-- The poll of a delivery: the record is in hand, and the delivery goes on. -/
theorem poll_accounted {next : Except Exc (Option Message) → Prog Exc Op.Ret ProcessedKafkaRecord}
    (poll : PollAnswer) (accounted : Accounted runtime settings log origin world session)
    (running : session.running = some (.call .poll next)) :
    Accounted runtime settings log origin
      (exec .poll (polled settings log session poll) world).2
      { session.receive settings log poll with
        running := some (next (exec .poll (polled settings log session poll) world).1) } := by
  obtain ⟨start, handed, received, inHand, upheld⟩ := accounted.underway _ running
  obtain ⟨_, after⟩ := upheld world rfl
  have continues := after (polled settings log session poll)
  have resumes : (session.receive settings log poll).resumedAt = session.resumedAt := by
    cases poll <;> rfl
  have keeps : (session.receive settings log poll).raised = session.raised := by
    cases poll <;> rfl
  constructor
  case responsible =>
    simp only [resumes]
    exact accounted.responsible
  case resumed =>
    simp only [resumes]
    intro partition
    cases poll <;> exact accounted.resumed partition
  case ahead =>
    simp only [resumes]
    intro partition
    have ahead := accounted.ahead partition
    cases poll with
    | nothing | raises | brokerError => exact ahead
    | record polledPartition =>
        simp only [Session.receive, Function.update_apply]
        split
        next same =>
          subst same
          omega
        next other => exact ahead
  case handed =>
    simp only [keeps]
    intro record member
    obtain ⟨logged, fresh, passed⟩ := receive_handed accounted member
    exact ⟨logged, fresh, passed⟩
  case covered =>
    simp only [keeps, resumes]
    intro partition offset fresh passed
    rcases receive_covered accounted partition offset fresh passed with settled | noted
    · exact .inl (exec_settled .poll _ settled)
    · exact .inr noted
  case idle =>
    intro contrary
    cases contrary
  case underway =>
    intro program same
    cases same
    cases poll with
    | nothing | raises => exact ⟨start, handed, received, inHand, continues⟩
    | brokerError error partition offset =>
        refine ⟨start, _ :: handed, congrArg (List.cons _) received, ?_, continues⟩
        rw [List.filter_cons]
        exact inHand
    | record partition =>
        refine ⟨start, _ :: handed, congrArg (List.cons _) received, ?_, continues⟩
        rw [List.filter_cons]
        exact congrArg (List.cons _) inHand

/-- A delivery that is about to commit has exactly that record in hand. -/
theorem commit_in_hand {record : Message}
    {next : Except Exc (List (Option Str)) → Prog Exc Op.Ret ProcessedKafkaRecord}
    (accounted : Accounted runtime settings log origin world session)
    (running : session.running = some (.call (.commit record) next)) :
    session.inHand = [record] ∧ Handed settings log session record ∧
      ∃ start, CommitAllowed runtime (workerConsumer settings) start record world := by
  obtain ⟨start, polled, received, inHand, upheld⟩ := accounted.underway _ running
  obtain ⟨ready, _⟩ := upheld world rfl
  have allowed : CommitAllowed runtime (workerConsumer settings) start record world := ready
  have alone := only_in_hand allowed.1 received inHand allowed.2.1
  refine ⟨alone, accounted.handed record (.inl ?_), start, allowed⟩
  rw [alone]
  exact List.mem_singleton_self record

theorem call_resumed {op : Op} {next : Except Exc op.Ret → Prog Exc Op.Ret ProcessedKafkaRecord}
    (choice : op.Choice) (accounted : Accounted runtime settings log origin world session)
    (running : session.running = some (.call op next)) (partition : Nat) :
    session.resumedAt partition ≤ committed settings (exec op choice world).2 partition := by
  have before := accounted.resumed partition
  rcases exec_committed op choice world with unchanged | ⟨record, partitions, same, _, changed⟩
  · unfold committed at before ⊢
    rw [unchanged]
    exact before
  · cases same
    obtain ⟨_, ⟨logged, fresh, _⟩, _⟩ := commit_in_hand accounted running
    rw [changed, committed_commit logged]
    split
    next own =>
      rw [own]
      omega
    next other => exact before

theorem call_accounted {op : Op} {next : Except Exc op.Ret → Prog Exc Op.Ret ProcessedKafkaRecord}
    (quiet : op ≠ .poll) (choice : op.Choice)
    (accounted : Accounted runtime settings log origin world session)
    (running : session.running = some (.call op next)) :
    Accounted runtime settings log origin (exec op choice world).2
      { session with running := some (next (exec op choice world).1) } := by
  obtain ⟨start, polled, received, inHand, upheld⟩ := accounted.underway _ running
  obtain ⟨_, after⟩ := upheld world rfl
  constructor
  case responsible => exact accounted.responsible
  case resumed =>
    have resumed := call_resumed choice accounted running
    exact resumed
  case ahead => exact accounted.ahead
  case handed =>
    intro record member
    obtain ⟨logged, fresh, passed⟩ := accounted.handed record member
    exact ⟨logged, fresh, passed⟩
  case covered =>
    intro partition offset fresh passed
    rcases accounted.covered partition offset fresh passed with settled | noted
    · exact .inl (exec_settled op choice settled)
    · exact .inr noted
  case idle =>
    intro contrary
    cases contrary
  case underway =>
    intro program same
    cases same
    refine ⟨start, polled, ?_, inHand, after choice⟩
    rw [exec_received op choice world quiet]
    exact received

/-- A delivery that returned has settled its record, and one that raised is noted. -/
theorem returned_accounted {result : ProcessedKafkaRecord} (tracked : Tracked world)
    (accounted : Accounted runtime settings log origin world session)
    (running : session.running = some (.done (.ok result))) :
    Accounted runtime settings log origin world { session with running := none, inHand := [] } := by
  obtain ⟨start, polled, received, inHand, ended⟩ := accounted.underway _ running
  have returned : Ended runtime (workerConsumer settings) start (.ok result) world := ended
  obtain ⟨record, finished⟩ := returned
  have alone := only_in_hand finished.sound received inHand finished.received
  have settled := finished_settled tracked finished
  constructor
  case responsible => exact accounted.responsible
  case resumed => exact accounted.resumed
  case ahead => exact accounted.ahead
  case handed =>
    intro other member
    rcases member with none | raised
    · cases none
    · obtain ⟨logged, fresh, passed⟩ := accounted.handed other (.inr raised)
      exact ⟨logged, fresh, passed⟩
  case covered =>
    intro partition offset fresh passed
    rcases accounted.covered partition offset fresh passed with done | raised | own
    · exact .inl done
    · exact .inr (.inl raised)
    · rw [alone] at own
      rw [List.mem_singleton.mp own]
      exact .inl settled
  case idle =>
    intro _
    rfl
  case underway =>
    intro program contrary
    cases contrary

theorem raised_accounted (accounted : Accounted runtime settings log origin world session) :
    Accounted runtime settings log origin world
      { session with
        running := none
        inHand := []
        raised := session.inHand ++ session.raised } := by
  constructor
  case responsible => exact accounted.responsible
  case resumed => exact accounted.resumed
  case ahead => exact accounted.ahead
  case handed =>
    intro record member
    rcases member with none | noted
    · cases none
    · obtain ⟨logged, fresh, passed⟩ := accounted.handed record (List.mem_append.mp noted)
      exact ⟨logged, fresh, passed⟩
  case covered =>
    intro partition offset fresh passed
    rcases accounted.covered partition offset fresh passed with done | raised | own
    · exact .inl done
    · exact .inr (.inl (List.mem_append_right _ raised))
    · exact .inr (.inl (List.mem_append_left _ own))
  case idle =>
    intro _
    rfl
  case underway =>
    intro program contrary
    cases contrary

theorem started_accounted
    (responsible : ∀ partition, origin partition ≤ committed settings world partition) :
    Accounted runtime settings log origin world
      ⟨committed settings world, committed settings world, none, [], []⟩ := by
  constructor
  case responsible => exact responsible
  case resumed | ahead => exact fun partition => Nat.le_refl _
  case handed =>
    intro record member
    rcases member with none | none <;> cases none
  case covered =>
    intro partition offset fresh passed
    exact absurd passed (Nat.not_lt_of_le fresh)
  case idle =>
    intro _
    rfl
  case underway =>
    intro program contrary
    cases contrary

theorem admitted_accounted (tracked : Tracked world) (polls : Nat)
    (accounted : Accounted runtime settings log origin world session)
    (idle : session.running = none) :
    Accounted runtime settings log origin world
      { session with running := some (processOne runtime (workerConsumer settings) 2 polls) } := by
  constructor
  case responsible => exact accounted.responsible
  case resumed => exact accounted.resumed
  case ahead => exact accounted.ahead
  case handed =>
    intro record member
    obtain ⟨logged, fresh, passed⟩ := accounted.handed record member
    exact ⟨logged, fresh, passed⟩
  case covered => exact accounted.covered
  case idle =>
    intro contrary
    cases contrary
  case underway =>
    intro program same
    cases same
    refine ⟨world, [], rfl, accounted.idle idle, ?_⟩
    exact process_one_delivers runtime (workerConsumer settings) 2 polls tracked.paired

/-- What every step preserves. -/
theorem step_consistent {worker : Worker}
    (consistent : Consistent runtime settings log origin worker) (label : Label) :
    Consistent runtime settings log origin (step runtime settings log worker label) := by
  have accounted := consistent.accounted
  have sameWorld : ∀ session : Option Session,
      (∀ own, session = some own → Accounted runtime settings log origin worker.world own) →
      Consistent runtime settings log origin { worker with session := session } := by
    intro session own
    exact ⟨consistent.tracked, consistent.responsible, own⟩
  have moved := step_moved runtime settings log worker label
  generalize step runtime settings log worker label = reached at moved ⊢
  cases moved with
  | stays => exact consistent
  | starts idle =>
      apply sameWorld
      intro own same
      cases same
      exact started_accounted consistent.responsible
  | stops =>
      apply sameWorld
      intro own contrary
      cases contrary
  | admits session polls held idle =>
      apply sameWorld
      intro own same
      cases same
      exact admitted_accounted consistent.tracked polls (accounted session held) idle
  | returns session result poll answer held running =>
      apply sameWorld
      intro own same
      cases same
      exact returned_accounted consistent.tracked (accounted session held) running
  | raises session fault poll answer held running =>
      apply sameWorld
      intro own same
      cases same
      exact raised_accounted (accounted session held)
  | calls session op next poll answer held running =>
      have before := accounted session held
      have resumed := call_resumed (chosen settings log session poll answer op) before running
      constructor
      case tracked => exact exec_tracked consistent.tracked op _
      case responsible =>
        intro partition
        exact (before.responsible partition).trans (resumed partition)
      case accounted =>
        intro own same
        cases same
        by_cases polling : op = .poll
        · subst polling
          exact poll_accounted poll before running
        · have called : session.called settings log poll op = session := by
            cases op with
            | poll => exact absurd rfl polling
            | _ => rfl
          simp only [called]
          exact call_accounted polling _ before running

theorem run_consistent (runtime : Runtime) (settings : LocalLabConfig) (log : Log)
    (origin : Nat → Nat) (labels : List Label) :
    Consistent runtime settings log origin (runKafkaWorker runtime settings log origin labels) := by
  induction labels using List.reverseRecOn with
  | nil =>
      constructor
      case tracked => exact ⟨empty_tracked.paired, empty_tracked.marked⟩
      case responsible => exact fun partition => Nat.le_refl _
      case accounted =>
        intro session contrary
        cases contrary
  | append_singleton labels label ih =>
      rw [run_snoc]
      exact step_consistent ih label

/-- A commit passes nothing unsettled if nothing it passes has raised unsettled. -/
theorem commit_none_skipped {record : Message}
    {next : Except Exc (List (Option Str)) → Prog Exc Op.Ret ProcessedKafkaRecord}
    (tracked : Tracked world) (accounted : Accounted runtime settings log origin world session)
    (running : session.running = some (.call (.commit record) next))
    (before : NoneSkipped runtime settings log origin world)
    (raised : ∀ failed ∈ session.raised, failed.partition = record.partition →
      failed.offset < record.offset → Settled runtime settings failed world) :
    NoneSkipped runtime settings log origin (world.commit record) := by
  obtain ⟨alone, ⟨logged, _, passed⟩, start, allowed⟩ := commit_in_hand accounted running
  have own := commit_allowed_settled tracked allowed
  intro partition offset responsible below
  have settled : Settled runtime settings (message settings log partition offset) world := by
    have bound : offset < committed settings (world.commit record) partition := below
    rw [committed_commit logged] at bound
    by_cases same : partition = record.partition
    · rw [if_pos same] at bound
      subst same
      by_cases early : offset < session.resumedAt record.partition
      · have still := accounted.resumed record.partition
        exact before record.partition offset responsible (lt_of_lt_of_le early still)
      · by_cases last : offset = record.offset
        · rw [last, ← logged]
          exact own
        · have earlier : offset < record.offset := by omega
          rcases accounted.covered record.partition offset (by omega) (by omega) with
            done | failed | inHand
          · exact done
          · exact raised _ failed rfl earlier
          · rw [alone] at inHand
            rw [List.mem_singleton.mp inHand]
            exact own
    · rw [if_neg same] at bound
      exact before partition offset responsible bound
  exact settled

theorem step_none_skipped {worker : Worker}
    (consistent : Consistent runtime settings log origin worker)
    (before : NoneSkipped runtime settings log origin worker.world) (label : Label)
    (raised : ∀ session record, Commits worker session label record →
      ∀ failed ∈ session.raised, failed.partition = record.partition →
        failed.offset < record.offset → Settled runtime settings failed worker.world) :
    NoneSkipped runtime settings log origin (step runtime settings log worker label).world := by
  have moved := step_moved runtime settings log worker label
  generalize step runtime settings log worker label = reached at moved ⊢
  cases moved with
  | stays | starts | stops | admits | returns | raises => exact before
  | calls session op next poll answer held running =>
      generalize answered : chosen settings log session poll answer op = choice
      rcases exec_committed op choice worker.world with
        same | ⟨record, partitions, same, accepted, changed⟩
      · intro partition offset responsible below
        unfold committed at below
        rw [same] at below
        exact exec_settled op choice (before partition offset responsible below)
      · cases same
        have commits : Commits worker session (.advance poll answer) record :=
          ⟨held, poll, answer, next, partitions, rfl, running, answered, accepted⟩
        rw [changed]
        exact commit_none_skipped consistent.tracked (consistent.accounted session held) running
          before (raised session record commits)

end Invariant

section Runs

variable {runtime : Runtime} {settings : LocalLabConfig} {log : Log} {origin : Nat → Nat}

theorem raised_mono {early late : List Label}
    (settled : RaisedSettled runtime settings log origin (early ++ late)) :
    RaisedSettled runtime settings log origin early := by
  intro first label rest split
  subst split
  apply settled first label (rest ++ late)
  rw [List.append_assoc, List.cons_append]

theorem raised_none_skipped {labels : List Label}
    (settled : RaisedSettled runtime settings log origin labels) :
    NoneSkipped runtime settings log origin
      (runKafkaWorker runtime settings log origin labels).world := by
  induction labels using List.reverseRecOn with
  | nil =>
      intro partition offset responsible below
      exact absurd below (Nat.not_lt_of_le responsible)
  | append_singleton labels label ih =>
      rw [run_snoc]
      apply step_none_skipped (run_consistent runtime settings log origin labels)
      · exact ih (raised_mono settled)
      · exact settled labels label [] rfl

/-- A commit that passes an unsettled record leaves it below the committed offset. -/
theorem none_skipped_raised {labels : List Label} {label : Label} {session : Session}
    {record failed : Message}
    (after : NoneSkipped runtime settings log origin
      (runKafkaWorker runtime settings log origin (labels ++ [label])).world)
    (commits : Commits (runKafkaWorker runtime settings log origin labels) session label record)
    (member : failed ∈ session.raised) (same : failed.partition = record.partition)
    (earlier : failed.offset < record.offset) :
    Settled runtime settings failed (runKafkaWorker runtime settings log origin labels).world := by
  have consistent := run_consistent runtime settings log origin labels
  obtain ⟨held, poll, answer, next, partitions, advance, running, answered, accepted⟩ := commits
  have accounted := consistent.accounted session held
  obtain ⟨logged, fresh, _⟩ := accounted.handed failed (.inr member)
  obtain ⟨_, ⟨own, _, _⟩, _⟩ := commit_in_hand accounted running
  have reached : (runKafkaWorker runtime settings log origin (labels ++ [label])).world =
      (runKafkaWorker runtime settings log origin labels).world.commit record := by
    rw [run_snoc, advance]
    simp only [step, held, running, chosen, answered, exec, if_pos accepted]
  have below : failed.offset < committed settings
      (runKafkaWorker runtime settings log origin (labels ++ [label])).world failed.partition := by
    rw [reached, committed_commit own, if_pos same]
    omega
  have responsible := (accounted.responsible failed.partition).trans fresh
  have settled := after failed.partition failed.offset responsible below
  rw [← logged, reached] at settled
  exact settled

/-- No record is skipped in any state of a run exactly when no commit of the run
passes a record whose delivery raised and left it unsettled. -/
theorem none_skipped_iff (runtime : Runtime) (settings : LocalLabConfig) (log : Log)
    (origin : Nat → Nat) (labels : List Label) :
    (∀ early late, labels = early ++ late →
      NoneSkipped runtime settings log origin
        (runKafkaWorker runtime settings log origin early).world) ↔
    RaisedSettled runtime settings log origin labels := by
  constructor
  · intro skipped early label late split session record commits failed member same earlier
    have after := skipped (early ++ [label]) late (by rw [split, List.append_assoc]; rfl)
    exact none_skipped_raised after commits member same earlier
  · intro settled early late split
    subst split
    exact raised_none_skipped (raised_mono settled)

end Runs

section Skipped

variable {runtime : Runtime} {settings : LocalLabConfig} {log : Log} {record : Message}
variable {payload : PyVal} {event : OrderCreatedEvent} {cause : Exc}

def queueFull : Exc := ⟨runtimeError, "Local: Queue full"⟩

/-- Nothing fails but the dead-letter publication. -/
def producerFails : (op : Op) → op.Choice
  | .poll => .ok none
  | .order _ => none
  | .notify _ => none
  | .wait _ => ()
  | .uuid4 => ⟨0⟩
  | .utcNow => []
  | .produce _ => some queueFull
  | .flush _ => .ok ⟨0, []⟩
  | .commit _ => .ok []

/-- One delivery of the next record of partition 0, in at most that many steps. -/
def delivery (steps : Nat) : List Label :=
  .check (.ok false) 1 :: List.replicate steps (.advance (.record 0) producerFails)

theorem worker_polls (runtime : Runtime) (settings : LocalLabConfig) (record : Message) :
    ∃ next, processOne runtime (workerConsumer settings) 2 1 = .call .poll next ∧
      next (.ok (some record)) = process runtime (workerConsumer settings) record := by
  have positive : ¬ ((2 : ℚ) ≤ 0) := by norm_num
  unfold processOne
  rw [if_neg positive]
  exact ⟨_, rfl, rfl⟩

/-- A refused publication ends what it was part of with an exception. -/
theorem publication_refused {Value : Type} (runtime : Runtime) (topic : Str)
    (failure : DeadLetterFailure) (next : KafkaPublishReceipt → Prog Exc Op.Ret Value) :
    ∃ identified, (publishFailure runtime topic failure).bind next = .call .uuid4 identified ∧
      ∃ dated, identified (.ok ⟨0⟩) = .call .utcNow dated ∧
        ((∃ fault, dated (.ok []) = .done (.error fault)) ∨
          ∃ envelope produced, dated (.ok []) = .call (.produce envelope) produced ∧
            produced (.error queueFull) = .done (.error queueFull)) := by
  unfold publishFailure
  refine ⟨_, rfl, _, rfl, ?_⟩
  simp only [Prog.bind_eq, Prog.bind, Prog.perform]
  cases dlqRecord runtime topic failure ⟨0⟩ [] with
  | error fault => exact .inl ⟨fault, rfl⟩
  | ok envelope => exact .inr ⟨envelope, _, rfl, rfl⟩

theorem unreadable_raises (settings : LocalLabConfig) (sound : record.error = none)
    (refused : decodeValue runtime record.value = .error cause) :
    ∃ identified, process runtime (workerConsumer settings) record = .call .uuid4 identified ∧
      ∃ dated, identified (.ok ⟨0⟩) = .call .utcNow dated ∧
        ((∃ fault, dated (.ok []) = .done (.error fault)) ∨
          ∃ envelope produced, dated (.ok []) = .call (.produce envelope) produced ∧
            produced (.error queueFull) = .done (.error queueFull)) := by
  unfold process deadLetter
  simp only [sound, refused, workerConsumer]
  exact publication_refused runtime _ _ _

theorem order_commits (settings : LocalLabConfig) (sound : record.error = none)
    (decoded : decodeValue runtime record.value = .ok (payload, event)) :
    ∃ stored, process runtime (workerConsumer settings) record =
        .call (.order (.store event)) stored ∧
      ∃ marked, stored (.ok ⟨true, true⟩) = .call (.order (.markCompleted event.eventId)) marked ∧
        ∃ committed, marked (.ok ()) = .call (.commit record) committed := by
  unfold process
  simp only [sound, decoded]
  rw [retryLoop]
  exact ⟨_, rfl, _, rfl, _, rfl⟩

/-- A delivery whose dead-letter publication fails leaves only an exception behind. -/
theorem failed_delivery (settings : LocalLabConfig) (log : Log) (session : Session)
    (world : World) (idle : session.running = none)
    (refused : decodeValue runtime
      (message settings log 0 (session.position 0)).value = .error cause) :
    ∃ position raised received,
      (delivery 5).foldl (step runtime settings log) ⟨some session, world⟩ =
      ⟨some ⟨session.resumedAt, position, none, [], raised⟩, { world with received := received }⟩ ∧
      position 0 = session.position 0 + 1 := by
  obtain ⟨answered, polls, received⟩ := worker_polls runtime settings
    (message settings log 0 (session.position 0))
  obtain ⟨identified, begins, dated, named, ends⟩ := unreadable_raises settings rfl refused
  simp only [delivery, List.replicate, List.foldl_cons, List.foldl_nil, step, idle, polls, chosen,
    polled, exec, Session.called, Session.receive, received, begins, producerFails, named]
  rcases ends with ⟨fault, failed⟩ | ⟨envelope, produced, handed, failed⟩
  · simp only [failed]
    exact ⟨_, _, _, rfl, Function.update_self ..⟩
  · simp only [handed, failed]
    exact ⟨_, _, _, rfl, Function.update_self ..⟩

/-- A delivery of a storable order over a fresh store commits its offset. -/
theorem order_delivery {row : OrderRow} (settings : LocalLabConfig) (log : Log)
    (session : Session) (world : World) (idle : session.running = none)
    (decoded : decodeValue runtime
      (message settings log 0 (session.position 0)).value = .ok (payload, event))
    (fits : orderRow event = .ok row) (fresh : world.database = emptyWorld.database) :
    ∃ reached, (delivery 4).foldl (step runtime settings log) ⟨some session, world⟩ = reached ∧
      committed settings reached.world 0 = session.position 0 + 1 ∧
      reached.world.acknowledged = world.acknowledged := by
  obtain ⟨answered, polls, received⟩ := worker_polls runtime settings
    (message settings log 0 (session.position 0))
  obtain ⟨stored, stores, marked, marks, commits, committing⟩ := order_commits settings rfl decoded
  obtain ⟨afterStore, afterMark, firstStored, marking⟩ := fresh_store_completes fits
  have storing : StoreOp.run (.store event) none emptyWorld.database =
      (.ok ⟨true, true⟩, afterStore) := firstStored
  simp only [delivery, List.replicate, List.foldl_cons, List.foldl_nil, step, idle, polls, chosen,
    polled, exec, Session.called, Session.receive, received, stores, producerFails, fresh, storing,
    marks, marking, committing, commitAccepted, List.all_nil, if_true]
  refine ⟨_, rfl, ?_, rfl⟩
  exact committed_commit rfl 0

/-- A record without a value, and records with one after it. -/
def unreadableFirst (value : Option ByteArray) : Log :=
  fun _ offset => if offset = 0 then ⟨none, none⟩ else ⟨none, value⟩

/-- The first record's publication fails, and the second record is delivered. -/
def skippingRun : List Label := .start :: (delivery 5 ++ delivery 4)

theorem first_record_skipped {value : Option ByteArray} {row : OrderRow}
    (unreadable : decodeValue runtime none = .error cause)
    (decoded : decodeValue runtime value = .ok (payload, event))
    (fits : orderRow event = .ok row) :
    ¬ NoneSkipped runtime settings (unreadableFirst value) (fun _ => 0)
      (runKafkaWorker runtime settings (unreadableFirst value) (fun _ => 0) skippingRun).world := by
  let session : Session := ⟨fun _ => 0, fun _ => 0, none, [], []⟩
  let world : World := { emptyWorld with committed := fun _ => 0 }
  have idle : session.running = none := rfl
  obtain ⟨position, raised, received, first, moved⟩ :=
    failed_delivery settings (unreadableFirst value) session world idle unreadable
  have next : decodeValue runtime
      (message settings (unreadableFirst value) 0 (position 0)).value = .ok (payload, event) := by
    rw [moved]
    exact decoded
  obtain ⟨reached, second, below, acknowledged⟩ := order_delivery settings (unreadableFirst value)
    ⟨fun _ => 0, position, none, [], raised⟩ { world with received := received } rfl next fits rfl
  have ran : runKafkaWorker runtime settings (unreadableFirst value) (fun _ => 0) skippingRun =
      reached := by
    rw [← second, ← first, ← List.foldl_append]
    rfl
  rw [ran]
  intro skipped
  have passed : 0 < committed settings reached.world 0 := by omega
  rcases skipped 0 0 (Nat.le_refl 0) passed with ⟨payload, event, read, _⟩ | ⟨envelope, member, _⟩
  · have again : decodeValue runtime none = .ok (payload, event) := read
    rw [unreadable] at again
    cases again
  · rw [acknowledged] at member
    cases member

def localLab : LocalLabConfig :=
  ⟨"orders.created.local", "orders.created.local.dlq", "local-order-consumer"⟩

/-- After a failed dead-letter publication the worker goes on and commits past the record. -/
theorem failed_record_skipped :
    ¬ NoneSkipped referenceRuntime localLab (unreadableFirst (encodeUtf8 orderBody)) (fun _ => 0)
      (runKafkaWorker referenceRuntime localLab (unreadableFirst (encodeUtf8 orderBody))
        (fun _ => 0) skippingRun).world := by
  obtain ⟨payload, decoded⟩ := order_body_decoded
  obtain ⟨row, fits⟩ := documented_storable.fits _ (List.mem_singleton_self _)
  have refused : (decodeValue referenceRuntime none).toOption.isNone = true := by decide +kernel
  cases unreadable : decodeValue referenceRuntime none with
  | ok read =>
      rw [unreadable] at refused
      cases refused
  | error cause => exact first_record_skipped unreadable decoded fits

end Skipped

end OrderMessaging.LocalLab.WorkerSettlement
