import OrderMessaging.Processing.DeliveryOutcome

/-!
The continuous Kafka worker: a loop of pause checks and deliveries over one
consumer, with crashes and restarts at any point. A poll hands out the record at
the consumer's position and moves the position on, committed or not; a restarted
consumer begins at the committed offsets.
-/

namespace OrderMessaging.LocalLab.ConsumerWorker

open OrderMessaging.PyText OrderMessaging.PyException OrderMessaging.Program
open OrderMessaging.Contracts.Models OrderMessaging.Processing.StoreOperations
open OrderMessaging.Processing.KafkaCollaborators OrderMessaging.Processing.KafkaDelivery

set_option autoImplicit false

structure LocalLabConfig where
  kafkaTopic : Str
  kafkaDlqTopic : Str
  kafkaConsumerGroup : Str

structure Record where
  key : Option ByteArray
  value : Option ByteArray

/-- The records of the topic by partition and offset. -/
abbrev Log := Nat → Nat → Record

/-- The consumer process since its start. `raised` are the records whose
`process_one` call ended with an exception, which the loop only prints. -/
structure Session where
  resumedAt : Nat → Nat
  position : Nat → Nat
  running : Option (Prog Exc Op.Ret ProcessedKafkaRecord)
  inHand : List Message
  raised : List Message

structure Worker where
  session : Option Session
  world : World

inductive PollAnswer where
  | nothing
  | raises (fault : Exc)
  | brokerError (error : Str) (partition offset : Nat)
  | record (partition : Nat)

inductive Label where
  | start
  | crash
  /-- The loop's top: the pause check, and then the `process_one` call it admits. -/
  | check (paused : Except Exc Bool) (polls : Nat)
  | advance (poll : PollAnswer) (answer : (op : Op) → op.Choice)

section Steps

variable (runtime : Runtime) (settings : LocalLabConfig) (log : Log)

def workerConsumer : KafkaOrderConsumer :=
  ⟨settings.kafkaConsumerGroup, settings.kafkaTopic, false, defaultRetryPolicy,
    some settings.kafkaDlqTopic⟩

def message (partition offset : Nat) : Message :=
  ⟨none, settings.kafkaTopic, partition, offset, (log partition offset).key,
    (log partition offset).value⟩

def committed (world : World) (partition : Nat) : Nat :=
  world.committed (settings.kafkaTopic, partition)

def polled (session : Session) : PollAnswer → Except Exc (Option Message)
  | .nothing => .ok none
  | .raises fault => .error fault
  | .brokerError error partition offset =>
      .ok (some ⟨some error, settings.kafkaTopic, partition, offset, none, none⟩)
  | .record partition => .ok (some (message settings log partition (session.position partition)))

/-- A record handed out moves the position, whatever becomes of the record. -/
def Session.receive (session : Session) : PollAnswer → Session
  | .record partition =>
      { session with
        position := Function.update session.position partition (session.position partition + 1)
        inHand := message settings log partition (session.position partition) :: session.inHand }
  | _ => session

def chosen (session : Session) (poll : PollAnswer) (answer : (op : Op) → op.Choice) :
    (op : Op) → op.Choice
  | .poll => polled settings log session poll
  | op => answer op

def Session.called (session : Session) (poll : PollAnswer) : Op → Session
  | .poll => session.receive settings log poll
  | _ => session

def step (worker : Worker) : Label → Worker
  | .start =>
      match worker.session with
      | some _ => worker
      | none =>
          let position := committed settings worker.world
          { worker with session := some ⟨position, position, none, [], []⟩ }
  | .crash => { worker with session := none }
  | .check paused polls =>
      match worker.session with
      | none => worker
      | some session =>
          match session.running, paused with
          | some _, _ => worker
          -- the check stands outside the loop's try block
          | none, .error _ => { worker with session := none }
          | none, .ok true => worker
          | none, .ok false =>
              let program := processOne runtime (workerConsumer settings) 2 polls
              { worker with session := some { session with running := some program } }
  | .advance poll answer =>
      match worker.session with
      | none => worker
      | some session =>
          match session.running with
          | none => worker
          | some (.done (.ok _)) =>
              { worker with session := some { session with running := none, inHand := [] } }
          | some (.done (.error _)) =>
              { worker with session := some { session with
                  running := none
                  inHand := []
                  raised := session.inHand ++ session.raised } }
          | some (.call op next) =>
              let choice := chosen settings log session poll answer op
              let (result, reached) := exec op choice worker.world
              let session := session.called settings log poll op
              ⟨some { session with running := some (next result) }, reached⟩

/-- Everything one step can do. -/
inductive Moved (worker : Worker) : Label → Worker → Prop where
  | stays (label : Label) : Moved worker label worker
  | starts (idle : worker.session = none) :
      Moved worker .start { worker with
        session := some
          ⟨committed settings worker.world, committed settings worker.world, none, [], []⟩ }
  | stops (label : Label) : Moved worker label { worker with session := none }
  | admits (session : Session) (polls : Nat) (held : worker.session = some session)
      (idle : session.running = none) :
      Moved worker (.check (.ok false) polls) { worker with
        session := some { session with
          running := some (processOne runtime (workerConsumer settings) 2 polls) } }
  | returns (session : Session) (result : ProcessedKafkaRecord) (poll : PollAnswer)
      (answer : (op : Op) → op.Choice) (held : worker.session = some session)
      (running : session.running = some (.done (.ok result))) :
      Moved worker (.advance poll answer) { worker with
        session := some { session with running := none, inHand := [] } }
  | raises (session : Session) (fault : Exc) (poll : PollAnswer)
      (answer : (op : Op) → op.Choice) (held : worker.session = some session)
      (running : session.running = some (.done (.error fault))) :
      Moved worker (.advance poll answer) { worker with
        session := some { session with
          running := none
          inHand := []
          raised := session.inHand ++ session.raised } }
  | calls (session : Session) (op : Op)
      (next : Except Exc op.Ret → Prog Exc Op.Ret ProcessedKafkaRecord) (poll : PollAnswer)
      (answer : (op : Op) → op.Choice) (held : worker.session = some session)
      (running : session.running = some (.call op next)) :
      Moved worker (.advance poll answer)
        ⟨some { session.called settings log poll op with
            running :=
              some (next (exec op (chosen settings log session poll answer op) worker.world).1) },
          (exec op (chosen settings log session poll answer op) worker.world).2⟩

theorem step_moved (worker : Worker) (label : Label) :
    Moved runtime settings log worker label (step runtime settings log worker label) := by
  cases label with
  | start =>
      simp only [step]
      cases held : worker.session with
      | some session => exact .stays _
      | none => exact .starts held
  | crash => exact .stops _
  | check paused polls =>
      simp only [step]
      cases held : worker.session with
      | none => exact .stays _
      | some session =>
          cases running : session.running with
          | some program =>
              simp only [running]
              exact .stays _
          | none =>
              simp only [running]
              rcases paused with fault | _ | _
              · exact .stops _
              · exact .admits session polls held running
              · exact .stays _
  | advance poll answer =>
      simp only [step]
      cases held : worker.session with
      | none => exact .stays _
      | some session =>
          cases running : session.running with
          | none =>
              simp only [running]
              exact .stays _
          | some program =>
              simp only [running]
              cases program with
              | call op next => exact .calls session op next poll answer held running
              | done outcome =>
                  cases outcome with
                  | ok result => exact .returns session result poll answer held running
                  | error fault => exact .raises session fault poll answer held running

/-- The group begins at `origin` over a freshly initialised store. -/
def opening (origin : Nat → Nat) : Worker :=
  ⟨none, { emptyWorld with committed := fun place => origin place.2 }⟩

def runKafkaWorker (origin : Nat → Nat) (labels : List Label) : Worker :=
  labels.foldl (step runtime settings log) (opening origin)

theorem run_snoc (origin : Nat → Nat) (labels : List Label) (label : Label) :
    runKafkaWorker runtime settings log origin (labels ++ [label]) =
      step runtime settings log (runKafkaWorker runtime settings log origin labels) label := by
  unfold runKafkaWorker
  rw [List.foldl_append]
  rfl

end Steps

end OrderMessaging.LocalLab.ConsumerWorker
