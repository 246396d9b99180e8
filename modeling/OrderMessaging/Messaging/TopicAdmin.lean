import Mathlib.Data.List.Sort
import Mathlib.Data.Rat.Floor
import Mathlib.Logic.Function.Basic
import OrderMessaging.Library.Polling
import OrderMessaging.Contracts.WireFormat
import OrderMessaging.Messaging.EventPublishers

/-!
`KafkaTopicAdmin` over a cluster that serves its requests when it gets to them.
A request is a future with a number; an answer can be late or be lost. Metadata
may lag behind: an answer shows any topics there have ever been, with the part of
their partitions that has been propagated.
-/

namespace OrderMessaging.Messaging.TopicAdmin

open OrderMessaging.PyText OrderMessaging.PyException OrderMessaging.PyValue
open OrderMessaging.Program OrderMessaging.Polling OrderMessaging.Contracts.WireFormat
open OrderMessaging.Messaging.EventPublishers (kafkaException)

set_option autoImplicit false

def kafkaAdminError : ExcClass := runtimeError.subclass "KafkaAdminError"

/-- How a call stops without returning; a loop whose passes are used up is running. -/
inductive Halt where
  | raised (fault : Exc)
  | running
  deriving DecidableEq

def Halt.map (change : Exc → Exc) : Halt → Halt
  | raised fault => raised (change fault)
  | running => running

abbrev Config := List (Str × Str)

structure TopicSpec where
  name : Str
  partitionCount : Nat
  replicationFactor : Nat
  config : Config
  deriving DecidableEq

def defaultTopicPartitions : Nat := 3
def defaultTopicReplicationFactor : Nat := 1
def defaultTopicConfig : Config :=
  [("cleanup.policy", "delete"), ("retention.ms", "600000")]

/-- `TopicSpec(name)`. -/
def TopicSpec.named (name : Str) : TopicSpec :=
  ⟨name, defaultTopicPartitions, defaultTopicReplicationFactor, defaultTopicConfig⟩

structure TopicMetadata where
  name : Str
  partitionIds : List Nat
  replicationFactors : List Nat
  requestedConfig : Config
  deriving DecidableEq

def TopicMetadata.partitionCount (metadata : TopicMetadata) : Nat := metadata.partitionIds.length

section Cluster

inductive Request where
  | create (topic : TopicSpec)
  | delete (name : Str)
  deriving DecidableEq

/-- A future: its request, and when and how the broker answered it. -/
structure Ticket where
  request : Request
  answer : Option (ℚ × Except Exc Unit)

/-- `past` are the topics that were ever created, `failures` the exceptions that
the client has raised. -/
structure Cluster where
  clock : ℚ
  topics : Str → Option TopicSpec
  past : List TopicSpec
  tickets : List Ticket
  failures : List Exc

def topicExists (name : Str) : Exc :=
  ⟨kafkaException, "KafkaError\x7bcode=TOPIC_ALREADY_EXISTS,val=36,str=\"Topic '" ++ name ++
    "' already exists.\"\x7d"⟩

def unknownTopic : Exc :=
  ⟨kafkaException, "KafkaError\x7bcode=UNKNOWN_TOPIC_OR_PART,val=3,str=\"Broker: Unknown topic " ++
    "or partition\"\x7d"⟩

def Cluster.addTopic (cluster : Cluster) (topic : TopicSpec) : Cluster :=
  { cluster with
    topics := Function.update cluster.topics topic.name (some topic)
    past := cluster.past ++ [topic] }

def Cluster.dropTopic (cluster : Cluster) (name : Str) : Cluster :=
  { cluster with topics := Function.update cluster.topics name none }

def Cluster.carryOut (cluster : Cluster) : Request → Except Exc Unit × Cluster
  | .create topic =>
      match cluster.topics topic.name with
      | some _ => (.error (topicExists topic.name), cluster)
      | none => (.ok (), cluster.addTopic topic)
  | .delete name =>
      match cluster.topics name with
      | none => (.error unknownTopic, cluster)
      | some _ => (.ok (), cluster.dropTopic name)

def Cluster.settle (cluster : Cluster) (future : Nat) (answer : Except Exc Unit) : Cluster :=
  { cluster with
    tickets := cluster.tickets.modify future fun ticket =>
      { ticket with answer := some (cluster.clock, answer) } }

/-- The broker answers a future that is open, by its own refusal or by doing it. -/
def Cluster.serve (cluster : Cluster) (future : Nat) (refusal : Option Exc) : Cluster :=
  match cluster.tickets[future]? with
  | some ⟨request, none⟩ =>
      match refusal with
      | some fault => cluster.settle future (.error fault)
      | none =>
          let (answer, reached) := cluster.carryOut request
          reached.settle future answer
  | _ => cluster

/-- What goes on before a call gets through: time passes, and futures are served. -/
structure Meanwhile where
  time : ℚ
  forward : 0 ≤ time
  served : List (Nat × Option Exc)

def Cluster.elapse (cluster : Cluster) (meanwhile : Meanwhile) : Cluster :=
  meanwhile.served.foldl (fun reached each => reached.serve each.1 each.2)
    { cluster with clock := cluster.clock + meanwhile.time }

/-- An entry of `ClusterMetadata.topics`: the keys of its partitions, and how many
replicas each has. -/
structure TopicReport where
  error : Option Str
  partitionIds : List Nat
  replicaCount : Nat → Nat

abbrev ClusterMetadata := Str → Option TopicReport

/-- How much of which topic a metadata answer shows under a name. -/
structure Sighting where
  topic : TopicSpec
  error : Option Str
  partitionIds : List Nat

def Cluster.report (cluster : Cluster) (sights : Str → Option Sighting) : ClusterMetadata :=
  fun name => (sights name).bind fun sight =>
    if sight.topic ∈ cluster.past ∧ sight.topic.name = name then
      some ⟨sight.error, sight.partitionIds.dedup.filter (· < sight.topic.partitionCount),
        fun _ => sight.topic.replicationFactor⟩
    else none

inductive Op where
  | monotonic
  | sleep (seconds : ℚ)
  | createTopics (topic : TopicSpec)
  | deleteTopics (name : Str)
  | result (future : Nat)
  | listTopics

abbrev Op.Ret : Op → Type
  | monotonic => ℚ
  | sleep _ => Unit
  | createTopics _ => Nat
  | deleteTopics _ => Nat
  | result _ => Unit
  | listTopics => ClusterMetadata

abbrev Op.Choice : Op → Type
  | monotonic => Meanwhile
  | sleep _ => Meanwhile
  | createTopics _ => Meanwhile × Option Exc
  | deleteTopics _ => Meanwhile × Option Exc
  | result _ => Meanwhile × Option Exc
  | listTopics => Meanwhile × Except Exc (Str → Option Sighting)

def noResult : Exc := ⟨timeoutError, []⟩

def Cluster.raise {Value : Type} (cluster : Cluster) (fault : Exc) :
    Except Halt Value × Cluster :=
  (.error (.raised fault), { cluster with failures := fault :: cluster.failures })

def Cluster.submit (cluster : Cluster) (request : Request) : Option Exc → Except Halt Nat × Cluster
  | some fault => cluster.raise fault
  | none =>
      (.ok cluster.tickets.length, { cluster with tickets := cluster.tickets ++ [⟨request, none⟩] })

/-- `future.result(timeout)`; an answer can get lost on its way. -/
def Cluster.result (cluster : Cluster) (future : Nat) : Option Exc → Except Halt Unit × Cluster
  | some fault => cluster.raise fault
  | none =>
      match (cluster.tickets[future]?).bind Ticket.answer with
      | some (_, .ok ()) => (.ok (), cluster)
      | some (_, .error fault) => cluster.raise fault
      | none => cluster.raise noResult

def exec : Semantics Halt Op.Ret Op.Choice Cluster
  | .monotonic, meanwhile, cluster =>
      let reached := cluster.elapse meanwhile
      (.ok reached.clock, reached)
  | .sleep seconds, meanwhile, cluster =>
      let reached := cluster.elapse meanwhile
      if seconds < 0 then reached.raise ⟨valueError, "sleep length must be non-negative"⟩
      else (.ok (), { reached with clock := reached.clock + seconds })
  | .createTopics topic, (meanwhile, failure), cluster =>
      (cluster.elapse meanwhile).submit (.create topic) failure
  | .deleteTopics name, (meanwhile, failure), cluster =>
      (cluster.elapse meanwhile).submit (.delete name) failure
  | .result future, (meanwhile, failure), cluster =>
      (cluster.elapse meanwhile).result future failure
  | .listTopics, (meanwhile, .error fault), cluster => (cluster.elapse meanwhile).raise fault
  | .listTopics, (meanwhile, .ok sights), cluster =>
      let reached := cluster.elapse meanwhile
      (.ok (reached.report sights), reached)

end Cluster

section Operations

variable (runtime : PublisherRuntime)

def unavailable (name detail : Str) : Exc :=
  ⟨kafkaAdminError, "Kafka topic " ++ runtime.repr name ++ " is unavailable: " ++ detail⟩

def creationFailed (name : Str) (cause : Exc) : Exc :=
  ⟨kafkaAdminError, "Failed to create Kafka topic " ++ runtime.repr name ++ ": " ++ cause.message⟩

def deletionFailed (name : Str) (cause : Exc) : Exc :=
  ⟨kafkaAdminError, "Failed to delete Kafka topic " ++ runtime.repr name ++ ": " ++ cause.message⟩

def notExposed (spec : TopicSpec) (timeoutSeconds : ℚ) (last : Option Exc) : Exc :=
  let detail : Str := match last with
    | some error => " Last metadata result: " ++ error.message
    | none => []
  ⟨kafkaAdminError, "Kafka topic " ++ runtime.repr spec.name ++ " did not expose " ++
    PyVal.decimal spec.partitionCount ++ " partitions within " ++
    runtime.oneDecimal timeoutSeconds ++ " seconds." ++ detail⟩

def remainedVisible (name : Str) (timeoutSeconds : ℚ) : Exc :=
  ⟨kafkaAdminError, "Kafka topic " ++ runtime.repr name ++ " remained visible for more than " ++
    runtime.oneDecimal timeoutSeconds ++ " seconds after deletion."⟩

def describeTopic (name : Str) (requestedConfig : Option Config) :
    Prog Halt Op.Ret TopicMetadata := do
  let clusterMetadata ← Prog.perform Op.listTopics
  match clusterMetadata name with
  | none => Prog.raise (.raised (unavailable runtime name "not found"))
  | some report =>
      match report.error with
      | some error => Prog.raise (.raised (unavailable runtime name error))
      | none =>
          let partitionIds := report.partitionIds.insertionSort (· ≤ ·)
          pure ⟨name, partitionIds, partitionIds.map report.replicaCount, requestedConfig.getD []⟩

/-- A `frozenset` of names, by what is in it. -/
def listTopicNames : Prog Halt Op.Ret (Str → Bool) := do
  let metadata ← Prog.perform Op.listTopics
  pure fun name => (metadata name).isSome

def pollInterval : ℚ := 1 / 10

/-- The administration adapter. A call of it may pass through its wait as often as
its timeout can need. -/
structure KafkaTopicAdmin where
  timeoutSeconds : ℚ
  passes : Nat
  enough : ⌈timeoutSeconds / pollInterval⌉₊ < passes

variable (admin : KafkaTopicAdmin)

/-- `while monotonic() < deadline: look; sleep(0.1)`, and the error after it. -/
def pollUntil {State Value : Type} (deadline : ℚ)
    (look : State → Prog Halt Op.Ret (Pass State Value)) (expired : State → Exc) :
    Poll Halt Op.Ret State Value ℚ where
  deadline := deadline
  now := Prog.perform Op.monotonic
  look := look
  wait := Prog.perform (Op.sleep pollInterval)
  expired state := .raised (expired state)

def KafkaTopicAdmin.await {State Value : Type}
    (look : State → Prog Halt Op.Ret (Pass State Value)) (expired : State → Exc) (state : State) :
    Prog Halt Op.Ret Value := do
  let started ← Prog.perform Op.monotonic
  (pollUntil (started + admin.timeoutSeconds) look expired).loop .running admin.passes state

def lookForPartitions (spec : TopicSpec) (last : Option Exc) :
    Prog Halt Op.Ret (Pass (Option Exc) TopicMetadata) := do
  match ← Prog.attempt (describeTopic runtime spec.name (some spec.config)) with
  | .ok metadata =>
      if metadata.partitionCount = spec.partitionCount then pure (.leave metadata)
      else pure (.again last)
  | .error (.raised fault) =>
      if fault.isInstance [kafkaAdminError] then pure (.again (some fault))
      else Prog.raise (.raised fault)
  | .error .running => Prog.raise .running

def KafkaTopicAdmin.createTopic (spec : TopicSpec) : Prog Halt Op.Ret TopicMetadata := do
  let future ← Prog.perform (Op.createTopics spec)
  Prog.mapFault (Halt.map (creationFailed runtime spec.name)) (Prog.perform (Op.result future))
  admin.await (lookForPartitions runtime spec) (notExposed runtime spec admin.timeoutSeconds) none

def lookForAbsence (name : Str) (_ : Unit) : Prog Halt Op.Ret (Pass Unit Unit) := do
  let names ← listTopicNames
  if names name then pure (.again ()) else pure (.leave ())

def KafkaTopicAdmin.deleteTopic (name : Str) : Prog Halt Op.Ret Unit := do
  let future ← Prog.perform (Op.deleteTopics name)
  Prog.mapFault (Halt.map (deletionFailed runtime name)) (Prog.perform (Op.result future))
  admin.await (lookForAbsence name) (fun _ => remainedVisible runtime name admin.timeoutSeconds) ()

end Operations

end OrderMessaging.Messaging.TopicAdmin
