import OrderMessaging.LocalLab.ConsumerControls
import OrderMessaging.Messaging.TopicAdmin
import OrderMessaging.Processing.PostgresOrderStore

/-!
`initialize_lab` over the services that it provisions: the Kafka cluster, the
queues of one SQS account and the schemas of one database. A call of SQS or of the
database may fail before it does anything, or afterwards.
-/

namespace OrderMessaging.LocalLab.ResourceSetup

open OrderMessaging.PyText OrderMessaging.PyException OrderMessaging.PyValue
open OrderMessaging.Program OrderMessaging.Contracts.WireFormat
open OrderMessaging.Messaging.TopicAdmin OrderMessaging.Processing.PostgresOrderStore
open OrderMessaging.LocalLab.ConsumerControls
open OrderMessaging.Messaging.EventPublishers (clientError)

set_option autoImplicit false

structure LabRuntime extends PublisherRuntime where
  /-- `json.dumps` with its default separators. -/
  dumpsSpaced : PyVal → Except Exc Str

/-- The resource names of `LocalLabConfig`. -/
structure LocalLabConfig where
  kafkaTopic : Str
  kafkaDlqTopic : Str
  sqsQueueName : Str
  sqsDlqName : Str
  kafkaSchema : Str
  sqsSchema : Str

def localTopicConfig : Config :=
  [("cleanup.policy", "delete"), ("retention.ms", "604800000")]

abbrev Attributes := List (Str × Str)

/-- How SQS addresses the queues of an account. -/
structure Endpoint where
  urlOf : Str → Str
  arnOf : Str → Str
  distinct : Function.Injective urlOf

section Services

/-- `controls` has no row as long as its table is missing. -/
structure Lab where
  kafka : Cluster
  queues : List (Str × Attributes)
  stores : Str → Option Tables
  controls : Controls

/-- What becomes of a call: it fails, or it is done and its answer is lost or not. -/
inductive Fate where
  | fails (fault : Exc)
  | lost (fault : Exc)
  | works

def Fate.over {Value : Type} (fate : Fate) (done : Except Exc Value × Lab) (lab : Lab) :
    Except Halt Value × Lab :=
  match fate with
  | fails fault => (.error (.raised fault), lab)
  | lost fault => (.error (.raised fault), done.2)
  | works => (done.1.mapError .raised, done.2)

def Carries (held wanted : Attributes) : Prop :=
  ∀ pair ∈ wanted, held.lookup pair.1 = some pair.2

instance (held wanted : Attributes) : Decidable (Carries held wanted) :=
  inferInstanceAs (Decidable (∀ pair ∈ wanted, _))

def queueAlreadyExists : Exc :=
  ⟨clientError, "An error occurred (QueueAlreadyExists) when calling the CreateQueue operation: " ++
    "A queue already exists with the same name and a different value for an attribute"⟩

def queueDoesNotExist : Exc :=
  ⟨clientError, "An error occurred (AWS.SimpleQueueService.NonExistentQueue) when calling the " ++
    "GetQueueAttributes operation: The specified queue does not exist."⟩

variable (endpoint : Endpoint)

/-- `CreateQueue` returns the queue of that name if it has the same attributes. -/
def Lab.createQueue (lab : Lab) (name : Str) (attributes : Attributes) : Except Exc Str × Lab :=
  match lab.queues.lookup name with
  | some held =>
      if Carries held attributes then (.ok (endpoint.urlOf name), lab)
      else (.error queueAlreadyExists, lab)
  | none =>
      (.ok (endpoint.urlOf name), { lab with queues := lab.queues ++ [(name, attributes)] })

def Lab.queueArn (lab : Lab) (url : Str) : Except Exc Str :=
  match lab.queues.find? fun queue => decide (endpoint.urlOf queue.1 = url) with
  | some queue => .ok (endpoint.arnOf queue.1)
  | none => .error queueDoesNotExist

inductive Op where
  | kafka (op : Messaging.TopicAdmin.Op)
  | createQueue (name : Str) (attributes : Attributes)
  | queueArn (url : Str)
  | initializeStore (schema : Str)
  | initializeControls

abbrev Op.Ret : Op → Type
  | kafka op => op.Ret
  | createQueue _ _ => Str
  | queueArn _ => Str
  | initializeStore _ => Unit
  | initializeControls => Unit

abbrev Op.Choice : Op → Type
  | kafka op => op.Choice
  | createQueue _ _ => Fate
  | queueArn _ => Fate
  | initializeStore _ => Fate
  | initializeControls => Fate

def exec : Semantics Halt Op.Ret Op.Choice Lab
  | .kafka op, choice, lab =>
      let (answer, kafka) := Messaging.TopicAdmin.exec op choice lab.kafka
      (answer, { lab with kafka := kafka })
  | .createQueue name attributes, fate, lab =>
      fate.over (lab.createQueue endpoint name attributes) lab
  | .queueArn url, fate, lab => fate.over (lab.queueArn endpoint url, lab) lab
  | .initializeStore schema, fate, lab =>
      let tables := Processing.PostgresOrderStore.initializeStore (lab.stores schema)
      fate.over (.ok (), { lab with stores := Function.update lab.stores schema (some tables) }) lab
  | .initializeControls, fate, lab =>
      let controls := LocalLab.ConsumerControls.initializeControls lab.controls
      fate.over (.ok (), { lab with controls := controls }) lab

end Services

section Setup

variable (runtime : LabRuntime) (settings : LocalLabConfig)

def labTopic (name : Str) : TopicSpec := ⟨name, 3, 1, localTopicConfig⟩

def ensureTopic (admin : KafkaTopicAdmin) (name : Str) : Prog Halt Messaging.TopicAdmin.Op.Ret Unit := do
  let names ← listTopicNames
  if names name then pure ()
  else do
    let _ ← admin.createTopic runtime.toPublisherRuntime (labTopic name)
    pure ()

def dlqAttributes : Attributes :=
  [("VisibilityTimeout", "10"), ("ReceiveMessageWaitTimeSeconds", "2")]

def redrivePolicy (dlqArn : Str) : Except Exc Str :=
  runtime.dumpsSpaced
    (.dict [(.str "deadLetterTargetArn", .str dlqArn), (.str "maxReceiveCount", .str "3")])

def queueAttributes (redrive : Str) : Attributes :=
  [("VisibilityTimeout", "10"), ("ReceiveMessageWaitTimeSeconds", "2"), ("RedrivePolicy", redrive)]

def raising {Value : Type} (result : Except Exc Value) : Prog Halt Op.Ret Value :=
  Prog.done (result.mapError .raised)

def ensureSqsQueues : Prog Halt Op.Ret (Str × Str) := do
  let dlqUrl ← Prog.perform (Op.createQueue settings.sqsDlqName dlqAttributes)
  let dlqArn ← Prog.perform (Op.queueArn dlqUrl)
  let redrive ← raising (redrivePolicy runtime dlqArn)
  let queueUrl ← Prog.perform (Op.createQueue settings.sqsQueueName (queueAttributes redrive))
  pure (queueUrl, dlqUrl)

/-- `_SCHEMA_NAME.fullmatch(schema)`. -/
def isSchemaName : Str → Bool
  | [] => false
  | first :: rest =>
      letter first && rest.all (fun point => letter point || digit point) &&
        decide (rest.length ≤ 62)
where
  letter (point : CodePoint) : Bool :=
    decide (0x61 ≤ point.val ∧ point.val ≤ 0x7A) || decide (point.val = 0x5F)
  digit (point : CodePoint) : Bool := decide (0x30 ≤ point.val ∧ point.val ≤ 0x39)

def unsafeSchema (schema : Str) : Exc :=
  ⟨valueError, "Unsafe PostgreSQL schema name: " ++ runtime.repr schema ++ "."⟩

/-- `PostgresOrderStore(dsn, schema).initialize()`. -/
def initializeSchema (schema : Str) : Prog Halt Op.Ret Unit :=
  if isSchemaName schema then Prog.perform (Op.initializeStore schema)
  else Prog.raise (.raised (unsafeSchema runtime schema))

theorem twenty_seconds : ⌈(20 : ℚ) / pollInterval⌉₊ < 201 := by
  have waits : (20 : ℚ) / pollInterval = (200 : ℕ) := by norm_num [pollInterval]
  rw [waits, Nat.ceil_natCast]
  decide

def labAdmin : KafkaTopicAdmin := ⟨20, 201, twenty_seconds⟩

def initializeLab : Prog Halt Op.Ret Unit := do
  (ensureTopic runtime labAdmin settings.kafkaTopic).rename Op.kafka
  (ensureTopic runtime labAdmin settings.kafkaDlqTopic).rename Op.kafka
  let _ ← ensureSqsQueues runtime settings
  initializeSchema runtime settings.kafkaSchema
  initializeSchema runtime settings.sqsSchema
  Prog.perform Op.initializeControls

end Setup

end OrderMessaging.LocalLab.ResourceSetup
