import OrderMessaging.Contracts.WireFormat
import OrderMessaging.Messaging.SharedProducer
import OrderMessaging.Processing.RetryAndDeadLetter

/-!
The two implementations of `EventPublisher`. Both validate the event and print its
wire form with sorted keys; the Kafka value is UTF-8 with non-ASCII text as it is,
the SQS body escapes it. The Kafka publisher hands its record to the producer,
flushes and judges the outcome by what the flush returned and by what its own
delivery callback has collected.
-/

namespace OrderMessaging.Messaging.EventPublishers

open OrderMessaging.PyText OrderMessaging.PyException OrderMessaging.PyValue
open OrderMessaging.Program OrderMessaging.Contracts.Models OrderMessaging.Contracts.WireFormat
open OrderMessaging.Messaging.SharedProducer
open OrderMessaging.Processing.RetryAndDeadLetter
  (KafkaPublishReceipt eventPublishError encode receiptOf orElse)

set_option autoImplicit false

/-- The characters that `str.strip` removes. -/
def isWhitespace (point : CodePoint) : Bool :=
  decide ((0x09 ≤ point.val ∧ point.val ≤ 0x0D) ∨ (0x1C ≤ point.val ∧ point.val ≤ 0x20) ∨
    (0x2000 ≤ point.val ∧ point.val ≤ 0x200A) ∨
    point.val ∈ [0x85, 0xA0, 0x1680, 0x2028, 0x2029, 0x202F, 0x205F, 0x3000])

/-- `not text.strip()`. -/
def isBlank (text : Str) : Bool := text.all isWhitespace

def bufferError : ExcClass := baseException.subclass "BufferError"
def kafkaException : ExcClass := baseException.subclass "KafkaException"
def osError : ExcClass := baseException.subclass "OSError"
def botoCoreError : ExcClass := baseException.subclass "BotoCoreError"
def clientError : ExcClass := baseException.subclass "ClientError"

section Kafka

variable (runtime : PublisherRuntime)

def serializeOrderCreatedEvent (event : OrderCreatedEvent) : Except Exc ByteArray := do
  validateTypedEvent runtime event
  let text ← runtime.dumpsUnicode (.dict (eventToWireDict runtime event))
  encode runtime.toRuntime text

/-- The version and the identifier are ASCII, whose encoding is that of UTF-8. -/
def orderCreatedHeaders (event : OrderCreatedEvent) : Except Exc (List (Str × ByteArray)) := do
  let contentType ← encode runtime.toRuntime "application/json"
  let eventType ← encode runtime.toRuntime event.eventType
  let eventVersion ← encode runtime.toRuntime (PyJson.intText event.eventVersion)
  let eventId ← encode runtime.toRuntime event.eventId.str
  let correlationId ← encode runtime.toRuntime event.correlationId.text
  let causationId ← encode runtime.toRuntime event.causationId.text
  .ok [("content-type", contentType), ("event-type", eventType), ("event-version", eventVersion),
    ("event-id", eventId), ("correlation-id", correlationId), ("causation-id", causationId)]

structure KafkaEventPublisher where
  deliveryTimeoutSeconds : ℚ

variable (publisher : KafkaEventPublisher) (topic : Str) (event : OrderCreatedEvent)

def kafkaRejected (cause : Exc) : Exc :=
  ⟨eventPublishError, "Kafka rejected event " ++ event.eventId.str ++ " for topic " ++
    runtime.repr topic ++ ": " ++ cause.message⟩

/-- `except (BufferError, KafkaException, RuntimeError)`; anything else passes. -/
def wrapRejection (cause : Exc) : Exc :=
  if cause.isInstance [bufferError, kafkaException, runtimeError] then
    kafkaRejected runtime topic event cause
  else cause

def notAcknowledged (undelivered : Nat) : Exc :=
  ⟨eventPublishError, "Kafka did not acknowledge " ++ PyVal.decimal undelivered ++
    " queued record(s) within " ++ runtime.oneDecimal publisher.deliveryTimeoutSeconds ++
    " seconds; event_id=" ++ event.eventId.str ++ ", topic=" ++ runtime.repr topic ++ "."⟩

def deliveryFailed (error : Str) : Exc :=
  ⟨eventPublishError, "Kafka delivery failed for event " ++ event.eventId.str ++ " on topic " ++
    runtime.repr topic ++ ": " ++ error⟩

def notReported : Exc :=
  ⟨eventPublishError, "Kafka flush completed without one delivery report for event " ++
    event.eventId.str ++ " on topic " ++ runtime.repr topic ++ "."⟩

/-- The `try` block: the ticket of the record and what the flush returned. -/
def produceAndFlush (headers : List (Str × ByteArray)) (value : ByteArray) :
    Prog Exc Op.Ret (Nat × Nat) := do
  let key ← Prog.done (encode runtime.toRuntime event.data.orderId.text)
  let ticket ← Prog.perform (Op.produce ⟨topic, key, value, headers⟩)
  let undelivered ← Prog.perform (Op.flush publisher.deliveryTimeoutSeconds)
  pure (ticket, undelivered)

/-- What follows a flush that returned. -/
def judgeDelivery (headers : List (Str × ByteArray)) (ticket undelivered : Nat) :
    Prog Exc Op.Ret KafkaPublishReceipt :=
  if undelivered ≠ 0 then Prog.raise (notAcknowledged runtime publisher topic event undelivered)
  else do
    match ← Prog.perform (Op.deliveryErrors ticket) with
    | error :: _ => Prog.raise (deliveryFailed runtime topic event error)
    | [] =>
        match ← Prog.perform (Op.deliveredMessages ticket) with
        | [message] => pure (receiptOf event.data.orderId.text headers message)
        | _ => Prog.raise (notReported runtime topic event)

/-- `KafkaEventPublisher.publish_order_created`. -/
def publishToKafka : Prog Exc Op.Ret KafkaPublishReceipt :=
  if isBlank topic then Prog.raise ⟨valueError, "Kafka topic must not be blank."⟩
  else do
    let headers ← Prog.done (orderCreatedHeaders runtime event)
    let value ← Prog.done (serializeOrderCreatedEvent runtime event)
    let (ticket, undelivered) ← Prog.mapFault (wrapRejection runtime topic event)
      (produceAndFlush runtime publisher topic event headers value)
    judgeDelivery runtime publisher topic event headers ticket undelivered

end Kafka

section Sqs

/-- A message attribute: its data type and its string value. -/
structure MessageAttribute where
  dataType : Str
  stringValue : Str

structure SendMessageRequest where
  queueUrl : Str
  messageBody : Str
  messageAttributes : List (Str × MessageAttribute)
  messageGroupId : Option Str
  messageDeduplicationId : Option Str

structure SendMessageResponse where
  messageId : Str
  md5OfMessageBody : Str
  sequenceNumber : Option Str

structure SqsPublishReceipt where
  messageId : Str
  md5OfBody : Str
  sequenceNumber : Option Str

inductive SqsOp where
  | sendMessage (request : SendMessageRequest)

abbrev SqsOp.Ret : SqsOp → Type
  | sendMessage _ => SendMessageResponse

variable (runtime : PublisherRuntime) (destination : Str) (event : OrderCreatedEvent)
variable (messageGroupId deduplicationId : Option Str)

def messageAttributes : List (Str × MessageAttribute) :=
  [("event-type", ⟨"String", event.eventType⟩),
    ("event-version", ⟨"Number", PyJson.intText event.eventVersion⟩),
    ("event-id", ⟨"String", event.eventId.str⟩),
    ("correlation-id", ⟨"String", event.correlationId.text⟩),
    ("content-type", ⟨"String", "application/json"⟩)]

def sendMessageRequest : Except Exc SendMessageRequest := do
  validateTypedEvent runtime event
  let messageBody ← runtime.dumps (.dict (eventToWireDict runtime event))
  .ok ⟨destination, messageBody, messageAttributes event, messageGroupId,
    if messageGroupId.isSome then orElse deduplicationId (some event.eventId.str) else none⟩

def sqsRejected (cause : Exc) : Exc :=
  ⟨eventPublishError, "SQS rejected event " ++ event.eventId.str ++ " for queue " ++
    runtime.repr destination ++ ": " ++ cause.message⟩

/-- `except (BotoCoreError, ClientError, OSError)`. -/
def wrapSqsRejection (cause : Exc) : Exc :=
  if cause.isInstance [botoCoreError, clientError, osError] then
    sqsRejected runtime destination event cause
  else cause

/-- `SqsEventPublisher.publish_order_created`. -/
def publishToSqs : Prog Exc SqsOp.Ret SqsPublishReceipt :=
  if isBlank destination then Prog.raise ⟨valueError, "SQS queue URL must not be blank."⟩
  else do
    let request ← Prog.done
      (sendMessageRequest runtime destination event messageGroupId deduplicationId)
    let response ← Prog.mapFault (wrapSqsRejection runtime destination event)
      (Prog.perform (SqsOp.sendMessage request))
    pure ⟨response.messageId, response.md5OfMessageBody, response.sequenceNumber⟩

end Sqs

end OrderMessaging.Messaging.EventPublishers
