import OrderMessaging.Processing.KafkaCollaborators

/-!
The bounded retry policy and the dead-letter publisher. A publication counts as
done only when the flush leaves nothing queued and exactly one delivery without
error was reported.
-/

namespace OrderMessaging.Processing.RetryAndDeadLetter

open OrderMessaging.PyText OrderMessaging.PyException OrderMessaging.PyValue
open OrderMessaging.Program OrderMessaging.Contracts.Models
open OrderMessaging.Processing.KafkaCollaborators

set_option autoImplicit false

/-- `threading.TIMEOUT_MAX`: a longer wait raises `OverflowError`. -/
def timeoutMax : ℚ := 9223372036

theorem timeout_max_nonneg : 0 ≤ timeoutMax := Nat.cast_nonneg 9223372036

/-- A policy that the constructor accepts and whose backoff can be waited for. -/
structure RetryPolicy where
  maxAttempts : Nat
  backoffSeconds : ℚ
  retryableErrors : List ExcClass
  maxAttempts_pos : 0 < maxAttempts
  backoffSeconds_nonneg : 0 ≤ backoffSeconds
  backoffSeconds_le : backoffSeconds ≤ timeoutMax

def RetryPolicy.isRetryable (policy : RetryPolicy) (error : Exc) : Bool :=
  error.isInstance policy.retryableErrors

structure DeadLetterFailure where
  sourceTopic : Str
  sourcePartition : Nat
  sourceOffset : Nat
  key : Option Str
  eventId : Option Str
  correlationId : Option Str
  attempts : Nat
  errorType : Str
  errorMessage : Str
  originalPayload : PyVal

structure KafkaPublishReceipt where
  topic : Str
  partition : Nat
  offset : Nat
  timestampMs : Option Int
  key : Str
  headers : List (Str × ByteArray)

def eventPublishError : ExcClass := runtimeError.subclass "EventPublishError"

def textOrNone : Option Str → PyVal
  | some text => .str text
  | none => .none

/-- The envelope, given the dead-letter ID and the time that it was made with. -/
def DeadLetterFailure.toWireDict (failure : DeadLetterFailure) (deadLetterId : Uuid)
    (isoformat : Str) : List (PyVal × PyVal) :=
  [(.str "dead_letter_id", .str deadLetterId.str),
    (.str "failed_at", .str (replaceText isoformat "+00:00" "Z")),
    (.str "source_topic", .str failure.sourceTopic),
    (.str "source_partition", .int failure.sourcePartition),
    (.str "source_offset", .int failure.sourceOffset),
    (.str "key", textOrNone failure.key),
    (.str "event_id", textOrNone failure.eventId),
    (.str "correlation_id", textOrNone failure.correlationId),
    (.str "attempts", .int failure.attempts),
    (.str "error_type", .str failure.errorType),
    (.str "error_message", .str failure.errorMessage),
    (.str "original_payload", failure.originalPayload)]

/-- `a or b` between optional texts: the empty text is false. -/
def orElse (first second : Option Str) : Option Str :=
  match first with
  | some (head :: tail) => some (head :: tail)
  | _ => second

def DeadLetterFailure.recordKey (failure : DeadLetterFailure) (deadLetterId : Uuid) : Str :=
  (orElse (orElse failure.eventId failure.key) (some deadLetterId.str)).getD []

section Publisher

variable (runtime : Runtime)

def encode (text : Str) : Except Exc ByteArray :=
  match encodeUtf8 text with
  | some bytes => .ok bytes
  | none => .error ⟨unicodeEncodeError, runtime.encodeMessage text⟩

theorem encode_ok_iff {text : Str} {bytes : ByteArray} :
    encode runtime text = .ok bytes ↔ encodeUtf8 text = some bytes := by
  rw [encode]
  cases encodeUtf8 text <;> simp

theorem encode_encodable {text : Str} (encodable : Encodable text) :
    ∃ bytes, encode runtime text = .ok bytes := by
  rw [encode, encodeUtf8, if_pos encodable]
  exact ⟨_, rfl⟩

def headers (failure : DeadLetterFailure) : Except Exc (List (Str × ByteArray)) := do
  let contentType ← encode runtime "application/json"
  let sourceTopic ← encode runtime failure.sourceTopic
  let errorType ← encode runtime failure.errorType
  let attempts ← encode runtime (PyVal.decimal failure.attempts)
  .ok [("content-type", contentType), ("source-topic", sourceTopic), ("error-type", errorType),
    ("attempts", attempts)]

/-- The record that is produced for a failure, when all of it can be encoded. -/
def dlqRecord (topic : Str) (failure : DeadLetterFailure) (deadLetterId : Uuid) (isoformat : Str) :
    Except Exc DlqRecord := do
  let key ← encode runtime (failure.recordKey deadLetterId)
  let text ← runtime.dumps (.dict (failure.toWireDict deadLetterId isoformat))
  let value ← encode runtime text
  let headers ← headers runtime failure
  .ok ⟨topic, key, value, headers⟩

def publicationFailed (failure : DeadLetterFailure) (report : FlushReport) : Exc :=
  let detail := match report.errors with
    | error :: _ => error
    | [] => "undelivered=" ++ PyVal.decimal report.remaining
  ⟨eventPublishError, "DLQ publication failed for event " ++ failure.eventId.getD "None" ++ ": " ++
    detail⟩

/-- A negative timestamp stands for none. -/
def receiptOf (key : Str) (headers : List (Str × ByteArray)) (message : DeliveredMessage) :
    KafkaPublishReceipt :=
  ⟨message.topic, message.partition, message.offset,
    message.timestampMs.filter fun timestamp => 0 ≤ timestamp, key, headers⟩

def publishFailure (topic : Str) (failure : DeadLetterFailure) :
    Prog Exc Op.Ret KafkaPublishReceipt := do
  let deadLetterId ← Prog.perform Op.uuid4
  let isoformat ← Prog.perform Op.utcNow
  let record ← Prog.done (dlqRecord runtime topic failure deadLetterId isoformat)
  Prog.perform (Op.produce record)
  let report ← Prog.perform (Op.flush record)
  if report.remaining = 0 ∧ report.errors = [] then
    match report.delivered with
    | [message] => pure (receiptOf (failure.recordKey deadLetterId) record.headers message)
    | _ => Prog.raise (publicationFailed failure report)
  else Prog.raise (publicationFailed failure report)

end Publisher

end OrderMessaging.Processing.RetryAndDeadLetter
