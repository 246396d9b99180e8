import OrderMessaging.Library.JsonText
import OrderMessaging.Library.ReplacingDecoder
import OrderMessaging.Contracts.Reference
import OrderMessaging.Processing.DeliveryTranscript
import OrderMessaging.Processing.NotificationClient

/-!
The envelope of a dead letter. Its key is text from the event, from a decoding
with replacement or from a fresh identifier, and its headers are names, so both
can be encoded whatever a producer wrote. What is left is its value: it can be
built exactly when `json.dumps` prints it.
-/

namespace OrderMessaging.Processing.DeadLetterEnvelope

open OrderMessaging.PyText OrderMessaging.PyException OrderMessaging.PyValue
open OrderMessaging.JsonText OrderMessaging.ReplacingDecoder OrderMessaging.Contracts.Models
open OrderMessaging.Contracts.Validation
open OrderMessaging.Contracts.Reference OrderMessaging.Processing.KafkaCollaborators
open OrderMessaging.Processing.RetryAndDeadLetter OrderMessaging.Processing.KafkaDelivery
open OrderMessaging.Processing.DeliveryTranscript OrderMessaging.Processing.NotificationClient

set_option autoImplicit false

def Printable (runtime : Runtime) (value : PyVal) : Prop :=
  ∃ printed, runtime.dumps value = .ok printed

/-- Texts of the JSON module: `dumps` escapes what has no UTF-8 form, and the names
of the exception classes that `loads` raises are text. -/
structure JsonTexts (runtime : Runtime) : Prop where
  escaped : ∀ value printed, runtime.dumps value = .ok printed → Encodable printed
  named : ∀ text fault, runtime.loads text = .error fault → Encodable fault.type.name

/-- What a dead letter of the record carries: the document and the event that were
decoded from it, or what is salvaged from a value that does not decode. -/
inductive Carried (runtime : Runtime) (message : Message) : PyVal → Option OrderCreatedEvent → Prop
    where
  | salvaged (cause : Exc) (undecoded : decodeValue runtime message.value = .error cause) :
      Carried runtime message (safeOriginalPayload runtime message.value) none
  | decoded (payload : PyVal) (event : OrderCreatedEvent)
      (read : decodeValue runtime message.value = .ok (payload, event)) :
      Carried runtime message payload (some event)

/-- `json.dumps` prints the envelope of the record, whatever failed and after however
many of the attempts that the policy allows. -/
def EnvelopePrints (runtime : Runtime) (policy : RetryPolicy) (message : Message) : Prop :=
  ∀ payload event, Carried runtime message payload event →
    ∀ error attempts deadLetterId isoformat, attempts ≤ policy.maxAttempts →
      Printable runtime (.dict ((failureOf message payload error attempts event).toWireDict
        deadLetterId isoformat))

section Envelope

variable {runtime : Runtime} {failure : DeadLetterFailure}

theorem decimal_encodable (number : Nat) : Encodable (PyVal.decimal number) :=
  of_string_encodable _

/-- What a failure must consist of for its key and headers to have a UTF-8 form. -/
structure Presentable (failure : DeadLetterFailure) : Prop where
  eventId : ∀ text, failure.eventId = some text → Encodable text
  key : ∀ text, failure.key = some text → Encodable text
  sourceTopic : Encodable failure.sourceTopic
  errorType : Encodable failure.errorType

theorem or_else_cases (first second : Option Str) :
    orElse first second = first ∨ orElse first second = second := by
  rcases first with _ | _ | ⟨head, tail⟩
  · exact .inr rfl
  · exact .inr rfl
  · exact .inl rfl

theorem record_key_encodable (presentable : Presentable failure) (deadLetterId : Uuid) :
    Encodable (failure.recordKey deadLetterId) := by
  unfold DeadLetterFailure.recordKey
  have identity : ∀ text, orElse failure.eventId failure.key = some text → Encodable text := by
    intro text same
    rcases or_else_cases failure.eventId failure.key with first | second
    · exact presentable.eventId text (first.symm.trans same)
    · exact presentable.key text (second.symm.trans same)
  rcases or_else_cases (orElse failure.eventId failure.key) (some deadLetterId.str) with
    first | second
  · rw [first]
    cases named : orElse failure.eventId failure.key with
    | none => exact encodable_nil
    | some text => exact identity text named
  · rw [second]
    exact ascii_encodable (uuid_ascii deadLetterId)

theorem headers_built (presentable : Presentable failure) :
    ∃ built, headers runtime failure = .ok built := by
  obtain ⟨contentType, first⟩ := encode_encodable runtime (of_string_encodable "application/json")
  obtain ⟨sourceTopic, second⟩ := encode_encodable runtime presentable.sourceTopic
  obtain ⟨errorType, third⟩ := encode_encodable runtime presentable.errorType
  obtain ⟨attempts, fourth⟩ := encode_encodable runtime (decimal_encodable failure.attempts)
  simp only [headers, first, second, third, fourth]
  exact ⟨_, rfl⟩

/-- The envelope of a presentable failure is built exactly when it is printed. -/
theorem dlq_record_error_iff (json : JsonTexts runtime) (topic : Str)
    (presentable : Presentable failure) {deadLetterId : Uuid} {isoformat : Str} {fault : Exc} :
    dlqRecord runtime topic failure deadLetterId isoformat = .error fault ↔
      runtime.dumps (.dict (failure.toWireDict deadLetterId isoformat)) = .error fault := by
  obtain ⟨key, keyed⟩ := encode_encodable runtime (record_key_encodable presentable deadLetterId)
  obtain ⟨built, headed⟩ := @headers_built runtime failure presentable
  simp only [dlqRecord, keyed, Bind.bind, Except.bind]
  cases printed : runtime.dumps (.dict (failure.toWireDict deadLetterId isoformat)) with
  | error refused => simp
  | ok text =>
      obtain ⟨value, encoded⟩ := encode_encodable runtime (json.escaped _ text printed)
      simp [encoded, headed]

theorem dlq_record_built (json : JsonTexts runtime) (topic : Str)
    (presentable : Presentable failure) {deadLetterId : Uuid} {isoformat : Str}
    (printable : Printable runtime (.dict (failure.toWireDict deadLetterId isoformat))) :
    ∃ record, dlqRecord runtime topic failure deadLetterId isoformat = .ok record := by
  obtain ⟨text, printed⟩ := printable
  cases built : dlqRecord runtime topic failure deadLetterId isoformat with
  | ok record => exact ⟨record, rfl⟩
  | error fault =>
      have refused := (dlq_record_error_iff json topic presentable).mp built
      rw [printed] at refused
      cases refused

theorem key_text_encodable {key : Option ByteArray} {text : Str} (same : keyText key = some text) :
    Encodable text := by
  cases key with
  | none => cases same
  | some bytes =>
      rw [keyText] at same
      split at same
      · cases same
      · cases same
        exact decode_replacing_encodable bytes

/-- A failure of any record is presentable: what the broker chose is decoded with
replacement, and the rest is text. -/
theorem failure_presentable {message : Message} {error : Exc}
    (sourceTopic : Encodable message.topic) (named : Encodable error.type.name)
    (originalPayload : PyVal) (attempts : Nat) (event : Option OrderCreatedEvent) :
    Presentable (failureOf message originalPayload error attempts event) := by
  constructor
  case eventId =>
    intro text same
    obtain ⟨known, _, rfl⟩ := Option.map_eq_some_iff.mp same
    exact ascii_encodable (uuid_ascii known.eventId)
  case key => exact fun text => key_text_encodable
  case sourceTopic => exact sourceTopic
  case errorType => exact named

/-- The text of a value, as the decoding step hands it to the JSON module. -/
def valueText (runtime : Runtime) : Option ByteArray → Except Exc Str
  | some data => decode runtime data
  | none => .ok []

/-- The decoding step after the text. -/
def readEvent (runtime : Runtime) (text : Str) : Except Exc (PyVal × OrderCreatedEvent) := do
  let payload ← runtime.loads text
  requireObject payload
  let event ← parseOrderCreatedEvent runtime payload
  .ok (payload, event)

theorem decode_value_eq (value : Option ByteArray) :
    decodeValue runtime value = valueText runtime value >>= readEvent runtime := by
  cases value <;> rfl

/-- The payload of a decoded value is what the JSON module read from its text. -/
theorem decoded_read {value : Option ByteArray} {payload : PyVal} {event : OrderCreatedEvent}
    (decoded : decodeValue runtime value = .ok (payload, event)) :
    ∃ text, valueText runtime value = .ok text ∧ runtime.loads text = .ok payload := by
  rw [decode_value_eq] at decoded
  obtain ⟨text, decodedText, read⟩ := bind_ok_iff.mp decoded
  obtain ⟨loaded, found, checked⟩ := bind_ok_iff.mp read
  obtain ⟨_, _, parsed⟩ := bind_ok_iff.mp checked
  obtain ⟨_, _, same⟩ := bind_ok_iff.mp parsed
  cases same
  exact ⟨text, decodedText, found⟩

theorem parse_fault_named {payload : PyVal} {fault : Exc} (object : payload.isDict = true)
    (refused : parseOrderCreatedEvent runtime payload = .error fault) :
    Encodable fault.type.name := by
  cases payload with
  | dict entries =>
      rcases parse_of_to_dict runtime (PyVal.to_dict_dict entries) with
        ⟨_, modelled⟩ | ⟨_, _, message, contract⟩ | ⟨_, _, unprinted, raised⟩
      · rw [modelled, modelValidateJson] at refused
        split at refused
        · split at refused
          · cases refused
          · cases refused
            exact of_string_encodable _
        · cases refused
          exact of_string_encodable _
      · rw [contract] at refused
        cases refused
        exact of_string_encodable _
      · rw [raised] at refused
        cases refused
        cases unprinted <;> exact of_string_encodable _
  | none | bool _ | int _ | float _ | str _ | list _ => cases object

/-- The decoding step raises only exceptions whose class has a text name. -/
theorem decode_fault_named (json : JsonTexts runtime) {value : Option ByteArray} {fault : Exc}
    (undecoded : decodeValue runtime value = .error fault) : Encodable fault.type.name := by
  rw [decode_value_eq] at undecoded
  cases decoded : valueText runtime value with
  | error refused =>
      rw [decoded] at undecoded
      cases undecoded
      cases value with
      | none => cases decoded
      | some data =>
          rw [valueText, decode] at decoded
          split at decoded
          · cases decoded
          · cases decoded
            exact of_string_encodable _
  | ok text =>
      simp only [decoded, readEvent, Bind.bind, Except.bind] at undecoded
      cases read : runtime.loads text with
      | error refused =>
          rw [read] at undecoded
          cases undecoded
          exact json.named text fault read
      | ok payload =>
          simp only [read, requireObject] at undecoded
          by_cases object : payload.isDict = true
          · simp only [if_pos object] at undecoded
            cases outcome : parseOrderCreatedEvent runtime payload with
            | error refused =>
                rw [outcome] at undecoded
                cases undecoded
                exact parse_fault_named object outcome
            | ok event =>
                rw [outcome] at undecoded
                cases undecoded
          · simp only [if_neg object] at undecoded
            cases undecoded
            exact of_string_encodable _

end Envelope

section Reference

theorem reference_dumps_iff {value : PyVal} {printed : Str} :
    referenceRuntime.dumps value = .ok printed ↔ PyJson.dumps floatText value = some printed := by
  simp only [referenceRuntime]
  cases PyJson.dumps floatText value <;> simp

theorem reference_printable_iff {value : PyVal} :
    Printable referenceRuntime value ↔ TextKeyed value := by
  constructor
  · rintro ⟨printed, dumped⟩
    exact text_keyed_of_dumps value printed (reference_dumps_iff.mp dumped)
  · intro keyed
    obtain ⟨printed, dumped, _⟩ := dumps_encodable float_text_encodable value keyed
    exact ⟨printed, reference_dumps_iff.mpr dumped⟩

theorem reference_json : JsonTexts referenceRuntime := by
  constructor
  case escaped =>
    intro value printed dumped
    have same := reference_dumps_iff.mp dumped
    obtain ⟨text, again, encodable⟩ :=
      dumps_encodable float_text_encodable value (text_keyed_of_dumps value printed same)
    rw [same] at again
    cases again
    exact encodable
  case named =>
    intro text fault refused
    simp only [referenceRuntime, PyJson.loads] at refused
    split at refused
    · cases refused
      exact of_string_encodable _
    · split at refused
      · split at refused
        · cases refused
        · cases refused
          exact of_string_encodable _
      · cases refused
        exact of_string_encodable _

/-- What the library reads it prints, alone and in an envelope. -/
theorem salvaged_text_keyed (value : Option ByteArray) :
    TextKeyed (safeOriginalPayload referenceRuntime value) := by
  cases value with
  | none => exact trivial
  | some data =>
      rw [safeOriginalPayload]
      split
      next payload read =>
        obtain ⟨text, _, loaded⟩ := bind_ok_iff.mp read
        exact loads_text_keyed loaded
      next => exact trivial

theorem wire_printable {failure : DeadLetterFailure} (payload : TextKeyed failure.originalPayload)
    (deadLetterId : Uuid) (isoformat : Str) :
    Printable referenceRuntime (.dict (failure.toWireDict deadLetterId isoformat)) := by
  have optional : ∀ text, TextKeyed (textOrNone text) := by
    rintro (_ | text) <;> exact trivial
  apply reference_printable_iff.mpr
  simp [TextKeyed, TextKeyedEntries, DeadLetterFailure.toWireDict, optional, payload]

theorem reference_envelope_prints (policy : RetryPolicy) (message : Message) :
    EnvelopePrints referenceRuntime policy message := by
  intro payload event carried error attempts deadLetterId isoformat _
  apply wire_printable
  cases carried with
  | salvaged cause undecoded => exact salvaged_text_keyed message.value
  | decoded payload event read =>
      obtain ⟨text, _, loaded⟩ := decoded_read read
      exact loads_text_keyed loaded

/-- A byte that no UTF-8 text contains. -/
def strayByte : ByteArray := ⟨#[0xFF]⟩

theorem stray_byte_undecoded :
    decodeValue referenceRuntime (some strayByte) =
      .error ⟨unicodeDecodeError, referenceRuntime.decodeMessage strayByte⟩ := by
  have undecoded : decodeUtf8 strayByte = none := by decide +kernel
  rw [decode_value_eq, valueText, decode, undecoded]
  rfl

theorem stray_byte_built {message : Message} (sourceTopic : Encodable message.topic) (topic : Str)
    (deadLetterId : Uuid) (isoformat : Str) :
    ∃ record, dlqRecord referenceRuntime topic (failureOf message
      (safeOriginalPayload referenceRuntime (some strayByte))
      ⟨unicodeDecodeError, referenceRuntime.decodeMessage strayByte⟩ 1 none) deadLetterId
      isoformat = .ok record :=
  dlq_record_built reference_json topic
    (failure_presentable sourceTopic (of_string_encodable _) _ 1 none)
    (wire_printable (salvaged_text_keyed (some strayByte)) deadLetterId isoformat)

end Reference

end OrderMessaging.Processing.DeadLetterEnvelope
