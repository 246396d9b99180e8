import OrderMessaging.Messaging.EventPublishers
import OrderMessaging.Processing.DecodeAgreement
import OrderMessaging.Processing.NotificationClient

/-!
Publishing an event and decoding it again, on both brokers. Each publisher prints
the wire form with its own printer; a reader that undoes that printer returns a
dictionary that still carries the event, and the strict parser reads it back.
-/

namespace OrderMessaging.Messaging.RoundTrip

open OrderMessaging.PyText OrderMessaging.PyException OrderMessaging.PyValue
open OrderMessaging.JsonText OrderMessaging.Program OrderMessaging.Transcript
open OrderMessaging.Contracts.Models OrderMessaging.Contracts.Validation
open OrderMessaging.Contracts.Reference OrderMessaging.Contracts.WireFormat
open OrderMessaging.Messaging.EventPublishers OrderMessaging.Processing.RetryAndDeadLetter
open OrderMessaging.Processing.KafkaDelivery OrderMessaging.Processing.SqsDelivery
open OrderMessaging.Processing.DecodeAgreement
open OrderMessaging.Contracts.Agreement (full_match_encodable)
open OrderMessaging.Processing.NotificationClient (ascii_encodable uuid_ascii)

set_option autoImplicit false

section Assumptions

variable (runtime : PublisherRuntime)

/-- `json.loads` undoes a printer on one value, up to the order of keys that the
printer sorts. -/
def Reads (dumps : PyVal → Except Exc Str) (value : PyVal) : Prop :=
  ∃ text, dumps value = .ok text ∧ runtime.loads text = .ok (sortKeys value)

instance (dumps : PyVal → Except Exc Str) (value : PyVal) :
    Decidable (Reads runtime dumps value) :=
  match printed : dumps value with
  | .ok text =>
      decidable_of_iff (runtime.loads text = .ok (sortKeys value))
        ⟨fun read => ⟨text, printed, read⟩, fun ⟨other, same, read⟩ => by
          rw [printed] at same
          cases same
          exact read⟩
  | .error _ => isFalse fun ⟨_, same, _⟩ => by
      rw [printed] at same
      cases same

/-- With `ensure_ascii=False` text is printed as text, and timestamps are text. -/
structure UnicodePrinter : Prop where
  printed : ∀ value text, runtime.dumpsUnicode value = .ok text → TextsEncodable value →
    Encodable text
  timestamp : ∀ moment, Encodable (runtime.renderDatetime moment)

/-- The model's parsers undo its rendering of an event's identifier and timestamp. -/
structure Rereads (event : OrderCreatedEvent) : Prop where
  eventId : (readText (.str event.eventId.str)).bind runtime.parseUuid = some event.eventId
  occurredAt : (readText (.str (runtime.renderDatetime event.occurredAt))).bind
    runtime.parseDatetime = some event.occurredAt

/-- The schema library's format checks accept what the model renders. -/
structure FormatsRendered (event : OrderCreatedEvent) : Prop where
  uuid : runtime.uuidFormat event.eventId.str = true
  dateTime : runtime.dateTimeFormat (runtime.renderDatetime event.occurredAt) = true

end Assumptions

/-- Both publications of an event decode to that event. -/
structure RoundTrips (runtime : PublisherRuntime) (event : OrderCreatedEvent) : Prop where
  kafka : ∃ data payload, serializeOrderCreatedEvent runtime event = .ok data ∧
    decodeValue runtime.toRuntime (some data) = .ok (payload, event)
  sqs : ∀ destination messageGroupId deduplicationId calls outcome,
    isBlank destination = false →
    Transcribes (publishToSqs runtime destination event messageGroupId deduplicationId) calls
      outcome →
    ∃ request answer, calls = [⟨.sendMessage request, answer⟩] ∧
      decodeBody runtime.toRuntime request.messageBody = .ok event

section Publishing

variable {runtime : PublisherRuntime} {event : OrderCreatedEvent}

theorem validate_typed_iff :
    validateTypedEvent runtime event = .ok () ↔
      runtime.uuidFormat event.eventId.str = true ∧
        runtime.dateTimeFormat (runtime.renderDatetime event.occurredAt) = true := by
  refine Iff.trans ?_ (carried_accepted_iff (dump_carries runtime event))
  rw [← contract_issues_eq_nil]
  simp only [validateTypedEvent, validateOrderCreatedContract, PyVal.to_dict_dict]
  dsimp only [Bind.bind, Except.bind]
  split
  · simp_all
  · simp_all

/-- The strict parser reads the event from the sorted dump. -/
theorem sorted_dump_parsed (rereads : Rereads runtime event)
    (valid : validateTypedEvent runtime event = .ok ()) :
    parseOrderCreatedEvent runtime.toRuntime (sortKeys (.dict (eventToWireDict runtime event))) =
      .ok event := by
  have carries := sorted_dump_carries runtime event
  refine parse_ok_iff.mpr ⟨sortEntries (eventToWireDict runtime event), rfl,
    (carried_accepted_iff carries).mpr (validate_typed_iff.mp valid), ?_⟩
  have short : PyVal.shortEntries (sortEntries (eventToWireDict runtime event)) = true :=
    sort_keys_short (.dict (eventToWireDict runtime event)) (dump_short runtime event)
  rw [modelValidateJson, if_pos short, carried_read carries rereads.eventId rereads.occurredAt]

theorem dump_encodable (printer : UnicodePrinter runtime) (event : OrderCreatedEvent) :
    TextsEncodable (.dict (eventToWireDict runtime event)) := by
  refine texts_encodable_entries_iff.mpr ?_
  have data := event.data.currency.shape
  simp [eventToWireDict, dataToWireDict, TextsEncodable, TextsEncodableEntries,
    of_string_encodable, event.correlationId.encodable, event.causationId.encodable,
    event.data.orderId.encodable, event.data.customerId.encodable, full_match_encodable data,
    printer.timestamp, ascii_encodable (uuid_ascii event.eventId), OrderCreatedEvent.eventType,
    OrderCreatedEvent.producer]

/-- What was serialized is decoded. -/
theorem serialized_decoded {data : ByteArray}
    (unicode : Reads runtime runtime.dumpsUnicode (.dict (eventToWireDict runtime event)))
    (rereads : Rereads runtime event)
    (serialized : serializeOrderCreatedEvent runtime event = .ok data) :
    ∃ payload, decodeValue runtime.toRuntime (some data) = .ok (payload, event) := by
  obtain ⟨_, valid, dumped⟩ := bind_ok_iff.mp serialized
  obtain ⟨text, printed, encoding⟩ := bind_ok_iff.mp dumped
  obtain ⟨other, same, read⟩ := unicode
  rw [printed] at same
  cases same
  have encoded := (encode_ok_iff runtime.toRuntime).mp encoding
  exact ⟨_, (decode_value_ok_iff encoded).mpr ⟨read, rfl, sorted_dump_parsed rereads valid⟩⟩

theorem valid_serialized (printer : UnicodePrinter runtime)
    (unicode : Reads runtime runtime.dumpsUnicode (.dict (eventToWireDict runtime event)))
    (valid : validateTypedEvent runtime event = .ok ()) :
    ∃ data, serializeOrderCreatedEvent runtime event = .ok data := by
  obtain ⟨text, printed, _⟩ := unicode
  have encodable := printer.printed _ text printed (dump_encodable printer event)
  refine ⟨(String.ofList (text.map toChar)).toUTF8, ?_⟩
  simp only [serializeOrderCreatedEvent, valid, printed, Bind.bind, Except.bind, encode,
    encodeUtf8, if_pos encodable]

/-- The one call of a publication to SQS, and its body. -/
theorem sqs_transcribes {destination : Str} {messageGroupId deduplicationId : Option Str}
    {calls : List (Exchange Exc SqsOp.Ret)} {outcome : Except Exc SqsPublishReceipt}
    {body : Str} (named : isBlank destination = false)
    (valid : validateTypedEvent runtime event = .ok ())
    (printed : runtime.dumps (.dict (eventToWireDict runtime event)) = .ok body)
    (transcribed : Transcribes
      (publishToSqs runtime destination event messageGroupId deduplicationId) calls outcome) :
    ∃ request answer, calls = [⟨.sendMessage request, answer⟩] ∧ request.messageBody = body := by
  have blank : ¬isBlank destination = true := by simp [named]
  rw [publishToSqs, if_neg blank] at transcribed
  have built := transcribes_pure_iff.mp transcribed
  simp only [sendMessageRequest, valid, printed, Bind.bind, Except.bind, Resumes] at built
  obtain ⟨first, rest, answered, rfl, sent, resumed⟩ := transcribes_bind_iff.mp built
  obtain ⟨answer, rfl, performed⟩ := transcribes_mapFault_iff.mp sent
  rw [transcribes_perform_iff.mp performed]
  cases answer with
  | error fault =>
      obtain ⟨rfl, _⟩ := resumed
      exact ⟨_, .error fault, rfl, rfl⟩
  | ok response =>
      obtain ⟨rfl, _⟩ := transcribes_done_iff.mp resumed
      exact ⟨_, .ok response, rfl, rfl⟩

theorem round_trips_of_valid (printer : UnicodePrinter runtime)
    (unicode : Reads runtime runtime.dumpsUnicode (.dict (eventToWireDict runtime event)))
    (ascii : Reads runtime runtime.dumps (.dict (eventToWireDict runtime event)))
    (rereads : Rereads runtime event) (valid : validateTypedEvent runtime event = .ok ()) :
    RoundTrips runtime event := by
  obtain ⟨data, serialized⟩ := valid_serialized printer unicode valid
  obtain ⟨payload, decoded⟩ := serialized_decoded unicode rereads serialized
  refine ⟨⟨data, payload, serialized, decoded⟩, ?_⟩
  intro destination messageGroupId deduplicationId calls outcome named transcribed
  obtain ⟨body, printed, read⟩ := ascii
  obtain ⟨request, answer, only, same⟩ := sqs_transcribes named valid printed transcribed
  refine ⟨request, answer, only, decode_body_ok_iff.mpr ⟨_, ?_, sorted_dump_parsed rereads valid⟩⟩
  rw [same]
  exact read

end Publishing

/-- Every event that passes its own contract, and every event that a payload
parses to, survives publication on either broker. -/
theorem publish_decode_round_trip (runtime : PublisherRuntime) (printer : UnicodePrinter runtime)
    (event : OrderCreatedEvent)
    (unicode : Reads runtime runtime.dumpsUnicode (.dict (eventToWireDict runtime event)))
    (ascii : Reads runtime runtime.dumps (.dict (eventToWireDict runtime event)))
    (rereads : Rereads runtime event) :
    (validateTypedEvent runtime event = .ok () → RoundTrips runtime event) ∧
    ∀ payload, parseOrderCreatedEvent runtime.toRuntime payload = .ok event →
      FormatsRendered runtime event → RoundTrips runtime event := by
  constructor
  · exact round_trips_of_valid printer unicode ascii rereads
  · -- the other fields of any event pass; which payload it was parsed from is no matter
    intro _ _ formats
    exact round_trips_of_valid printer unicode ascii rereads
      (validate_typed_iff.mpr ⟨formats.uuid, formats.dateTime⟩)

section Documented

theorem reference_printer : UnicodePrinter referencePublisherRuntime where
  printed value text printed encodable := by
    simp only [referencePublisherRuntime] at printed
    split at printed
    next own rendered =>
      cases printed
      exact render_encodable escape_required_encodable float_text_encodable _ _ rendered
        (sort_keys_encodable value encodable)
    next => cases printed
  timestamp := render_datetime_encodable

theorem documented_unicode : Reads referencePublisherRuntime
    referencePublisherRuntime.dumpsUnicode
    (.dict (eventToWireDict referencePublisherRuntime documentedEvent)) := by
  decide +kernel

theorem documented_rereads : Rereads referencePublisherRuntime documentedEvent where
  eventId := by decide +kernel
  occurredAt := by decide +kernel

theorem documented_valid : validateTypedEvent referencePublisherRuntime documentedEvent = .ok () :=
  validate_typed_iff.mpr ⟨by decide +kernel, by decide +kernel⟩

/-- The documented payload with a whole number for its amount. -/
def wholeAmountPayload : PyVal := .dict (orderPayloadOf (.int 1) (.int 250) "INR")

theorem amount_positive : (0 : ℚ) < 250 := by norm_num

def wholeAmountEvent : OrderCreatedEvent := documentedOrder 250 amount_positive

theorem whole_amount_parsed :
    parseOrderCreatedEvent referencePublisherRuntime.toRuntime wholeAmountPayload =
      .ok wholeAmountEvent := by
  decide +kernel

theorem whole_amount_formats : FormatsRendered referencePublisherRuntime wholeAmountEvent where
  uuid := by decide +kernel
  dateTime := by decide +kernel

/-- The documented event survives publication, and so does one parsed from a payload
that is not written as the event is printed. -/
theorem documented_event_round_trips :
    RoundTrips referencePublisherRuntime documentedEvent ∧
      parseOrderCreatedEvent referencePublisherRuntime.toRuntime wholeAmountPayload =
        .ok wholeAmountEvent ∧
      RoundTrips referencePublisherRuntime wholeAmountEvent := by
  have rereads : Rereads referencePublisherRuntime wholeAmountEvent :=
    ⟨documented_rereads.eventId, documented_rereads.occurredAt⟩
  have unicode : Reads referencePublisherRuntime referencePublisherRuntime.dumpsUnicode
      (.dict (eventToWireDict referencePublisherRuntime wholeAmountEvent)) := by
    decide +kernel
  refine ⟨?_, whole_amount_parsed, ?_⟩
  · exact (publish_decode_round_trip referencePublisherRuntime reference_printer documentedEvent
      documented_unicode (by decide +kernel) documented_rereads).1 documented_valid
  · exact (publish_decode_round_trip referencePublisherRuntime reference_printer wholeAmountEvent
      unicode (by decide +kernel) rereads).2 wholeAmountPayload whole_amount_parsed
      whole_amount_formats

end Documented

end OrderMessaging.Messaging.RoundTrip
