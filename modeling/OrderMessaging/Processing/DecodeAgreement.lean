import OrderMessaging.Contracts.Agreement
import OrderMessaging.Processing.KafkaDelivery
import OrderMessaging.Processing.SqsDelivery

/-!
The same body on both brokers. The Kafka consumer checks that the document is an
object before it parses; the SQS consumer does not, and the parser converts its
argument with `dict`, which also takes an array of pairs.
-/

namespace OrderMessaging.Processing.DecodeAgreement

open OrderMessaging.PyText OrderMessaging.PyException OrderMessaging.PyValue
open OrderMessaging.Contracts.Models OrderMessaging.Contracts.Validation
open OrderMessaging.Contracts.Reference OrderMessaging.Contracts.Agreement
open OrderMessaging.Processing.KafkaDelivery OrderMessaging.Processing.SqsDelivery

set_option autoImplicit false

/-- The decoding steps of both consumers on one text and on its UTF-8 form. -/
structure DecodedAlike (runtime : Runtime) (text : Str) (data : ByteArray) : Prop where
  sameEvents : ∀ event, (∃ payload, decodeValue runtime (some data) = .ok (payload, event)) ↔
    decodeBody runtime text = .ok event
  onlyObjects : ∀ payload event, runtime.loads text = .ok payload → payload.isDict = false →
    decodeBody runtime text ≠ .ok event ∧
      ∀ decoded, decodeValue runtime (some data) ≠ .ok (decoded, event)

/-- A JSON array whose elements `dict` reads as the entries of a valid event. -/
def PairsOfEvent (runtime : Runtime) (text : Str) : Prop :=
  ∃ items entries, runtime.loads text = .ok (.list items) ∧
    PyVal.toDict (.list items) = .ok entries ∧ SchemaAccepts runtime entries ∧
    ∃ event, modelValidateJson runtime entries = .ok event

section Parsing

variable {runtime : Runtime}

theorem parse_ok_iff {payload : PyVal} {event : OrderCreatedEvent} :
    parseOrderCreatedEvent runtime payload = .ok event ↔
      ∃ entries, payload.toDict = .ok entries ∧ SchemaAccepts runtime entries ∧
        modelValidateJson runtime entries = .ok event := by
  cases converted : payload.toDict with
  | error fault =>
      have refused : parseOrderCreatedEvent runtime payload = .error fault := by
        simp only [parseOrderCreatedEvent, validateOrderCreatedContract, converted]
        rfl
      rw [refused]
      simp
  | ok entries =>
      rcases parse_of_to_dict runtime converted with
        ⟨accepted, parsed⟩ | ⟨refused, _, message, parsed⟩ | ⟨refused, _, fault, parsed⟩
      · rw [parsed]
        simp [accepted]
      · rw [parsed]
        simp [refused]
      · rw [parsed]
        simp [refused]

theorem empty_not_accepted : ¬SchemaAccepts runtime [] := by
  intro accepted
  obtain ⟨_, _, _, _, _, _, fields⟩ := event_accepted_fields accepted
  have present := fields.correlationId_eq
  cases present

/-- Of the documents that are not objects only arrays can parse. -/
theorem parsed_is_list {payload : PyVal} {event : OrderCreatedEvent}
    (other : payload.isDict = false)
    (parsed : parseOrderCreatedEvent runtime payload = .ok event) :
    ∃ items, payload = .list items := by
  obtain ⟨entries, converted, accepted, _⟩ := parse_ok_iff.mp parsed
  cases payload with
  | list items => exact ⟨items, rfl⟩
  | dict entries => cases other
  | none | bool _ | int _ | float _ => cases converted
  | str text =>
      cases text with
      | nil =>
          cases converted
          exact absurd accepted empty_not_accepted
      | cons head tail => cases converted

end Parsing

section Alike

variable {runtime : Runtime} {text : Str} {data : ByteArray}

theorem decode_encoded (encoded : encodeUtf8 text = some data) :
    decode runtime data = .ok text := by
  have encodable : Encodable text := by
    unfold encodeUtf8 at encoded
    by_cases encodable : Encodable text
    · exact encodable
    · rw [if_neg encodable] at encoded
      cases encoded
  have decoded := decode_utf8_encode encodable
  rw [encoded, Option.bind_some] at decoded
  rw [decode, decoded]

theorem decode_value_ok_iff (encoded : encodeUtf8 text = some data) {payload : PyVal}
    {event : OrderCreatedEvent} :
    decodeValue runtime (some data) = .ok (payload, event) ↔
      runtime.loads text = .ok payload ∧ payload.isDict = true ∧
        parseOrderCreatedEvent runtime payload = .ok event := by
  simp only [decodeValue, bind_ok_iff, decode_encoded encoded, Except.ok.injEq, Prod.mk.injEq,
    requireObject]
  constructor
  · intro decoded
    obtain ⟨_, rfl, loaded, read, _, object, parsed, accepted, same, equal⟩ := decoded
    subst same equal
    refine ⟨read, ?_, accepted⟩
    by_cases isObject : loaded.isDict = true
    · exact isObject
    · rw [if_neg isObject] at object
      cases object
  · intro fields
    obtain ⟨read, isObject, accepted⟩ := fields
    exact ⟨text, rfl, payload, read, (), if_pos isObject, event, accepted, rfl, rfl⟩

theorem decode_body_ok_iff {event : OrderCreatedEvent} :
    decodeBody runtime text = .ok event ↔
      ∃ payload, runtime.loads text = .ok payload ∧
        parseOrderCreatedEvent runtime payload = .ok event := by
  rw [decodeBody, bind_ok_iff]

theorem decoded_alike_iff (runtime : Runtime) (text : Str) (data : ByteArray)
    (encoded : encodeUtf8 text = some data) :
    DecodedAlike runtime text data ↔ ¬PairsOfEvent runtime text := by
  constructor
  · intro alike pairs
    obtain ⟨items, entries, read, converted, accepted, event, validated⟩ := pairs
    have parsed : parseOrderCreatedEvent runtime (.list items) = .ok event :=
      parse_ok_iff.mpr ⟨entries, converted, accepted, validated⟩
    have decoded : decodeBody runtime text = .ok event := decode_body_ok_iff.mpr ⟨_, read, parsed⟩
    exact (alike.onlyObjects (.list items) event read rfl).1 decoded
  · intro noPairs
    have object : ∀ payload event, runtime.loads text = .ok payload →
        parseOrderCreatedEvent runtime payload = .ok event → payload.isDict = true := by
      intro payload event read parsed
      by_contra other
      have notObject : payload.isDict = false := Bool.eq_false_iff.mpr other
      obtain ⟨items, same⟩ := parsed_is_list notObject parsed
      subst same
      obtain ⟨entries, converted, accepted, validated⟩ := parse_ok_iff.mp parsed
      exact noPairs ⟨items, entries, read, converted, accepted, event, validated⟩
    constructor
    · intro event
      rw [decode_body_ok_iff]
      constructor
      · intro decoded
        obtain ⟨payload, accepted⟩ := decoded
        obtain ⟨read, _, parsed⟩ := (decode_value_ok_iff encoded).mp accepted
        exact ⟨payload, read, parsed⟩
      · intro decoded
        obtain ⟨payload, read, parsed⟩ := decoded
        exact ⟨payload, (decode_value_ok_iff encoded).mpr
          ⟨read, object payload event read parsed, parsed⟩⟩
    · intro payload event read other
      constructor
      · intro decoded
        obtain ⟨again, readAgain, parsed⟩ := decode_body_ok_iff.mp decoded
        have isObject := object again event readAgain parsed
        rw [read] at readAgain
        cases readAgain
        rw [other] at isObject
        cases isObject
      · intro decoded accepted
        obtain ⟨readAgain, isObject, _⟩ := (decode_value_ok_iff encoded).mp accepted
        rw [read] at readAgain
        cases readAgain
        rw [other] at isObject
        cases isObject

end Alike

section Bodies

/-- The documented order as a record value. -/
def orderBody : Str :=
  "\x7b\"event_id\":\"1d253df" ++ ("2-a12f-4b55-b8db-3f4" : Str) ++ "21360df3a\",\"event_ty" ++
    "pe\":\"order.created\"," ++ "\"event_version\":1,\"o" ++ "ccurred_at\":\"2026-08" ++
    "-12T12:00:00Z\",\"corr" ++ "elation_id\":\"checkou" ++ "t-a43dd289\",\"causati" ++
    "on_id\":\"request-9a2b" ++ "cf19\",\"producer\":\"or" ++ "der-api\",\"data\":\x7b\"or" ++
    "der_id\":\"ORD-101\",\"c" ++ "ustomer_id\":\"CUS-22\"" ++ ",\"amount\":500.0,\"cur" ++
    "rency\":\"INR\"\x7d\x7d"

theorem order_body_parsed : decodeBody referenceRuntime orderBody = .ok documentedEvent := by
  decide +kernel

/-- The UTF-8 form of an object that parses is a record value that decodes alike. -/
theorem object_decoded {runtime : Runtime} {text : Str} {event : OrderCreatedEvent}
    (encodable : Encodable text)
    (isObject : (runtime.loads text).map PyVal.isDict = .ok true)
    (accepted : decodeBody runtime text = .ok event) :
    ∃ payload, decodeValue runtime (encodeUtf8 text) = .ok (payload, event) := by
  obtain ⟨data, encoded⟩ : ∃ data, encodeUtf8 text = some data := ⟨_, if_pos encodable⟩
  obtain ⟨payload, read, parsed⟩ := decode_body_ok_iff.mp accepted
  rw [read] at isObject
  injection isObject with object
  rw [encoded]
  exact ⟨payload, (decode_value_ok_iff encoded).mpr ⟨read, object, parsed⟩⟩

theorem order_body_decoded :
    ∃ payload, decodeValue referenceRuntime (encodeUtf8 orderBody) =
      .ok (payload, documentedEvent) :=
  object_decoded (by decide +kernel) (by decide +kernel) order_body_parsed

/-- A second order, under an event id and an order id of its own. -/
def laterBody : Str :=
  "\x7b\"event_id\":\"1d253df" ++ ("2-a12f-4b55-b8db-3f4" : Str) ++ "21360df3b\",\"event_ty" ++
    "pe\":\"order.created\"," ++ "\"event_version\":1,\"o" ++ "ccurred_at\":\"2026-08" ++
    "-12T12:00:00Z\",\"corr" ++ "elation_id\":\"checkou" ++ "t-a43dd289\",\"causati" ++
    "on_id\":\"request-9a2b" ++ "cf19\",\"producer\":\"or" ++ "der-api\",\"data\":\x7b\"or" ++
    "der_id\":\"ORD-102\",\"c" ++ "ustomer_id\":\"CUS-22\"" ++ ",\"amount\":500.0,\"cur" ++
    "rency\":\"INR\"\x7d\x7d"

def laterEvent : OrderCreatedEvent :=
  { documentedEvent with
    eventId := ⟨0x1d253df2a12f4b55b8db3f421360df3b⟩
    data := { documentedEvent.data with orderId := ⟨"ORD-102", by decide, by decide⟩ } }

theorem later_body_decoded :
    ∃ payload, decodeValue referenceRuntime (encodeUtf8 laterBody) = .ok (payload, laterEvent) :=
  object_decoded (by decide +kernel) (by decide +kernel) (by decide +kernel)

/-- The documented order as an array of its entries. -/
def pairsBody : Str :=
  "[[\"event_id\",\"1d253df2" ++ ("-a12f-4b55-b8db-" : Str) ++ "3f421360df3a\"],[" ++
    "\"event_type\",\"order." ++ "created\"],[\"event_" ++ "version\",1],[\"occurr" ++
    "ed_at\",\"2026-08-12T" ++ "12:00:00Z\"],[\"correl" ++ "ation_id\",\"checkout-" ++
    "a43dd289\"],[\"causat" ++ "ion_id\",\"request-9a2" ++ "bcf19\"],[\"producer\"," ++
    "\"order-api\"],[\"data\"" ++ ",\x7b\"order_id\":\"ORD-10" ++ "1\",\"customer_id\":\"CU" ++
    "S-22\",\"amount\":500.0" ++ ",\"currency\":\"INR\"\x7d]]"

/-- The documented order is an event to both consumers, and the empty array to neither. -/
theorem documented_bodies_decoded_alike :
    (∃ data, encodeUtf8 orderBody = some data ∧ DecodedAlike referenceRuntime orderBody data ∧
      decodeBody referenceRuntime orderBody = .ok documentedEvent ∧
      ∃ payload, decodeValue referenceRuntime (some data) = .ok (payload, documentedEvent)) ∧
    DecodedAlike referenceRuntime "[]" ⟨#[0x5B, 0x5D]⟩ := by
  constructor
  · obtain ⟨payload, decoded⟩ := order_body_decoded
    have encodable : Encodable orderBody := by decide +kernel
    obtain ⟨data, encoded⟩ : ∃ data, encodeUtf8 orderBody = some data := ⟨_, if_pos encodable⟩
    rw [encoded] at decoded
    have alike : DecodedAlike referenceRuntime orderBody data := by
      apply (decoded_alike_iff referenceRuntime orderBody data encoded).mpr
      rintro ⟨items, entries, read, _⟩
      obtain ⟨again, object, _⟩ := (decode_value_ok_iff encoded).mp decoded
      rw [read] at again
      cases again
      cases object
    exact ⟨data, encoded, alike, order_body_parsed, payload, decoded⟩
  · apply (decoded_alike_iff referenceRuntime "[]" ⟨#[0x5B, 0x5D]⟩ (by decide +kernel)).mpr
    rintro ⟨items, entries, read, converted, accepted, _⟩
    have empty : referenceRuntime.loads "[]" = .ok (.list []) := rfl
    rw [empty] at read
    cases read
    cases converted
    exact empty_not_accepted accepted

/-- An array of pairs is an event to the SQS consumer only. -/
theorem pairs_decoded_by_sqs_only :
    ∃ data, encodeUtf8 pairsBody = some data ∧
      decodeBody referenceRuntime pairsBody = .ok documentedEvent ∧
      (∀ payload event, decodeValue referenceRuntime (some data) ≠ .ok (payload, event)) ∧
      ¬DecodedAlike referenceRuntime pairsBody data := by
  have encodable : Encodable pairsBody := by decide +kernel
  obtain ⟨data, encoded⟩ : ∃ data, encodeUtf8 pairsBody = some data := ⟨_, if_pos encodable⟩
  have decoded : decodeBody referenceRuntime pairsBody =
      .ok documentedEvent := by decide +kernel
  have notObject : (referenceRuntime.loads pairsBody).map PyVal.isDict = .ok false := by
    decide +kernel
  have refused : ∀ payload event,
      decodeValue referenceRuntime (some data) ≠ .ok (payload, event) := by
    intro payload event accepted
    obtain ⟨read, isObject, _⟩ := (decode_value_ok_iff encoded).mp accepted
    rw [read] at notObject
    injection notObject with other
    rw [isObject] at other
    cases other
  refine ⟨data, encoded, decoded, refused, ?_⟩
  intro alike
  obtain ⟨payload, accepted⟩ := (alike.sameEvents _).mpr decoded
  exact refused payload _ accepted

end Bodies

end OrderMessaging.Processing.DecodeAgreement
