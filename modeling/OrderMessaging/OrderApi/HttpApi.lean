import OrderMessaging.Messaging.KafkaPublication
import OrderMessaging.Messaging.RoundTrip

/-!
`POST /orders`. A request becomes an event with fresh identifiers, the event is
published, and only then the identifiers are returned. A 202 response therefore
stands for a record of its own that the broker has stored, whatever the other
requests do with the shared producer in the meantime.
-/

namespace OrderMessaging.OrderApi.HttpApi

open OrderMessaging.PyText OrderMessaging.PyException OrderMessaging.PyValue
open OrderMessaging.Program OrderMessaging.Transcript OrderMessaging.Contracts.Models
open OrderMessaging.Contracts.Reference OrderMessaging.Contracts.WireFormat
open OrderMessaging.Messaging.SharedProducer OrderMessaging.Messaging.EventPublishers
open OrderMessaging.Messaging.KafkaPublication OrderMessaging.Messaging.RoundTrip
open OrderMessaging.Processing.KafkaCollaborators (DeliveredMessage TopicPartition)
open OrderMessaging.Processing.KafkaDelivery (decodeValue)
open OrderMessaging.Processing.NotificationClient (ascii_encodable uuid_ascii)
open OrderMessaging.Processing.RetryAndDeadLetter
  (KafkaPublishReceipt eventPublishError encode_ok_iff)

set_option autoImplicit false

section Factory

theorem uuid_nonempty (id : Uuid) : id.str ≠ [] := by
  simp [Uuid.str, ofString]

def tagged (tag : String) (fresh : Uuid) : NonEmptyText where
  text := ofString tag ++ fresh.str
  nonempty := List.append_ne_nil_of_right_ne_nil _ (uuid_nonempty fresh)
  encodable := encodable_append.mpr
    ⟨of_string_encodable tag, ascii_encodable (uuid_ascii fresh)⟩

/-- `f"{tag}{uuid4()}"`. -/
def newId (tag : String) : Prog Exc Op.Ret NonEmptyText := do
  let fresh ← Prog.perform Op.uuid4
  pure (tagged tag fresh)

/-- `given or make()`, for values that are true. -/
def givenOr {Value : Type} (given : Option Value) (make : Prog Exc Op.Ret Value) :
    Prog Exc Op.Ret Value :=
  match given with
  | some value => pure value
  | none => make

def makeOrderCreatedEvent (data : OrderCreatedData) (eventId : Option Uuid)
    (correlationId causationId : Option NonEmptyText) (occurredAt : Option AwareDatetime) :
    Prog Exc Op.Ret OrderCreatedEvent := do
  let occurredAt ← givenOr occurredAt (Prog.perform Op.now)
  let eventId ← givenOr eventId (Prog.perform Op.uuid4)
  let correlationId ← givenOr correlationId (newId "checkout-")
  let causationId ← givenOr causationId (newId "request-")
  pure ⟨eventId, occurredAt, correlationId, causationId, data⟩

end Factory

/-- The body of a request that passed its validation. -/
structure CreateOrderRequest where
  customerId : NonEmptyText
  amount : PositiveAmount
  currency : CurrencyCode

structure CreateOrderResponse where
  orderId : Str
  correlationId : Str
  eventId : Uuid

/-- A validated request, with its `X-Correlation-ID` header if it had one. -/
structure OrderRequest where
  order : CreateOrderRequest
  correlationHeader : Option NonEmptyText

/-- 202 with the `X-Correlation-ID` header, or 503. -/
inductive HttpReply where
  | accepted (correlationId : Str) (body : CreateOrderResponse)
  | unavailable (detail : Str)

/-- An application over one publisher; a blank topic is refused. -/
structure OrderApp where
  publisher : KafkaEventPublisher
  topic : Str
  named : isBlank topic = false

section Endpoint

variable (runtime : PublisherRuntime) (app : OrderApp)

/-- The correlation identifier and the event that a request is published as. -/
def prepareOrder (request : OrderRequest) :
    Prog Exc Op.Ret (NonEmptyText × OrderCreatedEvent) := do
  let correlationId ← givenOr request.correlationHeader (newId "checkout-")
  let orderId ← newId "ORD-"
  let causationId ← newId "request-"
  let event ← makeOrderCreatedEvent
    ⟨orderId, request.order.customerId, request.order.amount, request.order.currency⟩ none
    (some correlationId) (some causationId) none
  pure (correlationId, event)

def replyOf (correlationId : NonEmptyText) (event : OrderCreatedEvent) : HttpReply :=
  .accepted correlationId.text ⟨event.data.orderId.text, correlationId.text, event.eventId⟩

/-- An exception that leaves here becomes a 500 response. -/
def createOrder (request : OrderRequest) : Prog Exc Op.Ret HttpReply := do
  let (correlationId, event) ← prepareOrder request
  match ← Prog.attempt (publishToKafka runtime app.publisher app.topic event) with
  | .ok _ => pure (replyOf correlationId event)
  | .error cause =>
      if cause.isInstance [eventPublishError] then
        pure (.unavailable "Order event could not be published.")
      else Prog.raise cause

/-- What stands behind a 202 response. -/
structure Backed (request : OrderRequest) (history : List (Nat × Exchange Exc Op.Ret))
    (final : World) (caller ticket : Nat) (header : Str) (body : CreateOrderResponse)
    (record : ProducerRecord) (event : OrderCreatedEvent) (receipt : KafkaPublishReceipt) :
    Prop where
  handed : (caller, ⟨.produce record, .ok ticket⟩) ∈ history
  /-- The request made the event, and its publication returned the receipt. -/
  received : ∃ correlationId early publication,
    ownCalls caller history = early ++ publication ∧
    Transcribes (prepareOrder request) early (.ok (correlationId, event)) ∧
    Transcribes (publishToKafka runtime app.publisher app.topic event) publication (.ok receipt)
  key : encodeUtf8 body.orderId = some record.key
  value : serializeOrderCreatedEvent runtime event = .ok record.value
  decoded : Reads runtime runtime.dumpsUnicode (.dict (eventToWireDict runtime event)) →
    Rereads runtime event →
    ∃ payload, decodeValue runtime.toRuntime (some record.value) = .ok (payload, event)
  response : body = ⟨event.data.orderId.text, event.correlationId.text, event.eventId⟩
  echoed : header = body.correlationId
  propagated : ∀ given, request.correlationHeader = some given → body.correlationId = given.text
  customerId : event.data.customerId = request.order.customerId
  amount : event.data.amount = request.order.amount
  currency : event.data.currency = request.order.currency
  topic : receipt.topic = app.topic
  /-- The record is in the broker's log once, at the place that the receipt names. -/
  stored : ∀ (place : TopicPartition) (offset : Nat),
    (final.log place)[offset]? = some (some ticket) ↔
      place = (receipt.topic, receipt.partition) ∧ offset = receipt.offset

section Calls

variable {runtime app} {calls : Calls}

theorem given_or_some {Value : Type} {given value : Value} {make : Prog Exc Op.Ret Value}
    (transcribed : Transcribes (givenOr (some given) make) calls (.ok value)) : value = given :=
  Except.ok.inj (transcribes_done_iff.mp transcribed).2

theorem made_event {data : OrderCreatedData} {correlationId causationId : NonEmptyText}
    {event : OrderCreatedEvent}
    (transcribed : Transcribes (makeOrderCreatedEvent data none (some correlationId)
      (some causationId) none) calls (.ok event)) :
    event.data = data ∧ event.correlationId = correlationId := by
  unfold makeOrderCreatedEvent at transcribed
  obtain ⟨_, _, occurredAt, _, _, dated⟩ := transcribes_bind_ok transcribed
  obtain ⟨_, _, eventId, _, _, identified⟩ := transcribes_bind_ok dated
  obtain ⟨_, _, correlation, _, correlated, followed⟩ := transcribes_bind_ok identified
  obtain ⟨_, _, causation, _, _, built⟩ := transcribes_bind_ok followed
  obtain ⟨_, same⟩ := transcribes_done_iff.mp built
  cases same
  exact ⟨rfl, given_or_some correlated⟩

/-- The event carries the order of the request, and the header's value if there is one. -/
theorem prepared_event {request : OrderRequest} {correlationId : NonEmptyText}
    {event : OrderCreatedEvent}
    (prepared : Transcribes (prepareOrder request) calls (.ok (correlationId, event))) :
    event.correlationId = correlationId ∧
      (∀ given, request.correlationHeader = some given → correlationId = given) ∧
      event.data.customerId = request.order.customerId ∧
      event.data.amount = request.order.amount ∧ event.data.currency = request.order.currency := by
  unfold prepareOrder at prepared
  obtain ⟨_, _, chosen, _, given, numbered⟩ := transcribes_bind_ok prepared
  obtain ⟨_, _, orderId, _, _, caused⟩ := transcribes_bind_ok numbered
  obtain ⟨_, _, causationId, _, _, making⟩ := transcribes_bind_ok caused
  obtain ⟨_, _, own, _, made, returned⟩ := transcribes_bind_ok making
  obtain ⟨_, same⟩ := transcribes_done_iff.mp returned
  cases same
  obtain ⟨sameData, sameCorrelation⟩ := made_event made
  refine ⟨sameCorrelation, ?_, by rw [sameData], by rw [sameData], by rw [sameData]⟩
  intro header headed
  rw [headed] at given
  exact given_or_some given

/-- A 202 response is the answer to an event that was published, and to nothing else. -/
theorem accepted_iff {request : OrderRequest} {header : Str} {body : CreateOrderResponse} :
    Transcribes (createOrder runtime app request) calls (.ok (.accepted header body)) ↔
      ∃ correlationId event receipt early publication, calls = early ++ publication ∧
        Transcribes (prepareOrder request) early (.ok (correlationId, event)) ∧
        Transcribes (publishToKafka runtime app.publisher app.topic event) publication
          (.ok receipt) ∧
        .accepted header body = replyOf correlationId event := by
  unfold createOrder
  constructor
  · intro transcribed
    obtain ⟨early, _, ⟨correlationId, event⟩, rfl, prepared, publishing⟩ :=
      transcribes_bind_ok transcribed
    obtain ⟨publication, _, published, rfl, attempted, replied⟩ := transcribes_bind_ok publishing
    obtain ⟨ended, same, publication⟩ := transcribes_attempt_iff.mp attempted
    cases same
    cases published with
    | error cause =>
        dsimp only at replied
        split at replied
        · obtain ⟨_, other⟩ := transcribes_done_iff.mp replied
          cases other
        · obtain ⟨_, other⟩ := transcribes_raise_iff.mp replied
          cases other
    | ok receipt =>
        obtain ⟨rfl, replies⟩ := transcribes_done_iff.mp replied
        exact ⟨correlationId, event, receipt, early, _, by simp, prepared, publication,
          Except.ok.inj replies⟩
  · rintro ⟨correlationId, event, receipt, early, publication, rfl, prepared, published, reply⟩
    refine transcribes_bind_iff.mpr
      ⟨early, publication, .ok (correlationId, event), rfl, prepared, ?_⟩
    refine transcribes_bind_iff.mpr ⟨publication, [], .ok (.ok receipt), by simp,
      transcribes_attempt_iff.mpr ⟨.ok receipt, rfl, published⟩, ?_⟩
    exact transcribes_done_iff.mpr ⟨rfl, congrArg Except.ok reply⟩

end Calls

section Run

variable {runtime app} {history : List (Nat × Exchange Exc Op.Ret)} {final : World}
variable {caller : Nat}

/-- A receipt names the only place in the log of the record that the call handed over. -/
theorem receipt_stored {event : OrderCreatedEvent} {receipt : KafkaPublishReceipt}
    {early publication : Calls} (played : Plays exec idleWorld (history.map Prod.snd) final)
    (own : ownCalls caller history = early ++ publication)
    (published : Transcribes (publishToKafka runtime app.publisher app.topic event) publication
      (.ok receipt)) :
    ∃ record ticket, Built runtime app.topic event record ∧
      (caller, ⟨.produce record, .ok ticket⟩) ∈ history ∧ receipt.topic = app.topic ∧
      ∀ (place : TopicPartition) (offset : Nat),
        (final.log place)[offset]? = some (some ticket) ↔
          place = (receipt.topic, receipt.partition) ∧ offset = receipt.offset := by
  obtain ⟨record, ticket, message, built, rfl, rfl⟩ := published_calls published
  have within : ∀ exchange : Exchange Exc Op.Ret, exchange ∈ ([⟨.produce record, .ok ticket⟩,
      ⟨.flush app.publisher.deliveryTimeoutSeconds, .ok 0⟩, ⟨.deliveryErrors ticket, .ok []⟩,
      ⟨.deliveredMessages ticket, .ok [message]⟩] : Calls) → (caller, exchange) ∈ history := by
    intro exchange member
    exact mem_own_calls.mp (own ▸ List.mem_append_right early member)
  have handed := within ⟨.produce record, .ok ticket⟩ (by simp)
  have read := within ⟨.deliveredMessages ticket, .ok [message]⟩ (by simp)
  have produced := plays_produced played (List.mem_map.mpr ⟨_, handed, rfl⟩)
  have reported := plays_delivered played idle_lawful (List.mem_map.mpr ⟨_, read, rfl⟩)
  have lawful := plays_lawful played idle_lawful
  have said : final.verdicts ticket = some (.ok message) := by
    rcases lawful.reported ticket with silent | ⟨verdict, said, called⟩
    · rw [reported] at silent
      cases silent
    · rw [reported] at called
      cases called
      exact said
  obtain ⟨other, found, sameTopic, held⟩ := lawful.placed ticket message said
  rw [produced] at found
  cases found
  refine ⟨record, ticket, built, handed, sameTopic.trans built.topic, ?_⟩
  intro place offset
  constructor
  · intro stored
    obtain ⟨only, own, located⟩ := lawful.logged place offset ticket stored
    rw [said] at own
    cases own
    exact located
  · rintro ⟨rfl, rfl⟩
    exact held

/-- A 202 response is backed by the record of its own request. -/
theorem accepted_backed {request : OrderRequest} {header : Str} {body : CreateOrderResponse}
    (played : Plays exec idleWorld (history.map Prod.snd) final)
    (accepted : Transcribes (createOrder runtime app request) (ownCalls caller history)
      (.ok (.accepted header body))) :
    ∃ ticket record event receipt, Backed runtime app request history final caller ticket header
      body record event receipt := by
  obtain ⟨correlationId, event, receipt, early, publication, own, prepared, published, reply⟩ :=
    accepted_iff.mp accepted
  obtain ⟨rfl, propagated, customerId, amount, currency⟩ := prepared_event prepared
  obtain ⟨record, ticket, built, handed, topic, stored⟩ := receipt_stored played own published
  cases reply
  refine ⟨ticket, record, event, receipt, handed, ⟨_, early, publication, own, prepared, published⟩,
    (encode_ok_iff runtime.toRuntime).mp built.key, built.value, ?_, rfl, rfl, ?_, customerId,
    amount, currency, topic, stored⟩
  · intro unicode rereads
    exact serialized_decoded unicode rereads built.value
  · intro given headed
    rw [propagated given headed]

end Run

end Endpoint

/-- Every 202 response is backed by a record of its own, in every interleaving. -/
theorem accepted_orders_acknowledged (runtime : PublisherRuntime) (app : OrderApp)
    (requests : Nat → OrderRequest) (history : List (Nat × Exchange Exc Op.Ret)) (final : World)
    (run : Interleaved exec (fun caller => createOrder runtime app (requests caller)) idleWorld
      history final) :
    (∀ caller header body,
      Transcribes (createOrder runtime app (requests caller)) (ownCalls caller history)
        (.ok (.accepted header body)) →
      ∃ ticket record event receipt, Backed runtime app (requests caller) history final caller
        ticket header body record event receipt) ∧
    ∀ left right ticket leftHeader leftBody leftRecord leftEvent leftReceipt rightHeader rightBody
      rightRecord rightEvent rightReceipt,
      Backed runtime app (requests left) history final left ticket leftHeader leftBody leftRecord
        leftEvent leftReceipt →
      Backed runtime app (requests right) history final right ticket rightHeader rightBody
        rightRecord rightEvent rightReceipt → left = right := by
  constructor
  · intro caller header body accepted
    exact accepted_backed run.answered accepted
  · intro left right ticket _ _ _ _ _ _ _ _ _ _ one other
    exact tickets_distinct run.answered one.handed other.handed

section Concurrent

def orderApp : OrderApp := ⟨⟨15⟩, "orders", by decide⟩

/-- Two clients order the same; only the first sends a header. -/
def orderRequest (caller : Nat) : OrderRequest where
  order :=
    { customerId := documentedEvent.data.customerId
      amount := documentedEvent.data.amount
      currency := documentedEvent.data.currency }
  correlationHeader := if caller = 0 then some documentedEvent.correlationId else none

def freshId (caller index : Nat) : Uuid := ⟨Fin.ofNat (2 ^ 128) (4 * caller + index)⟩

def checkoutId (caller : Nat) : NonEmptyText :=
  if caller = 0 then documentedEvent.correlationId else tagged "checkout-" (freshId caller 0)

def orderedEvent (caller : Nat) : OrderCreatedEvent where
  eventId := freshId caller 3
  occurredAt := documentedEvent.occurredAt
  correlationId := checkoutId caller
  causationId := tagged "request-" (freshId caller 2)
  data := { documentedEvent.data with orderId := tagged "ORD-" (freshId caller 1) }

def preparation (caller : Nat) : Calls :=
  (if caller = 0 then [] else [⟨.uuid4, .ok (freshId caller 0)⟩]) ++
    [⟨.uuid4, .ok (freshId caller 1)⟩, ⟨.uuid4, .ok (freshId caller 2)⟩,
      ⟨.now, .ok documentedEvent.occurredAt⟩, ⟨.uuid4, .ok (freshId caller 3)⟩]

theorem preparation_transcribes (caller : Nat) :
    Transcribes (prepareOrder (orderRequest caller)) (preparation caller)
      (.ok (checkoutId caller, orderedEvent caller)) := by
  have given : Transcribes (givenOr (orderRequest caller).correlationHeader (newId "checkout-"))
      (if caller = 0 then [] else [⟨.uuid4, .ok (freshId caller 0)⟩])
      (.ok (checkoutId caller)) := by
    unfold orderRequest checkoutId
    by_cases first : caller = 0
    · simp only [if_pos first]
      exact transcribes_done_iff.mpr ⟨rfl, rfl⟩
    · simp only [if_neg first]
      exact transcribes_step_iff.mpr ⟨.ok _, [], rfl, transcribes_done_iff.mpr ⟨rfl, rfl⟩⟩
  unfold prepareOrder
  refine transcribes_bind_iff.mpr ⟨_, _, .ok (checkoutId caller), rfl, given, ?_⟩
  refine transcribes_call_iff.mpr ⟨.ok (freshId caller 1), _, rfl, ?_⟩
  refine transcribes_call_iff.mpr ⟨.ok (freshId caller 2), _, rfl, ?_⟩
  refine transcribes_call_iff.mpr ⟨.ok documentedEvent.occurredAt, _, rfl, ?_⟩
  refine transcribes_call_iff.mpr ⟨.ok (freshId caller 3), [], rfl, ?_⟩
  exact transcribes_done_iff.mpr ⟨rfl, rfl⟩

/-- The collaborators of a preparation leave the world as it is. -/
theorem preparation_plays (caller : Nat) (world : World) :
    Plays exec world (preparation caller) world := by
  have last : Plays exec world [⟨.uuid4, .ok (freshId caller 1)⟩,
      ⟨.uuid4, .ok (freshId caller 2)⟩, ⟨.now, .ok documentedEvent.occurredAt⟩,
      ⟨.uuid4, .ok (freshId caller 3)⟩] world := by
    refine plays_step (show exec .uuid4 ([], freshId caller 1) world = _ from rfl) ?_
    refine plays_step (show exec .uuid4 ([], freshId caller 2) world = _ from rfl) ?_
    refine plays_step (show exec .now ([], documentedEvent.occurredAt) world = _ from rfl) ?_
    exact plays_step (show exec .uuid4 ([], freshId caller 3) world = _ from rfl) (.nil world)
  unfold preparation
  by_cases first : caller = 0
  · rw [if_pos first]
    exact last
  · rw [if_neg first]
    exact plays_step (show exec .uuid4 ([], freshId caller 0) world = _ from rfl) last

theorem ordered_readable : ∀ caller : Fin 2,
    Reads referencePublisherRuntime referencePublisherRuntime.dumpsUnicode
      (.dict (eventToWireDict referencePublisherRuntime (orderedEvent caller))) := by
  decide +kernel

theorem ordered_rereads (caller : Fin 2) :
    Rereads referencePublisherRuntime (orderedEvent caller) where
  eventId := by
    revert caller
    decide +kernel
  occurredAt := documented_rereads.occurredAt

theorem ordered_built (caller : Fin 2) :
    ∃ record, Built referencePublisherRuntime "orders" (orderedEvent caller) record := by
  have formatted : ∀ caller : Fin 2,
      referencePublisherRuntime.uuidFormat (orderedEvent caller).eventId.str = true := by
    decide +kernel
  obtain ⟨value, serialized⟩ := valid_serialized reference_printer (ordered_readable caller)
    (validate_typed_iff.mpr ⟨formatted caller, (validate_typed_iff.mp documented_valid).2⟩)
  exact record_built referencePublisherRuntime "orders" (orderedEvent caller) serialized

variable (first second : ProducerRecord)

/-- The broker has stored the second record and nothing has been reported. -/
def secondStored : World :=
  World.passAll { idleWorld with produced := [first, second] } [.acknowledge 1 1 none]

def bothServed : World :=
  (secondStored first second).passAll [.acknowledge 0 0 none, .serve 0, .serve 1]

def storedAt (caller : Nat) : DeliveredMessage :=
  if caller = 0 then
    ⟨first.topic, 0, ((secondStored first second).log (first.topic, 0)).length, none⟩
  else ⟨second.topic, 1, 0, none⟩

def published (record : ProducerRecord) (caller : Nat) : Calls :=
  [⟨.produce record, .ok caller⟩, ⟨.flush 15, .ok 0⟩, ⟨.deliveryErrors caller, .ok []⟩,
    ⟨.deliveredMessages caller, .ok [storedAt first second caller]⟩]

/-- The second client's flush serves the callbacks of both. -/
def sharedFlush : List (Nat × Exchange Exc Op.Ret) :=
  (preparation 0).map (Prod.mk 0) ++ ((preparation 1).map (Prod.mk 1) ++
    [(0, ⟨.produce first, .ok 0⟩), (1, ⟨.produce second, .ok 1⟩),
      (1, ⟨.flush 15, .ok 0⟩), (0, ⟨.flush 15, .ok 0⟩),
      (0, ⟨.deliveryErrors 0, .ok []⟩), (1, ⟨.deliveryErrors 1, .ok []⟩),
      (0, ⟨.deliveredMessages 0, .ok [storedAt first second 0]⟩),
      (1, ⟨.deliveredMessages 1, .ok [storedAt first second 1]⟩)])

theorem shared_flush_plays :
    Plays exec idleWorld ((sharedFlush first second).map Prod.snd) (bothServed first second) := by
  have served : Plays exec (bothServed first second)
      [⟨.flush 15, .ok 0⟩, ⟨.deliveryErrors 0, .ok []⟩, ⟨.deliveryErrors 1, .ok []⟩,
        ⟨.deliveredMessages 0, .ok [storedAt first second 0]⟩,
        ⟨.deliveredMessages 1, .ok [storedAt first second 1]⟩] (bothServed first second) := by
    refine plays_step (show exec (.flush 15) ([], none) _ = (.ok 0, _) from rfl) ?_
    refine plays_step (show exec (.deliveryErrors 0) ([], ()) _ = (.ok [], _) from rfl) ?_
    refine plays_step (show exec (.deliveryErrors 1) ([], ()) _ = (.ok [], _) from rfl) ?_
    refine plays_step (show exec (.deliveredMessages 0) ([], ()) _ = (.ok [_], _) from rfl) ?_
    exact plays_step (show exec (.deliveredMessages 1) ([], ()) _ = (.ok [_], _) from rfl) (.nil _)
  refine (plays_append_iff exec).mpr ⟨idleWorld, preparation_plays 0 idleWorld, ?_⟩
  refine (plays_append_iff exec).mpr ⟨idleWorld, preparation_plays 1 idleWorld, ?_⟩
  refine plays_step (show exec (.produce first) ([], none) idleWorld =
    (.ok 0, { idleWorld with produced := [first] }) from rfl) ?_
  refine plays_step (show exec (.produce second) ([], none) _ =
    (.ok 1, { idleWorld with produced := [first, second] }) from rfl) ?_
  exact plays_step (show exec (.flush 15)
    ([.acknowledge 1 1 none, .acknowledge 0 0 none, .serve 0, .serve 1], none) _ =
    (.ok 0, bothServed first second) from rfl) served

variable {first second}

theorem shared_flush_accepted {record : ProducerRecord} {caller : Nat}
    (own : ownCalls caller (sharedFlush first second) =
      preparation caller ++ published first second record caller)
    (built : Built referencePublisherRuntime "orders" (orderedEvent caller) record) :
    Transcribes (createOrder referencePublisherRuntime orderApp (orderRequest caller))
      (ownCalls caller (sharedFlush first second))
      (.ok (replyOf (checkoutId caller) (orderedEvent caller))) := by
  have judged : Judges referencePublisherRuntime orderApp.publisher "orders" (orderedEvent caller)
      record.headers caller 0 _ _ := .delivered (storedAt first second caller) rfl
  exact accepted_iff.mpr ⟨_, _, _, _, _, own, preparation_transcribes caller,
    transcribes_of_flushed orderApp.named built judged, rfl⟩

/-- The event behind a response is the one that the request prepared. -/
theorem backed_event {caller ticket : Nat} {final : World} {header : Str}
    {body : CreateOrderResponse} {record own : ProducerRecord} {event : OrderCreatedEvent}
    {receipt : KafkaPublishReceipt}
    (backed : Backed referencePublisherRuntime orderApp (orderRequest caller)
      (sharedFlush first second) final caller ticket header body record event receipt)
    (said : ownCalls caller (sharedFlush first second) =
      preparation caller ++ published first second own caller) :
    event = orderedEvent caller := by
  obtain ⟨correlationId, early, publication, same, prepared, _⟩ := backed.received
  obtain ⟨_, returned⟩ := transcribes_prefix_unique prepared (preparation_transcribes caller)
    (same.symm.trans said)
  cases returned
  rfl

/-- Two orders at once, of which one flush serves both, are acknowledged and decode. -/
theorem concurrent_orders_acknowledged :
    ∃ history final, ∀ caller : Fin 2, ∃ header body ticket record event receipt payload,
      Backed referencePublisherRuntime orderApp (orderRequest caller) history final caller ticket
        header body record event receipt ∧
      decodeValue referencePublisherRuntime.toRuntime (some record.value) =
        .ok (payload, event) := by
  obtain ⟨first, firstBuilt⟩ := ordered_built 0
  obtain ⟨second, secondBuilt⟩ := ordered_built 1
  have accepted : ∀ caller : Fin 2, ∃ record,
      ownCalls caller.val (sharedFlush first second) =
        preparation caller ++ published first second record caller ∧
      Transcribes (createOrder referencePublisherRuntime orderApp (orderRequest caller))
        (ownCalls caller.val (sharedFlush first second))
        (.ok (replyOf (checkoutId caller) (orderedEvent caller))) :=
    Fin.forall_fin_two.mpr ⟨⟨first, rfl, shared_flush_accepted rfl firstBuilt⟩,
      ⟨second, rfl, shared_flush_accepted rfl secondBuilt⟩⟩
  have run : Interleaved exec (fun caller => createOrder referencePublisherRuntime orderApp
      (orderRequest caller)) idleWorld (sharedFlush first second) (bothServed first second) := by
    refine ⟨shared_flush_plays first second, ?_⟩
    intro caller
    rcases caller with _ | _ | caller
    · obtain ⟨record, _, transcribed⟩ := accepted 0
      exact ⟨[], _, transcribed⟩
    · obtain ⟨record, _, transcribed⟩ := accepted 1
      exact ⟨[], _, transcribed⟩
    · exact exists_transcript ⟨runtimeError, []⟩ _
  refine ⟨sharedFlush first second, bothServed first second, ?_⟩
  intro caller
  obtain ⟨own, said, transcribed⟩ := accepted caller
  obtain ⟨ticket, record, event, receipt, backed⟩ :=
    (accepted_orders_acknowledged referencePublisherRuntime orderApp orderRequest
      (sharedFlush first second) (bothServed first second) run).1 caller _ _ transcribed
  have same := backed_event backed said
  subst same
  obtain ⟨payload, decoded⟩ := backed.decoded (ordered_readable caller) (ordered_rereads caller)
  exact ⟨_, _, ticket, record, _, receipt, payload, backed, decoded⟩

end Concurrent

end OrderMessaging.OrderApi.HttpApi
