import OrderMessaging.LocalLab.WorkerProvenance
import OrderMessaging.LocalLab.WorkerRecovery
import OrderMessaging.OrderApi.HttpApi

/-!
An order from its request to the database. The clients' producer and the worker
meet in the topic: the record that the broker acknowledged to a client is the one
that the worker polls at that place. So every order that was accepted arrives once
failures stop, and its row carries what was asked for.
-/

namespace OrderMessaging.LocalLab.OrderJourney

open OrderMessaging.PyText OrderMessaging.PyException OrderMessaging.PyValue
open OrderMessaging.Program OrderMessaging.Transcript OrderMessaging.Contracts.Models
open OrderMessaging.Contracts.Reference OrderMessaging.Contracts.WireFormat
open OrderMessaging.Messaging.SharedProducer (exec idleWorld)
open OrderMessaging.Messaging.EventPublishers OrderMessaging.Messaging.RoundTrip
open OrderMessaging.Messaging.KafkaPublication
open OrderMessaging.OrderApi.HttpApi
open OrderMessaging.Processing.PostgresOrderStore
open OrderMessaging.Processing.RetryAndDeadLetter (KafkaPublishReceipt)
open OrderMessaging.Processing.KafkaDelivery (decodeValue)
open OrderMessaging.Processing.DeadLetterEnvelope OrderMessaging.Processing.DeliveryOutcome
open OrderMessaging.LocalLab.ConsumerWorker OrderMessaging.LocalLab.WorkerSettlement
open OrderMessaging.LocalLab.WorkerProvenance OrderMessaging.LocalLab.WorkerRecovery

set_option autoImplicit false

/-- The topic holds the clients' records where the broker says it stored them. -/
def Holds (final : Messaging.SharedProducer.World) (topic : Str) (log : Log) : Prop :=
  ∀ partition offset ticket record,
    (final.log (topic, partition))[offset]? = some (some ticket) →
    final.produced[ticket]? = some record →
    log partition offset = ⟨some record.key, some record.value⟩

/-- The JSON module reads back what it prints for the event. -/
structure Readable (runtime : PublisherRuntime) (event : OrderCreatedEvent) : Prop where
  unicode : Reads runtime runtime.dumpsUnicode (.dict (eventToWireDict runtime event))
  rereads : Rereads runtime event

/-- The event was completed, or the broker acknowledged an envelope of its record. -/
def Arrived (runtime : Runtime) (settings : LocalLabConfig) (log : Log) (eventId : Uuid)
    (receipt : KafkaPublishReceipt) (world : Processing.KafkaCollaborators.World) : Prop :=
  eventId ∈ world.database.completions ∨ ∃ envelope ∈ world.acknowledged,
    EnvelopeFor runtime settings.kafkaDlqTopic
      (message settings log receipt.partition receipt.offset) envelope

/-- The row is the one that the request asked for, under the identifiers it was told. -/
structure RowOf (request : OrderRequest) (body : CreateOrderResponse) (row : OrderRow) :
    Prop where
  orderId : row.orderId = body.orderId
  customerId : row.customerId = request.order.customerId.text
  amount : amountColumn request.order.amount.value = .ok row.amount
  currency : row.currency = request.order.currency.text
  correlationId : row.correlationId = body.correlationId

theorem row_of_fits {request : OrderRequest} {event : OrderCreatedEvent} {row : OrderRow}
    (fits : orderRow event = .ok row)
    (customer : event.data.customerId = request.order.customerId)
    (asked : event.data.amount = request.order.amount)
    (paid : event.data.currency = request.order.currency) :
    RowOf request ⟨event.data.orderId.text, event.correlationId.text, event.eventId⟩ row := by
  obtain ⟨orderId, customerId, amount, correlationId, currency, _⟩ := order_row_iff.mp fits
  constructor
  case orderId => exact (text_column_iff.mp orderId).2
  case customerId =>
    rw [← customer]
    exact (text_column_iff.mp customerId).2
  case amount =>
    rw [← asked]
    exact amount
  case currency =>
    rw [← paid]
    exact currency
  case correlationId => exact (text_column_iff.mp correlationId).2

/-- No other event of the topic has the identity of this one. -/
def OnlyOne (runtime : Runtime) (log : Log) (event : OrderCreatedEvent) : Prop :=
  ∀ partition offset payload other,
    decodeValue runtime (log partition offset).value = .ok (payload, other) →
    other.eventId = event.eventId → other = event

section Meeting

variable {runtime : PublisherRuntime} {app : OrderApp} {request : OrderRequest}
variable {history : List (Nat × Exchange Exc Messaging.SharedProducer.Op.Ret)}
variable {final : Messaging.SharedProducer.World} {caller ticket : Nat} {header : Str}
variable {body : CreateOrderResponse} {record : Messaging.SharedProducer.ProducerRecord}
variable {event : OrderCreatedEvent} {receipt : KafkaPublishReceipt}
variable {settings : LocalLabConfig} {log : Log} {origin : Nat → Nat}

/-- The worker finds the record of an accepted request where the receipt says. -/
theorem backed_polled (played : Plays exec idleWorld (history.map Prod.snd) final)
    (backed : Backed runtime app request history final caller ticket header body record event
      receipt)
    (shared : settings.kafkaTopic = app.topic) (holds : Holds final settings.kafkaTopic log)
    (readable : Readable runtime event) :
    ∃ payload, decodeValue runtime.toRuntime
      (message settings log receipt.partition receipt.offset).value = .ok (payload, event) := by
  have stored := (backed.stored (receipt.topic, receipt.partition) receipt.offset).mpr ⟨rfl, rfl⟩
  rw [backed.topic, ← shared] at stored
  have produced := Messaging.SharedProducer.plays_produced played
    (List.mem_map.mpr ⟨_, backed.handed, rfl⟩)
  have found := holds receipt.partition receipt.offset ticket record stored produced
  have value : (message settings log receipt.partition receipt.offset).value =
      some record.value := congrArg Record.value found
  rw [value]
  exact backed.decoded readable.unicode readable.rereads

theorem settled_arrived {payload : PyVal} {world : Processing.KafkaCollaborators.World}
    (decoded : decodeValue runtime.toRuntime
      (message settings log receipt.partition receipt.offset).value = .ok (payload, event))
    (settled : Settled runtime.toRuntime settings
      (message settings log receipt.partition receipt.offset) world) :
    Arrived runtime.toRuntime settings log event.eventId receipt world := by
  rcases settled with ⟨other, found, again, completed⟩ | lettered
  · rw [decoded] at again
    cases again
    exact .inl completed
  · exact .inr lettered

theorem step_settled {worker : Worker} {own : Processing.KafkaCollaborators.Message}
    (settled : Settled runtime.toRuntime settings own worker.world) (label : Label) :
    Settled runtime.toRuntime settings own
      (step runtime.toRuntime settings log worker label).world := by
  have moved := step_moved runtime.toRuntime settings log worker label
  generalize step runtime.toRuntime settings log worker label = reached at moved ⊢
  cases moved with
  | stays | starts | stops | admits | returns | raises => exact settled
  | calls session op next poll answer held running => exact exec_settled op _ settled

/-- What is settled stays settled. -/
theorem steps_settled {worker : Worker} {own : Processing.KafkaCollaborators.Message}
    (settled : Settled runtime.toRuntime settings own worker.world) (labels : List Label) :
    Settled runtime.toRuntime settings own
      (steps runtime.toRuntime settings log worker labels).world := by
  induction labels generalizing worker with
  | nil => exact settled
  | cons label rest ih => exact ih (step_settled settled label)

/-- Any record of the group is settled after enough deliveries of its partition. -/
theorem record_settles (json : JsonTexts runtime.toRuntime)
    (topic : Encodable settings.kafkaTopic) {labels : List Label}
    (raised : RaisedSettled runtime.toRuntime settings log origin labels) {partition offset : Nat}
    (responsible : origin partition ≤ offset)
    (prints : ∀ earlier ≤ offset,
      RecordPrints runtime.toRuntime settings log partition earlier)
    {env : Nat → Nat → (op : Processing.KafkaCollaborators.Op) → op.Choice}
    (recovering : ∀ delivery index op, Recovering op (env delivery index op)) :
    ∃ counts, Settled runtime.toRuntime settings (message settings log partition offset)
      (runKafkaWorker runtime.toRuntime settings log origin
        (labels ++ recovery partition env counts)).world := by
  have consistent := run_consistent runtime.toRuntime settings log origin labels
  let before := committed settings
    (runKafkaWorker runtime.toRuntime settings log origin labels).world partition
  obtain ⟨counts, _, caughtUp⟩ := @recovery_catches_up runtime.toRuntime settings log origin json
    topic _ consistent partition env recovering (offset + 1 - before) fun earlier _ below =>
      prints earlier (by omega)
  refine ⟨counts, ?_⟩
  rw [run_append]
  by_cases passed : offset < before
  · exact steps_settled (raised_none_skipped raised partition offset responsible passed) _
  · apply caughtUp.settled offset (Nat.not_lt.mp passed)
    change offset < before + (offset + 1 - before)
    omega

end Meeting

section Documented

/-- The topic as the broker stored it; nothing is known of other producers' records. -/
def topicLog (final : Messaging.SharedProducer.World) (topic : Str) : Log := fun partition offset =>
  match (final.log (topic, partition))[offset]? with
  | some (some ticket) =>
      match final.produced[ticket]? with
      | some record => ⟨some record.key, some record.value⟩
      | none => ⟨none, none⟩
  | _ => ⟨none, none⟩

theorem topic_log_holds (final : Messaging.SharedProducer.World) (topic : Str) :
    Holds final topic (topicLog final topic) := by
  intro partition offset ticket record stored produced
  simp only [topicLog, stored, produced]

def ordersLab : LocalLabConfig := ⟨"orders", "orders.dlq", "local-order-consumer"⟩

/-- The reference runtime of the clients with the JSON printer of the consumers. -/
def labRuntime : PublisherRuntime :=
  { referencePublisherRuntime with dumps := referenceRuntime.dumps }

theorem lab_json : JsonTexts labRuntime.toRuntime := reference_json

theorem lab_readable (caller : Fin 2) : Readable labRuntime (orderedEvent caller) where
  unicode := ordered_readable caller
  rereads := ⟨(ordered_rereads caller).eventId, (ordered_rereads caller).occurredAt⟩

/-- Two clients order at once, and one flush serves both. -/
theorem documented_requests : ∃ first second,
    Built referencePublisherRuntime "orders" (orderedEvent 0) first ∧
    Built referencePublisherRuntime "orders" (orderedEvent 1) second ∧
    Interleaved exec (fun caller => createOrder labRuntime orderApp (orderRequest caller))
      idleWorld (sharedFlush first second) (bothServed first second) ∧
    ∀ caller : Fin 2, ∃ record,
      ownCalls caller.val (sharedFlush first second) =
        preparation caller ++ published first second record caller ∧
      Transcribes (createOrder labRuntime orderApp (orderRequest caller))
        (ownCalls caller.val (sharedFlush first second))
        (.ok (replyOf (checkoutId caller) (orderedEvent caller))) := by
  obtain ⟨first, firstBuilt⟩ := ordered_built 0
  obtain ⟨second, secondBuilt⟩ := ordered_built 1
  have accepted : ∀ caller : Fin 2, ∃ record,
      ownCalls caller.val (sharedFlush first second) =
        preparation caller ++ published first second record caller ∧
      Transcribes (createOrder labRuntime orderApp (orderRequest caller))
        (ownCalls caller.val (sharedFlush first second))
        (.ok (replyOf (checkoutId caller) (orderedEvent caller))) :=
    Fin.forall_fin_two.mpr ⟨⟨first, rfl, shared_flush_accepted rfl firstBuilt⟩,
      ⟨second, rfl, shared_flush_accepted rfl secondBuilt⟩⟩
  refine ⟨first, second, firstBuilt, secondBuilt, ⟨shared_flush_plays first second, ?_⟩, accepted⟩
  intro caller
  rcases caller with _ | _ | caller
  · obtain ⟨record, _, transcribed⟩ := accepted 0
    exact ⟨[], _, transcribed⟩
  · obtain ⟨record, _, transcribed⟩ := accepted 1
    exact ⟨[], _, transcribed⟩
  · exact exists_transcript ⟨runtimeError, []⟩ _

theorem documented_event {first second own : Messaging.SharedProducer.ProducerRecord}
    {caller ticket : Nat} {final : Messaging.SharedProducer.World} {header : Str}
    {body : CreateOrderResponse} {record : Messaging.SharedProducer.ProducerRecord}
    {event : OrderCreatedEvent} {receipt : KafkaPublishReceipt}
    (backed : Backed labRuntime orderApp (orderRequest caller) (sharedFlush first second) final
      caller ticket header body record event receipt)
    (said : ownCalls caller (sharedFlush first second) =
      preparation caller ++ published first second own caller) :
    event = orderedEvent caller := by
  obtain ⟨correlationId, early, publication, same, prepared, _⟩ := backed.received
  obtain ⟨_, returned⟩ := transcribes_prefix_unique prepared (preparation_transcribes caller)
    (same.symm.trans said)
  cases returned
  rfl

theorem record_decoded {caller : Fin 2} {record : Messaging.SharedProducer.ProducerRecord}
    (built : Built referencePublisherRuntime "orders" (orderedEvent caller) record) :
    ∃ payload, decodeValue labRuntime.toRuntime (some record.value) =
      .ok (payload, orderedEvent caller) :=
  @serialized_decoded labRuntime (orderedEvent caller) record.value (lab_readable caller).unicode
    (lab_readable caller).rereads built.value

theorem lab_event {first second : Messaging.SharedProducer.ProducerRecord}
    (firstBuilt : Built referencePublisherRuntime "orders" (orderedEvent 0) first)
    (secondBuilt : Built referencePublisherRuntime "orders" (orderedEvent 1) second)
    {partition offset : Nat} {payload : PyVal} {event : OrderCreatedEvent}
    (decoded : decodeValue labRuntime.toRuntime
      (topicLog (bothServed first second) "orders" partition offset).value =
        .ok (payload, event)) :
    ∃ caller : Fin 2, event = orderedEvent caller := by
  have unreadable : decodeValue labRuntime.toRuntime none ≠ .ok (payload, event) := by
    intro contrary
    cases contrary
  unfold topicLog at decoded
  split at decoded
  case h_2 => exact absurd decoded unreadable
  case h_1 ticket stored =>
    split at decoded
    case h_2 => exact absurd decoded unreadable
    case h_1 record produced =>
      change [first, second][ticket]? = some record at produced
      rcases ticket with _ | _ | ticket
      · cases produced
        obtain ⟨own, found⟩ := @record_decoded 0 _ firstBuilt
        rw [found] at decoded
        cases decoded
        exact ⟨0, rfl⟩
      · cases produced
        obtain ⟨own, found⟩ := @record_decoded 1 _ secondBuilt
        rw [found] at decoded
        cases decoded
        exact ⟨1, rfl⟩
      · cases produced

theorem ordered_only {first second : Messaging.SharedProducer.ProducerRecord}
    (firstBuilt : Built referencePublisherRuntime "orders" (orderedEvent 0) first)
    (secondBuilt : Built referencePublisherRuntime "orders" (orderedEvent 1) second)
    (caller : Fin 2) :
    OnlyOne labRuntime.toRuntime (topicLog (bothServed first second) "orders")
      (orderedEvent caller) := by
  intro partition offset payload other decoded identity
  obtain ⟨own, rfl⟩ := lab_event firstBuilt secondBuilt decoded
  have distinct : ∀ first second : Fin 2,
      (orderedEvent first).eventId = (orderedEvent second).eventId → first = second := by
    decide +kernel
  rw [distinct own caller identity]

end Documented

section Journey

variable (runtime : PublisherRuntime) (app : OrderApp) (requests : Nat → OrderRequest)
variable (history : List (Nat × Exchange Exc Messaging.SharedProducer.Op.Ret))
variable (final : Messaging.SharedProducer.World)
variable (settings : LocalLabConfig) (log : Log) (origin : Nat → Nat) (labels : List Label)

/-- Every accepted order arrives: as long as no commit has passed a record that
failed, a restarted worker completes or dead-letters it after finitely many
deliveries, even if the store stays down. -/
theorem accepted_order_arrives (json : JsonTexts runtime.toRuntime)
    (run : Interleaved exec (fun caller => createOrder runtime app (requests caller)) idleWorld
      history final)
    (topic : Encodable settings.kafkaTopic) (shared : settings.kafkaTopic = app.topic)
    (holds : Holds final settings.kafkaTopic log)
    (raised : RaisedSettled runtime.toRuntime settings log origin labels)
    (env : Nat → Nat → (op : Processing.KafkaCollaborators.Op) → op.Choice)
    (recovering : ∀ delivery index op, Recovering op (env delivery index op))
    (caller : Nat) (header : Str) (body : CreateOrderResponse)
    (accepted : Transcribes (createOrder runtime app (requests caller)) (ownCalls caller history)
      (.ok (.accepted header body))) :
    ∃ ticket record event receipt, Backed runtime app (requests caller) history final caller
        ticket header body record event receipt ∧
      (Readable runtime event → origin receipt.partition ≤ receipt.offset →
        (∀ offset ≤ receipt.offset,
          RecordPrints runtime.toRuntime settings log receipt.partition offset) →
        ∃ counts, Arrived runtime.toRuntime settings log body.eventId receipt
          (runKafkaWorker runtime.toRuntime settings log origin
            (labels ++ recovery receipt.partition env counts)).world) := by
  obtain ⟨ticket, record, event, receipt, backed⟩ := accepted_backed run.answered accepted
  refine ⟨ticket, record, event, receipt, backed, ?_⟩
  intro readable responsible prints
  obtain ⟨payload, decoded⟩ := backed_polled run.answered backed shared holds readable
  obtain ⟨counts, settled⟩ := record_settles json topic raised responsible prints recovering
  have named : body.eventId = event.eventId := by rw [backed.response]
  rw [named]
  exact ⟨counts, settled_arrived decoded settled⟩

/-- Both of two concurrent orders arrive at a worker whose store is down. -/
theorem concurrent_orders_arrive : ∃ final, ∀ caller : Fin 2, ∃ receipt counts,
    Arrived labRuntime.toRuntime ordersLab (topicLog final "orders")
      (orderedEvent caller).eventId receipt
      (runKafkaWorker labRuntime.toRuntime ordersLab (topicLog final "orders") (fun _ => 0)
        (recovery receipt.partition (fun _ _ => storeDown) counts)).world := by
  obtain ⟨first, second, _, _, run, accepted⟩ := documented_requests
  refine ⟨bothServed first second, ?_⟩
  intro caller
  obtain ⟨own, said, transcribed⟩ := accepted caller
  have unfailed : RaisedSettled labRuntime.toRuntime ordersLab
      (topicLog (bothServed first second) "orders") (fun _ => 0) [] := by
    intro early label late contrary
    cases early <;> cases contrary
  obtain ⟨ticket, record, event, receipt, backed, arrives⟩ :=
    accepted_order_arrives labRuntime orderApp orderRequest
      (sharedFlush first second) (bothServed first second) ordersLab
      (topicLog (bothServed first second) "orders") (fun _ => 0) [] lab_json run
      (of_string_encodable _) rfl (topic_log_holds _ _) unfailed (fun _ _ => storeDown)
      (fun _ _ => store_down_recovering) caller _ _ transcribed
  have same := documented_event backed said
  subst same
  obtain ⟨counts, arrived⟩ := arrives (lab_readable caller) (Nat.zero_le _) fun _ _ =>
    reference_envelope_prints _ _
  exact ⟨receipt, counts, arrived⟩

/-- In every run of the worker, a row under the identity of an accepted order is the
order that was asked for. -/
theorem accepted_order_recorded
    (run : Interleaved exec (fun caller => createOrder runtime app (requests caller)) idleWorld
      history final)
    (caller : Nat) (header : Str) (body : CreateOrderResponse)
    (accepted : Transcribes (createOrder runtime app (requests caller)) (ownCalls caller history)
      (.ok (.accepted header body))) :
    ∃ ticket record event receipt, Backed runtime app (requests caller) history final caller
        ticket header body record event receipt ∧
      (OnlyOne runtime.toRuntime log event →
        ∀ row ∈ (runKafkaWorker runtime.toRuntime settings log origin
            labels).world.database.tables.orders,
          row.sourceEventId = body.eventId → RowOf (requests caller) body row) := by
  obtain ⟨ticket, record, event, receipt, backed⟩ := accepted_backed run.answered accepted
  refine ⟨ticket, record, event, receipt, backed, ?_⟩
  intro only row member source
  have attributed := (run_faithful runtime.toRuntime settings log origin labels).attributed
  obtain ⟨other, ⟨own, payload, ⟨partition, offset, _, logged⟩, decoded⟩, fits⟩ :=
    attributed.orders row member
  have named : body.eventId = event.eventId := by rw [backed.response]
  have identity : other.eventId = event.eventId :=
    (order_row_source fits).symm.trans (source.trans named)
  rw [logged] at decoded
  have same := only partition offset payload other decoded identity
  subst same
  rw [backed.response]
  exact row_of_fits fits backed.customerId backed.amount backed.currency

/-- The rows of two concurrent orders, in every run of a worker on their topic. -/
theorem concurrent_orders_recorded : ∃ final, ∀ caller : Fin 2,
    ∃ body : CreateOrderResponse, body.eventId = (orderedEvent caller).eventId ∧ ∀ labels,
      ∀ row ∈ (runKafkaWorker labRuntime.toRuntime ordersLab (topicLog final "orders")
          (fun _ => 0) labels).world.database.tables.orders,
        row.sourceEventId = body.eventId → RowOf (orderRequest caller) body row := by
  obtain ⟨first, second, firstBuilt, secondBuilt, run, accepted⟩ := documented_requests
  refine ⟨bothServed first second, ?_⟩
  intro caller
  obtain ⟨own, said, transcribed⟩ := accepted caller
  refine ⟨⟨(orderedEvent caller).data.orderId.text, (checkoutId caller).text,
    (orderedEvent caller).eventId⟩, rfl, ?_⟩
  intro labels row member source
  obtain ⟨ticket, record, event, receipt, backed, recorded⟩ :=
    accepted_order_recorded labRuntime orderApp orderRequest
      (sharedFlush first second) (bothServed first second) ordersLab
      (topicLog (bothServed first second) "orders") (fun _ => 0) labels run caller _ _ transcribed
  have same := documented_event backed said
  subst same
  exact recorded (ordered_only firstBuilt secondBuilt caller) row member source

end Journey

end OrderMessaging.LocalLab.OrderJourney
