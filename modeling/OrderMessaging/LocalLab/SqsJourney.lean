import OrderMessaging.Library.Projection
import OrderMessaging.LocalLab.OrderJourney
import OrderMessaging.Processing.SqsAcknowledgement

/-!
The SQS half of the lab: requests that order through the API and consumers of the
queue that it publishes to, call by call over one queue and one store. What the
consumers do on the queue is a run of the consumers alone, on the messages that
were sent; what the requests do decides which messages those are.
-/

namespace OrderMessaging.LocalLab.SqsJourney

open OrderMessaging.PyText OrderMessaging.PyException OrderMessaging.PyValue
open OrderMessaging.Program OrderMessaging.Interleaving OrderMessaging.Projection
open OrderMessaging.Transcript OrderMessaging.Contracts.Models
open OrderMessaging.Contracts.WireFormat OrderMessaging.Messaging.EventPublishers
open OrderMessaging.Messaging.RoundTrip OrderMessaging.OrderApi.HttpApi
open OrderMessaging.Processing.PostgresOrderStore OrderMessaging.Processing.OrderLedger
open OrderMessaging.Processing.StoreOperations OrderMessaging.Processing.SqsDelivery
open OrderMessaging.Processing.SqsAcknowledgement OrderMessaging.Processing.DecodeAgreement
open OrderMessaging.LocalLab.OrderJourney
open OrderMessaging.Processing.RetryAndDeadLetter (eventPublishError)
open OrderMessaging.Messaging.SharedProducer (idleWorld)

set_option autoImplicit false

section System

/-- The application over the SQS publisher; a blank queue URL is refused. -/
structure SqsApp where
  queueUrl : Str
  named : isBlank queueUrl = false

/-- The calls of the API process, of its SQS client, and of the consumers. -/
inductive Op where
  | client (op : Messaging.SharedProducer.Op)
  | publish (op : SqsOp)
  | consume (op : Processing.SqsDelivery.Op)

abbrev Op.Ret : Op → Type
  | client op => op.Ret
  | publish op => op.Ret
  | consume op => op.Ret

/-- What a sender is answered, and how many copies the queue keeps besides the one
that it acknowledges: a request can be stored although its answer was lost. -/
structure SendChoice where
  copies : Nat
  answer : Except Exc SendMessageResponse

abbrev Op.Choice : Op → Type
  | client op => op.Choice
  | publish _ => SendChoice
  | consume op => op.Choice

/-- The Kafka producer of the same process, the messages that the queue accepted,
the earliest first, and the consumers' side of the queue. -/
structure World where
  producer : Messaging.SharedProducer.World
  sent : List SendMessageRequest
  queue : Processing.SqsDelivery.World

def SendChoice.stored (choice : SendChoice) : Nat :=
  choice.copies + match choice.answer with
    | .ok _ => 1
    | .error _ => 0

def bodyOf (sent : List SendMessageRequest) (handle : Nat) : Str :=
  (sent[handle]?.map SendMessageRequest.messageBody).getD []

/-- A receive can return any message that was sent, and no other. -/
def offered (sent : List SendMessageRequest) :
    (op : Processing.SqsDelivery.Op) → op.Choice → op.Choice
  | .receiveMessage, answer => answer.map fun picked => picked.filter (· < sent.length)
  | .order _, failure => failure
  | .deleteMessage _, failure => failure

def exec : Semantics Exc Op.Ret Op.Choice World
  | .client op, choice, world =>
      let (answer, producer) := Messaging.SharedProducer.exec op choice world.producer
      (answer, { world with producer := producer })
  | .publish (.sendMessage message), choice, world =>
      (choice.answer, { world with sent := world.sent ++ List.replicate choice.stored message })
  | .consume op, choice, world =>
      let (answer, queue) := Processing.SqsDelivery.exec (bodyOf world.sent) op
        (offered world.sent op choice) world.queue
      (answer, { world with queue := queue })

variable (runtime : PublisherRuntime) (app : SqsApp)

/-- `create_order` over the SQS publisher. -/
def createSqsOrder (request : OrderRequest) : Prog Exc Op.Ret HttpReply := do
  let (correlationId, event) ← (prepareOrder request).rename Op.client
  match ← Prog.attempt ((publishToSqs runtime app.queueUrl event none none).rename Op.publish) with
  | .ok _ => pure (replyOf correlationId event)
  | .error cause =>
      if cause.isInstance [eventPublishError] then
        pure (.unavailable "Order event could not be published.")
      else Prog.raise cause

/-- One request of the API, by its number, or one `process_one` call. -/
inductive Party where
  | request (number : Nat)
  | delivery

inductive Outcome where
  | replied (number : Nat) (reply : HttpReply)
  | processed (eventId : Str)

variable (requests : Nat → OrderRequest)

def Party.program : Party → Prog Exc Op.Ret Outcome
  | .request number =>
      (createSqsOrder runtime app (requests number)).bind fun reply => pure (.replied number reply)
  | .delivery => embed Op.consume Outcome.processed (processOne runtime.toRuntime)

/-- An empty queue and a fresh store. -/
def openWorld : World := ⟨idleWorld, [], opening []⟩

abbrev Lab := System Exc Op.Ret Outcome World

def lab (labels : List (Label Party Op.Choice)) : Lab :=
  Interleaving.run exec (Party.program runtime app requests) labels (System.idle openWorld)

/-- The message is the event that the request asked for. -/
structure Asked (request : OrderRequest) (event : OrderCreatedEvent)
    (message : SendMessageRequest) : Prop where
  message : sendMessageRequest runtime app.queueUrl event none none = .ok message
  customerId : event.data.customerId = request.order.customerId
  amount : event.data.amount = request.order.amount
  currency : event.data.currency = request.order.currency
  propagated : ∀ given, request.correlationHeader = some given → event.correlationId = given

/-- The JSON module reads back what it prints for the event in ASCII. -/
structure Rereadable (event : OrderCreatedEvent) : Prop where
  ascii : Reads runtime runtime.dumps (.dict (eventToWireDict runtime event))
  rereads : Rereads runtime event

variable {runtime app}

theorem sent_decoded {event : OrderCreatedEvent} {message : SendMessageRequest}
    (built : sendMessageRequest runtime app.queueUrl event none none = .ok message)
    (readable : Rereadable runtime event) :
    decodeBody runtime.toRuntime message.messageBody = .ok event := by
  unfold sendMessageRequest at built
  obtain ⟨_, valid, dumped⟩ := bind_ok_iff.mp built
  obtain ⟨body, printed, same⟩ := bind_ok_iff.mp dumped
  cases same
  obtain ⟨text, again, read⟩ := readable.ascii
  rw [printed] at again
  cases again
  exact decode_body_ok_iff.mpr ⟨_, read, sorted_dump_parsed readable.rereads valid⟩

end System

section Obligations

variable (runtime : PublisherRuntime) (app : SqsApp) (requests : Nat → OrderRequest)

/-- A message with this event was sent. -/
def Published (world : World) (event : OrderCreatedEvent) : Prop :=
  ∃ message ∈ world.sent, decodeBody runtime.toRuntime message.messageBody = .ok event

/-- Messages come from requests, and rows from messages. -/
structure Attributed (world : World) : Prop where
  paired : ∃ ledger, Represents world.queue.database.tables ledger
  sent : ∀ message ∈ world.sent, ∃ number event, Asked runtime app (requests number) event message
  orders : ∀ row ∈ world.queue.database.tables.orders, ∃ event,
    Published runtime world event ∧ orderRow event = .ok row

/-- Messages keep their places in the queue. -/
def Grows (before after : World) : Prop := before.sent <+: after.sent

def Ready : Op → World → Prop
  | .publish (.sendMessage message), _ =>
      ∃ number event, Asked runtime app (requests number) event message
  | .consume (.order (.store event)), world => Published runtime world event
  | _, _ => True

/-- A request that was accepted has a message in the queue. -/
def Answered : Except Exc Outcome → World → Prop
  | .ok (.replied number (.accepted header body)), world =>
      ∃ (handle : Nat) (message : SendMessageRequest) (event : OrderCreatedEvent),
        world.sent[handle]? = some message ∧ Asked runtime app (requests number) event message ∧
        header = event.correlationId.text ∧
        body = ⟨event.data.orderId.text, event.correlationId.text, event.eventId⟩
  | _, _ => True

abbrev Upheld {Value : Type} (post : Except Exc Value → World → Prop)
    (program : Prog Exc Op.Ret Value) (world : World) : Prop :=
  Upholds exec (Keeps (Attributed runtime app requests) Grows) (Ready runtime app requests) post
    program world

variable {runtime app requests}

theorem sent_kept {before after : World} (grown : Grows before after) {handle : Nat}
    {message : SendMessageRequest} (held : before.sent[handle]? = some message) :
    after.sent[handle]? = some message := by
  obtain ⟨rest, same⟩ := grown
  have inside : handle < before.sent.length := (List.getElem?_eq_some_iff.mp held).1
  rw [← same, List.getElem?_append_left inside]
  exact held

theorem published_mono {before after : World} (grown : Grows before after)
    {event : OrderCreatedEvent} (published : Published runtime before event) :
    Published runtime after event := by
  obtain ⟨message, member, decoded⟩ := published
  exact ⟨message, grown.subset member, decoded⟩

theorem growth : Growth Grows (Answered runtime app requests) where
  refl world := List.prefix_refl _
  trans first second third := by
    intro early late
    exact List.IsPrefix.trans early late
  stable outcome before after := by
    intro grown answered
    rcases outcome with fault | ⟨number, ⟨header, body⟩ | detail⟩ | eventId
    · trivial
    · obtain ⟨handle, message, event, held, rest⟩ := answered
      exact ⟨handle, message, event, sent_kept grown held, rest⟩
    · trivial
    · trivial

theorem attributed_mono {before after : World} (grown : Grows before after)
    (database : after.queue.database = before.queue.database)
    (sent : ∀ message ∈ after.sent, message ∈ before.sent ∨
      ∃ number event, Asked runtime app (requests number) event message)
    (attributed : Attributed runtime app requests before) :
    Attributed runtime app requests after := by
  constructor
  case paired =>
    rw [database]
    exact attributed.paired
  case sent =>
    intro message member
    rcases sent message member with earlier | asked
    · exact attributed.sent message earlier
    · exact asked
  case orders =>
    intro row member
    rw [database] at member
    obtain ⟨event, published, fits⟩ := attributed.orders row member
    exact ⟨event, published_mono grown published, fits⟩

theorem order_attributed {world : World} (op : StoreOp) (failure : Option Exc)
    (ready : Ready runtime app requests (.consume (.order op)) world)
    (attributed : Attributed runtime app requests world) :
    Attributed runtime app requests (exec (.consume (.order op)) failure world).2 := by
  obtain ⟨ledger, holds⟩ := attributed.paired
  have only := (holds_only_iff holds).mpr attributed.orders
  obtain ⟨result, reached, after, ran, stepped, represented⟩ := run_refines holds op failure
  have stores : ∀ event, op = .store event → Published runtime world event := by
    intro event same
    subst same
    exact ready
  have still := ledger_op_holds_only stepped stores only
  simp only [exec, offered, Processing.SqsDelivery.exec, ran]
  exact ⟨⟨after, represented⟩, attributed.sent, (holds_only_iff represented).mp still⟩

theorem call_keeps (op : Op) (choice : op.Choice) (world : World)
    (ready : Ready runtime app requests op world) :
    Keeps (Attributed runtime app requests) Grows world (exec op choice world).2 := by
  have unsent : ∀ message ∈ world.sent, message ∈ world.sent ∨
      ∃ number event, Asked runtime app (requests number) event message := by
    intro message member
    exact .inl member
  cases op with
  | client op => exact ⟨List.prefix_refl _, attributed_mono (List.prefix_refl _) rfl unsent⟩
  | publish op =>
      obtain ⟨message⟩ := op
      have grown : Grows world (exec (.publish (.sendMessage message)) choice world).2 :=
        List.prefix_append _ _
      refine ⟨grown, attributed_mono grown rfl ?_⟩
      intro other member
      rcases List.mem_append.mp member with earlier | added
      · exact .inl earlier
      · rw [List.eq_of_mem_replicate added]
        exact .inr ready
  | consume op =>
      cases op with
      | receiveMessage =>
          exact ⟨List.prefix_refl _, attributed_mono (List.prefix_refl _) rfl unsent⟩
      | order op => exact ⟨List.prefix_refl _, order_attributed op choice ready⟩
      | deleteMessage handle =>
          cases choice with
          | some fault =>
              exact ⟨List.prefix_refl _, attributed_mono (List.prefix_refl _) rfl unsent⟩
          | none => exact ⟨List.prefix_refl _, attributed_mono (List.prefix_refl _) rfl unsent⟩

end Obligations

section Threads

variable {runtime : PublisherRuntime} {app : SqsApp} {requests : Nat → OrderRequest}

theorem upheld_call {Value : Type} {op : Op} {post : Except Exc Value → World → Prop}
    {next : op.Ret → Prog Exc Op.Ret Value} {world : World}
    (ready : ∀ reached, Keeps (Attributed runtime app requests) Grows world reached →
      Ready runtime app requests op reached)
    (after : ∀ reached choice,
      Continues exec (Keeps (Attributed runtime app requests) Grows) (Ready runtime app requests)
        post next (exec op choice reached).1 (exec op choice reached).2) :
    Upheld runtime app requests post ((Prog.perform op).bind next) world := by
  rw [Upheld, upholds_bind, upholds_perform]
  intro reached between
  exact ⟨ready reached between, after reached⟩

/-- The calls before the publication are the API's own. -/
theorem prepare_makes (request : OrderRequest) :
    Makes (fun op => op = .uuid4 ∨ op = .now) (prepareOrder request) := by
  have fresh (tag : String) :
      Makes (fun op : Messaging.SharedProducer.Op => op = .uuid4 ∨ op = .now)
        (newId tag) :=
    makes_bind (makes_perform (.inl rfl)) fun _ => makes_done _
  have given {Value : Type} (value : Option Value)
      (make : Prog Exc Messaging.SharedProducer.Op.Ret Value)
      (made : Makes (fun op => op = .uuid4 ∨ op = .now) make) :
      Makes (fun op : Messaging.SharedProducer.Op => op = .uuid4 ∨ op = .now)
        (givenOr value make) := by
    cases value with
    | none => exact made
    | some held => exact makes_done _
  unfold prepareOrder
  refine makes_bind (given _ _ (fresh _)) fun correlationId => ?_
  refine makes_bind (fresh _) fun orderId => ?_
  refine makes_bind (fresh _) fun causationId => ?_
  refine makes_bind ?_ fun event => makes_done _
  unfold makeOrderCreatedEvent
  refine makes_bind (given _ _ (makes_perform (.inr rfl))) fun occurredAt => ?_
  refine makes_bind (given _ _ (makes_perform (.inl rfl))) fun eventId => ?_
  refine makes_bind (given _ _ (fresh _)) fun correlation => ?_
  exact makes_bind (given _ _ (fresh _)) fun causation => makes_done _

theorem prepare_upheld (request : OrderRequest) (world : World) :
    Upheld runtime app requests
      (fun outcome _ => ∀ correlationId event, outcome = .ok (correlationId, event) →
        event.correlationId = correlationId ∧
        (∀ given, request.correlationHeader = some given → correlationId = given) ∧
        event.data.customerId = request.order.customerId ∧
        event.data.amount = request.order.amount ∧
        event.data.currency = request.order.currency)
      ((prepareOrder request).rename Op.client) world := by
  apply (upholds_rename _ _ _ _).mpr
  apply upholds_of_transcripts (fun _ _ _ => trivial) (prepare_makes request)
  intro calls outcome transcribed correlationId event same
  subst same
  exact prepared_event transcribed

theorem publish_upheld {number : Nat} {event : OrderCreatedEvent} {world : World}
    (asks : ∀ message, sendMessageRequest runtime app.queueUrl event none none = .ok message →
      Asked runtime app (requests number) event message) :
    Upheld runtime app requests
      (fun outcome final => ∀ receipt, outcome = .ok receipt →
        ∃ (handle : Nat) (message : SendMessageRequest), final.sent[handle]? = some message ∧
          Asked runtime app (requests number) event message)
      ((publishToSqs runtime app.queueUrl event none none).rename Op.publish) world := by
  have blank : ¬isBlank app.queueUrl = true := by simp [app.named]
  apply (upholds_rename _ _ _ _).mpr
  rw [publishToSqs, if_neg blank]
  apply (upholds_bind _ _ _ _).mpr
  rw [upholds_done]
  cases built : sendMessageRequest runtime app.queueUrl event none none with
  | error fault => simp
  | ok message =>
      apply (upholds_bind _ _ _ _).mpr
      apply (upholds_mapFault _ _ _ _).mpr
      apply (upholds_perform _ _).mpr
      intro reached _
      refine ⟨⟨number, event, asks message built⟩, ?_⟩
      intro choice
      cases answered : choice.answer with
      | error fault => simp [exec, answered, Except.mapError]
      | ok response =>
          have stored : message ∈ List.replicate choice.stored message := by
            apply List.mem_replicate.mpr
            refine ⟨?_, rfl⟩
            simp [SendChoice.stored, answered]
          obtain ⟨handle, held⟩ :=
            List.mem_iff_getElem?.mp (List.mem_append_right reached.sent stored)
          simp only [exec, answered, Except.mapError, continues_ok, Prog.pure_eq, upholds_done]
          exact fun _ _ => ⟨handle, message, held, asks message built⟩

theorem request_upheld (number : Nat) (world : World) :
    Upheld runtime app requests (Answered runtime app requests)
      ((Party.request number).program runtime app requests) world := by
  unfold Party.program createSqsOrder
  apply (upholds_bind _ _ _ _).mpr
  apply (upholds_bind _ _ _ _).mpr
  apply upholds_mono (prepare_upheld (requests number) world)
  intro outcome prepared facts
  cases outcome with
  | error fault => trivial
  | ok made =>
      obtain ⟨correlationId, event⟩ := made
      obtain ⟨rfl, propagated, customerId, amount, currency⟩ := facts correlationId event rfl
      apply (upholds_bind _ _ _ _).mpr
      apply (upholds_attempt _ _ _).mpr
      apply upholds_mono (publish_upheld fun message built =>
        ⟨built, customerId, amount, currency, propagated⟩)
      intro outcome published sent
      cases outcome with
      | ok receipt =>
          obtain ⟨handle, message, held, asked⟩ := sent receipt rfl
          exact ⟨handle, message, event, held, asked, rfl, rfl⟩
      | error cause =>
          simp only [continues_ok]
          split <;> trivial

/-- What a delivery does after its store call needs nothing. -/
theorem effects_upheld {handle : Nat} {event : OrderCreatedEvent} (stored : EventStoreResult)
    (world : World) :
    Upholds (fun own => exec (.consume own)) (Keeps (Attributed runtime app requests) Grows)
      (fun own => Ready runtime app requests (.consume own)) (fun (_ : Except Exc Str) _ => True)
      (if stored.downstreamRequired = true then
        (Prog.perform (.order (.markCompleted event.eventId))).bind fun _ =>
          (Prog.perform (.deleteMessage handle)).bind fun _ =>
            pure event.eventId.str
      else
        (Prog.perform (.deleteMessage handle)).bind fun _ =>
          pure event.eventId.str) world := by
  have free : ∀ (op : Processing.SqsDelivery.Op) (reached : World),
      (∀ event, op ≠ .order (.store event)) →
        Ready runtime app requests (.consume op) reached := by
    intro op reached other
    cases op with
    | receiveMessage | deleteMessage => trivial
    | order op =>
        cases op with
        | store event => exact absurd rfl (other event)
        | markCompleted | discard => trivial
  have deletes : Makes (fun op : Processing.SqsDelivery.Op => ∀ event, op ≠ .order (.store event))
      ((Prog.perform (.deleteMessage handle)).bind fun _ =>
        (pure event.eventId.str : Prog Exc Processing.SqsDelivery.Op.Ret Str)) :=
    makes_bind (makes_perform (by simp)) fun _ => makes_done _
  apply upholds_free free (fun _ _ => trivial)
  split
  · exact makes_bind (makes_perform (by simp)) fun _ => deletes
  · exact deletes

/-- A delivery stores the event of the message that it received. -/
theorem consumer_upheld (world : World) :
    Upholds (fun own => exec (.consume own)) (Keeps (Attributed runtime app requests) Grows)
      (fun own => Ready runtime app requests (.consume own)) (fun (_ : Except Exc Str) _ => True)
      (processOne runtime.toRuntime) world := by
  unfold processOne
  apply (upholds_bind _ _ _ _).mpr
  apply (upholds_perform _ _).mpr
  intro received _
  refine ⟨trivial, ?_⟩
  intro answer
  rcases answer with fault | _ | handle
  · trivial
  · trivial
  · by_cases inside : handle < received.sent.length
    · have held : received.sent[handle]? = some received.sent[handle] :=
        List.getElem?_eq_getElem inside
      have body : bodyOf received.sent handle = received.sent[handle].messageBody := by
        rw [bodyOf, held]
        rfl
      simp only [exec, offered, Processing.SqsDelivery.exec, Except.map, Option.map_some,
        Option.filter_some, inside, decide_true, if_true, Option.toList_some, continues_ok, body]
      apply (upholds_bind _ _ _ _).mpr
      rw [upholds_done]
      cases decoded : decodeBody runtime.toRuntime received.sent[handle].messageBody with
      | error fault => trivial
      | ok event =>
          apply (upholds_bind _ _ _ _).mpr
          apply (upholds_perform _ _).mpr
          intro reached between
          refine ⟨⟨_, between.1.subset (List.getElem_mem inside), decoded⟩, ?_⟩
          intro failure
          cases stored : (exec (.consume (.order (.store event))) failure reached).1 with
          | error fault => trivial
          | ok result => exact effects_upheld result _
    · simp only [exec, offered, Processing.SqsDelivery.exec, Except.map, Option.filter_some,
        inside, decide_false, Bool.false_eq_true, if_false, Option.map_none, Option.toList_none,
        continues_ok]
      trivial

theorem delivery_upheld (world : World) :
    Upheld runtime app requests (Answered runtime app requests)
      (Party.delivery.program runtime app requests) world := by
  unfold Party.program embed
  apply (upholds_bind _ _ _ _).mpr
  apply (upholds_rename _ _ _ _).mpr
  apply upholds_mono (consumer_upheld world)
  intro outcome final _
  cases outcome <;> trivial

end Threads

section Runs

variable (runtime : PublisherRuntime) (app : SqsApp) (requests : Nat → OrderRequest)

theorem lab_safe (early late : List (Label Party Op.Choice)) :
    Safe exec (Attributed runtime app requests) Grows (Ready runtime app requests)
        (Answered runtime app requests) openWorld (lab runtime app requests early) ∧
      Safe exec (Attributed runtime app requests) Grows (Ready runtime app requests)
        (Answered runtime app requests) (lab runtime app requests early).world
        (lab runtime app requests (early ++ late)) := by
  have opened : Attributed runtime app requests openWorld := by
    constructor
    case paired => exact ⟨fun _ => none, represents_empty⟩
    case sent | orders =>
      intro trace member
      cases member
  have guarantee (op : Op) (choice : op.Choice) (world : World)
      (_ : Attributed runtime app requests world) (ready : Ready runtime app requests op world) :
      Keeps (Attributed runtime app requests) Grows world (exec op choice world).2 :=
    call_keeps op choice world ready
  have ready (party : Party) (world : World) (_ : Attributed runtime app requests world) :
      Upheld runtime app requests (Answered runtime app requests)
        (party.program runtime app requests) world := by
    cases party with
    | request number => exact request_upheld number world
    | delivery => exact delivery_upheld world
  have first := run_safe growth guarantee ready early (safe_idle growth opened)
  refine ⟨first, ?_⟩
  rw [lab, lab, run_append]
  exact run_safe growth guarantee ready late first

/-- The consumers' side of the lab is the consumers on a queue of all that is sent. -/
theorem lab_projects (queue : Nat → Str) :
    Projects Op.consume Outcome.processed exec (Party.program runtime app requests)
      (Processing.SqsDelivery.exec queue) (fun _ : Unit => processOne runtime.toRuntime)
      World.queue (fun op => ∀ own, op ≠ .consume own)
      (fun world => ∀ (handle : Nat) (message : SendMessageRequest),
        world.sent[handle]? = some message → queue handle = message.messageBody) where
  own := by
    intro op choice world
    refine ⟨offered world.sent op choice, ?_⟩
    intro fine
    cases op with
    | order op => rfl
    | deleteMessage handle => cases choice <;> rfl
    | receiveMessage =>
        rcases choice with fault | _ | handle
        · rfl
        · rfl
        · by_cases inside : handle < world.sent.length
          · have held : world.sent[handle]? = some world.sent[handle] :=
              List.getElem?_eq_getElem inside
            have body : bodyOf world.sent handle = queue handle := by
              rw [fine handle _ held, bodyOf, held]
              rfl
            simp only [exec, offered, Processing.SqsDelivery.exec, Except.map, Option.map_some,
              Option.filter_some, inside, decide_true, if_true, body]
          · simp only [exec, offered, Processing.SqsDelivery.exec, Except.map,
              Option.filter_some, inside, decide_false, Bool.false_eq_true, if_false,
              Option.map_none]
  unseen := by
    intro op choice world other
    cases op with
    | client op => rfl
    | publish op =>
        cases op
        rfl
    | consume op => exact absurd rfl (other op)
  threads := by
    intro party
    cases party with
    | delivery => exact .inl ⟨(), rfl⟩
    | request number =>
        right
        unfold Party.program createSqsOrder
        refine makes_bind (makes_bind (makes_rename (by simp)) fun prepared => ?_)
          fun reply => makes_done _
        refine makes_bind (makes_attempt (makes_rename (by simp))) fun published => ?_
        cases published with
        | ok receipt => exact makes_done _
        | error cause =>
            dsimp only
            split <;> exact makes_done _
  lost := by
    intro op choice world fine handle message held
    apply fine handle message
    cases op with
    | client op => exact held
    | publish op =>
        obtain ⟨sending⟩ := op
        have grown : Grows world (exec (.publish (.sendMessage sending)) choice world).2 :=
          List.prefix_append _ _
        exact sent_kept grown held
    | consume op => exact held

theorem lab_shows_consumers (labels : List (Label Party Op.Choice)) :
    ∃ own, (lab runtime app requests labels).world.queue =
      (consumers runtime.toRuntime (bodyOf (lab runtime app requests labels).world.sent) []
        own).world := by
  have fine : ∀ (handle : Nat) (message : SendMessageRequest),
      (lab runtime app requests labels).world.sent[handle]? = some message →
        bodyOf (lab runtime app requests labels).world.sent handle = message.messageBody := by
    intro handle message held
    rw [bodyOf, held]
    rfl
  obtain ⟨own, related⟩ := run_projects (lab_projects runtime app requests
    (bodyOf (lab runtime app requests labels).world.sent)) openWorld labels fine
  exact ⟨own, related.world⟩

/-- The event that a message decodes to is completed and has one order. -/
structure Fulfilled (message : SendMessageRequest) (event : OrderCreatedEvent) (world : World) :
    Prop where
  decoded : decodeBody runtime.toRuntime message.messageBody = .ok event
  completed : Completed world.queue.database.tables event.eventId
  oneOrder : ∃! row, row ∈ world.queue.database.tables.orders ∧ row.sourceEventId = event.eventId

theorem deleted_fulfilled (labels : List (Label Party Op.Choice)) {handle : Nat}
    {message : SendMessageRequest}
    (held : (lab runtime app requests labels).world.sent[handle]? = some message)
    (deleted : handle ∈ (lab runtime app requests labels).world.queue.deleted) :
    ∃ event, Fulfilled runtime message event (lab runtime app requests labels).world := by
  obtain ⟨own, shown⟩ := lab_shows_consumers runtime app requests labels
  obtain ⟨consistent, _⟩ := consumers_sound runtime.toRuntime
    (bodyOf (lab runtime app requests labels).world.sent) [] own []
  rw [← shown] at consistent
  obtain ⟨⟨ledger, holds⟩, delivered⟩ := consistent
  obtain ⟨event, decoded, completed⟩ := delivered handle deleted
  rw [bodyOf, held] at decoded
  exact ⟨event, decoded, completed, completed_order holds completed⟩

/-- Every row is the order that some request asked for. -/
def AllAsked (world : World) : Prop :=
  ∀ row ∈ world.queue.database.tables.orders, ∃ (number : Nat) (message : SendMessageRequest)
    (event stored : OrderCreatedEvent),
    message ∈ world.sent ∧ Asked runtime app (requests number) event message ∧
    decodeBody runtime.toRuntime message.messageBody = .ok stored ∧ orderRow stored = .ok row ∧
    (Rereadable runtime event → RowOf (requests number)
      ⟨event.data.orderId.text, event.correlationId.text, event.eventId⟩ row)

end Runs

section Documented

def sqsApp : SqsApp := ⟨"orders", rfl⟩

def plainResponse : SendMessageResponse := ⟨[], [], none⟩

/-- What the first documented request says to SQS and its process, in order. -/
def requestCalls (message : SendMessageRequest) : List (Exchange Exc Op.Ret) :=
  [⟨.client .uuid4, .ok (freshId 0 1)⟩, ⟨.client .uuid4, .ok (freshId 0 2)⟩,
    ⟨.client .now, .ok (orderedEvent 0).occurredAt⟩, ⟨.client .uuid4, .ok (freshId 0 3)⟩,
    ⟨.publish (.sendMessage message), .ok plainResponse⟩]

/-- What a delivery that nothing disturbs says about the first message. -/
def deliveryCalls (message : SendMessageRequest) : List (Exchange Exc Op.Ret) :=
  [⟨.consume .receiveMessage, .ok [⟨0, message.messageBody⟩]⟩,
    ⟨.consume (.order (.store (orderedEvent 0))), .ok ⟨true, true⟩⟩,
    ⟨.consume (.order (.markCompleted (orderedEvent 0).eventId)), .ok ()⟩,
    ⟨.consume (.deleteMessage 0), .ok ()⟩]

theorem ordered_rereadable : Rereadable referencePublisherRuntime (orderedEvent 0) where
  ascii := by decide +kernel
  rereads := ordered_rereads 0

theorem ordered_sent : ∃ message,
    sendMessageRequest referencePublisherRuntime sqsApp.queueUrl (orderedEvent 0) none none =
      .ok message := by
  obtain ⟨text, printed, _⟩ := ordered_rereadable.ascii
  have formatted : referencePublisherRuntime.uuidFormat (orderedEvent 0).eventId.str = true := by
    decide +kernel
  have valid := validate_typed_iff.mpr ⟨formatted, (validate_typed_iff.mp documented_valid).2⟩
  refine ⟨_, bind_ok_iff.mpr ⟨(), valid, bind_ok_iff.mpr ⟨text, printed, rfl⟩⟩⟩

theorem ordered_row : ∃ row, orderRow (orderedEvent 0) = .ok row := by
  have stored : (orderRow (orderedEvent 0)).toOption.isSome = true := by decide +kernel
  cases fits : orderRow (orderedEvent 0) with
  | error fault =>
      rw [fits] at stored
      cases stored
  | ok row => exact ⟨row, rfl⟩

variable {message : SendMessageRequest}

theorem request_transcribes
    (built : sendMessageRequest referencePublisherRuntime sqsApp.queueUrl (orderedEvent 0) none
      none = .ok message) :
    Transcribes ((Party.request 0).program referencePublisherRuntime sqsApp orderRequest)
      (requestCalls message) (.ok (.replied 0 (replyOf (checkoutId 0) (orderedEvent 0)))) := by
  have published : Transcribes
      (publishToSqs referencePublisherRuntime sqsApp.queueUrl (orderedEvent 0) none none)
      [⟨.sendMessage message, .ok plainResponse⟩] (.ok ⟨[], [], none⟩) := by
    have blank : ¬isBlank sqsApp.queueUrl = true := by simp [sqsApp.named]
    rw [publishToSqs, if_neg blank]
    apply transcribes_pure_iff.mpr
    rw [built]
    have performed : Transcribes (Prog.perform (SqsOp.sendMessage message))
        [(⟨.sendMessage message, .ok plainResponse⟩ : Exchange Exc SqsOp.Ret)]
        (.ok plainResponse) := transcribes_perform_iff.mpr rfl
    refine transcribes_bind_iff.mpr ⟨_, [], .ok plainResponse, (List.append_nil _).symm, ?_,
      .done _⟩
    exact transcribes_mapFault_iff.mpr ⟨.ok plainResponse, rfl, performed⟩
  have prepared := @transcribes_rename Exc Op Op.Ret _ _ Op.client _ _ _ (preparation_transcribes 0)
  have renamed := @transcribes_rename Exc Op Op.Ret _ _ Op.publish _ _ _ published
  have answered := transcribes_attempt_iff.mpr ⟨_, rfl, renamed⟩
  have replied : Transcribes (createSqsOrder referencePublisherRuntime sqsApp (orderRequest 0))
      (requestCalls message) (.ok (replyOf (checkoutId 0) (orderedEvent 0))) := by
    refine transcribes_bind_iff.mpr ⟨_, _, .ok _, rfl, prepared, ?_⟩
    exact transcribes_bind_iff.mpr ⟨_, [], .ok _, rfl, answered, .done _⟩
  exact transcribes_bind_iff.mpr ⟨requestCalls message, [], .ok _, rfl, replied, .done _⟩

theorem request_plays :
    Plays exec openWorld (requestCalls message) { openWorld with sent := [message] } := by
  refine plays_step (show exec (.client .uuid4) ([], freshId 0 1) openWorld =
    (.ok (freshId 0 1), openWorld) from rfl) ?_
  refine plays_step (show exec (.client .uuid4) ([], freshId 0 2) openWorld =
    (.ok (freshId 0 2), openWorld) from rfl) ?_
  refine plays_step (show exec (.client .now) ([], (orderedEvent 0).occurredAt) openWorld =
    (.ok (orderedEvent 0).occurredAt, openWorld) from rfl) ?_
  refine plays_step (show exec (.client .uuid4) ([], freshId 0 3) openWorld =
    (.ok (freshId 0 3), openWorld) from rfl) ?_
  exact plays_step (show exec (.publish (.sendMessage message)) ⟨0, .ok plainResponse⟩ openWorld =
    (.ok plainResponse, { openWorld with sent := [message] }) from rfl) (.nil _)

theorem delivery_transcribes
    (decoded : decodeBody referencePublisherRuntime.toRuntime message.messageBody =
      .ok (orderedEvent 0)) :
    Transcribes (Party.delivery.program referencePublisherRuntime sqsApp orderRequest)
      (deliveryCalls message) (.ok (.processed (orderedEvent 0).eventId.str)) := by
  have own : Transcribes (processOne referencePublisherRuntime.toRuntime)
      [⟨.receiveMessage, .ok [⟨0, message.messageBody⟩]⟩,
        ⟨.order (.store (orderedEvent 0)), .ok ⟨true, true⟩⟩,
        ⟨.order (.markCompleted (orderedEvent 0).eventId), .ok ()⟩,
        ⟨.deleteMessage 0, .ok ()⟩] (.ok (orderedEvent 0).eventId.str) := by
    refine transcribes_step_iff.mpr ⟨.ok [⟨0, message.messageBody⟩], _, rfl, ?_⟩
    apply transcribes_pure_iff.mpr
    rw [decoded]
    refine transcribes_step_iff.mpr ⟨.ok ⟨true, true⟩, _, rfl, ?_⟩
    refine transcribes_step_iff.mpr ⟨.ok (), _, rfl, ?_⟩
    exact transcribes_step_iff.mpr ⟨.ok (), [], rfl, .done _⟩
  have renamed := @transcribes_rename Exc Op Op.Ret Str _ Op.consume _ _ _ own
  exact transcribes_bind_iff.mpr ⟨deliveryCalls message, [], .ok _, rfl, renamed, .done _⟩

theorem delivery_plays : ∃ final, final.sent = [message] ∧ final.queue.deleted = [0] ∧
    Plays exec { openWorld with sent := [message] } (deliveryCalls message) final := by
  obtain ⟨row, fits⟩ := ordered_row
  obtain ⟨stored, marked, storing, marking⟩ := fresh_store_completes fits
  refine ⟨⟨idleWorld, [message], ⟨marked, [0]⟩⟩, rfl, rfl, ?_⟩
  let received : World := { openWorld with sent := [message] }
  refine plays_step (show exec (.consume .receiveMessage) (.ok (some 0)) received =
    (.ok [⟨0, message.messageBody⟩], received) from rfl) ?_
  refine plays_step (show exec (.consume (.order (.store (orderedEvent 0)))) none received =
    (.ok ⟨true, true⟩, ⟨idleWorld, [message], ⟨stored, []⟩⟩) from ?_) ?_
  · have ran : StoreOp.run (.store (orderedEvent 0)) none received.queue.database =
        (.ok ⟨true, true⟩, stored) := storing
    simp only [exec, offered, Processing.SqsDelivery.exec, ran]
    rfl
  refine plays_step (show exec (.consume (.order (.markCompleted (orderedEvent 0).eventId))) none
    ⟨idleWorld, [message], ⟨stored, []⟩⟩ =
      (.ok (), ⟨idleWorld, [message], ⟨marked, []⟩⟩) from ?_) ?_
  · simp only [exec, offered, Processing.SqsDelivery.exec, marking]
  exact plays_step (show exec (.consume (.deleteMessage 0)) none
    ⟨idleWorld, [message], ⟨marked, []⟩⟩ = (.ok (), ⟨idleWorld, [message], ⟨marked, [0]⟩⟩) from rfl)
    (.nil _)

/-- Answers for the calls that a transcript leaves open. -/
def plainChoice : (op : Op) → op.Choice
  | .client .uuid4 => ([], freshId 0 0)
  | .client .now => ([], (orderedEvent 0).occurredAt)
  | .client (.produce _) | .client (.flush _) => ([], none)
  | .client (.deliveryErrors _) | .client (.deliveredMessages _) => ([], ())
  | .publish _ => ⟨0, .ok plainResponse⟩
  | .consume .receiveMessage => .ok none
  | .consume (.order _) | .consume (.deleteMessage _) => none

/-- The request is answered, and then one delivery runs to its end. -/
theorem documented_run
    (built : sendMessageRequest referencePublisherRuntime sqsApp.queueUrl (orderedEvent 0) none
      none = .ok message) :
    ∃ early late,
      (lab referencePublisherRuntime sqsApp orderRequest early).threads 0 =
        some (.done (.ok (.replied 0 (replyOf (checkoutId 0) (orderedEvent 0))))) ∧
      (lab referencePublisherRuntime sqsApp orderRequest (early ++ late)).world.sent = [message] ∧
      (lab referencePublisherRuntime sqsApp orderRequest (early ++ late)).world.queue.deleted =
        [0] := by
  let program := Party.program referencePublisherRuntime sqsApp orderRequest
  have started := step_start_thread exec program
    (show (System.idle openWorld : Lab).threads 0 = none from rfl) (.request 0)
  obtain ⟨early, posted⟩ := run_transcript program 0 plainChoice started
    (request_transcribes built) request_plays
  have answered : lab referencePublisherRuntime sqsApp orderRequest
      (.start 0 (.request 0) :: early) = _ := posted
  have idle : (lab referencePublisherRuntime sqsApp orderRequest
      (.start 0 (.request 0) :: early)).threads 1 = none := by
    rw [answered]
    rfl
  have begun := step_start_thread exec program idle .delivery
  obtain ⟨final, sent, deleted, delivers⟩ := @delivery_plays message
  have world : (step exec program (lab referencePublisherRuntime sqsApp orderRequest
      (.start 0 (.request 0) :: early)) (.start 1 .delivery)).world =
        { openWorld with sent := [message] } := by
    rw [answered]
    rfl
  rw [← world] at delivers
  obtain ⟨late, delivered⟩ := run_transcript program 1 plainChoice begun
    (delivery_transcribes (sent_decoded built ordered_rereadable)) delivers
  have ended : (lab referencePublisherRuntime sqsApp orderRequest
      (.start 0 (.request 0) :: early ++ .start 1 .delivery :: late)).world = final := by
    rw [lab, run_append]
    exact congrArg System.world delivered
  refine ⟨.start 0 (.request 0) :: early, .start 1 .delivery :: late, ?_, ?_, ?_⟩
  · rw [answered]
    rfl
  · rw [ended]
    exact sent
  · rw [ended]
    exact deleted

end Documented

/-- A 202 response of the SQS application is never lost: from then on its message is
in the queue, and once a consumer deleted it, its event is completed. -/
theorem accepted_sqs_order_kept (runtime : PublisherRuntime) (app : SqsApp)
    (requests : Nat → OrderRequest) (early late : List (Label Party Op.Choice))
    (thread number : Nat) (header : Str) (body : CreateOrderResponse)
    (answered : (lab runtime app requests early).threads thread =
      some (.done (.ok (.replied number (.accepted header body))))) :
    ∃ (handle : Nat) (message : SendMessageRequest) (event : OrderCreatedEvent),
      (lab runtime app requests (early ++ late)).world.sent[handle]? = some message ∧
      Asked runtime app (requests number) event message ∧ header = event.correlationId.text ∧
      body = ⟨event.data.orderId.text, event.correlationId.text, event.eventId⟩ ∧
      (handle ∈ (lab runtime app requests (early ++ late)).world.queue.deleted →
        ∃ stored, Fulfilled runtime message stored
            (lab runtime app requests (early ++ late)).world ∧
          (Rereadable runtime event → stored = event)) := by
  obtain ⟨first, second⟩ := lab_safe runtime app requests early late
  have posted : Answered runtime app requests
      (.ok (.replied number (.accepted header body))) (lab runtime app requests early).world :=
    first.upheld thread _ answered
  obtain ⟨handle, message, event, held, asked, echoed, response⟩ := posted
  have kept := sent_kept second.grown held
  refine ⟨handle, message, event, kept, asked, echoed, response, ?_⟩
  intro deleted
  obtain ⟨stored, fulfilled⟩ := deleted_fulfilled runtime app requests _ kept deleted
  refine ⟨stored, fulfilled, ?_⟩
  intro readable
  have decoded := sent_decoded asked.message readable
  rw [fulfilled.decoded] at decoded
  exact Except.ok.inj decoded

/-- An order that was accepted, delivered and deleted: it is completed. -/
theorem delivered_order_kept : ∃ labels,
    0 ∈ (lab referencePublisherRuntime sqsApp orderRequest labels).world.queue.deleted ∧
    Completed
      (lab referencePublisherRuntime sqsApp orderRequest labels).world.queue.database.tables
      (orderedEvent 0).eventId := by
  obtain ⟨message, built⟩ := ordered_sent
  obtain ⟨early, late, answered, sent, deleted⟩ := documented_run built
  obtain ⟨handle, own, event, held, _, _, _, kept⟩ := accepted_sqs_order_kept
    referencePublisherRuntime sqsApp orderRequest early late 0 0 _ _ answered
  have acknowledged : 0 ∈ (lab referencePublisherRuntime sqsApp orderRequest
      (early ++ late)).world.queue.deleted := by
    rw [deleted]
    exact List.mem_singleton_self 0
  rw [sent] at held
  cases handle with
  | succ handle => cases held
  | zero =>
      cases held
      obtain ⟨stored, fulfilled, _⟩ := kept acknowledged
      have decoded := fulfilled.decoded
      rw [sent_decoded built ordered_rereadable] at decoded
      cases decoded
      exact ⟨early ++ late, acknowledged, fulfilled.completed⟩

/-- In every run of the lab, every order row was asked for by a request. -/
theorem sqs_rows_asked (runtime : PublisherRuntime) (app : SqsApp)
    (requests : Nat → OrderRequest) (labels : List (Label Party Op.Choice)) :
    AllAsked runtime app requests (lab runtime app requests labels).world := by
  intro row member
  obtain ⟨safe, _⟩ := lab_safe runtime app requests labels []
  obtain ⟨stored, ⟨message, sent, decoded⟩, fits⟩ := safe.holds.orders row member
  obtain ⟨number, event, asked⟩ := safe.holds.sent message sent
  refine ⟨number, message, event, stored, sent, asked, decoded, fits, ?_⟩
  intro readable
  have same := sent_decoded asked.message readable
  rw [decoded] at same
  cases same
  exact row_of_fits fits asked.customerId asked.amount asked.currency

end OrderMessaging.LocalLab.SqsJourney
