import OrderMessaging.Messaging.EventPublishers
import OrderMessaging.Processing.NotificationClient

/-!
Everything a publication to Kafka can say to the shared producer, and how it ends.
The verdict depends on what the flush returned and on the two lists of the call's
own delivery callback.
-/

namespace OrderMessaging.Messaging.KafkaPublication

open OrderMessaging.PyText OrderMessaging.PyException OrderMessaging.Transcript
open OrderMessaging.Contracts.Models OrderMessaging.Contracts.WireFormat
open OrderMessaging.Messaging.SharedProducer OrderMessaging.Messaging.EventPublishers
open OrderMessaging.Processing.KafkaCollaborators (DeliveredMessage)
open OrderMessaging.Processing.RetryAndDeadLetter
  (KafkaPublishReceipt encode encode_encodable receiptOf)
open OrderMessaging.Processing.NotificationClient (ascii_encodable uuid_ascii)

set_option autoImplicit false

variable (runtime : PublisherRuntime) (publisher : KafkaEventPublisher) (topic : Str)
variable (event : OrderCreatedEvent)

/-- The record of an event, when its headers, value and key can be built. -/
structure Built (record : ProducerRecord) : Prop where
  topic : record.topic = topic
  headers : orderCreatedHeaders runtime event = .ok record.headers
  value : serializeOrderCreatedEvent runtime event = .ok record.value
  key : encode runtime.toRuntime event.data.orderId.text = .ok record.key

/-- What the code says after a flush that returned, and how it ends. -/
inductive Judges (headers : List (Str × ByteArray)) (ticket undelivered : Nat) :
    Calls → Except Exc KafkaPublishReceipt → Prop where
  | unacknowledged (queued : undelivered ≠ 0) :
      Judges headers ticket undelivered []
        (.error (notAcknowledged runtime publisher topic event undelivered))
  | errorsUnread (fault : Exc) (drained : undelivered = 0) :
      Judges headers ticket undelivered [⟨.deliveryErrors ticket, .error fault⟩] (.error fault)
  | failed (error : Str) (others : List Str) (drained : undelivered = 0) :
      Judges headers ticket undelivered [⟨.deliveryErrors ticket, .ok (error :: others)⟩]
        (.error (deliveryFailed runtime topic event error))
  | messagesUnread (fault : Exc) (drained : undelivered = 0) :
      Judges headers ticket undelivered
        [⟨.deliveryErrors ticket, .ok []⟩, ⟨.deliveredMessages ticket, .error fault⟩]
        (.error fault)
  | delivered (message : DeliveredMessage) (drained : undelivered = 0) :
      Judges headers ticket undelivered
        [⟨.deliveryErrors ticket, .ok []⟩, ⟨.deliveredMessages ticket, .ok [message]⟩]
        (.ok (receiptOf event.data.orderId.text headers message))
  | unreported (messages : List DeliveredMessage) (drained : undelivered = 0)
      (other : messages.length ≠ 1) :
      Judges headers ticket undelivered
        [⟨.deliveryErrors ticket, .ok []⟩, ⟨.deliveredMessages ticket, .ok messages⟩]
        (.error (notReported runtime topic event))

/-- What `publish_order_created` says, and how it ends. -/
inductive Publishes : Calls → Except Exc KafkaPublishReceipt → Prop where
  | unbuilt (fault : Exc) : Publishes [] (.error fault)
  | refused (record : ProducerRecord) (cause : Exc) (built : Built runtime topic event record) :
      Publishes [⟨.produce record, .error cause⟩]
        (.error (wrapRejection runtime topic event cause))
  | interrupted (record : ProducerRecord) (ticket : Nat) (cause : Exc)
      (built : Built runtime topic event record) :
      Publishes [⟨.produce record, .ok ticket⟩,
          ⟨.flush publisher.deliveryTimeoutSeconds, .error cause⟩]
        (.error (wrapRejection runtime topic event cause))
  | flushed (record : ProducerRecord) (ticket undelivered : Nat) (rest : Calls)
      (outcome : Except Exc KafkaPublishReceipt) (built : Built runtime topic event record)
      (judged : Judges runtime publisher topic event record.headers ticket undelivered rest
        outcome) :
      Publishes (⟨.produce record, .ok ticket⟩ ::
        ⟨.flush publisher.deliveryTimeoutSeconds, .ok undelivered⟩ :: rest) outcome

theorem headers_built : ∃ headers, orderCreatedHeaders runtime event = .ok headers := by
  obtain ⟨contentType, first⟩ :=
    encode_encodable runtime.toRuntime (of_string_encodable "application/json")
  obtain ⟨eventType, second⟩ :=
    encode_encodable runtime.toRuntime (of_string_encodable "order.created")
  obtain ⟨eventVersion, third⟩ :=
    encode_encodable runtime.toRuntime (of_string_encodable (toString (1 : Int)))
  obtain ⟨eventId, fourth⟩ :=
    encode_encodable runtime.toRuntime (ascii_encodable (uuid_ascii event.eventId))
  obtain ⟨correlationId, fifth⟩ :=
    encode_encodable runtime.toRuntime event.correlationId.encodable
  obtain ⟨causationId, sixth⟩ := encode_encodable runtime.toRuntime event.causationId.encodable
  simp only [orderCreatedHeaders, OrderCreatedEvent.eventType, OrderCreatedEvent.eventVersion,
    PyJson.intText, first, second, third, fourth, fifth, sixth]
  exact ⟨_, rfl⟩

/-- Whatever can be serialized can be handed to the producer. -/
theorem record_built {value : ByteArray}
    (serialized : serializeOrderCreatedEvent runtime event = .ok value) :
    ∃ record, Built runtime topic event record := by
  obtain ⟨headers, headed⟩ := headers_built runtime event
  obtain ⟨key, keyed⟩ := encode_encodable runtime.toRuntime event.data.orderId.encodable
  exact ⟨⟨topic, key, value, headers⟩, rfl, headed, serialized, keyed⟩

section Transcripts

variable {runtime publisher topic event} {calls : Calls}
variable {outcome : Except Exc KafkaPublishReceipt}

theorem judges_of_transcribes {headers : List (Str × ByteArray)} {ticket undelivered : Nat}
    (transcribed : Transcribes
      (judgeDelivery runtime publisher topic event headers ticket undelivered) calls outcome) :
    Judges runtime publisher topic event headers ticket undelivered calls outcome := by
  unfold judgeDelivery at transcribed
  by_cases queued : undelivered ≠ 0
  · rw [if_pos queued] at transcribed
    obtain ⟨rfl, rfl⟩ := transcribes_raise_iff.mp transcribed
    exact .unacknowledged queued
  · rw [if_neg queued] at transcribed
    have drained : undelivered = 0 := not_not.mp queued
    obtain ⟨errors, rest, rfl, resumed⟩ := transcribes_step_iff.mp transcribed
    rcases errors with fault | _ | ⟨error, others⟩
    · obtain ⟨rfl, rfl⟩ := resumed
      exact .errorsUnread fault drained
    · obtain ⟨messages, tail, rfl, judged⟩ := transcribes_step_iff.mp resumed
      rcases messages with fault | _ | ⟨message, _ | ⟨second, others⟩⟩
      · obtain ⟨rfl, rfl⟩ := judged
        exact .messagesUnread fault drained
      · obtain ⟨rfl, rfl⟩ := transcribes_raise_iff.mp judged
        exact .unreported [] drained (by simp)
      · obtain ⟨rfl, rfl⟩ := transcribes_done_iff.mp judged
        exact .delivered message drained
      · obtain ⟨rfl, rfl⟩ := transcribes_raise_iff.mp judged
        exact .unreported (message :: second :: others) drained (by simp)
    · obtain ⟨rfl, rfl⟩ := transcribes_raise_iff.mp resumed
      exact .failed error others drained

theorem transcribes_of_judges {headers : List (Str × ByteArray)} {ticket undelivered : Nat}
    (judged : Judges runtime publisher topic event headers ticket undelivered calls outcome) :
    Transcribes (judgeDelivery runtime publisher topic event headers ticket undelivered) calls
      outcome := by
  unfold judgeDelivery
  cases judged with
  | unacknowledged queued =>
      rw [if_pos queued]
      exact transcribes_raise_iff.mpr ⟨rfl, rfl⟩
  | errorsUnread fault drained =>
      rw [if_neg (not_not.mpr drained)]
      exact transcribes_step_iff.mpr ⟨.error fault, [], rfl, rfl, rfl⟩
  | failed error others drained =>
      rw [if_neg (not_not.mpr drained)]
      refine transcribes_step_iff.mpr ⟨.ok (error :: others), [], rfl, ?_⟩
      exact transcribes_raise_iff.mpr ⟨rfl, rfl⟩
  | messagesUnread fault drained =>
      rw [if_neg (not_not.mpr drained)]
      refine transcribes_step_iff.mpr ⟨.ok [], _, rfl, ?_⟩
      exact transcribes_step_iff.mpr ⟨.error fault, [], rfl, rfl, rfl⟩
  | delivered message drained =>
      rw [if_neg (not_not.mpr drained)]
      refine transcribes_step_iff.mpr ⟨.ok [], _, rfl, ?_⟩
      refine transcribes_step_iff.mpr ⟨.ok [message], [], rfl, ?_⟩
      exact transcribes_done_iff.mpr ⟨rfl, rfl⟩
  | unreported messages drained other =>
      rw [if_neg (not_not.mpr drained)]
      refine transcribes_step_iff.mpr ⟨.ok [], _, rfl, ?_⟩
      refine transcribes_step_iff.mpr ⟨.ok messages, [], rfl, ?_⟩
      rcases messages with _ | ⟨message, _ | ⟨second, others⟩⟩
      · exact transcribes_raise_iff.mpr ⟨rfl, rfl⟩
      · exact absurd rfl other
      · exact transcribes_raise_iff.mpr ⟨rfl, rfl⟩

/-- What the `try` block says: the ticket and the flush's answer, or what stopped it. -/
theorem produce_and_flush_transcribes {headers : List (Str × ByteArray)} {value : ByteArray}
    {ended : Except Exc (Nat × Nat)}
    (transcribed : Transcribes (produceAndFlush runtime publisher topic event headers value) calls
      ended) :
    (∃ fault, calls = [] ∧ ended = .error fault) ∨
    ∃ key, encode runtime.toRuntime event.data.orderId.text = .ok key ∧
      ((∃ cause, calls = [⟨.produce ⟨topic, key, value, headers⟩, .error cause⟩] ∧
          ended = .error cause) ∨
        ∃ ticket answer, calls = [⟨.produce ⟨topic, key, value, headers⟩, .ok ticket⟩,
            ⟨.flush publisher.deliveryTimeoutSeconds, answer⟩] ∧
          ended = answer.map fun undelivered => (ticket, undelivered)) := by
  unfold produceAndFlush at transcribed
  have keyed := transcribes_pure_iff.mp transcribed
  cases encoded : encode runtime.toRuntime event.data.orderId.text with
  | error fault =>
      rw [encoded] at keyed
      exact .inl ⟨fault, keyed⟩
  | ok key =>
      rw [encoded] at keyed
      refine .inr ⟨key, rfl, ?_⟩
      obtain ⟨accepted, afterProduce, rfl, resumed⟩ := transcribes_step_iff.mp keyed
      cases accepted with
      | error cause =>
          obtain ⟨rfl, rfl⟩ := resumed
          exact .inl ⟨cause, rfl, rfl⟩
      | ok ticket =>
          obtain ⟨answer, afterFlush, rfl, returned⟩ := transcribes_step_iff.mp resumed
          cases answer with
          | error cause =>
              obtain ⟨rfl, rfl⟩ := returned
              exact .inr ⟨ticket, .error cause, rfl, rfl⟩
          | ok undelivered =>
              obtain ⟨rfl, rfl⟩ := transcribes_done_iff.mp returned
              exact .inr ⟨ticket, .ok undelivered, rfl, rfl⟩

theorem publishes_of_transcribes
    (transcribed : Transcribes (publishToKafka runtime publisher topic event) calls outcome) :
    Publishes runtime publisher topic event calls outcome := by
  unfold publishToKafka at transcribed
  by_cases blank : isBlank topic = true
  · rw [if_pos blank] at transcribed
    obtain ⟨rfl, rfl⟩ := transcribes_raise_iff.mp transcribed
    exact .unbuilt _
  · rw [if_neg blank] at transcribed
    have headed := transcribes_pure_iff.mp transcribed
    cases headersBuilt : orderCreatedHeaders runtime event with
    | error fault =>
        rw [headersBuilt] at headed
        obtain ⟨rfl, rfl⟩ := headed
        exact .unbuilt fault
    | ok headers =>
        rw [headersBuilt] at headed
        have serialized := transcribes_pure_iff.mp headed
        cases valueBuilt : serializeOrderCreatedEvent runtime event with
        | error fault =>
            rw [valueBuilt] at serialized
            obtain ⟨rfl, rfl⟩ := serialized
            exact .unbuilt fault
        | ok value =>
            rw [valueBuilt] at serialized
            obtain ⟨first, rest, result, rfl, tried, resumed⟩ := transcribes_bind_iff.mp serialized
            obtain ⟨ended, rfl, transcribedTry⟩ := transcribes_mapFault_iff.mp tried
            rcases produce_and_flush_transcribes transcribedTry with
              ⟨fault, rfl, rfl⟩ | ⟨key, keyBuilt, stopped | ⟨ticket, answer, rfl, rfl⟩⟩
            · obtain ⟨rfl, rfl⟩ := resumed
              exact .unbuilt _
            · obtain ⟨cause, rfl, rfl⟩ := stopped
              obtain ⟨rfl, rfl⟩ := resumed
              exact .refused _ cause ⟨rfl, headersBuilt, valueBuilt, keyBuilt⟩
            · have built : Built runtime topic event ⟨topic, key, value, headers⟩ :=
                ⟨rfl, headersBuilt, valueBuilt, keyBuilt⟩
              cases answer with
              | error cause =>
                  obtain ⟨rfl, rfl⟩ := resumed
                  exact .interrupted _ ticket cause built
              | ok undelivered =>
                  exact .flushed _ ticket undelivered rest outcome built
                    (judges_of_transcribes resumed)

/-- A record that can be built, a flush that returned and any verdict on it. -/
theorem transcribes_of_flushed {record : ProducerRecord} {ticket undelivered : Nat}
    (named : isBlank topic = false) (built : Built runtime topic event record)
    (judged : Judges runtime publisher topic event record.headers ticket undelivered calls
      outcome) :
    Transcribes (publishToKafka runtime publisher topic event)
      (⟨.produce record, .ok ticket⟩ ::
        ⟨.flush publisher.deliveryTimeoutSeconds, .ok undelivered⟩ :: calls) outcome := by
  have blank : ¬isBlank topic = true := by simp [named]
  obtain ⟨recordTopic, key, value, headers⟩ := record
  obtain ⟨rfl, headersBuilt, valueBuilt, keyBuilt⟩ := built
  unfold publishToKafka
  rw [if_neg blank]
  refine transcribes_pure_iff.mpr ?_
  rw [headersBuilt]
  refine transcribes_pure_iff.mpr ?_
  rw [valueBuilt]
  refine transcribes_bind_iff.mpr ⟨[⟨.produce ⟨recordTopic, key, value, headers⟩, .ok ticket⟩,
    ⟨.flush publisher.deliveryTimeoutSeconds, .ok undelivered⟩], calls, .ok (ticket, undelivered),
    rfl, transcribes_mapFault_iff.mpr ⟨.ok (ticket, undelivered), rfl, ?_⟩,
    transcribes_of_judges judged⟩
  unfold produceAndFlush
  refine transcribes_pure_iff.mpr ?_
  rw [keyBuilt]
  refine transcribes_step_iff.mpr ⟨.ok ticket, _, rfl, ?_⟩
  refine transcribes_step_iff.mpr ⟨.ok undelivered, [], rfl, ?_⟩
  exact transcribes_done_iff.mpr ⟨rfl, rfl⟩

/-- The calls of a publication that returned a receipt. -/
theorem published_calls {receipt : KafkaPublishReceipt}
    (transcribed : Transcribes (publishToKafka runtime publisher topic event) calls
      (.ok receipt)) :
    ∃ record ticket message, Built runtime topic event record ∧
      calls = [⟨.produce record, .ok ticket⟩, ⟨.flush publisher.deliveryTimeoutSeconds, .ok 0⟩,
        ⟨.deliveryErrors ticket, .ok []⟩, ⟨.deliveredMessages ticket, .ok [message]⟩] ∧
      receipt = receiptOf event.data.orderId.text record.headers message := by
  have published := publishes_of_transcribes transcribed
  generalize ended : (Except.ok receipt : Except Exc KafkaPublishReceipt) = outcome at published
  cases published with
  | unbuilt | refused | interrupted => cases ended
  | flushed record ticket undelivered rest _ built judged =>
      cases judged with
      | unacknowledged | errorsUnread | failed | messagesUnread | unreported => cases ended
      | delivered message drained =>
          cases ended
          subst drained
          exact ⟨record, ticket, message, built, rfl, rfl⟩

end Transcripts

end OrderMessaging.Messaging.KafkaPublication
