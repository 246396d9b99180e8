import OrderMessaging.Processing.DeliveryErrors

/-!
What a dead-letter envelope keeps of the record's value. The payload is one JSON
value without a tag: the document when the value is a JSON text, null when there is
no value, and otherwise the value's text with replacement characters for what is not
UTF-8. Two values that this salvage maps to one payload cannot be told apart later.
-/

namespace OrderMessaging.Processing.OriginalPayload

open OrderMessaging.PyText OrderMessaging.PyException OrderMessaging.PyValue
open OrderMessaging.ReplacingDecoder OrderMessaging.JsonText OrderMessaging.Program
open OrderMessaging.Transcript OrderMessaging.Contracts.Models
open OrderMessaging.Contracts.Reference OrderMessaging.Processing.DeadLetterEnvelope
open OrderMessaging.Processing.KafkaCollaborators OrderMessaging.Processing.RetryAndDeadLetter
open OrderMessaging.Processing.KafkaDelivery OrderMessaging.Processing.DeliveryConfluence
open OrderMessaging.Processing.DeliveryTranscript OrderMessaging.Processing.AcceptedNotification
open OrderMessaging.Processing.PoisonRecords

set_option autoImplicit false

section Envelopes

variable (runtime : Runtime)

/-- The original payload as a reader of the dead-letter topic decodes it. -/
def recoveredPayload (record : DlqRecord) : Option PyVal :=
  match (decodeUtf8 record.value).map runtime.loads with
  | some (.ok (.dict entries)) => PyVal.get "original_payload" entries
  | _ => none

/-- The failures that a delivery of this message can report. -/
inductive Reports (message : Message) : DeadLetterFailure → Prop where
  | invalid (cause : Exc) (undecoded : decodeValue runtime message.value = .error cause) :
      Reports message (failureOf message (safeOriginalPayload runtime message.value) cause 1 none)
  | failed (payload : PyVal) (event : OrderCreatedEvent) (cause : Exc) (attempts : Nat)
      (decoded : decodeValue runtime message.value = .ok (payload, event)) :
      Reports message (failureOf message payload cause attempts (some event))

/-- A delivery that hands a record to the dead-letter producer. -/
structure Delivered where
  consumer : KafkaOrderConsumer
  timeoutSeconds : ℚ
  polls : Nat
  message : Message
  calls : Calls
  outcome : Except Exc ProcessedKafkaRecord
  record : DlqRecord

structure Delivered.Publishes (delivered : Delivered) : Prop where
  transcribed : Transcribes
    (processOne runtime delivered.consumer delivered.timeoutSeconds delivered.polls)
    delivered.calls delivered.outcome
  received : ⟨.poll, .ok (some delivered.message)⟩ ∈ delivered.calls
  returned : LocalCallsReturn delivered.calls
  produced : ∃ answer, ⟨.produce delivered.record, answer⟩ ∈ delivered.calls

/-- What `json.loads` reads of a printed envelope has the original payload in it, up
to the order of keys. -/
def ReadsBack (failure : DeadLetterFailure) (deadLetterId : Uuid) (isoformat : Str) : Prop :=
  ∀ printed, runtime.dumps (.dict (failure.toWireDict deadLetterId isoformat)) = .ok printed →
    ∃ entries, runtime.loads printed = .ok (.dict entries) ∧
      PyVal.get "original_payload" entries = some (sortKeys failure.originalPayload)

/-- The assumption about the JSON module, for the envelopes that this delivery can build. -/
def Delivered.ReadsBack (delivered : Delivered) : Prop :=
  ∀ failure deadLetterId isoformat, Reports runtime delivered.message failure →
    ⟨.uuid4, .ok deadLetterId⟩ ∈ delivered.calls → ⟨.utcNow, .ok isoformat⟩ ∈ delivered.calls →
    OriginalPayload.ReadsBack runtime failure deadLetterId isoformat

end Envelopes

section Values

variable (runtime : Runtime)

/-- The value is the text of this JSON document. -/
def Document (value : Option ByteArray) (payload : PyVal) : Prop :=
  ∃ data text, value = some data ∧ decodeUtf8 data = some text ∧ runtime.loads text = .ok payload

/-- The value is no JSON text, and this is its text as far as it is UTF-8. -/
def Undocumented (value : Option ByteArray) (text : Str) : Prop :=
  ∃ data, value = some data ∧ (∀ payload, ¬Document runtime value payload) ∧
    decodeReplacing data = text

def NotUtf8 (value : Option ByteArray) : Prop := ∃ data, value = some data ∧ decodeUtf8 data = none

/-- The values whose envelopes carry equal payloads. -/
inductive Indistinct : Option ByteArray → Option ByteArray → Prop where
  | same (value : Option ByteArray) : Indistinct value value
  | sameDocument (first second : Option ByteArray) (payload other : PyVal)
      (own : Document runtime first payload) (its : Document runtime second other)
      (equal : sortKeys payload = sortKeys other) : Indistinct first second
  | absentNull (second : Option ByteArray) (null : Document runtime second .none) :
      Indistinct none second
  | nullAbsent (first : Option ByteArray) (null : Document runtime first .none) :
      Indistinct first none
  | textQuoted (first second : Option ByteArray) (text : Str)
      (plain : Undocumented runtime first text) (quoted : Document runtime second (.str text)) :
      Indistinct first second
  | quotedText (first second : Option ByteArray) (text : Str)
      (quoted : Document runtime first (.str text)) (plain : Undocumented runtime second text) :
      Indistinct first second
  | replaced (first second : Option ByteArray) (text : Str)
      (own : Undocumented runtime first text) (its : Undocumented runtime second text)
      (lossy : NotUtf8 first ∨ NotUtf8 second) : Indistinct first second

end Values

section Reported

variable {runtime : Runtime} {consumer : KafkaOrderConsumer} {message : Message}
variable {record : DlqRecord} {answer : Except Exc Unit}

/-- The record is the envelope of this failure, with the identifier and the time that
the calls were given. -/
def EnvelopeIn (runtime : Runtime) (failure : DeadLetterFailure) (record : DlqRecord)
    (calls : Calls) : Prop :=
  ∃ topic deadLetterId isoformat, ⟨.uuid4, .ok deadLetterId⟩ ∈ calls ∧
    ⟨.utcNow, .ok isoformat⟩ ∈ calls ∧
    dlqRecord runtime topic failure deadLetterId isoformat = .ok record

theorem envelope_in_mono {failure : DeadLetterFailure} {calls wider : Calls}
    (inside : ∀ exchange ∈ calls, exchange ∈ wider)
    (envelope : EnvelopeIn runtime failure record calls) :
    EnvelopeIn runtime failure record wider := by
  obtain ⟨topic, deadLetterId, isoformat, fresh, now, built⟩ := envelope
  exact ⟨topic, deadLetterId, isoformat, inside _ fresh, inside _ now, built⟩

theorem produced_member {calls : Calls} (produced : ⟨.produce record, answer⟩ ∈ calls) :
    record ∈ producedRecords calls :=
  List.mem_filterMap.mpr ⟨⟨.produce record, answer⟩, produced, rfl⟩

theorem published_envelope {topic : Str} {failure : DeadLetterFailure} {calls : Calls}
    {outcome : Except Exc KafkaPublishReceipt} (produced : ⟨.produce record, answer⟩ ∈ calls)
    (published : Publishes runtime topic failure calls outcome) :
    EnvelopeIn runtime failure record calls := by
  have member := produced_member produced
  cases published with
  | unencodable deadLetterId isoformat fault refused => cases member
  | refused deadLetterId isoformat own fault built =>
      rw [List.mem_singleton.mp member]
      exact ⟨topic, deadLetterId, isoformat, by simp, by simp, built⟩
  | interrupted deadLetterId isoformat own fault built =>
      rw [List.mem_singleton.mp member]
      exact ⟨topic, deadLetterId, isoformat, by simp, by simp, built⟩
  | flushed deadLetterId isoformat own report built =>
      rw [List.mem_singleton.mp member]
      exact ⟨topic, deadLetterId, isoformat, by simp, by simp, built⟩

theorem dead_letter_envelope {topic : Str} {failure : DeadLetterFailure} {duplicate : Bool}
    {calls : Calls} {outcome : Except Exc ProcessedKafkaRecord}
    (produced : ⟨.produce record, answer⟩ ∈ calls)
    (published : DeadLetters runtime consumer topic message failure duplicate calls outcome) :
    EnvelopeIn runtime failure record calls := by
  cases published with
  | unpublished _ fault published => exact published_envelope produced published
  | concluded first receipt commit published =>
      rcases List.mem_append.mp produced with early | last
      · exact envelope_in_mono (fun _ => List.mem_append_left _) (published_envelope early published)
      · cases List.mem_singleton.mp last

/-- Whatever the loop publishes reports a failure of its event. -/
theorem loop_envelope {payload : PyVal} {event : OrderCreatedEvent} {made : Nat}
    {initialIsNew : Option Bool} {calls : Calls} {outcome : Except Exc ProcessedKafkaRecord}
    (produced : ⟨.produce record, answer⟩ ∈ calls)
    (loops : Loops runtime consumer message payload event made initialIsNew calls outcome) :
    ∃ cause attempts,
      EnvelopeIn runtime (failureOf message payload cause attempts (some event)) record calls := by
  have outside : ∀ answers : AttemptAnswers,
      ⟨.produce record, answer⟩ ∉ answers.calls consumer event := by
    intro answers member
    cases attempt_stage answers _ member
  induction loops with
  | finished made initialIsNew answers commit succeeded =>
      rcases List.mem_append.mp produced with attempt | last
      · exact absurd attempt (outside answers)
      · cases List.mem_singleton.mp last
  | retried made initialIsNew answers cause rest outcome failed retries further ih =>
      rcases List.mem_append.mp produced with attempt | late
      · exact absurd attempt (outside answers)
      · rcases List.mem_cons.mp late with wait | later
        · cases wait
        · obtain ⟨cause, attempts, envelope⟩ := ih later
          exact ⟨cause, attempts, envelope_in_mono
            (fun _ member => List.mem_append_right _ (List.mem_cons_of_mem _ member)) envelope⟩
  | gaveUp made initialIsNew answers cause rest outcome failed forGood given =>
      rcases List.mem_append.mp produced with attempt | late
      · exact absurd attempt (outside answers)
      · cases given with
        | noPublisher absent => cases late
        | undiscarded topic fault destination => cases List.mem_singleton.mp late
        | deadLettered topic own _ destination published =>
            rcases List.mem_cons.mp late with discard | later
            · cases discard
            · exact ⟨cause, made + 1, envelope_in_mono
                (fun _ member => List.mem_append_right _ (List.mem_cons_of_mem _ member))
                (dead_letter_envelope later published)⟩

theorem delivered_envelope {delivered : Delivered} (publishes : delivered.Publishes runtime) :
    ∃ failure, Reports runtime delivered.message failure ∧
      EnvelopeIn runtime failure delivered.record delivered.calls := by
  obtain ⟨consumer, timeoutSeconds, polls, message, calls, outcome, record⟩ := delivered
  obtain ⟨transcribed, received, returned, answer, produced⟩ := publishes
  dsimp only at transcribed received returned produced ⊢
  obtain ⟨polled, rest, rfl, receives, processed⟩ :=
    process_one_received returned received transcribed
  have inRest : ⟨.produce record, answer⟩ ∈ rest := by
    rcases List.mem_append.mp produced with early | late
    · cases receives _ early
    · exact late
  have wider : ∀ exchange ∈ rest, exchange ∈ polled ++ rest :=
    fun _ => List.mem_append_right polled
  cases processed with
  | broken error reported => cases inRest
  | invalid cause sound undecoded absent => cases inRest
  | invalidDeadLettered cause topic _ _ sound undecoded destination published =>
      exact ⟨_, .invalid cause undecoded,
        envelope_in_mono wider (dead_letter_envelope inRest published)⟩
  | looped payload event _ _ sound decoded loops =>
      obtain ⟨cause, attempts, envelope⟩ := loop_envelope inRest loops
      exact ⟨_, .failed payload event cause attempts decoded, envelope_in_mono wider envelope⟩

/-- The payload of every failure that a message can have is its salvaged value. -/
theorem reported_payload (empty : ∃ fault, runtime.loads [] = .error fault)
    {failure : DeadLetterFailure} (reports : Reports runtime message failure) :
    failure.originalPayload = safeOriginalPayload runtime message.value := by
  cases reports with
  | invalid cause undecoded => rfl
  | failed payload event cause attempts decoded =>
      change payload = safeOriginalPayload runtime message.value
      obtain ⟨text, read, loaded⟩ := decoded_read decoded
      cases value : message.value with
      | none =>
          rw [value] at read
          cases read
          obtain ⟨fault, refused⟩ := empty
          rw [refused] at loaded
          cases loaded
      | some data =>
          rw [value] at read
          change decode runtime data = .ok text at read
          simp only [safeOriginalPayload, read, loaded, Bind.bind, Except.bind]

/-- What a reader recovers of a delivery's envelope is its salvaged value. -/
theorem delivered_payload (empty : ∃ fault, runtime.loads [] = .error fault)
    {delivered : Delivered} (publishes : delivered.Publishes runtime)
    (readsBack : delivered.ReadsBack runtime) :
    recoveredPayload runtime delivered.record =
      some (sortKeys (safeOriginalPayload runtime delivered.message.value)) := by
  obtain ⟨failure, reports, topic, deadLetterId, isoformat, fresh, now, built⟩ :=
    delivered_envelope publishes
  obtain ⟨key, _, rest⟩ := bind_ok_iff.mp built
  obtain ⟨printed, dumped, afterPrint⟩ := bind_ok_iff.mp rest
  obtain ⟨bytes, encoded, afterEncode⟩ := bind_ok_iff.mp afterPrint
  obtain ⟨headers, _, same⟩ := bind_ok_iff.mp afterEncode
  obtain ⟨entries, loaded, carried⟩ :=
    readsBack failure deadLetterId isoformat reports fresh now printed dumped
  have value : delivered.record.value = bytes := by
    injection same with own
    rw [← own]
  have decoded : decodeUtf8 bytes = some printed := by
    rw [encode] at encoded
    split at encoded
    next own => exact decode_utf8_iff.mpr (by cases encoded; exact own)
    next => cases encoded
  rw [recoveredPayload, value, decoded, Option.map_some, loaded, ← reported_payload empty reports]
  exact carried

end Reported

section Salvage

variable {runtime : Runtime} {value first second : Option ByteArray}

theorem salvaged_document {payload : PyVal} (document : Document runtime value payload) :
    safeOriginalPayload runtime value = payload := by
  obtain ⟨data, text, rfl, decoded, loaded⟩ := document
  have read : decode runtime data = .ok text := by rw [decode, decoded]
  simp only [safeOriginalPayload, read, loaded, Bind.bind, Except.bind]

theorem salvaged_text {text : Str} (plain : Undocumented runtime value text) :
    safeOriginalPayload runtime value = .str text := by
  obtain ⟨data, rfl, undocumented, rfl⟩ := plain
  rw [safeOriginalPayload]
  split
  next payload read =>
    obtain ⟨text, decoded, loaded⟩ := bind_ok_iff.mp read
    rw [decode] at decoded
    split at decoded
    next own =>
      cases decoded
      exact absurd ⟨data, text, rfl, own, loaded⟩ (undocumented payload)
    next => cases decoded
  next => rfl

theorem value_cases (runtime : Runtime) (value : Option ByteArray) :
    value = none ∨ (∃ payload, Document runtime value payload) ∨
      ∃ text, Undocumented runtime value text := by
  cases value with
  | none => exact .inl rfl
  | some data =>
      by_cases document : ∃ payload, Document runtime (some data) payload
      · exact .inr (.inl document)
      · exact .inr (.inr ⟨decodeReplacing data, data, rfl, not_exists.mp document, rfl⟩)

/-- Two values that are UTF-8 but no JSON are salvaged alike only if they are equal. -/
theorem equal_or_lossy {text : Str} (own : Undocumented runtime first text)
    (its : Undocumented runtime second text) :
    first = second ∨ NotUtf8 first ∨ NotUtf8 second := by
  obtain ⟨data, rfl, _, replacedOwn⟩ := own
  obtain ⟨other, rfl, _, replacedIts⟩ := its
  cases decodedOwn : decodeUtf8 data with
  | none => exact .inr (.inl ⟨data, rfl, decodedOwn⟩)
  | some ownText =>
      cases decodedIts : decodeUtf8 other with
      | none => exact .inr (.inr ⟨other, rfl, decodedIts⟩)
      | some itsText =>
          left
          have same : ownText = itsText :=
            (decode_replacing_of_decoded decodedOwn).symm.trans
              ((replacedOwn.trans replacedIts.symm).trans (decode_replacing_of_decoded decodedIts))
          subst same
          exact (decode_utf8_iff.mp decodedOwn).symm.trans (decode_utf8_iff.mp decodedIts)

/-- Values are salvaged alike, up to the order of keys, exactly when they are indistinct. -/
theorem salvage_iff :
    sortKeys (safeOriginalPayload runtime first) = sortKeys (safeOriginalPayload runtime second) ↔
      Indistinct runtime first second := by
  constructor
  · intro same
    rcases value_cases runtime first with rfl | ⟨payload, own⟩ | ⟨text, own⟩
    · rcases value_cases runtime second with rfl | ⟨other, its⟩ | ⟨text, its⟩
      · exact .same none
      · rw [salvaged_document its] at same
        rw [sort_keys_eq_none.mp same.symm] at its
        exact .absentNull second its
      · rw [salvaged_text its] at same
        cases same
    · rw [salvaged_document own] at same
      rcases value_cases runtime second with rfl | ⟨other, its⟩ | ⟨text, its⟩
      · rw [sort_keys_eq_none.mp same] at own
        exact .nullAbsent first own
      · rw [salvaged_document its] at same
        exact .sameDocument first second payload other own its same
      · rw [salvaged_text its] at same
        rw [sort_keys_eq_str.mp same] at own
        exact .quotedText first second text own its
    · rw [salvaged_text own] at same
      rcases value_cases runtime second with rfl | ⟨other, its⟩ | ⟨other, its⟩
      · cases same
      · rw [salvaged_document its] at same
        rw [sort_keys_eq_str.mp same.symm] at its
        exact .textQuoted first second text own its
      · rw [salvaged_text its] at same
        cases same
        rcases equal_or_lossy own its with rfl | lossy
        · exact .same first
        · exact .replaced first second text own its lossy
  · intro indistinct
    cases indistinct with
    | same => rfl
    | sameDocument _ _ payload other own its equal =>
        rw [salvaged_document own, salvaged_document its, equal]
    | absentNull _ null =>
        rw [salvaged_document null]
        rfl
    | nullAbsent _ null =>
        rw [salvaged_document null]
        rfl
    | textQuoted _ _ text plain quoted => rw [salvaged_text plain, salvaged_document quoted]
    | quotedText _ _ text quoted plain => rw [salvaged_text plain, salvaged_document quoted]
    | replaced _ _ text own its lossy => rw [salvaged_text own, salvaged_text its]

end Salvage

/-- Two dead-lettered values leave envelopes with equal payloads exactly when they
are indistinct. -/
theorem recovered_payload_iff (runtime : Runtime) (empty : ∃ fault, runtime.loads [] = .error fault)
    (first second : Delivered) (own : first.Publishes runtime) (its : second.Publishes runtime)
    (ownRead : first.ReadsBack runtime) (itsRead : second.ReadsBack runtime) :
    recoveredPayload runtime first.record = recoveredPayload runtime second.record ↔
      Indistinct runtime first.message.value second.message.value := by
  rw [delivered_payload empty own ownRead, delivered_payload empty its itsRead, Option.some.injEq]
  exact salvage_iff

section Collisions

/-- The scalar payload of an envelope that a reader found. -/
def isScalar (expected : PyVal) (found : Option PyVal) : Bool :=
  match expected, found with
  | .none, some .none => true
  | .str text, some (.str other) => text == other
  | _, _ => false

theorem is_scalar_eq {expected : PyVal} {found : Option PyVal}
    (same : isScalar expected found = true) : found = some expected := by
  unfold isScalar at same
  split at same
  · rfl
  · rw [beq_iff_eq.mp same]
  · cases same

/-- The failure that the delivery of an undecodable value reports. -/
def undecodedFailure (runtime : Runtime) (value : Option ByteArray) (cause : Exc) :
    DeadLetterFailure :=
  failureOf (orderMessage value) (safeOriginalPayload runtime value) cause 1 none

/-- The value does not decode, for this cause, and the envelope of that failure is
built, printed and read back. -/
def lettersBack (runtime : Runtime) (value : Option ByteArray) (cause : Exc) : Bool :=
  let failure := undecodedFailure runtime value cause
  let undecoded := match decodeValue runtime value with
    | .ok _ => false
    | .error fault => fault == cause
  let built := match dlqRecord runtime "orders.dlq" failure ⟨0⟩ [] with
    | .ok _ => true
    | .error _ => false
  let read := match (runtime.dumps (.dict (failure.toWireDict ⟨0⟩ []))).bind
      runtime.loads with
    | .ok (.dict entries) =>
        isScalar (sortKeys failure.originalPayload) (PyVal.get "original_payload" entries)
    | _ => false
  undecoded && built && read

/-- A delivery of such a value. -/
theorem delivered_back {runtime : Runtime} {value : Option ByteArray} {cause : Exc}
    (checked : lettersBack runtime value cause = true) :
    ∃ delivered : Delivered, delivered.message.value = value ∧
      delivered.Publishes runtime ∧ delivered.ReadsBack runtime := by
  simp only [lettersBack, Bool.and_eq_true] at checked
  obtain ⟨⟨undecoded, built⟩, read⟩ := checked
  have failed : decodeValue runtime value = .error cause := by
    split at undecoded
    · cases undecoded
    next own => rw [own, beq_iff_eq.mp undecoded]
  obtain ⟨record, made⟩ : ∃ record,
      dlqRecord runtime "orders.dlq" (undecodedFailure runtime value cause) ⟨0⟩ [] =
        .ok record := by
    split at built
    next record own => exact ⟨record, own⟩
    · cases built
  have published := Publishes.flushed ⟨0⟩ [] record acknowledgement made
  have processed : Processes runtime letteringConsumer (orderMessage value) _ _ :=
    .invalidDeadLettered cause "orders.dlq" _ _ rfl failed rfl (.concluded _ _ (.ok []) published)
  have transcribed := @transcribes_received runtime letteringConsumer 10 0 _ _ _
    (by norm_num) processed
  refine ⟨⟨letteringConsumer, 10, 1, orderMessage value, _, _, record⟩, rfl,
    ⟨transcribed, List.mem_cons_self, ?_, .ok (), ?_⟩, ?_⟩
  · simp [LocalCallsReturn, isLocal]
  · simp
  · intro failure deadLetterId isoformat reports fresh now printed dumped
    have sameId : deadLetterId = ⟨0⟩ := by simpa using fresh
    have sameTime : isoformat = [] := by simpa using now
    subst sameId sameTime
    cases reports with
    | failed payload event other attempts decoded =>
        change decodeValue runtime value = _ at decoded
        rw [failed] at decoded
        cases decoded
    | invalid other again =>
        change decodeValue runtime value = _ at again
        rw [failed] at again
        cases again
        have own : runtime.dumps (.dict
            ((undecodedFailure runtime value cause).toWireDict ⟨0⟩ [])) = .ok printed := dumped
        simp only [own, Except.bind] at read
        split at read
        next entries loaded => exact ⟨entries, loaded, is_scalar_eq read⟩
        · cases read

def expectingValue : Exc := ⟨jsonDecodeError, "Expecting value"⟩
def notAnObject : Exc := ⟨typeError, "event JSON must be an object"⟩
def notDecodable : Exc :=
  ⟨unicodeDecodeError, "'utf-8' codec can't decode byte: invalid start byte"⟩

/-- The UTF-8 bytes of `null`. -/
def nullText : ByteArray := ⟨#[0x6E, 0x75, 0x6C, 0x6C]⟩

/-- The bytes `0xFF` and `0xFE`: no UTF-8 text, and one replacement character each. -/
def firstStray : ByteArray := ⟨#[0xFF]⟩
def secondStray : ByteArray := ⟨#[0xFE]⟩

/-- `abc`, without and with quotes. -/
def bareText : ByteArray := ⟨#[0x61, 0x62, 0x63]⟩
def quotedText : ByteArray := ⟨#[0x22, 0x61, 0x62, 0x63, 0x22]⟩

/-- Both are absent, the same bytes, or texts of one JSON document. -/
def SameValue (runtime : Runtime) (first second : Option ByteArray) : Prop :=
  first = second ∨ ∃ payload other, Document runtime first payload ∧
    Document runtime second other ∧ sortKeys payload = sortKeys other

/-- The value is dead-lettered, and a reader recovers this payload of its envelope. -/
def LettersAs (runtime : Runtime) (value : Option ByteArray) (payload : PyVal) : Prop :=
  ∃ delivered : Delivered, delivered.message.value = value ∧ delivered.Publishes runtime ∧
    recoveredPayload runtime delivered.record = some payload

theorem empty_refused : ∃ fault, printingRuntime.loads [] = .error fault := ⟨expectingValue, rfl⟩

theorem letters_as {value : Option ByteArray} {cause : Exc} {payload : PyVal}
    (checked : lettersBack printingRuntime value cause = true)
    (salvaged : isScalar payload (some (sortKeys (safeOriginalPayload printingRuntime value))) =
      true) : LettersAs printingRuntime value payload := by
  obtain ⟨delivered, own, publishes, readsBack⟩ := delivered_back checked
  refine ⟨delivered, own, publishes, ?_⟩
  rw [delivered_payload empty_refused publishes readsBack, own]
  exact is_scalar_eq salvaged

/-- The value is no JSON text, as the reader finds out. -/
def unread (runtime : Runtime) (data : ByteArray) : Bool :=
  match (decodeUtf8 data).map runtime.loads with
  | some (.ok _) => false
  | _ => true

theorem unread_not_same {runtime : Runtime} {data : ByteArray} {second : Option ByteArray}
    (checked : unread runtime data = true) (distinct : some data ≠ second) :
    ¬SameValue runtime (some data) second := by
  rintro (same | ⟨payload, _, ⟨own, text, sameData, decoded, loaded⟩, _, _⟩)
  · exact distinct same
  · cases sameData
    rw [unread, decoded, Option.map_some, loaded] at checked
    cases checked

/-- Three pairs of different values that one payload stands for: no value and `null`,
two bytes that are no text, and a text without and with quotes. -/
theorem distinct_values_collide :
    (¬SameValue printingRuntime none (some nullText) ∧
      LettersAs printingRuntime none .none ∧ LettersAs printingRuntime (some nullText) .none) ∧
    (¬SameValue printingRuntime (some firstStray) (some secondStray) ∧
      LettersAs printingRuntime (some firstStray) (.str [replacement]) ∧
      LettersAs printingRuntime (some secondStray) (.str [replacement])) ∧
    (¬SameValue printingRuntime (some bareText) (some quotedText) ∧
      LettersAs printingRuntime (some bareText) (.str "abc") ∧
      LettersAs printingRuntime (some quotedText) (.str "abc")) := by
  refine ⟨⟨?_, ?_, ?_⟩, ⟨?_, ?_, ?_⟩, ?_, ?_, ?_⟩
  · rintro (same | ⟨payload, _, ⟨data, _, absent, _⟩, _, _⟩)
    · cases same
    · cases absent
  · exact @letters_as none expectingValue .none (by decide +kernel) (by decide +kernel)
  · exact @letters_as (some nullText) notAnObject .none (by decide +kernel) (by decide +kernel)
  · exact unread_not_same (by decide +kernel) (by decide)
  · exact @letters_as (some firstStray) notDecodable _ (by decide +kernel) (by decide +kernel)
  · exact @letters_as (some secondStray) notDecodable _ (by decide +kernel) (by decide +kernel)
  · exact unread_not_same (by decide +kernel) (by decide)
  · exact @letters_as (some bareText) expectingValue _ (by decide +kernel) (by decide +kernel)
  · exact @letters_as (some quotedText) notAnObject _ (by decide +kernel) (by decide +kernel)

/-- A reader of the topic cannot tell an absent value from `null`. -/
theorem absent_null_indistinct : Indistinct printingRuntime none (some nullText) := by
  have absentBack : lettersBack printingRuntime none expectingValue = true := by decide +kernel
  have nullBack : lettersBack printingRuntime (some nullText) notAnObject = true := by
    decide +kernel
  have salvaged : isScalar .none
      (some (sortKeys (safeOriginalPayload printingRuntime (some nullText)))) = true := by
    decide +kernel
  obtain ⟨first, ownValue, own, ownRead⟩ := delivered_back absentBack
  obtain ⟨second, itsValue, its, itsRead⟩ := delivered_back nullBack
  have equal : recoveredPayload printingRuntime first.record =
      recoveredPayload printingRuntime second.record := by
    rw [delivered_payload empty_refused own ownRead, delivered_payload empty_refused its itsRead,
      ownValue, itsValue]
    exact (is_scalar_eq salvaged).symm
  rw [← ownValue, ← itsValue]
  exact (recovered_payload_iff printingRuntime empty_refused first second own its ownRead
    itsRead).mp equal

end Collisions

end OrderMessaging.Processing.OriginalPayload
