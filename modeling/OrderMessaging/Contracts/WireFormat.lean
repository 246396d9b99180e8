import OrderMessaging.Library.JsonText
import OrderMessaging.Contracts.Agreement

/-!
The wire form of a typed event. `Carries` says what an event's dictionary holds,
by looking the fields up, so the order of its entries does not matter: both the
model's own dump and what a reader returns for its sorted text carry the event.
The schema accepts such a dictionary when it accepts the two formats, and the
model reads the same event back from it.
-/

namespace OrderMessaging.Contracts.WireFormat

open OrderMessaging.PyText OrderMessaging.PyException OrderMessaging.PyValue
open OrderMessaging.JsonSchema OrderMessaging.JsonText OrderMessaging.Contracts.Models
open OrderMessaging.Contracts.Validation OrderMessaging.Contracts.Agreement

set_option autoImplicit false

/-- What the publishers use besides: `dumps` prints ASCII, `dumpsUnicode` is
`json.dumps` with `ensure_ascii=False`, and both sort keys and write no spaces. -/
structure PublisherRuntime extends Runtime where
  dumpsUnicode : PyVal → Except Exc Str
  /-- The model library's JSON form of a timestamp. -/
  renderDatetime : AwareDatetime → Str
  oneDecimal : ℚ → Str

section Dump

variable (runtime : PublisherRuntime) (event : OrderCreatedEvent)

def dataToWireDict (data : OrderCreatedData) : List (PyVal × PyVal) :=
  [(.str "order_id", .str data.orderId.text), (.str "customer_id", .str data.customerId.text),
    (.str "amount", .float data.amount.value), (.str "currency", .str data.currency.text)]

/-- `event.model_dump(mode="json")`. -/
def eventToWireDict : List (PyVal × PyVal) :=
  [(.str "event_id", .str event.eventId.str),
    (.str "event_type", .str event.eventType),
    (.str "event_version", .int event.eventVersion),
    (.str "occurred_at", .str (runtime.renderDatetime event.occurredAt)),
    (.str "correlation_id", .str event.correlationId.text),
    (.str "causation_id", .str event.causationId.text),
    (.str "producer", .str event.producer),
    (.str "data", .dict (dataToWireDict event.data))]

/-- `validate_order_created_contract` of a typed event. -/
def validateTypedEvent : Except Exc Unit :=
  validateOrderCreatedContract runtime.toRuntime (.dict (eventToWireDict runtime event))

end Dump

section Carrying

structure CarriesData (data : OrderCreatedData) (entries : List (PyVal × PyVal)) : Prop where
  known : forbidExtra dataFields entries = some ()
  orderId : PyVal.get "order_id" entries = some (.str data.orderId.text)
  customerId : PyVal.get "customer_id" entries = some (.str data.customerId.text)
  amount : PyVal.get "amount" entries = some (.float data.amount.value)
  currency : PyVal.get "currency" entries = some (.str data.currency.text)

structure Carries (event : OrderCreatedEvent) (occurredAt : Str) (entries : List (PyVal × PyVal)) :
    Prop where
  known : forbidExtra eventFields entries = some ()
  eventId : PyVal.get "event_id" entries = some (.str event.eventId.str)
  eventType : PyVal.get "event_type" entries = some (.str "order.created")
  eventVersion : PyVal.get "event_version" entries = some (.int 1)
  occurredAt : PyVal.get "occurred_at" entries = some (.str occurredAt)
  correlationId : PyVal.get "correlation_id" entries = some (.str event.correlationId.text)
  causationId : PyVal.get "causation_id" entries = some (.str event.causationId.text)
  producer : PyVal.get "producer" entries = some (.str "order-api")
  data : ∃ inner, PyVal.get "data" entries = some (.dict inner) ∧ CarriesData event.data inner

variable (runtime : PublisherRuntime) {event : OrderCreatedEvent} {occurredAt : Str}
variable {entries : List (PyVal × PyVal)}

theorem data_dump_carries (data : OrderCreatedData) : CarriesData data (dataToWireDict data) := by
  constructor <;> rfl

theorem dump_carries (event : OrderCreatedEvent) :
    Carries event (runtime.renderDatetime event.occurredAt) (eventToWireDict runtime event) := by
  constructor
  case data => exact ⟨_, rfl, data_dump_carries event.data⟩
  all_goals rfl

theorem forbid_extra_keys {known : List Str} {first second : List (PyVal × PyVal)}
    (same : (first.map Prod.fst).Perm (second.map Prod.fst)) :
    forbidExtra known first = forbidExtra known second := by
  have keyed : ∀ entries : List (PyVal × PyVal),
      (entries.all fun entry => known.any fun name => entry.1.keyEq (.str name)) =
        (entries.map Prod.fst).all fun key => known.any fun name => key.keyEq (.str name) := by
    intro entries
    rw [List.all_map]
    rfl
  unfold forbidExtra
  rw [keyed, keyed, same.all_eq]

theorem data_sorted_carries {data : OrderCreatedData} (carries : CarriesData data entries)
    (distinct : DistinctNames entries) : CarriesData data (sortEntries entries) where
  known := (forbid_extra_keys (sort_entries_keys entries)).trans carries.known
  orderId := by rw [get_sort_entries distinct, carries.orderId]; rfl
  customerId := by rw [get_sort_entries distinct, carries.customerId]; rfl
  amount := by rw [get_sort_entries distinct, carries.amount]; rfl
  currency := by rw [get_sort_entries distinct, carries.currency]; rfl

theorem dump_distinct (event : OrderCreatedEvent) :
    DistinctNames (eventToWireDict runtime event) ∧ DistinctNames (dataToWireDict event.data) := by
  constructor
  · change (List.map ofString ["event_id", "event_type", "event_version", "occurred_at",
      "correlation_id", "causation_id", "producer", "data"]).Nodup
    decide
  · change (List.map ofString ["order_id", "customer_id", "amount", "currency"]).Nodup
    decide

theorem dump_short (event : OrderCreatedEvent) :
    PyVal.shortIntegers (.dict (eventToWireDict runtime event)) = true := by
  have one : PyVal.shortIntegers (.int 1) = true := by decide +kernel
  have version : PyVal.shortIntegers (.int event.eventVersion) = true := one
  simp only [eventToWireDict, dataToWireDict, PyVal.shortEntries, PyVal.shortIntegers, Bool.true_and,
    Bool.and_true] at version ⊢
  exact version

/-- What a reader returns for the sorted text of a dump carries the event too. -/
theorem sorted_dump_carries (event : OrderCreatedEvent) :
    Carries event (runtime.renderDatetime event.occurredAt)
      (sortEntries (eventToWireDict runtime event)) := by
  obtain ⟨distinct, inner⟩ := dump_distinct runtime event
  have carries := dump_carries runtime event
  constructor
  case known => exact (forbid_extra_keys (sort_entries_keys _)).trans carries.known
  case data =>
    refine ⟨sortEntries (dataToWireDict event.data), ?_,
      data_sorted_carries (data_dump_carries event.data) inner⟩
    rw [get_sort_entries distinct]
    rfl
  all_goals
    rw [get_sort_entries distinct]
    rfl

end Carrying

section Reading

variable {runtime : Runtime} {event : OrderCreatedEvent} {occurredAt : Str}
variable {entries : List (PyVal × PyVal)}

theorem currency_search (currency : CurrencyCode) :
    currencyPattern.search currency.text = true :=
  (search_iff_full_or_newline currencyPattern currency.text).mpr (.inl currency.shape)

theorem nonempty_string_accepted (text : NonEmptyText) :
    Accepts (nonEmptyString runtime) (.str text.text) := by
  simp only [nonEmptyString, accepts_allOf, List.mem_cons, List.not_mem_nil, or_false,
    forall_eq_or_imp, forall_eq, accepts_type, minLength, accepts_check, isType, true_and]
  exact decide_eq_true (List.length_pos_iff.mpr text.nonempty)

/-- The extra fields that the model forbids are those that the schema forbids. -/
theorem accepts_of_forbid_extra {texts : Texts} {known : List Str}
    (forbidden : forbidExtra known entries = some ()) :
    Accepts (noAdditionalProperties texts known) (.dict entries) := by
  simp only [noAdditionalProperties, accepts_check]
  unfold forbidExtra at forbidden
  split at forbidden
  · assumption
  · cases forbidden

theorem accepts_field {name : Str} {schema : Schema} {value : PyVal}
    (found : PyVal.get name entries = some value) (accepted : Accepts schema value) :
    Accepts (property name schema) (.dict entries) := by
  refine (accepts_property name schema entries).mpr ?_
  intro other same
  rw [found] at same
  cases same
  exact accepted

theorem carried_data_accepted {data : OrderCreatedData} (carries : CarriesData data entries) :
    Accepts (orderCreatedData runtime) (.dict entries) := by
  simp only [orderCreatedData, accepts_allOf, List.mem_cons, List.not_mem_nil, or_false,
    forall_eq_or_imp, forall_eq]
  refine ⟨by simp [JsonSchema.type, isType], accepts_of_forbid_extra carries.known, ?_,
    accepts_field carries.orderId (nonempty_string_accepted data.orderId),
    accepts_field carries.customerId (nonempty_string_accepted data.customerId),
    accepts_field carries.amount ?_, accepts_field carries.currency ?_⟩
  · simp [dataFields, carries.orderId, carries.customerId, carries.amount, carries.currency]
  · have positive := (PyFloat.positive_iff.mp data.amount.positive).1
    simp [accepts_allOf, isType, aboveZero, positive]
  · simp [accepts_allOf, JsonSchema.type, isType, pattern, currency_search]

/-- Of a typed event's dictionary the schema can only refuse the two formats. -/
theorem carried_accepted_iff (carries : Carries event occurredAt entries) :
    SchemaAccepts runtime entries ↔
      runtime.uuidFormat event.eventId.str = true ∧ runtime.dateTimeFormat occurredAt = true := by
  constructor
  · intro accepted
    obtain ⟨_, _, _, _, _, _, fields⟩ := event_accepted_fields accepted
    have uuid := fields.eventId_format
    have timestamp := fields.occurredAt_format
    have sameUuid := carries.eventId.symm.trans fields.eventId_eq
    have sameTimestamp := carries.occurredAt.symm.trans fields.occurredAt_eq
    cases sameUuid
    cases sameTimestamp
    exact ⟨uuid, timestamp⟩
  · rintro ⟨uuid, timestamp⟩
    obtain ⟨inner, found, carriesData⟩ := carries.data
    simp only [SchemaAccepts, orderCreatedSchema, accepts_allOf, List.mem_cons, List.not_mem_nil,
      or_false, forall_eq_or_imp, forall_eq]
    refine ⟨by simp [JsonSchema.type, isType], accepts_of_forbid_extra carries.known, ?_,
      accepts_field carries.eventId ?_, accepts_field carries.eventType ?_,
      accepts_field carries.eventVersion ?_, accepts_field carries.occurredAt ?_,
      accepts_field carries.correlationId (nonempty_string_accepted event.correlationId),
      accepts_field carries.causationId (nonempty_string_accepted event.causationId),
      accepts_field carries.producer ?_,
      accepts_field found (carried_data_accepted carriesData)⟩
    · simp [eventFields, carries.eventId, carries.eventType, carries.eventVersion,
        carries.occurredAt, carries.correlationId, carries.causationId, carries.producer, found]
    · simp [accepts_allOf, JsonSchema.type, isType, format, uuid]
    · simp [JsonSchema.const, equalText]
    · simp [JsonSchema.const, equalInt]
    · simp [accepts_allOf, JsonSchema.type, isType, format, timestamp]
    · simp [JsonSchema.const, equalText]

theorem nonempty_text_read (text : NonEmptyText) : nonEmptyText (.str text.text) = some text := by
  have joined := join_surrogates_encodable text.encodable
  have valid : joinSurrogates text.text ≠ [] ∧ Encodable (joinSurrogates text.text) := by
    rw [joined]
    exact ⟨text.nonempty, text.encodable⟩
  rw [nonEmptyText, dif_pos valid]
  congr 1
  exact NonEmptyText.mk.injEq .. |>.mpr joined

theorem currency_read (currency : CurrencyCode) : currencyCode (.str currency.text) = some currency := by
  simp [currencyCode, read_text_encodable (full_match_encodable currency.shape), currency.shape]

theorem carried_data_read {data : OrderCreatedData} (carries : CarriesData data entries) :
    validateData runtime (.dict entries) = some data := by
  simp [validateData, carries.known, carries.orderId, carries.customerId, carries.amount,
    carries.currency, nonempty_text_read, currency_read, positiveAmount, strictFloat,
    data.amount.positive]

/-- The model reads the event that the dictionary carries, when its parsers read
the two rendered fields. -/
theorem carried_read (carries : Carries event occurredAt entries)
    (uuid : (readText (.str event.eventId.str)).bind runtime.parseUuid = some event.eventId)
    (timestamp : (readText (.str occurredAt)).bind runtime.parseDatetime =
      some event.occurredAt) :
    validateEvent runtime entries = some event := by
  obtain ⟨inner, found, carriesData⟩ := carries.data
  have type : readText (.str "order.created") = some (ofString "order.created") :=
    read_text_encodable (of_string_encodable _)
  have producer : readText (.str "order-api") = some (ofString "order-api") :=
    read_text_encodable (of_string_encodable _)
  simp [validateEvent, carries.known, carries.eventId, carries.eventType, carries.eventVersion,
    carries.occurredAt, carries.correlationId, carries.causationId, carries.producer, found,
    nonempty_text_read, carried_data_read carriesData, uuid, timestamp, defaulted, literalText,
    literalOne, type, producer]

end Reading

section Reference

/-- Year, month and day of a number of days since 1970-01-01. -/
def civilFromDays (days : Int) : Int × Int × Int :=
  let shifted := days + 719468
  let era := shifted / 146097
  let dayOfEra := shifted - era * 146097
  let yearOfEra :=
    (dayOfEra - dayOfEra / 1460 + dayOfEra / 36524 - dayOfEra / 146096) / 365
  let dayOfYear := dayOfEra - (365 * yearOfEra + yearOfEra / 4 - yearOfEra / 100)
  let monthIndex := (5 * dayOfYear + 2) / 153
  let month := if monthIndex < 10 then monthIndex + 3 else monthIndex - 9
  (yearOfEra + era * 400 + if month ≤ 2 then 1 else 0, month,
    dayOfYear - (153 * monthIndex + 2) / 5 + 1)

/-- A number that is not negative, in at least `width` digits. -/
def padded (width : Nat) (value : Int) : Str :=
  let digits := PyJson.intText value
  List.replicate (width - digits.length) (codePoint '0') ++ digits

def offsetText (utcoffset : Int) : Str :=
  if utcoffset = 0 then "Z"
  else
    (if utcoffset < 0 then ofString "-" else ofString "+") ++ padded 2 (|utcoffset| / 3600) ++
      ":" ++ padded 2 (|utcoffset| / 60 % 60)

def renderDatetime (moment : AwareDatetime) : Str :=
  let seconds := moment.instant / 1000000 + moment.utcoffset
  let microseconds := moment.instant % 1000000
  let (year, month, day) := civilFromDays (seconds / 86400)
  padded 4 year ++ "-" ++ padded 2 month ++ "-" ++ padded 2 day ++ "T" ++
    padded 2 (seconds / 3600 % 24) ++ ":" ++ padded 2 (seconds / 60 % 60) ++ ":" ++
    padded 2 (seconds % 60) ++
    (if microseconds = 0 then [] else ofString "." ++ padded 6 microseconds) ++
    offsetText moment.utcoffset

theorem padded_encodable (width : Nat) (value : Int) : Encodable (padded width value) := by
  refine encodable_append.mpr ⟨?_, of_string_encodable _⟩
  intro point member
  rw [List.eq_of_mem_replicate member]
  exact char_not_surrogate '0'

theorem offset_text_encodable (utcoffset : Int) : Encodable (offsetText utcoffset) := by
  unfold offsetText
  split
  · exact of_string_encodable "Z"
  · refine encodable_append.mpr ⟨encodable_append.mpr ⟨encodable_append.mpr
      ⟨?_, padded_encodable 2 _⟩, of_string_encodable ":"⟩, padded_encodable 2 _⟩
    split <;> exact of_string_encodable _

theorem render_datetime_encodable (moment : AwareDatetime) : Encodable (renderDatetime moment) := by
  simp only [renderDatetime, encodable_append, padded_encodable, of_string_encodable,
    offset_text_encodable, true_and, and_true]
  split
  · exact encodable_nil
  · exact encodable_append.mpr ⟨of_string_encodable ".", padded_encodable 6 _⟩

/-- The reference runtime, with both printers and the rendering of timestamps. -/
def referencePublisherRuntime : PublisherRuntime :=
  { Reference.printingRuntime with
    dumpsUnicode := fun value =>
      match render escapeRequired Reference.floatText (sortKeys value) with
      | some text => .ok text
      | none => .error Reference.unprintable
    renderDatetime := renderDatetime
    oneDecimal := fun value => Reference.floatText (.finite (⌊value * 10 + 1 / 2⌋ / 10)) }

end Reference

end OrderMessaging.Contracts.WireFormat
