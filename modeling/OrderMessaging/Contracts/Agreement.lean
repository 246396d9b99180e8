import OrderMessaging.Contracts.Reference

/-!
The packaged schema against the strict model, field by field. The schema
library's `uuid` and `date-time` checks are assumed to agree with the model's
parsers. What is left is decided here: which payloads pass the schema and are
refused by `json.dumps` or the model, and which make the schema library print a
value that `repr` refuses.
-/

namespace OrderMessaging.Contracts.Agreement

open OrderMessaging.PyText OrderMessaging.PyException OrderMessaging.PyValue
open OrderMessaging.JsonSchema
open OrderMessaging.Contracts.Models OrderMessaging.Contracts.Validation
open OrderMessaging.Contracts.Reference

set_option autoImplicit false

structure FormatsAgree (runtime : Runtime) : Prop where
  uuid : ∀ text, runtime.uuidFormat text = ((readText (.str text)).bind runtime.parseUuid).isSome
  dateTime : ∀ text,
    runtime.dateTimeFormat text = ((readText (.str text)).bind runtime.parseDatetime).isSome

/-- Text whose escapes `json.dumps` cannot pair up. -/
def HasLoneSurrogate (text : Str) : Prop := ¬Encodable (joinSurrogates text)

def dataEntries (entries : List (PyVal × PyVal)) : List (PyVal × PyVal) :=
  match PyVal.get "data" entries with
  | some (.dict inner) => inner
  | _ => []

/-- The identifier fields whose only schema constraint is to be non-empty text. -/
def identifierTexts (entries : List (PyVal × PyVal)) : List PyVal :=
  [PyVal.get "correlation_id" entries, PyVal.get "causation_id" entries,
    PyVal.get "order_id" (dataEntries entries),
    PyVal.get "customer_id" (dataEntries entries)].filterMap id

/-- NaN, which is not at most zero and not above it, and an integer that the
float field does not take or does not read as a positive number. -/
def AmountUnread (runtime : Runtime) : PyVal → Prop
  | .float value => value = .nan
  | .int value => ∀ amount, runtime.floatOfInt value = some amount → amount.positive = false
  | _ => False

/-- What the schema lets through and `json.dumps` or the model refuses: an integer
of too many digits, an amount that is not read, a currency that ends in a newline,
an identifier with a lone surrogate, and the version written as `1.0` where the
model's literal does not take it. -/
def Divergent (runtime : Runtime) (entries : List (PyVal × PyVal)) : Prop :=
  PyVal.shortEntries entries = false ∨
  (∃ amount, PyVal.get "amount" (dataEntries entries) = some amount ∧
    AmountUnread runtime amount) ∨
  (∃ body, PyVal.get "currency" (dataEntries entries) = some (.str (body ++ [newline]))) ∨
  (∃ text, .str text ∈ identifierTexts entries ∧ HasLoneSurrogate text) ∨
  (runtime.literalTakesFloat = false ∧
    ∃ value, PyVal.get "event_version" entries = some (.float value))

/-- The fields with these names whose value is refused. -/
def refusedAt (names : List Str) (accepted : PyVal → Bool) (entries : List (PyVal × PyVal)) :
    List PyVal :=
  (names.filterMap fun name => PyVal.get name entries).filter fun value => !accepted value

/-- The values that the schema library prints to say what is wrong with them. -/
def printedValues (entries : List (PyVal × PyVal)) : List PyVal :=
  refusedAt ["event_id", "occurred_at", "correlation_id", "causation_id"] (isType .string) entries ++
    refusedAt ["data"] (isType .object) entries ++
    refusedAt ["order_id", "customer_id"] (isType .string) (dataEntries entries) ++
    refusedAt ["amount"] (fun value => isType .number value && aboveZero value)
      (dataEntries entries) ++
    refusedAt ["currency"] (isType .string) (dataEntries entries)

theorem join_surrogates_eq_nil {text : Str} : joinSurrogates text = [] ↔ text = [] := by
  cases text with
  | nil => simp [joinSurrogates]
  | cons head tail =>
      cases tail with
      | nil => simp [joinSurrogates]
      | cons next rest =>
          rw [joinSurrogates]
          constructor
          · intro empty
            split at empty <;> cases empty
          · intro empty
            cases empty

theorem join_surrogates_encodable {text : Str} (encodable : Encodable text) :
    joinSurrogates text = text := by
  induction text with
  | nil => rfl
  | cons head tail ih =>
      have headScalar := encodable head (List.mem_cons_self ..)
      have tailEncodable : Encodable tail :=
        fun point member => encodable point (List.mem_cons_of_mem head member)
      cases tail with
      | nil => rfl
      | cons next rest =>
          have notHigh : isHighSurrogate head = false := by
            simp only [IsSurrogate, not_and, not_le] at headScalar
            simp only [isHighSurrogate, decide_eq_false_iff_not, not_and, not_le]
            intro lower
            have beyond := headScalar lower
            omega
          rw [joinSurrogates, notHigh, Bool.false_and, if_neg Bool.false_ne_true,
            ih tailEncodable]

theorem full_match_encodable {text : Str} (matched : currencyPattern.fullMatch text = true) :
    Encodable text := by
  intro point member surrogate
  simp only [AnchoredPattern.fullMatch, currencyPattern, Bool.and_eq_true, List.all_eq_true,
    decide_eq_true_eq] at matched
  have letter := matched.2 point member
  have lower : 0xD800 ≤ point.val := surrogate.1
  omega

theorem newline_encodable {body : Str} (encodable : Encodable body) :
    Encodable (body ++ [newline]) := by
  intro point member
  rcases List.mem_append.mp member with inBody | last
  · exact encodable point inBody
  · rw [List.mem_singleton.mp last]
    decide

theorem read_text_encodable {text : Str} (encodable : Encodable text) :
    readText (.str text) = some text := by
  rw [readText, join_surrogates_encodable encodable, if_pos encodable]

theorem nonempty_text_isSome {text : Str} (nonempty : text ≠ []) :
    (nonEmptyText (.str text)).isSome ↔ ¬HasLoneSurrogate text := by
  rw [HasLoneSurrogate, not_not, nonEmptyText]
  by_cases encodable : Encodable (joinSurrogates text)
  · have valid : joinSurrogates text ≠ [] ∧ Encodable (joinSurrogates text) :=
      ⟨mt join_surrogates_eq_nil.mp nonempty, encodable⟩
    simp [valid]
  · simp [encodable]

/-- A currency the schema accepts is one the model accepts, or it has one
character too many. -/
theorem currency_isSome {text : Str} (searched : currencyPattern.search text = true) :
    (currencyCode (.str text)).isSome ↔ ¬∃ body, text = body ++ [newline] := by
  rcases (search_iff_full_or_newline currencyPattern text).mp searched with full | trailing
  · have noNewline : ¬∃ body, text = body ++ [newline] := by
      rintro ⟨body, rfl⟩
      simp only [AnchoredPattern.fullMatch, currencyPattern, Bool.and_eq_true,
        List.all_eq_true, decide_eq_true_eq] at full
      have last := full.2 newline (by simp)
      exact absurd last.1 (by decide)
    simp only [currencyCode, read_text_encodable (full_match_encodable full)]
    simp [full, noNewline]
  · obtain ⟨body, rfl, full⟩ := trailing
    have encodable := newline_encodable (full_match_encodable full)
    have tooLong : currencyPattern.fullMatch (body ++ [newline]) = false := by
      simp only [AnchoredPattern.fullMatch, currencyPattern, Bool.and_eq_true,
        beq_iff_eq] at full
      simp [AnchoredPattern.fullMatch, currencyPattern, full.1]
    simp only [currencyCode, read_text_encodable encodable]
    simp [tooLong]

/-- What acceptance by the schema says of each field. -/
structure AcceptedEvent (runtime : Runtime) (entries : List (PyVal × PyVal))
    (eventId occurredAt correlationId causationId : Str) (version : PyVal)
    (inner : List (PyVal × PyVal)) : Prop where
  known : forbidExtra eventFields entries = some ()
  eventId_eq : PyVal.get "event_id" entries = some (.str eventId)
  eventId_format : runtime.uuidFormat eventId = true
  eventType_eq : PyVal.get "event_type" entries = some (.str "order.created")
  version_eq : PyVal.get "event_version" entries = some version
  version_one : equalInt 1 version = true
  occurredAt_eq : PyVal.get "occurred_at" entries = some (.str occurredAt)
  occurredAt_format : runtime.dateTimeFormat occurredAt = true
  correlationId_eq : PyVal.get "correlation_id" entries = some (.str correlationId)
  correlationId_nonempty : correlationId ≠ []
  causationId_eq : PyVal.get "causation_id" entries = some (.str causationId)
  causationId_nonempty : causationId ≠ []
  producer_eq : PyVal.get "producer" entries = some (.str "order-api")
  data_eq : PyVal.get "data" entries = some (.dict inner)
  data_accepted : Accepts (orderCreatedData runtime) (.dict inner)

structure AcceptedData (runtime : Runtime) (entries : List (PyVal × PyVal))
    (orderId customerId currency : Str) (amount : PyVal) : Prop where
  known : forbidExtra dataFields entries = some ()
  orderId_eq : PyVal.get "order_id" entries = some (.str orderId)
  orderId_nonempty : orderId ≠ []
  customerId_eq : PyVal.get "customer_id" entries = some (.str customerId)
  customerId_nonempty : customerId ≠ []
  amount_eq : PyVal.get "amount" entries = some amount
  amount_number : isType .number amount = true
  amount_positive : aboveZero amount = true
  currency_eq : PyVal.get "currency" entries = some (.str currency)
  currency_searched : currencyPattern.search currency = true

theorem is_string {value : PyVal} (typed : isType .string value = true) :
    ∃ text, value = .str text := by
  cases value with
  | str text => exact ⟨text, rfl⟩
  | none => cases typed
  | bool value => cases typed
  | int value => cases typed
  | float value => cases typed
  | list items => cases typed
  | dict entries => cases typed

theorem equal_text_iff {constant : Str} {value : PyVal} :
    equalText constant value = true ↔ value = .str constant := by
  cases value <;> simp [equalText]

theorem nonempty_string_accepts {runtime : Runtime} {value : PyVal}
    (accepted : Accepts (nonEmptyString runtime) value) :
    ∃ text, value = .str text ∧ text ≠ [] := by
  simp only [nonEmptyString, accepts_allOf, List.mem_cons, List.not_mem_nil, or_false,
    forall_eq_or_imp, forall_eq, accepts_type, minLength, accepts_check] at accepted
  obtain ⟨text, rfl⟩ := is_string accepted.1
  have long : 1 ≤ text.length := of_decide_eq_true accepted.2
  exact ⟨text, rfl, List.ne_nil_of_length_pos long⟩

/-- A required property with an accepting subschema is present and accepted. -/
theorem required_property {names : List Str} {name : Str} {schema : Schema}
    {entries : List (PyVal × PyVal)} (member : name ∈ names)
    (present : Accepts (required names) (.dict entries))
    (accepted : Accepts (property name schema) (.dict entries)) :
    ∃ value, PyVal.get name entries = some value ∧ Accepts schema value := by
  obtain ⟨value, found⟩ := Option.isSome_iff_exists.mp ((accepts_required names entries).mp
    present name member)
  exact ⟨value, found, (accepts_property name schema entries).mp accepted value found⟩

theorem forbid_extra_of_accepts {texts : Texts} {known : List Str}
    {entries : List (PyVal × PyVal)}
    (accepted : Accepts (noAdditionalProperties texts known) (.dict entries)) :
    forbidExtra known entries = some () := by
  simp only [noAdditionalProperties, accepts_check] at accepted
  rw [forbidExtra, if_pos accepted]

theorem data_accepted_fields {runtime : Runtime} {entries : List (PyVal × PyVal)}
    (accepted : Accepts (orderCreatedData runtime) (.dict entries)) :
    ∃ orderId customerId currency amount,
      AcceptedData runtime entries orderId customerId currency amount := by
  simp only [orderCreatedData, accepts_allOf, List.mem_cons, List.not_mem_nil, or_false,
    forall_eq_or_imp, forall_eq] at accepted
  obtain ⟨-, known, present, order, customer, amount, currency⟩ := accepted
  obtain ⟨orderValue, orderEq, order⟩ := required_property (by decide) present order
  obtain ⟨customerValue, customerEq, customer⟩ := required_property (by decide) present customer
  obtain ⟨amountValue, amountEq, amount⟩ := required_property (by decide) present amount
  obtain ⟨currencyValue, currencyEq, currency⟩ := required_property (by decide) present currency
  obtain ⟨orderId, rfl, orderNonempty⟩ := nonempty_string_accepts order
  obtain ⟨customerId, rfl, customerNonempty⟩ := nonempty_string_accepts customer
  simp only [accepts_allOf, List.mem_cons, List.not_mem_nil, or_false, forall_eq_or_imp,
    forall_eq, accepts_type] at amount currency
  obtain ⟨currencyText, rfl⟩ := is_string currency.1
  have searched : currencyPattern.search currencyText = true := by
    simpa only [pattern, accepts_check] using currency.2
  exact ⟨orderId, customerId, currencyText, amountValue,
    { known := forbid_extra_of_accepts known
      orderId_eq := orderEq
      orderId_nonempty := orderNonempty
      customerId_eq := customerEq
      customerId_nonempty := customerNonempty
      amount_eq := amountEq
      amount_number := amount.1
      amount_positive := (accepts_exclusive_minimum amountValue).mp amount.2
      currency_eq := currencyEq
      currency_searched := searched }⟩

theorem event_accepted_fields {runtime : Runtime} {entries : List (PyVal × PyVal)}
    (accepted : SchemaAccepts runtime entries) :
    ∃ eventId occurredAt correlationId causationId version inner,
      AcceptedEvent runtime entries eventId occurredAt correlationId causationId version inner := by
  simp only [SchemaAccepts, orderCreatedSchema, accepts_allOf, List.mem_cons, List.not_mem_nil,
    or_false, forall_eq_or_imp, forall_eq] at accepted
  obtain ⟨-, known, present, id, type, version, occurred, correlation, causation, producer,
    data⟩ := accepted
  obtain ⟨idValue, idEq, id⟩ := required_property (by decide) present id
  obtain ⟨typeValue, typeEq, type⟩ := required_property (by decide) present type
  obtain ⟨versionValue, versionEq, version⟩ := required_property (by decide) present version
  obtain ⟨occurredValue, occurredEq, occurred⟩ := required_property (by decide) present occurred
  obtain ⟨correlationValue, correlationEq, correlation⟩ :=
    required_property (by decide) present correlation
  obtain ⟨causationValue, causationEq, causation⟩ :=
    required_property (by decide) present causation
  obtain ⟨producerValue, producerEq, producer⟩ := required_property (by decide) present producer
  obtain ⟨dataValue, dataEq, data⟩ := required_property (by decide) present data
  simp only [accepts_allOf, List.mem_cons, List.not_mem_nil, or_false, forall_eq_or_imp,
    forall_eq, accepts_type, JsonSchema.format, accepts_check] at id occurred
  obtain ⟨eventId, rfl⟩ := is_string id.1
  obtain ⟨occurredAt, rfl⟩ := is_string occurred.1
  obtain ⟨correlationId, rfl, correlationNonempty⟩ := nonempty_string_accepts correlation
  obtain ⟨causationId, rfl, causationNonempty⟩ := nonempty_string_accepts causation
  simp only [JsonSchema.const, accepts_check, equal_text_iff] at type version producer
  subst typeValue producerValue
  have dataDict : isType .object dataValue = true := by
    simp only [orderCreatedData, accepts_allOf, List.mem_cons, forall_eq_or_imp] at data
    simpa only [accepts_type] using data.1
  obtain ⟨inner, rfl⟩ : ∃ inner, dataValue = .dict inner := by
    cases dataValue <;> first | exact ⟨_, rfl⟩ | cases dataDict
  exact ⟨eventId, occurredAt, correlationId, causationId, versionValue, inner,
    { known := forbid_extra_of_accepts known
      eventId_eq := idEq
      eventId_format := id.2
      eventType_eq := typeEq
      version_eq := versionEq
      version_one := version
      occurredAt_eq := occurredEq
      occurredAt_format := occurred.2
      correlationId_eq := correlationEq
      correlationId_nonempty := correlationNonempty
      causationId_eq := causationEq
      causationId_nonempty := causationNonempty
      producer_eq := producerEq
      data_eq := dataEq
      data_accepted := data }⟩

theorem bind_of_eq_some {Value Other : Type} {option : Option Value} {value : Value}
    (found : option = some value) (next : Value → Option Other) :
    option.bind next = next value := by
  rw [found]
  rfl

variable {runtime : Runtime}

theorem positive_amount_isSome {amount : PyVal} (number : isType .number amount = true)
    (positive : aboveZero amount = true) :
    (positiveAmount runtime amount).isSome ↔ ¬AmountUnread runtime amount := by
  cases amount with
  | int value =>
      simp only [positiveAmount, strictFloat, AmountUnread, Option.bind_eq_bind]
      cases runtime.floatOfInt value <;> simp
  | float value =>
      have accepted : value.nonpositive = false := by simpa [aboveZero] using positive
      simp [positiveAmount, strictFloat, AmountUnread, PyFloat.positive_iff, accepted]
  | none => cases number
  | bool value => cases number
  | str text => cases number
  | list items => cases number
  | dict entries => cases number

theorem validate_data_isSome {entries : List (PyVal × PyVal)}
    {orderId customerId currency : Str} {amount : PyVal}
    (fields : AcceptedData runtime entries orderId customerId currency amount) :
    (validateData runtime (.dict entries)).isSome ↔
      ¬HasLoneSurrogate orderId ∧ ¬HasLoneSurrogate customerId ∧
        ¬AmountUnread runtime amount ∧ ¬∃ body, currency = body ++ [newline] := by
  have order := nonempty_text_isSome fields.orderId_nonempty
  have customer := nonempty_text_isSome fields.customerId_nonempty
  have code := currency_isSome fields.currency_searched
  have read := @positive_amount_isSome runtime amount fields.amount_number fields.amount_positive
  rw [← order, ← customer, ← code, ← read]
  simp only [validateData, Option.bind_eq_bind, bind_of_eq_some fields.known,
    bind_of_eq_some fields.orderId_eq, bind_of_eq_some fields.customerId_eq,
    bind_of_eq_some fields.amount_eq, bind_of_eq_some fields.currency_eq]
  cases nonEmptyText (.str orderId) <;> cases nonEmptyText (.str customerId) <;>
    cases positiveAmount runtime amount <;> cases currencyCode (.str currency) <;> simp

theorem literal_text_self {text : Str} (encodable : Encodable text) :
    literalText text (.str text) = some () := by
  simp [literalText, read_text_encodable encodable]

theorem literal_one_isSome {version : PyVal} (one : equalInt 1 version = true) :
    (literalOne runtime version).isSome ↔
      ¬(runtime.literalTakesFloat = false ∧ ∃ value, version = .float value) := by
  cases version with
  | int value =>
      have same : value = 1 := by simpa [equalInt] using one
      simp [same, literalOne]
  | float value =>
      have same : value = .finite 1 := by simpa [equalInt] using one
      simp [same, literalOne]
  | none => cases one
  | bool value => cases one
  | str text => cases one
  | list items => cases one
  | dict entries => cases one

theorem validate_event_isSome (agree : FormatsAgree runtime)
    {entries inner : List (PyVal × PyVal)} {eventId occurredAt correlationId causationId : Str}
    {version : PyVal} (fields : AcceptedEvent runtime entries eventId occurredAt correlationId
      causationId version inner) :
    (validateEvent runtime entries).isSome ↔
      ¬(runtime.literalTakesFloat = false ∧ ∃ value, version = .float value) ∧
        ¬HasLoneSurrogate correlationId ∧ ¬HasLoneSurrogate causationId ∧
          (validateData runtime (.dict inner)).isSome := by
  obtain ⟨id, idValue⟩ := Option.isSome_iff_exists.mp
    ((agree.uuid eventId).symm.trans fields.eventId_format)
  obtain ⟨instant, instantValue⟩ := Option.isSome_iff_exists.mp
    ((agree.dateTime occurredAt).symm.trans fields.occurredAt_format)
  have typeLiteral := literal_text_self (of_string_encodable "order.created")
  have producerLiteral := literal_text_self (of_string_encodable "order-api")
  have one := @literal_one_isSome runtime version fields.version_one
  have correlation := nonempty_text_isSome fields.correlationId_nonempty
  have causation := nonempty_text_isSome fields.causationId_nonempty
  rw [← one, ← correlation, ← causation]
  simp only [validateEvent, Option.bind_eq_bind, bind_of_eq_some fields.known,
    bind_of_eq_some fields.eventId_eq, fields.eventType_eq, fields.version_eq,
    bind_of_eq_some fields.occurredAt_eq, bind_of_eq_some fields.correlationId_eq,
    bind_of_eq_some fields.causationId_eq, fields.producer_eq, bind_of_eq_some fields.data_eq,
    defaulted, bind_of_eq_some idValue, bind_of_eq_some instantValue,
    bind_of_eq_some typeLiteral, bind_of_eq_some producerLiteral]
  cases literalOne runtime version <;> cases nonEmptyText (.str correlationId) <;>
    cases nonEmptyText (.str causationId) <;> cases validateData runtime (.dict inner) <;> simp

/-- The divergences of an accepted object, in terms of its fields. -/
theorem divergent_iff {entries inner : List (PyVal × PyVal)}
    {eventId occurredAt correlationId causationId orderId customerId currency : Str}
    {version amount : PyVal}
    (event : AcceptedEvent runtime entries eventId occurredAt correlationId causationId version
      inner)
    (data : AcceptedData runtime inner orderId customerId currency amount) :
    Divergent runtime entries ↔
      PyVal.shortEntries entries = false ∨ AmountUnread runtime amount ∨
      (∃ body, currency = body ++ [newline]) ∨
      (HasLoneSurrogate correlationId ∨ HasLoneSurrogate causationId ∨
        HasLoneSurrogate orderId ∨ HasLoneSurrogate customerId) ∨
      (runtime.literalTakesFloat = false ∧ ∃ value, version = .float value) := by
  have identifiers : (∃ text, .str text ∈ identifierTexts entries ∧ HasLoneSurrogate text) ↔
      HasLoneSurrogate correlationId ∨ HasLoneSurrogate causationId ∨
        HasLoneSurrogate orderId ∨ HasLoneSurrogate customerId := by
    simp only [identifierTexts, dataEntries, event.data_eq, event.correlationId_eq,
      event.causationId_eq, data.orderId_eq, data.customerId_eq, List.filterMap_cons, id_eq,
      List.filterMap_nil, List.mem_cons, List.not_mem_nil, or_false, PyVal.str.injEq]
    constructor
    · rintro ⟨text, rfl | rfl | rfl | rfl, lone⟩
      · exact .inl lone
      · exact .inr (.inl lone)
      · exact .inr (.inr (.inl lone))
      · exact .inr (.inr (.inr lone))
    · rintro (lone | lone | lone | lone)
      · exact ⟨_, .inl rfl, lone⟩
      · exact ⟨_, .inr (.inl rfl), lone⟩
      · exact ⟨_, .inr (.inr (.inl rfl)), lone⟩
      · exact ⟨_, .inr (.inr (.inr rfl)), lone⟩
  rw [Divergent, identifiers]
  simp only [dataEntries, event.data_eq, event.version_eq, data.amount_eq, data.currency_eq,
    Option.some.injEq, PyVal.str.injEq, exists_eq_left']

theorem model_validates_iff (agree : FormatsAgree runtime) {entries : List (PyVal × PyVal)}
    (accepted : SchemaAccepts runtime entries) :
    (∃ event, modelValidateJson runtime entries = .ok event) ↔ ¬Divergent runtime entries := by
  obtain ⟨eventId, occurredAt, correlationId, causationId, version, inner, event⟩ :=
    event_accepted_fields accepted
  obtain ⟨orderId, customerId, currency, amount, data⟩ := data_accepted_fields event.data_accepted
  have parsed : (∃ event, modelValidateJson runtime entries = .ok event) ↔
      PyVal.shortEntries entries = true ∧ (validateEvent runtime entries).isSome := by
    rw [modelValidateJson]
    cases PyVal.shortEntries entries <;> cases validateEvent runtime entries <;> simp
  rw [parsed, validate_event_isSome agree event, validate_data_isSome data,
    divergent_iff event data]
  simp only [not_or, Bool.not_eq_false]
  constructor
  · rintro ⟨short, literal, correlation, causation, order, customer, read, code⟩
    exact ⟨short, read, code, ⟨correlation, causation, order, customer⟩, literal⟩
  · rintro ⟨short, read, code, ⟨correlation, causation, order, customer⟩, literal⟩
    exact ⟨short, literal, correlation, causation, order, customer, read, code⟩

/-- A value that cannot be printed is refused at one of the names. -/
def RefusedUnprinted (runtime : Runtime) (names : List Str) (accepted : PyVal → Bool)
    (entries : List (PyVal × PyVal)) : Prop :=
  ∃ value ∈ refusedAt names accepted entries, Unprintable runtime.texts value

theorem refused_unprinted_nil {accepted : PyVal → Bool} {entries : List (PyVal × PyVal)} :
    ¬RefusedUnprinted runtime [] accepted entries := by
  rintro ⟨value, member, _⟩
  cases member

theorem refused_unprinted_cons {name : Str} {names : List Str} {accepted : PyVal → Bool}
    {entries : List (PyVal × PyVal)} :
    RefusedUnprinted runtime (name :: names) accepted entries ↔
      (∃ field, PyVal.get name entries = some field ∧ accepted field = false ∧
        Unprintable runtime.texts field) ∨ RefusedUnprinted runtime names accepted entries := by
  simp only [RefusedUnprinted, refusedAt, List.filterMap_cons]
  cases PyVal.get name entries with
  | none => simp
  | some field => cases refused : accepted field <;> simp [refused]

/-- A text field reports by printing only that its value is not text. -/
theorem raises_text {keyword : Schema} {value : PyVal} (quiet : ¬Raises keyword value) :
    Raises (allOf [type runtime.texts .string, keyword]) value ↔
      isType .string value = false ∧ Unprintable runtime.texts value := by
  simp [raises_allOf, quiet]

theorem raises_amount {value : PyVal} :
    Raises (allOf [type runtime.texts .number, exclusiveMinimumZero runtime.texts]) value ↔
      (isType .number value && aboveZero value) = false ∧ Unprintable runtime.texts value := by
  simp only [raises_allOf, List.mem_cons, List.not_mem_nil, or_false, exists_eq_or_imp,
    exists_eq_left, raises_type, raises_exclusive_minimum, ← or_and_right, Bool.and_eq_false_iff]

theorem raises_data_object {entries : List (PyVal × PyVal)} :
    Raises (orderCreatedData runtime) (.dict entries) ↔
      RefusedUnprinted runtime ["order_id", "customer_id"] (isType .string) entries ∨
      RefusedUnprinted runtime ["amount"] (fun value => isType .number value && aboveZero value)
        entries ∨
      RefusedUnprinted runtime ["currency"] (isType .string) entries := by
  rw [orderCreatedData, raises_allOf]
  simp [noAdditionalProperties, nonEmptyString, minLength, pattern, raises_text, raises_amount,
    refused_unprinted_cons, refused_unprinted_nil, isType, or_assoc]

theorem raises_data_other {value : PyVal} (other : isType .object value = false) :
    Raises (orderCreatedData runtime) value ↔ Unprintable runtime.texts value := by
  have quiet : ∀ name schema, ¬Raises (property name schema) value := by
    rintro name schema ⟨error, reported, _⟩
    cases value with
    | dict entries => cases other
    | none | bool _ | int _ | float _ | str _ | list _ => cases reported
  rw [orderCreatedData, raises_allOf]
  simp [noAdditionalProperties, quiet, other]

/-- The errors of an object that raise are those that print an unprintable value. -/
theorem unreported_iff {entries : List (PyVal × PyVal)} :
    Unreported runtime entries ↔
      ∃ value ∈ printedValues entries, Unprintable runtime.texts value := by
  have split : (∃ value ∈ printedValues entries, Unprintable runtime.texts value) ↔
      RefusedUnprinted runtime ["event_id", "occurred_at", "correlation_id", "causation_id"]
        (isType .string) entries ∨
      RefusedUnprinted runtime ["data"] (isType .object) entries ∨
      RefusedUnprinted runtime ["order_id", "customer_id"] (isType .string)
        (dataEntries entries) ∨
      RefusedUnprinted runtime ["amount"] (fun value => isType .number value && aboveZero value)
        (dataEntries entries) ∨
      RefusedUnprinted runtime ["currency"] (isType .string) (dataEntries entries) := by
    simp only [printedValues, RefusedUnprinted, List.mem_append, or_assoc, or_and_right, exists_or]
  have data : (∃ field, PyVal.get "data" entries = some field ∧
      Raises (orderCreatedData runtime) field) ↔
      RefusedUnprinted runtime ["data"] (isType .object) entries ∨
      Raises (orderCreatedData runtime) (.dict (dataEntries entries)) := by
    have empty : ¬Raises (orderCreatedData runtime) (.dict []) := by
      simp [raises_data_object, refused_unprinted_cons, refused_unprinted_nil, PyVal.get]
    rw [refused_unprinted_cons, dataEntries]
    cases PyVal.get "data" entries with
    | none => simp [refused_unprinted_nil, empty]
    | some field =>
        simp only [Option.some.injEq, exists_eq_left', refused_unprinted_nil, or_false]
        cases object : isType .object field with
        | true =>
            cases field with
            | dict inner => simp
            | none | bool _ | int _ | float _ | str _ | list _ => cases object
        | false =>
            cases field with
            | dict inner => cases object
            | none | bool _ | int _ | float _ | str _ | list _ =>
                simp [raises_data_other object, empty]
  rw [split, ← raises_data_object, ← data, Unreported, orderCreatedSchema, raises_allOf]
  simp [noAdditionalProperties, nonEmptyString, minLength, format, const, raises_text,
    refused_unprinted_cons, refused_unprinted_nil, isType, or_assoc]

/-- What the contract promises of one JSON object: a payload the schema accepts
has a model, and the parser has no third way out. -/
def ParsesAsPromised (runtime : Runtime) (entries : List (PyVal × PyVal)) : Prop :=
  (SchemaAccepts runtime entries → ∃ event, modelValidateJson runtime entries = .ok event) ∧
  ((∃ event, parseOrderCreatedEvent runtime (.dict entries) = .ok event) ∨
    ∃ message, parseOrderCreatedEvent runtime (.dict entries) =
      .error ⟨contractValidationError, message⟩)

theorem print_fault_undocumented (fault : PrintFault) (message : Str) :
    fault.exc ≠ ⟨contractValidationError, message⟩ := by
  intro same
  have classes : fault.exc.type = contractValidationError := congrArg Exc.type same
  revert classes
  cases fault <;> decide

theorem parses_as_promised_iff (runtime : Runtime) (agree : FormatsAgree runtime)
    (entries : List (PyVal × PyVal)) :
    ParsesAsPromised runtime entries ↔
      ¬(SchemaAccepts runtime entries ∧ Divergent runtime entries) ∧
      ¬∃ value ∈ printedValues entries, Unprintable runtime.texts value := by
  rw [← unreported_iff]
  rcases parse_of_to_dict runtime (PyVal.to_dict_dict entries) with
    ⟨accepted, parsed⟩ | ⟨refused, reported, message, parsed⟩ | ⟨refused, unreported, fault, parsed⟩
  · have models := model_validates_iff agree accepted
    have reported : ¬Unreported runtime entries := by
      rintro ⟨error, member, _⟩
      rw [accepted] at member
      cases member
    constructor
    · rintro ⟨validates, _⟩
      exact ⟨fun both => models.mp (validates accepted) both.2, reported⟩
    · rintro ⟨agreed, _⟩
      have validated := models.mpr fun divergent => agreed ⟨accepted, divergent⟩
      exact ⟨fun _ => validated, .inl (by rw [parsed]; exact validated)⟩
  · refine iff_of_true ?_ ⟨fun both => refused both.1, reported⟩
    exact ⟨fun accepted => absurd accepted refused, .inr ⟨message, parsed⟩⟩
  · refine iff_of_false ?_ fun promised => promised.2 unreported
    rintro ⟨_, ⟨event, returned⟩ | ⟨message, raised⟩⟩
    · rw [parsed] at returned
      cases returned
    · rw [parsed] at raised
      exact print_fault_undocumented fault message (Except.error.inj raised)

/-- The model library's exception escapes for every object that prints, passes the
schema and is read differently. -/
theorem divergent_escapes (agree : FormatsAgree runtime) {entries : List (PyVal × PyVal)}
    (accepted : SchemaAccepts runtime entries) (short : PyVal.shortEntries entries = true)
    (divergent : Divergent runtime entries) :
    parseOrderCreatedEvent runtime (.dict entries) =
      .error ⟨validationError, runtime.validationMessage entries⟩ := by
  rcases parse_of_to_dict runtime (PyVal.to_dict_dict entries) with
    ⟨_, parsed⟩ | ⟨refused, _⟩ | ⟨refused, _⟩
  · have unread : ¬∃ event, modelValidateJson runtime entries = .ok event :=
      fun validated => (model_validates_iff agree accepted).mp validated divergent
    rw [parsed, modelValidateJson, if_pos short] at *
    cases read : validateEvent runtime entries with
    | none => rfl
    | some event =>
        rw [read] at unread
        exact absurd ⟨event, rfl⟩ unread
  · exact absurd accepted refused
  · exact absurd accepted refused

theorem reference_formats_agree : FormatsAgree referenceRuntime where
  uuid _ := rfl
  dateTime _ := rfl

theorem integer_version_parses :
    ParsesAsPromised referenceRuntime (orderPayload (.int 1) "INR") := by
  apply (parses_as_promised_iff referenceRuntime reference_formats_agree _).mpr
  constructor
  · rintro ⟨-, long | ⟨amount, found, unread⟩ | ⟨body, trailing⟩ | ⟨text, member, lone⟩ | ⟨literal, _⟩⟩
    · revert long
      decide +kernel
    · cases found
      cases unread
    · have last : ofString "INR" = body ++ [newline] := by
        injection Option.some.inj trailing
      have code : (ofString "INR").getLast? = some newline := by rw [last]; simp
      exact absurd code (by decide)
    · have listed : identifierTexts (orderPayload (.int 1) "INR") =
          [.str "checkout-a43dd289", .str "request-9a2bcf19", .str "ORD-101", .str "CUS-22"] := rfl
      simp only [listed, List.mem_cons, List.not_mem_nil, or_false, PyVal.str.injEq] at member
      rcases member with rfl | rfl | rfl | rfl <;> exact lone (by decide)
    · cases literal
  · rintro ⟨value, _, fault, unprinted⟩
    cases unprinted

/-- The reference runtime with a model library whose literal refuses `1.0`. -/
def strictLiteralRuntime : Runtime := { referenceRuntime with literalTakesFloat := false }

/-- `"currency": "USD\n"` passes the schema, and the parser then raises the model
library's exception instead of its own, whatever that library's literals take. -/
theorem newline_currency_escapes :
    FormatsAgree strictLiteralRuntime ∧
      SchemaAccepts strictLiteralRuntime (orderPayload (.int 1) "USD\n") ∧
      parseOrderCreatedEvent strictLiteralRuntime (.dict (orderPayload (.int 1) "USD\n")) =
        .error ⟨validationError, "validation errors for OrderCreatedEvent"⟩ ∧
      ¬ParsesAsPromised strictLiteralRuntime (orderPayload (.int 1) "USD\n") ∧
      ¬ParsesAsPromised referenceRuntime (orderPayload (.int 1) "USD\n") := by
  have agree : FormatsAgree strictLiteralRuntime := ⟨fun _ => rfl, fun _ => rfl⟩
  have accepted : SchemaAccepts strictLiteralRuntime (orderPayload (.int 1) "USD\n") := by
    decide +kernel
  have acceptedReference : SchemaAccepts referenceRuntime (orderPayload (.int 1) "USD\n") := by
    decide +kernel
  have divergent : ∀ runtime, Divergent runtime (orderPayload (.int 1) "USD\n") :=
    fun runtime => .inr (.inr (.inl ⟨"USD", rfl⟩))
  refine ⟨agree, accepted, ?_, ?_, ?_⟩
  · exact divergent_escapes agree accepted (by decide +kernel) (divergent _)
  · rintro ⟨validates, _⟩
    exact (model_validates_iff agree accepted).mp (validates accepted) (divergent _)
  · rintro ⟨validates, _⟩
    exact (model_validates_iff reference_formats_agree acceptedReference).mp
      (validates acceptedReference) (divergent _)

end OrderMessaging.Contracts.Agreement
