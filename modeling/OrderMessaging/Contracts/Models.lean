import Mathlib.Data.Option.Basic
import OrderMessaging.Library.JsonSchema

/-!
The typed event of version 1. A constructed event carries its own field
constraints, so an event that the strict model would refuse cannot be built.
The three `Literal` fields hold one value each and are constants of the event.
`Runtime` collects what the code calls outside the repository as functions of
their arguments: the JSON module, the schema library's formats, the model
library's field parsers, and the texts that Python itself writes.
-/

namespace OrderMessaging.Contracts.Models

open OrderMessaging.PyText OrderMessaging.PyException OrderMessaging.PyValue
open OrderMessaging.JsonSchema

set_option autoImplicit false

structure Uuid where
  value : Fin (2 ^ 128)
  deriving DecidableEq

instance uuidRange : NeZero (2 ^ 128) := ⟨by decide⟩

def hexDigit (nibble : Nat) : CodePoint :=
  if nibble < 10 then Fin.ofNat 0x110000 (0x30 + nibble) else Fin.ofNat 0x110000 (0x57 + nibble)

def Uuid.hex (id : Uuid) : Str :=
  (List.range 32).map fun index => hexDigit (id.value.val / 16 ^ (31 - index) % 16)

/-- `str(event_id)`: the canonical 8-4-4-4-12 form. -/
def Uuid.str (id : Uuid) : Str :=
  id.hex.take 8 ++ "-" ++ (id.hex.drop 8).take 4 ++ "-" ++ (id.hex.drop 12).take 4 ++ "-" ++
    (id.hex.drop 16).take 4 ++ "-" ++ id.hex.drop 20

/-- Microseconds since the epoch and the offset from UTC in seconds. -/
structure AwareDatetime where
  instant : Int
  utcoffset : Int
  deriving DecidableEq

structure Runtime where
  loads : Str → Except Exc PyVal
  dumps : PyVal → Except Exc Str
  texts : Texts
  uuidFormat : Str → Bool
  dateTimeFormat : Str → Bool
  parseUuid : Str → Option Uuid
  parseDatetime : Str → Option AwareDatetime
  /-- The JSON integers that a strict float field takes, and what it reads. -/
  floatOfInt : Int → Option PyFloat
  /-- Whether a strict `Literal[1]` takes the JSON number `1.0`. -/
  literalTakesFloat : Bool
  validationMessage : List (PyVal × PyVal) → Str
  decodeMessage : ByteArray → Str
  encodeMessage : Str → Str
  repr : Str → Str
  twoDecimals : ℚ → Str

structure NonEmptyText where
  text : Str
  nonempty : text ≠ []
  encodable : Encodable text
  deriving DecidableEq

structure PositiveAmount where
  value : PyFloat
  positive : value.positive = true
  deriving DecidableEq

/-- `^[A-Z]{3}$`. -/
def currencyPattern : AnchoredPattern :=
  ⟨fun point => decide (0x41 ≤ point.val ∧ point.val ≤ 0x5A), 3⟩

structure CurrencyCode where
  text : Str
  shape : currencyPattern.fullMatch text = true
  deriving DecidableEq

structure OrderCreatedData where
  orderId : NonEmptyText
  customerId : NonEmptyText
  amount : PositiveAmount
  currency : CurrencyCode
  deriving DecidableEq

structure OrderCreatedEvent where
  eventId : Uuid
  occurredAt : AwareDatetime
  correlationId : NonEmptyText
  causationId : NonEmptyText
  data : OrderCreatedData
  deriving DecidableEq

def OrderCreatedEvent.eventType (_ : OrderCreatedEvent) : Str := "order.created"
def OrderCreatedEvent.eventVersion (_ : OrderCreatedEvent) : Int := 1
def OrderCreatedEvent.producer (_ : OrderCreatedEvent) : Str := "order-api"

def isHighSurrogate (point : CodePoint) : Bool := decide (0xD800 ≤ point.val ∧ point.val ≤ 0xDBFF)
def isLowSurrogate (point : CodePoint) : Bool := decide (0xDC00 ≤ point.val ∧ point.val ≤ 0xDFFF)

/-- `json.dumps` escapes every surrogate, and a reader joins adjacent escapes. -/
def joinSurrogates : Str → Str
  | high :: low :: rest =>
      if isHighSurrogate high && isLowSurrogate low then
        Fin.ofNat 0x110000 (0x10000 + (high.val - 0xD800) * 0x400 + (low.val - 0xDC00)) ::
          joinSurrogates rest
      else high :: joinSurrogates (low :: rest)
  | [last] => [last]
  | [] => []

/-- A text field as the model's own JSON reader sees it after `json.dumps`: it
refuses a document with an escape of a lone surrogate. -/
def readText : PyVal → Option Str
  | .str text => if Encodable (joinSurrogates text) then some (joinSurrogates text) else none
  | _ => none

def nonEmptyText : PyVal → Option NonEmptyText
  | .str text =>
      if valid : joinSurrogates text ≠ [] ∧ Encodable (joinSurrogates text) then
        some ⟨joinSurrogates text, valid.1, valid.2⟩
      else none
  | _ => none

def currencyCode (value : PyVal) : Option CurrencyCode := do
  let text ← readText value
  if shape : currencyPattern.fullMatch text = true then some ⟨text, shape⟩ else none

/-- A strict float field: booleans are not numbers. -/
def strictFloat (runtime : Runtime) : PyVal → Option PyFloat
  | .int value => runtime.floatOfInt value
  | .float value => some value
  | _ => none

def positiveAmount (runtime : Runtime) (value : PyVal) : Option PositiveAmount := do
  let amount ← strictFloat runtime value
  if positive : amount.positive = true then some ⟨amount, positive⟩ else none

def literalText (expected : Str) (value : PyVal) : Option Unit := do
  let text ← readText value
  if text = expected then some () else none

def literalOne (runtime : Runtime) : PyVal → Option Unit
  | .int 1 => some ()
  | .float value => if runtime.literalTakesFloat ∧ value = .finite 1 then some () else none
  | _ => none

/-- A field with a default is checked only when it is present. -/
def defaulted (check : PyVal → Option Unit) (value : Option PyVal) : Option Unit :=
  match value with
  | some present => check present
  | none => some ()

/-- `extra="forbid"`. -/
def forbidExtra (known : List Str) (entries : List (PyVal × PyVal)) : Option Unit :=
  if entries.all fun entry => known.any fun name => entry.1.keyEq (.str name) then some () else none

def dataFields : List Str := ["order_id", "customer_id", "amount", "currency"]

def eventFields : List Str :=
  ["event_id", "event_type", "event_version", "occurred_at", "correlation_id", "causation_id",
    "producer", "data"]

def validateData (runtime : Runtime) : PyVal → Option OrderCreatedData
  | .dict entries => do
      forbidExtra dataFields entries
      let orderId ← (PyVal.get "order_id" entries).bind nonEmptyText
      let customerId ← (PyVal.get "customer_id" entries).bind nonEmptyText
      let amount ← (PyVal.get "amount" entries).bind (positiveAmount runtime)
      let currency ← (PyVal.get "currency" entries).bind currencyCode
      some ⟨orderId, customerId, amount, currency⟩
  | _ => none

def validateEvent (runtime : Runtime) (entries : List (PyVal × PyVal)) :
    Option OrderCreatedEvent := do
  forbidExtra eventFields entries
  let eventId ← ((PyVal.get "event_id" entries).bind readText).bind runtime.parseUuid
  defaulted (literalText "order.created") (PyVal.get "event_type" entries)
  defaulted (literalOne runtime) (PyVal.get "event_version" entries)
  let occurredAt ← ((PyVal.get "occurred_at" entries).bind readText).bind runtime.parseDatetime
  let correlationId ← (PyVal.get "correlation_id" entries).bind nonEmptyText
  let causationId ← (PyVal.get "causation_id" entries).bind nonEmptyText
  defaulted (literalText "order-api") (PyVal.get "producer" entries)
  let data ← (PyVal.get "data" entries).bind (validateData runtime)
  some ⟨eventId, occurredAt, correlationId, causationId, data⟩

def validationError : ExcClass := valueError.subclass "ValidationError"

/-- `OrderCreatedEvent.model_validate_json(json.dumps(entries))`, for entries that
the schema accepts: of these `json.dumps` can only refuse an integer. -/
def modelValidateJson (runtime : Runtime) (entries : List (PyVal × PyVal)) :
    Except Exc OrderCreatedEvent :=
  if PyVal.shortEntries entries then
    match validateEvent runtime entries with
    | some event => .ok event
    | none => .error ⟨validationError, runtime.validationMessage entries⟩
  else .error PyVal.tooManyDigits

end OrderMessaging.Contracts.Models
