import Mathlib.Data.Rat.Floor
import OrderMessaging.Library.JsonText
import OrderMessaging.Contracts.Validation

/-!
A runtime to evaluate the model with. The JSON module is the reader and printer
of the library; identifiers and timestamps are read in the spellings that the
producer writes, 8-4-4-4-12 hexadecimal and `YYYY-MM-DDTHH:MM:SSZ`, and the two
schema formats accept exactly what those parsers read.
-/

namespace OrderMessaging.Contracts.Reference

open OrderMessaging.PyText OrderMessaging.PyException OrderMessaging.PyValue
open OrderMessaging.Contracts.Models

set_option autoImplicit false

def hexNumber (digits : Str) : Option Nat :=
  digits.foldlM (fun total digit => (PyJson.hexValue digit).map (total * 16 + ·)) 0

def parseUuid (text : Str) : Option Uuid :=
  let digits := text.filter (· ≠ codePoint '-')
  let dashes := [8, 13, 18, 23].all fun index => text[index]? == some (codePoint '-')
  if text.length = 36 ∧ digits.length = 32 ∧ dashes then
    (hexNumber digits).map fun value => ⟨Fin.ofNat _ value⟩
  else none

def decimalNumber (digits : Str) : Option Nat :=
  if digits ≠ [] ∧ digits.all PyJson.isDigit then some (PyJson.digitsValue digits) else none

/-- Days since 1970-01-01 in the Gregorian calendar, counted from March. -/
def daysFromCivil (year month day : Nat) : Int :=
  let shifted : Int := if month ≤ 2 then (year : Int) - 1 else year
  let era := shifted / 400
  let yearOfEra := shifted - era * 400
  let monthIndex : Int := if month ≤ 2 then month + 9 else month - 3
  let dayOfYear := (153 * monthIndex + 2) / 5 + day - 1
  era * 146097 + (yearOfEra * 365 + yearOfEra / 4 - yearOfEra / 100 + dayOfYear) - 719468

def parseDatetime (text : Str) : Option AwareDatetime := do
  let year ← decimalNumber (text.take 4)
  let month ← decimalNumber ((text.drop 5).take 2)
  let day ← decimalNumber ((text.drop 8).take 2)
  let hour ← decimalNumber ((text.drop 11).take 2)
  let minute ← decimalNumber ((text.drop 14).take 2)
  let second ← decimalNumber ((text.drop 17).take 2)
  let shape : Str := text.map fun head => if PyJson.isDigit head then codePoint '0' else head
  if shape = ofString "0000-00-00T00:00:00Z" ∧ 1 ≤ month ∧ month ≤ 12 ∧ 1 ≤ day ∧ day ≤ 28 ∧
      hour < 24 ∧ minute < 60 ∧ second < 60 then
    some ⟨(((daysFromCivil year month day * 24 + hour) * 60 + minute) * 60 + second) * 1000000, 0⟩
  else none

/-- Up to `places` digits after the point, stopping when nothing is left. -/
def fractionText : Nat → ℚ → Str
  | 0, _ => []
  | places + 1, rest =>
      if rest = 0 then []
      else
        let digit := ⌊rest * 10⌋
        PyJson.intText digit ++ fractionText places (rest * 10 - digit)

def floatText : PyFloat → Str
  | .finite value =>
      let whole := ⌊|value|⌋
      let fraction := fractionText 20 (|value| - whole)
      (if value < 0 then ofString "-" else []) ++ PyJson.intText whole ++ "." ++
        (if fraction = [] then ofString "0" else fraction)
  | .inf negative => if negative then ofString "-Infinity" else ofString "Infinity"
  | .nan => "NaN"

theorem fraction_text_encodable (places : Nat) (rest : ℚ) : Encodable (fractionText places rest) := by
  induction places generalizing rest with
  | zero => exact encodable_nil
  | succ places ih =>
      rw [fractionText]
      split
      · exact encodable_nil
      · exact encodable_append.mpr ⟨of_string_encodable _, ih _⟩

theorem float_text_encodable (value : PyFloat) : Encodable (floatText value) := by
  cases value with
  | finite value =>
      simp only [floatText]
      refine encodable_append.mpr ⟨encodable_append.mpr ⟨encodable_append.mpr
        ⟨?_, of_string_encodable _⟩, of_string_encodable _⟩, ?_⟩
      · split
        · exact of_string_encodable _
        · exact encodable_nil
      · split
        · exact of_string_encodable _
        · exact fraction_text_encodable _ _
  | inf negative =>
      cases negative <;> exact of_string_encodable _
  | nan => exact of_string_encodable _

def referenceRuntime : Runtime where
  loads := PyJson.loads PyFloat.finite
  dumps value :=
    match PyJson.dumps floatText value with
    | some text => .ok text
    | none => .error ⟨typeError, "keys must be str, int, float, bool or None"⟩
  texts := ⟨fun keyword _ => keyword ++ " failed", fun _ => .ok "the instance"⟩
  uuidFormat text := ((readText (.str text)).bind parseUuid).isSome
  dateTimeFormat text := ((readText (.str text)).bind parseDatetime).isSome
  parseUuid := parseUuid
  parseDatetime := parseDatetime
  floatOfInt value := some (.finite value)
  literalTakesFloat := true
  validationMessage _ := "validation errors for OrderCreatedEvent"
  decodeMessage _ := "'utf-8' codec can't decode byte: invalid start byte"
  encodeMessage _ := "'utf-8' codec can't encode character: surrogates not allowed"
  repr text := "'" ++ text ++ "'"
  twoDecimals value := floatText (.finite (⌊value * 100 + 1 / 2⌋ / 100))

def unprintable : Exc := ⟨typeError, "keys must be str, int, float, bool or None"⟩

/-- The same runtime with the printer in two passes, the sorting and the text. -/
def printingRuntime : Runtime :=
  { referenceRuntime with
    dumps := fun value =>
      match JsonText.render PyJson.escapePoint floatText (JsonText.sortKeys value) with
      | some text => .ok text
      | none => .error unprintable }

/-- The order of the documentation, with the fields that the layers read
differently left open. -/
def orderPayloadOf (version amount : PyVal) (currency : Str) : List (PyVal × PyVal) :=
  [(.str "event_id", .str "1d253df2-a12f-4b55-b8db-3f421360df3a"),
    (.str "event_type", .str "order.created"),
    (.str "event_version", version),
    (.str "occurred_at", .str "2026-08-12T12:00:00Z"),
    (.str "correlation_id", .str "checkout-a43dd289"),
    (.str "causation_id", .str "request-9a2bcf19"),
    (.str "producer", .str "order-api"),
    (.str "data", .dict [(.str "order_id", .str "ORD-101"), (.str "customer_id", .str "CUS-22"),
      (.str "amount", amount), (.str "currency", .str currency)])]

def orderPayload (version : PyVal) (currency : Str) : List (PyVal × PyVal) :=
  orderPayloadOf version (.float (.finite 500)) currency

/-- The event that payload parses to, for any positive amount. -/
def documentedOrder (amount : ℚ) (positive : 0 < amount) : OrderCreatedEvent where
  eventId := ⟨0x1d253df2a12f4b55b8db3f421360df3a⟩
  occurredAt := ⟨1786536000000000, 0⟩
  correlationId := ⟨"checkout-a43dd289", by decide, by decide⟩
  causationId := ⟨"request-9a2bcf19", by decide, by decide⟩
  data :=
    { orderId := ⟨"ORD-101", by decide, by decide⟩
      customerId := ⟨"CUS-22", by decide, by decide⟩
      amount := ⟨.finite amount, decide_eq_true positive⟩
      currency := ⟨"INR", by decide⟩ }

/-- The documented example. -/
def documentedEvent : OrderCreatedEvent := documentedOrder 500 (by norm_num)

end OrderMessaging.Contracts.Reference
