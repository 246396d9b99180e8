import Mathlib.Data.List.Sort
import OrderMessaging.Contracts.Models

/-!
The packaged `order-created-v1.json` schema and the two functions that apply it.
Every schema error becomes an issue with a JSON path, the issues are sorted by
path and message, and one exception carries them all. An error whose text cannot
be made raises instead.
-/

namespace OrderMessaging.Contracts.Validation

open OrderMessaging.PyText OrderMessaging.PyException OrderMessaging.PyValue
open OrderMessaging.JsonSchema OrderMessaging.Contracts.Models

set_option autoImplicit false

section Schema

variable (runtime : Runtime)

def nonEmptyString : Schema :=
  allOf [type runtime.texts .string, minLength runtime.texts 1]

/-- `#/$defs/orderCreatedData`. -/
def orderCreatedData : Schema :=
  allOf [
    type runtime.texts .object,
    noAdditionalProperties runtime.texts dataFields,
    required dataFields,
    property "order_id" (nonEmptyString runtime),
    property "customer_id" (nonEmptyString runtime),
    property "amount" (allOf [type runtime.texts .number, exclusiveMinimumZero runtime.texts]),
    property "currency" (allOf [type runtime.texts .string, pattern runtime.texts currencyPattern])]

def orderCreatedSchema : Schema :=
  allOf [
    type runtime.texts .object,
    noAdditionalProperties runtime.texts eventFields,
    required eventFields,
    property "event_id"
      (allOf [type runtime.texts .string, format runtime.texts runtime.uuidFormat]),
    property "event_type" (const runtime.texts (equalText "order.created")),
    property "event_version" (const runtime.texts (equalInt 1)),
    property "occurred_at"
      (allOf [type runtime.texts .string, format runtime.texts runtime.dateTimeFormat]),
    property "correlation_id" (nonEmptyString runtime),
    property "causation_id" (nonEmptyString runtime),
    property "producer" (const runtime.texts (equalText "order-api")),
    property "data" (orderCreatedData runtime)]

end Schema

structure ValidationIssue where
  path : Str
  message : Str
  rule : Str
  deriving DecidableEq

def jsonPath (parts : List PathPart) : Str :=
  parts.foldl
    (fun path part => match part with
      | .index position => path ++ "[" ++ PyVal.decimal position ++ "]"
      | .key name => path ++ "." ++ name)
    "$"

/-- `^'(?P<field>.+)' is a required property$`. -/
def missingProperty (message : Str) : Option Str :=
  let suffix : Str := "' is a required property"
  match message with
  | quote :: rest =>
      let field := rest.take (rest.length - suffix.length)
      if quote = codePoint '\'' ∧ rest = field ++ suffix ∧ field ≠ [] ∧ newline ∉ field then
        some field
      else none
  | [] => none

def toIssue (error : SchemaError) : Except Exc ValidationIssue := do
  let message ← error.message.mapError PrintFault.exc
  match (if error.validator = ofString "required" then missingProperty message else none) with
  | some field =>
      .ok ⟨jsonPath (error.absolutePath ++ [.key field]), "is required", error.validator⟩
  | none => .ok ⟨jsonPath error.absolutePath, message, error.validator⟩

def issueBefore (left right : ValidationIssue) : Bool :=
  decide (left.path < right.path ∨ (left.path = right.path ∧ left.message ≤ right.message))

def contractValidationError : ExcClass := valueError.subclass "ContractValidationError"

def summary (issues : List ValidationIssue) : Str :=
  List.intercalate "; " (issues.map fun issue => issue.path ++ ": " ++ issue.message)

variable (runtime : Runtime)

def contractIssues (entries : List (PyVal × PyVal)) : Except Exc (List ValidationIssue) := do
  let issues ← (orderCreatedSchema runtime (.dict entries)).mapM toIssue
  .ok (issues.mergeSort issueBefore)

/-- `validate_order_created_contract` of a payload that is not a typed event. -/
def validateOrderCreatedContract (payload : PyVal) : Except Exc Unit := do
  let wirePayload ← payload.toDict
  let issues ← contractIssues runtime wirePayload
  if issues = [] then .ok ()
  else .error ⟨contractValidationError, "Event contract validation failed: " ++ summary issues⟩

def parseOrderCreatedEvent (payload : PyVal) : Except Exc OrderCreatedEvent := do
  validateOrderCreatedContract runtime payload
  modelValidateJson runtime (← payload.toDict)

/-- The schema library reports nothing for this payload. -/
def SchemaAccepts (entries : List (PyVal × PyVal)) : Prop :=
  Accepts (orderCreatedSchema runtime) (.dict entries)

instance (entries : List (PyVal × PyVal)) : Decidable (SchemaAccepts runtime entries) :=
  inferInstanceAs (Decidable (Accepts _ _))

/-- The text of one of the schema's errors cannot be made. -/
def Unreported (entries : List (PyVal × PyVal)) : Prop :=
  Raises (orderCreatedSchema runtime) (.dict entries)

variable {runtime}

theorem to_issue_error_iff {error : SchemaError} {fault : Exc} :
    toIssue error = .error fault ↔
      ∃ own : PrintFault, error.message = .error own ∧ fault = own.exc := by
  rw [toIssue]
  cases error.message with
  | error own =>
      constructor
      · intro raised
        cases raised
        exact ⟨own, rfl, rfl⟩
      · rintro ⟨other, same, rfl⟩
        cases same
        rfl
  | ok message =>
      simp only [Except.mapError, Bind.bind, Except.bind]
      constructor
      · intro raised
        split at raised <;> cases raised
      · rintro ⟨own, same, _⟩
        cases same

/-- Every way the issues of an object can come out. -/
theorem contract_issues_cases (runtime : Runtime) (entries : List (PyVal × PyVal)) :
    (SchemaAccepts runtime entries ∧ contractIssues runtime entries = .ok []) ∨
    (¬SchemaAccepts runtime entries ∧ ¬Unreported runtime entries ∧
      ∃ issues, contractIssues runtime entries = .ok issues ∧ issues ≠ []) ∨
    (¬SchemaAccepts runtime entries ∧ Unreported runtime entries ∧
      ∃ fault : PrintFault, contractIssues runtime entries = .error fault.exc) := by
  rw [contractIssues, Unreported, Raises, SchemaAccepts, Accepts]
  generalize orderCreatedSchema runtime (.dict entries) = errors
  rcases mapM_cases toIssue errors with ⟨issues, made, same, each⟩ | ⟨error, member, fault, raised, made⟩
  · have sorted : (issues.mergeSort issueBefore).length = errors.length := by
      rw [List.length_mergeSort, same]
    by_cases clean : errors = []
    · refine .inl ⟨clean, ?_⟩
      rw [clean, List.length_nil, List.length_eq_zero_iff] at sorted
      rw [made]
      exact congrArg Except.ok sorted
    · refine .inr (.inl ⟨clean, ?_, issues.mergeSort issueBefore, ?_, ?_⟩)
      · rintro ⟨error, member, fault, failed⟩
        obtain ⟨issue, made⟩ := each error member
        rw [to_issue_error_iff.mpr ⟨fault, failed, rfl⟩] at made
        cases made
      · rw [made]
        rfl
      · intro empty
        rw [empty, List.length_nil] at sorted
        exact clean (List.length_eq_zero_iff.mp sorted.symm)
  · obtain ⟨own, failed, rfl⟩ := to_issue_error_iff.mp raised
    refine .inr (.inr ⟨List.ne_nil_of_mem member, ⟨error, member, own, failed⟩, own, ?_⟩)
    rw [made]
    rfl

theorem contract_issues_eq_nil (entries : List (PyVal × PyVal)) :
    contractIssues runtime entries = .ok [] ↔ SchemaAccepts runtime entries := by
  rcases contract_issues_cases runtime entries with
    ⟨accepted, clean⟩ | ⟨refused, _, issues, made, some⟩ | ⟨refused, _, fault, raised⟩
  · exact iff_of_true clean accepted
  · rw [made]
    exact iff_of_false (fun clean => some (Except.ok.inj clean)) refused
  · rw [raised]
    exact iff_of_false (fun clean => nomatch clean) refused

/-- Every way a payload that converts can leave the parser. -/
theorem parse_of_to_dict (runtime : Runtime) {payload : PyVal} {entries : List (PyVal × PyVal)}
    (converted : payload.toDict = .ok entries) :
    (SchemaAccepts runtime entries ∧
      parseOrderCreatedEvent runtime payload = modelValidateJson runtime entries) ∨
    (¬SchemaAccepts runtime entries ∧ ¬Unreported runtime entries ∧ ∃ message,
      parseOrderCreatedEvent runtime payload = .error ⟨contractValidationError, message⟩) ∨
    (¬SchemaAccepts runtime entries ∧ Unreported runtime entries ∧ ∃ fault : PrintFault,
      parseOrderCreatedEvent runtime payload = .error fault.exc) := by
  simp only [parseOrderCreatedEvent, validateOrderCreatedContract, converted]
  dsimp only [Bind.bind, Except.bind]
  rcases contract_issues_cases runtime entries with
    ⟨accepted, clean⟩ | ⟨refused, reported, issues, made, some⟩ | ⟨refused, unreported, fault, raised⟩
  · exact .inl ⟨accepted, by rw [clean]; rfl⟩
  · refine .inr (.inl ⟨refused, reported,
      "Event contract validation failed: " ++ summary issues, ?_⟩)
    simp only [made, if_neg some]
  · refine .inr (.inr ⟨refused, unreported, fault, ?_⟩)
    rw [raised]

end OrderMessaging.Contracts.Validation
