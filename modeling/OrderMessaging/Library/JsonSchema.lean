import OrderMessaging.Library.PyValue

/-!
The JSON Schema keywords, each as the errors it reports for an instance. A
keyword about one type reports nothing for the others. The texts of the errors
are a parameter, except where they matter: `required` names the missing property,
and `type` and `exclusiveMinimum` print the instance, which `repr` can refuse.
-/

namespace OrderMessaging.JsonSchema

open OrderMessaging.PyText OrderMessaging.PyException OrderMessaging.PyValue

set_option autoImplicit false

inductive PathPart where
  | key (name : Str)
  | index (position : Nat)
  deriving DecidableEq

/-- Why `repr` cannot print a JSON value. -/
inductive PrintFault where
  | digits
  | depth
  deriving DecidableEq

def PrintFault.exc : PrintFault → Exc
  | digits => PyVal.tooManyDigits
  | depth => ⟨recursionError,
      "maximum recursion depth exceeded while getting the repr of an object"⟩

structure SchemaError where
  absolutePath : List PathPart
  message : Except PrintFault Str
  validator : Str
  deriving DecidableEq

abbrev Schema := PyVal → List SchemaError

inductive SchemaType where
  | object
  | string
  | number

def SchemaType.name : SchemaType → Str
  | object => "object"
  | string => "string"
  | number => "number"

/-- `message keyword instance` is the text of an error that prints no instance. -/
structure Texts where
  message : Str → PyVal → Str
  repr : PyVal → Except PrintFault Str

def isType : SchemaType → PyVal → Bool
  | .object, .dict _ => true
  | .string, .str _ => true
  | .number, .int _ => true
  | .number, .float _ => true
  | _, _ => false

/-- The pattern `^[class]{count}$`. -/
structure AnchoredPattern where
  inClass : CodePoint → Bool
  count : Nat

def newline : CodePoint := 10

/-- `$` as the end of the text only. -/
def AnchoredPattern.fullMatch (pattern : AnchoredPattern) (text : Str) : Bool :=
  text.length == pattern.count && text.all pattern.inClass

/-- `re.search`: `$` matches at the end and also just before a final newline. -/
def AnchoredPattern.search (pattern : AnchoredPattern) (text : Str) : Bool :=
  pattern.fullMatch text ||
    (text.getLast? == some newline && pattern.fullMatch text.dropLast)

variable (texts : Texts)

def allOf (keywords : List Schema) : Schema :=
  fun value => keywords.flatMap fun keyword => keyword value

def reporting (message : PyVal → Except PrintFault Str) (keyword : Str) (accepted : PyVal → Bool) :
    Schema := fun value =>
  if accepted value then [] else [⟨[], message value, keyword⟩]

def check (keyword : Str) (accepted : PyVal → Bool) : Schema :=
  reporting (fun value => .ok (texts.message keyword value)) keyword accepted

/-- `repr` of the instance, and what is wrong with it. -/
def describe (complaint : Str) (value : PyVal) : Except PrintFault Str :=
  (texts.repr value).map (· ++ complaint)

def type (expected : SchemaType) : Schema :=
  reporting (describe texts (" is not of type '" ++ expected.name ++ "'")) "type" (isType expected)

/-- Equality by value: numbers compare across types, booleans with booleans only. -/
def equalText (constant : Str) : PyVal → Bool
  | .str text => text == constant
  | _ => false

def equalInt (constant : Int) : PyVal → Bool
  | .int value => value == constant
  | .float value => value == .finite constant
  | _ => false

def const (equal : PyVal → Bool) : Schema := check texts "const" equal

def format (accepted : Str → Bool) : Schema := check texts "format" fun
  | .str text => accepted text
  | _ => true

def minLength (least : Nat) : Schema := check texts "minLength" fun
  | .str text => decide (least ≤ text.length)
  | _ => true

def aboveZero : PyVal → Bool
  | .int value => decide (0 < value)
  | .float value => !value.nonpositive
  | _ => true

def exclusiveMinimumZero : Schema :=
  reporting (describe texts " is less than or equal to the minimum of 0") "exclusiveMinimum"
    aboveZero

def pattern (expected : AnchoredPattern) : Schema := check texts "pattern" fun
  | .str text => expected.search text
  | _ => true

def noAdditionalProperties (known : List Str) : Schema := check texts "additionalProperties" fun
  | .dict entries => entries.all fun entry => known.any fun name => entry.1.keyEq (.str name)
  | _ => true

def requiredMessage (name : Str) : Str := "'" ++ name ++ "' is a required property"

def required (names : List Str) : Schema
  | .dict entries => (names.filter fun name => (PyVal.get name entries).isNone).map fun name =>
      ⟨[], .ok (requiredMessage name), "required"⟩
  | _ => []

def under (name : Str) (error : SchemaError) : SchemaError :=
  { error with absolutePath := .key name :: error.absolutePath }

def property (name : Str) (schema : Schema) : Schema
  | .dict entries =>
      match PyVal.get name entries with
      | some value => (schema value).map (under name)
      | none => []
  | _ => []

def Accepts (schema : Schema) (value : PyVal) : Prop := schema value = []

instance (schema : Schema) (value : PyVal) : Decidable (Accepts schema value) :=
  inferInstanceAs (Decidable (_ = []))

theorem accepts_allOf (keywords : List Schema) (value : PyVal) :
    Accepts (allOf keywords) value ↔ ∀ keyword ∈ keywords, Accepts keyword value := by
  simp only [Accepts, allOf, List.flatMap_eq_nil_iff]

variable {texts}

@[simp] theorem accepts_reporting (message : PyVal → Except PrintFault Str) (keyword : Str)
    (accepted : PyVal → Bool) (value : PyVal) :
    Accepts (reporting message keyword accepted) value ↔ accepted value = true := by
  simp only [Accepts, reporting]
  split <;> simp_all

@[simp] theorem accepts_check (keyword : Str) (accepted : PyVal → Bool) (value : PyVal) :
    Accepts (check texts keyword accepted) value ↔ accepted value = true :=
  accepts_reporting _ keyword accepted value

@[simp] theorem accepts_type (expected : SchemaType) (value : PyVal) :
    Accepts (type texts expected) value ↔ isType expected value = true :=
  accepts_reporting _ "type" _ value

@[simp] theorem accepts_exclusive_minimum (value : PyVal) :
    Accepts (exclusiveMinimumZero texts) value ↔ aboveZero value = true :=
  accepts_reporting _ "exclusiveMinimum" _ value

@[simp] theorem accepts_required (names : List Str) (entries : List (PyVal × PyVal)) :
    Accepts (required names) (.dict entries) ↔
      ∀ name ∈ names, (PyVal.get name entries).isSome := by
  simp only [Accepts, required, List.map_eq_nil_iff, List.filter_eq_nil_iff,
    Option.isNone_iff_eq_none, ← Option.isSome_iff_ne_none]

theorem accepts_property (name : Str) (schema : Schema) (entries : List (PyVal × PyVal)) :
    Accepts (property name schema) (.dict entries) ↔
      ∀ value, PyVal.get name entries = some value → Accepts schema value := by
  simp only [Accepts, property]
  cases PyVal.get name entries <;> simp

/-- One of the schema's errors prints what cannot be printed. -/
def Raises (schema : Schema) (value : PyVal) : Prop :=
  ∃ error ∈ schema value, ∃ fault, error.message = .error fault

def Unprintable (texts : Texts) (value : PyVal) : Prop := ∃ fault, texts.repr value = .error fault

theorem raises_allOf (keywords : List Schema) (value : PyVal) :
    Raises (allOf keywords) value ↔ ∃ keyword ∈ keywords, Raises keyword value := by
  simp only [Raises, allOf, List.mem_flatMap]
  constructor
  · rintro ⟨error, ⟨keyword, member, reported⟩, raised⟩
    exact ⟨keyword, member, error, reported, raised⟩
  · rintro ⟨keyword, member, error, reported, raised⟩
    exact ⟨error, ⟨keyword, member, reported⟩, raised⟩

theorem raises_reporting (message : PyVal → Except PrintFault Str) (keyword : Str)
    (accepted : PyVal → Bool) (value : PyVal) :
    Raises (reporting message keyword accepted) value ↔
      accepted value = false ∧ ∃ fault, message value = .error fault := by
  simp only [Raises, reporting]
  cases accepted value <;> simp

@[simp] theorem raises_check (keyword : Str) (accepted : PyVal → Bool) (value : PyVal) :
    ¬Raises (check texts keyword accepted) value := by
  rw [check, raises_reporting]
  rintro ⟨_, fault, printed⟩
  cases printed

theorem describe_error_iff (complaint : Str) (value : PyVal) :
    (∃ fault, describe texts complaint value = .error fault) ↔ Unprintable texts value := by
  rw [Unprintable, describe]
  cases texts.repr value <;> simp [Except.map]

@[simp] theorem raises_type (expected : SchemaType) (value : PyVal) :
    Raises (type texts expected) value ↔ isType expected value = false ∧ Unprintable texts value := by
  rw [type, raises_reporting, describe_error_iff]

@[simp] theorem raises_exclusive_minimum (value : PyVal) :
    Raises (exclusiveMinimumZero texts) value ↔ aboveZero value = false ∧ Unprintable texts value := by
  rw [exclusiveMinimumZero, raises_reporting, describe_error_iff]

@[simp] theorem raises_required (names : List Str) (value : PyVal) :
    ¬Raises (required names) value := by
  rintro ⟨error, reported, fault, raised⟩
  cases value with
  | dict entries =>
      obtain ⟨name, _, rfl⟩ := List.mem_map.mp reported
      cases raised
  | none | bool _ | int _ | float _ | str _ | list _ => cases reported

@[simp] theorem raises_property (name : Str) (schema : Schema) (entries : List (PyVal × PyVal)) :
    Raises (property name schema) (.dict entries) ↔
      ∃ field, PyVal.get name entries = some field ∧ Raises schema field := by
  simp only [Raises, property]
  cases PyVal.get name entries with
  | none => simp
  | some field =>
      simp only [List.mem_map, Option.some.injEq, exists_eq_left']
      constructor
      · rintro ⟨error, ⟨own, member, rfl⟩, raised⟩
        exact ⟨own, member, raised⟩
      · rintro ⟨own, member, raised⟩
        exact ⟨under name own, ⟨own, member, rfl⟩, raised⟩

theorem search_iff_full_or_newline (pattern : AnchoredPattern) (text : Str) :
    pattern.search text = true ↔ pattern.fullMatch text = true ∨
      ∃ body, text = body ++ [newline] ∧ pattern.fullMatch body = true := by
  simp only [AnchoredPattern.search, Bool.or_eq_true, Bool.and_eq_true, beq_iff_eq]
  apply or_congr_right
  constructor
  · rintro ⟨last, matched⟩
    exact ⟨text.dropLast, (List.dropLast_append_getLast? newline last).symm, matched⟩
  · rintro ⟨body, rfl, matched⟩
    simpa using matched

end OrderMessaging.JsonSchema
