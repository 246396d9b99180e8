import OrderMessaging.Library.PyText

/-!
Python exceptions as values: a class is its name and the names of the classes it
derives from, itself first, so `isinstance` is membership.
-/

namespace OrderMessaging.PyException

open OrderMessaging.PyText

set_option autoImplicit false

structure ExcClass where
  name : Str
  ancestors : List Str
  deriving DecidableEq

structure Exc where
  type : ExcClass
  message : Str
  deriving DecidableEq

def ExcClass.subclass (parent : ExcClass) (name : Str) : ExcClass :=
  ⟨name, name :: parent.ancestors⟩

def Exc.isInstance (error : Exc) (classes : List ExcClass) : Bool :=
  classes.any fun cls => error.type.ancestors.contains cls.name

def baseException : ExcClass := ⟨"Exception", ["Exception"]⟩
def typeError : ExcClass := baseException.subclass "TypeError"
def valueError : ExcClass := baseException.subclass "ValueError"
def runtimeError : ExcClass := baseException.subclass "RuntimeError"
def recursionError : ExcClass := runtimeError.subclass "RecursionError"
def unicodeDecodeError : ExcClass := valueError.subclass "UnicodeDecodeError"
def unicodeEncodeError : ExcClass := valueError.subclass "UnicodeEncodeError"
def jsonDecodeError : ExcClass := valueError.subclass "JSONDecodeError"
def timeoutError : ExcClass := (baseException.subclass "OSError").subclass "TimeoutError"

theorem bind_ok_iff {Value Other : Type} {first : Except Exc Value}
    {next : Value → Except Exc Other} {result : Other} :
    (first >>= next) = .ok result ↔ ∃ value, first = .ok value ∧ next value = .ok result := by
  cases first with
  | error fault => simp [Bind.bind, Except.bind]
  | ok value => simp [Bind.bind, Except.bind]

/-- A list is converted element by element, up to the first that raises. -/
theorem mapM_cases {Value Result : Type} (convert : Value → Except Exc Result)
    (items : List Value) :
    (∃ results, items.mapM convert = .ok results ∧ results.length = items.length ∧
      ∀ item ∈ items, ∃ result, convert item = .ok result) ∨
    ∃ item ∈ items, ∃ fault, convert item = .error fault ∧ items.mapM convert = .error fault := by
  induction items with
  | nil => exact .inl ⟨[], rfl, rfl, by simp⟩
  | cons item rest ih =>
      rw [List.mapM_cons]
      cases converted : convert item with
      | error fault => exact .inr ⟨item, List.mem_cons_self, fault, converted, rfl⟩
      | ok result =>
          rcases ih with ⟨results, own, same, each⟩ | ⟨later, member, fault, failed, own⟩
          · refine .inl ⟨result :: results, ?_, by simp [same], ?_⟩
            · rw [own]
              rfl
            · simp only [List.mem_cons, forall_eq_or_imp]
              exact ⟨⟨result, converted⟩, each⟩
          · refine .inr ⟨later, List.mem_cons_of_mem item member, fault, failed, ?_⟩
            rw [own]
            rfl

theorem mapped_ok {Value Result : Type} {result : Except Exc Value} {value own : Result}
    (mapped : (result.map fun _ => value) = .ok own) : own = value := by
  cases result with
  | error fault => cases mapped
  | ok _ => exact (Except.ok.inj mapped).symm

end OrderMessaging.PyException
