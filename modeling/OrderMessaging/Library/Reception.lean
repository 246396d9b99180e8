import OrderMessaging.Library.Program

/-!
Programs that wait for an item and then work on it. Which calls wait, and what a
call has handed over, are parameters. `Standing` describes such a program together
with the item it has in hand, wherever it has got to.
-/

namespace OrderMessaging.Reception

open OrderMessaging.Program

set_option autoImplicit false

variable {Fault Op Value Item : Type} {Ret : Op → Type}

section Judgment

variable (awaits : Op → Prop) (hands : (op : Op) → Except Fault (Ret op) → Option Item)
variable (allowed : Item → Op → Prop)

/-- Until an item is handed over the program only waits for one; from then on its
calls are those allowed for the item. -/
def Receives : Prog Fault Ret Value → Prop
  | .done _ => True
  | .call op next => awaits op ∧ ∀ result, match hands op result with
      | none => Receives (next result)
      | some item => Makes (allowed item) (next result)

def Standing (inHand : Option Item) (program : Prog Fault Ret Value) : Prop :=
  match inHand with
  | none => Receives awaits hands allowed program
  | some item => Makes (allowed item) program

/-- Who works on an item does not wait for another. -/
structure Exclusive : Prop where
  working : ∀ item op, allowed item op → ¬awaits op
  handed : ∀ op result item, hands op result = some item → awaits op

end Judgment

section Rules

variable {awaits : Op → Prop} {hands : (op : Op) → Except Fault (Ret op) → Option Item}
variable {allowed : Item → Op → Prop}

theorem makes_call {may : Op → Prop} {op : Op} {next : Except Fault (Ret op) → Prog Fault Ret Value}
    (made : Makes may (.call op next)) : may op ∧ ∀ result, Makes may (next result) := by
  obtain ⟨own, after⟩ := made () rfl
  exact ⟨own, after⟩

theorem receives_none {op : Op} {next : Except Fault (Ret op) → Prog Fault Ret Value}
    (receives : Receives awaits hands allowed (.call op next)) {result : Except Fault (Ret op)}
    (nothing : hands op result = none) : Receives awaits hands allowed (next result) := by
  have after := receives.2 result
  rwa [nothing] at after

theorem receives_some {op : Op} {next : Except Fault (Ret op) → Prog Fault Ret Value}
    (receives : Receives awaits hands allowed (.call op next)) {result : Except Fault (Ret op)}
    {item : Item} (handed : hands op result = some item) : Makes (allowed item) (next result) := by
  have after := receives.2 result
  rwa [handed] at after

theorem not_handed (exclusive : Exclusive awaits hands allowed) {item : Item} {op : Op}
    (own : allowed item op) (result : Except Fault (Ret op)) : hands op result = none := by
  cases handed : hands op result with
  | none => rfl
  | some other => exact (exclusive.working item op own (exclusive.handed op result other handed)).elim

/-- One call further, with the item it may have handed over. -/
theorem standing_step (exclusive : Exclusive awaits hands allowed) {inHand : Option Item} {op : Op}
    {next : Except Fault (Ret op) → Prog Fault Ret Value}
    (standing : Standing awaits hands allowed inHand (.call op next))
    (result : Except Fault (Ret op)) :
    Standing awaits hands allowed ((hands op result).or inHand) (next result) := by
  cases inHand with
  | none =>
      rw [Option.or_none]
      cases handed : hands op result with
      | none => exact receives_none standing handed
      | some item => exact receives_some standing handed
  | some item =>
      obtain ⟨own, after⟩ := makes_call standing
      rw [not_handed exclusive own result, Option.none_or]
      exact after result

end Rules

end OrderMessaging.Reception
