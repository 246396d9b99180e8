import Mathlib.Logic.Function.Basic
import Mathlib.Data.Option.Basic

/-!
Ledgers of claimed identities. An identity is absent, claimed with a record, or
claimed and completed; claiming an identity a second time changes nothing. A
deduplicating consumer keeps such a ledger, whatever its tables look like.
-/

namespace OrderMessaging.ClaimLedger

set_option autoImplicit false

structure Entry (Record : Type) where
  record : Record
  completed : Bool
  deriving DecidableEq

def Entry.finish {Record : Type} (entry : Entry Record) : Entry Record := ⟨entry.record, true⟩

abbrev Ledger (Id Record : Type) := Id → Option (Entry Record)

inductive Action (Id Record : Type) where
  | claim (id : Id) (record : Record)
  | complete (id : Id)
  | forget (id : Id)

variable {Id Record : Type}

def Action.target : Action Id Record → Id
  | claim id _ => id
  | complete id => id
  | forget id => id

def Action.revise (entry : Option (Entry Record)) : Action Id Record → Option (Entry Record)
  | claim _ record => some (entry.getD ⟨record, false⟩)
  | complete _ => entry.map Entry.finish
  | forget _ => none

variable [DecidableEq Id]

def apply (action : Action Id Record) (ledger : Ledger Id Record) : Ledger Id Record :=
  Function.update ledger action.target (action.revise (ledger action.target))

theorem apply_target (action : Action Id Record) (ledger : Ledger Id Record) :
    apply action ledger action.target = action.revise (ledger action.target) := by
  unfold apply
  rw [Function.update_self]

theorem apply_other {action : Action Id Record} (ledger : Ledger Id Record) {id : Id}
    (other : id ≠ action.target) : apply action ledger id = ledger id := by
  unfold apply
  rw [Function.update_of_ne other]

theorem apply_claim_held {ledger : Ledger Id Record} {id : Id} {record : Record}
    {entry : Entry Record} (held : ledger id = some entry) :
    apply (.claim id record) ledger = ledger := by
  funext wanted
  by_cases same : wanted = id
  · subst same
    have revised := apply_target (.claim wanted record) ledger
    simp only [Action.target, Action.revise, held, Option.getD_some] at revised
    rw [revised, held]
  · exact apply_other ledger same

theorem apply_claim_absent {ledger : Ledger Id Record} {id : Id} (absent : ledger id = none)
    (record : Record) : apply (.claim id record) ledger id = some ⟨record, false⟩ := by
  have revised := apply_target (.claim id record) ledger
  simp only [Action.target, Action.revise, absent, Option.getD_none] at revised
  exact revised

theorem apply_complete (ledger : Ledger Id Record) (id : Id) :
    apply (.complete id) ledger id = (ledger id).map Entry.finish :=
  apply_target (.complete id) ledger

theorem apply_forget (ledger : Ledger Id Record) (id : Id) :
    apply (.forget id) ledger id = none :=
  apply_target (.forget id) ledger

/-- What every action but a forget preserves. -/
def Extends (before after : Ledger Id Record) : Prop :=
  ∀ id entry, before id = some entry →
    ∃ later, after id = some later ∧ later.record = entry.record ∧
      (entry.completed = true → later.completed = true)

omit [DecidableEq Id] in
theorem extends_refl (ledger : Ledger Id Record) : Extends ledger ledger := by
  intro id entry held
  exact ⟨entry, held, rfl, fun completed => completed⟩

theorem extends_claim (ledger : Ledger Id Record) (id : Id) (record : Record) :
    Extends ledger (apply (.claim id record) ledger) := by
  intro wanted entry held
  refine ⟨entry, ?_, rfl, fun completed => completed⟩
  by_cases same : wanted = id
  · subst same
    rw [apply_claim_held held, held]
  · rw [apply_other ledger same, held]

theorem extends_complete (ledger : Ledger Id Record) (id : Id) :
    Extends ledger (apply (.complete id) ledger) := by
  intro wanted entry held
  by_cases same : wanted = id
  · subst same
    have revised := apply_target (.complete wanted) ledger
    simp only [Action.target, Action.revise, held, Option.map_some] at revised
    exact ⟨entry.finish, revised, rfl, fun _ => rfl⟩
  · refine ⟨entry, ?_, rfl, fun completed => completed⟩
    rw [apply_other ledger same, held]

end OrderMessaging.ClaimLedger
