import Mathlib.Data.Finset.Image
import Mathlib.Data.Set.Function
import Mathlib.Data.Finset.Basic

/-!
Tables as sets of rows with unique keys, and transactions that roll back. A
transaction is a state change that can raise halfway; committing it keeps the
state it reached and raising restores the state it started from.
-/

namespace OrderMessaging.Relation

set_option autoImplicit false

section Keys

variable {Row Key : Type}

theorem inj_on_insert [DecidableEq Row] {key : Row → Key} {rows : Finset Row} {row : Row}
    (unique : Set.InjOn key rows) (fresh : ∀ other ∈ rows, key other ≠ key row) :
    Set.InjOn key (insert row rows : Finset Row) := by
  intro left leftMember right rightMember same
  rcases Finset.mem_insert.mp (Finset.mem_coe.mp leftMember) with rfl | leftOld
  · rcases Finset.mem_insert.mp (Finset.mem_coe.mp rightMember) with rfl | rightOld
    · rfl
    · exact absurd same.symm (fresh right rightOld)
  · rcases Finset.mem_insert.mp (Finset.mem_coe.mp rightMember) with rfl | rightOld
    · exact absurd same (fresh left leftOld)
    · exact unique leftOld rightOld same

theorem inj_on_filter {key : Row → Key} {rows : Finset Row} (keep : Row → Prop)
    [DecidablePred keep] (unique : Set.InjOn key rows) :
    Set.InjOn key (rows.filter keep : Finset Row) :=
  unique.mono (Finset.coe_subset.mpr (Finset.filter_subset keep rows))

theorem inj_on_image [DecidableEq Row] {key : Row → Key} {rows : Finset Row} (update : Row → Row)
    (keeps : ∀ row, key (update row) = key row) (unique : Set.InjOn key rows) :
    Set.InjOn key (rows.image update : Finset Row) := by
  intro left leftMember right rightMember same
  obtain ⟨before, beforeMember, rfl⟩ := Finset.mem_image.mp (Finset.mem_coe.mp leftMember)
  obtain ⟨other, otherMember, rfl⟩ := Finset.mem_image.mp (Finset.mem_coe.mp rightMember)
  rw [keeps, keeps] at same
  rw [unique beforeMember otherMember same]

variable [DecidableEq Key]

/-- The row with this key: `SELECT … WHERE key = …` on a unique column. -/
def lookup (key : Row → Key) (rows : Finset Row) (unique : Set.InjOn key rows) (wanted : Key) :
    Option Row :=
  if found : ∃ row ∈ rows, key row = wanted then
    some (Finset.choose (fun row => key row = wanted) rows (by
      obtain ⟨row, member, same⟩ := found
      refine ⟨row, ⟨member, same⟩, ?_⟩
      rintro other ⟨otherMember, otherSame⟩
      exact unique otherMember member (otherSame.trans same.symm)))
  else none

theorem lookup_eq_some {key : Row → Key} {rows : Finset Row} {unique : Set.InjOn key rows}
    {wanted : Key} {row : Row} :
    lookup key rows unique wanted = some row ↔ row ∈ rows ∧ key row = wanted := by
  rw [lookup]
  split
  next found =>
    have member := Finset.choose_mem (fun row => key row = wanted) rows
    have same := Finset.choose_property (fun row => key row = wanted) rows
    constructor
    · intro chosen
      rw [← Option.some.inj chosen]
      exact ⟨member _, same _⟩
    · rintro ⟨rowMember, rowSame⟩
      exact congrArg some (unique (member _) rowMember ((same _).trans rowSame.symm))
  next missing =>
    constructor
    · intro absent
      cases absent
    · rintro ⟨rowMember, rowSame⟩
      exact absurd ⟨row, rowMember, rowSame⟩ missing

theorem lookup_eq_none {key : Row → Key} {rows : Finset Row} {unique : Set.InjOn key rows}
    {wanted : Key} :
    lookup key rows unique wanted = none ↔ ∀ row ∈ rows, key row ≠ wanted := by
  rw [lookup]
  split
  next found =>
    obtain ⟨row, member, same⟩ := found
    constructor
    · intro absent
      cases absent
    · intro missing
      exact absurd same (missing row member)
  next missing =>
    constructor
    · intro _ row member same
      exact missing ⟨row, member, same⟩
    · intro _
      rfl

theorem lookup_insert [DecidableEq Row] {key : Row → Key} {rows : Finset Row} {row : Row}
    (before : Set.InjOn key rows) (after : Set.InjOn key (insert row rows : Finset Row))
    (wanted : Key) :
    lookup key (insert row rows) after wanted =
      if wanted = key row then some row else lookup key rows before wanted := by
  by_cases same : wanted = key row
  · rw [if_pos same, lookup_eq_some]
    exact ⟨Finset.mem_insert_self row rows, same.symm⟩
  · rw [if_neg same]
    cases found : lookup key rows before wanted with
    | none =>
        have missing := lookup_eq_none.mp found
        apply lookup_eq_none.mpr
        intro other member
        rcases Finset.mem_insert.mp member with rfl | old
        · exact fun equal => same equal.symm
        · exact missing other old
    | some other =>
        have present := lookup_eq_some.mp found
        apply lookup_eq_some.mpr
        exact ⟨Finset.mem_insert_of_mem present.1, present.2⟩

theorem lookup_filter_ne {key : Row → Key} {rows : Finset Row} {dropped : Key}
    (before : Set.InjOn key rows)
    (after : Set.InjOn key (rows.filter fun row => key row ≠ dropped : Finset Row))
    (wanted : Key) :
    lookup key (rows.filter fun row => key row ≠ dropped) after wanted =
      if wanted = dropped then none else lookup key rows before wanted := by
  by_cases same : wanted = dropped
  · rw [if_pos same, lookup_eq_none]
    intro row member
    have kept := (Finset.mem_filter.mp member).2
    rw [same]
    exact kept
  · rw [if_neg same]
    cases found : lookup key rows before wanted with
    | none =>
        have missing := lookup_eq_none.mp found
        apply lookup_eq_none.mpr
        intro row member
        exact missing row (Finset.mem_filter.mp member).1
    | some row =>
        have present := lookup_eq_some.mp found
        apply lookup_eq_some.mpr
        refine ⟨Finset.mem_filter.mpr ⟨present.1, ?_⟩, present.2⟩
        rw [present.2]
        exact same

theorem lookup_image [DecidableEq Row] {key : Row → Key} {rows : Finset Row} {update : Row → Row}
    (keeps : ∀ row, key (update row) = key row) (before : Set.InjOn key rows)
    (after : Set.InjOn key (rows.image update : Finset Row)) (wanted : Key) :
    lookup key (rows.image update) after wanted = (lookup key rows before wanted).map update := by
  cases found : lookup key rows before wanted with
  | none =>
      have missing := lookup_eq_none.mp found
      apply lookup_eq_none.mpr
      intro row member
      obtain ⟨old, oldMember, rfl⟩ := Finset.mem_image.mp member
      rw [keeps]
      exact missing old oldMember
  | some row =>
      have present := lookup_eq_some.mp found
      apply lookup_eq_some.mpr
      exact ⟨Finset.mem_image_of_mem update present.1, (keeps row).trans present.2⟩

/-- Two tables under one unique column that answer every lookup alike are equal. -/
theorem eq_of_lookup {key : Row → Key} {left right : Finset Row} {leftUnique : Set.InjOn key left}
    {rightUnique : Set.InjOn key right}
    (same : ∀ wanted, lookup key left leftUnique wanted = lookup key right rightUnique wanted) :
    left = right := by
  apply Finset.ext
  intro row
  have here := same (key row)
  constructor
  · intro member
    rw [lookup_eq_some.mpr ⟨member, rfl⟩] at here
    exact (lookup_eq_some.mp here.symm).1
  · intro member
    rw [lookup_eq_some.mpr  ⟨member, rfl⟩] at here
    exact (lookup_eq_some.mp here).1

end Keys

section Transactions

variable {Fault State Value Other : Type}

/-- Statements that run inside one transaction. -/
def Statement (Fault State Value : Type) := State → Except Fault Value × State

namespace Statement

def bind (first : Statement Fault State Value) (next : Value → Statement Fault State Other) :
    Statement Fault State Other := fun state =>
  match first state with
  | (.ok value, reached) => next value reached
  | (.error fault, reached) => (.error fault, reached)

instance : Monad (Statement Fault State) where
  pure value := fun state => (.ok value, state)
  bind := bind

def raise (fault : Fault) : Statement Fault State Value := fun state => (.error fault, state)

def query (read : State → Value) : Statement Fault State Value :=
  fun state => (.ok (read state), state)

theorem bind_apply (first : Statement Fault State Value)
    (next : Value → Statement Fault State Other) (state : State) :
    (first >>= next) state =
      match first state with
      | (.ok value, reached) => next value reached
      | (.error fault, reached) => (.error fault, reached) := rfl

theorem pure_apply (value : Value) (state : State) :
    (pure value : Statement Fault State Value) state = (.ok value, state) := rfl

end Statement

/-- Leaving the block normally commits; an exception rolls back. -/
def transaction (body : Statement Fault State Value) (state : State) :
    Except Fault Value × State :=
  match body state with
  | (.ok value, reached) => (.ok value, reached)
  | (.error fault, _) => (.error fault, state)

end Transactions

end OrderMessaging.Relation
