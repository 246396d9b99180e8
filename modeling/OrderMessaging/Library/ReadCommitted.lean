import Mathlib.Logic.Function.Basic

/-!
Rows under READ COMMITTED. Each key has at most one version: the row, the
transaction that inserted it, whether that transaction has committed, and the
open transaction that holds the row, if one does. A statement fixes what it can
see when it begins and meets the versions as they are when it gets to them; what
a transaction did to the rows it holds takes effect when it commits.
-/

namespace OrderMessaging.ReadCommitted

set_option autoImplicit false

/-- What the holder of a row will have done to it by its commit. -/
inductive Change (Row : Type) where
  | lock
  | update (row : Row)
  | delete

structure Version (Row : Type) where
  row : Row
  owner : Nat
  committed : Bool
  holder : Option (Nat × Change Row)

abbrev Rows (Key Row : Type) := Key → Option (Version Row)

variable {Key Row : Type}

def Change.settle : Change Row → Row → Option Row
  | lock, row => some row
  | update row, _ => some row
  | delete, _ => none

namespace Version

def fresh (transaction : Nat) (row : Row) : Version Row := ⟨row, transaction, false, none⟩

def hold (transaction : Nat) (change : Change Row) (version : Version Row) : Version Row :=
  { version with holder := some (transaction, change) }

/-- A statement that wants the row waits for its holder. -/
def HeldByOther (transaction : Nat) (version : Version Row) : Prop :=
  ∃ other change, version.holder = some (other, change) ∧ other ≠ transaction

/-- An insert that meets the key waits for the row's inserter, or for the
transaction that is changing the row. -/
def Unsettled (transaction : Nat) (version : Version Row) : Prop :=
  (version.committed = false ∧ version.owner ≠ transaction) ∨
    ∃ other change, version.holder = some (other, change) ∧ other ≠ transaction ∧ change ≠ .lock

/-- The version after the transaction's commit. -/
def commit (transaction : Nat) (version : Version Row) : Option (Version Row) :=
  let committed := version.committed || decide (version.owner = transaction)
  match version.holder with
  | none => some { version with committed := committed }
  | some (holder, change) =>
      if holder = transaction then
        (change.settle version.row).map fun row => ⟨row, version.owner, committed, none⟩
      else some { version with committed := committed }

/-- The version after the transaction's rollback. -/
def abort (transaction : Nat) (version : Version Row) : Option (Version Row) :=
  if version.committed = false ∧ version.owner = transaction then none
  else match version.holder with
    | none => some version
    | some (holder, _) =>
        if holder = transaction then some { version with holder := none } else some version

/-- A version that the transaction neither inserted nor holds. -/
def Foreign (transaction : Nat) (version : Version Row) : Prop :=
  version.owner ≠ transaction ∧ ∀ change, version.holder ≠ some (transaction, change)

variable {transaction : Nat} {version : Version Row}

/-- The holder that is left when the transaction has ended. -/
def release (transaction : Nat) (holder : Option (Nat × Change Row)) : Option (Nat × Change Row) :=
  holder.filter fun holding => holding.1 ≠ transaction

theorem release_own (transaction : Nat) (change : Change Row) :
    release transaction (some (transaction, change)) = none := by
  simp [release]

theorem release_other {number : Nat} (other : number ≠ transaction) (change : Change Row) :
    release transaction (some (number, change)) = some (number, change) := by
  simp [release, other]

theorem release_eq_some {holder : Option (Nat × Change Row)} {number : Nat} {change : Change Row} :
    release transaction holder = some (number, change) ↔
      holder = some (number, change) ∧ number ≠ transaction := by
  rw [release, Option.filter_eq_some_iff]
  simp

theorem commit_fresh (transaction : Nat) (row : Row) :
    (fresh transaction row).commit transaction = some ⟨row, transaction, true, none⟩ := by
  simp [commit, fresh]

theorem abort_fresh (transaction : Nat) (row : Row) :
    (fresh transaction row).abort transaction = none := by
  simp [abort, fresh]

theorem commit_deleted (held : version.holder = some (transaction, .delete)) :
    version.commit transaction = none := by
  simp [commit, held, Change.settle]

theorem commit_updated {row : Row} (held : version.holder = some (transaction, .update row)) :
    version.commit transaction =
      some ⟨row, version.owner, version.committed || decide (version.owner = transaction), none⟩ := by
  simp [commit, held, Change.settle]

/-- A commit of another's row that is not deleted by it leaves the row or its
replacement, and releases it. -/
theorem commit_release (notOwner : version.owner ≠ transaction)
    (kept : version.holder ≠ some (transaction, .delete)) :
    ∃ row, version.commit transaction =
        some ⟨row, version.owner, version.committed, release transaction version.holder⟩ ∧
      (row = version.row ∨ version.holder = some (transaction, .update row)) := by
  rcases version with ⟨row, owner, committed, _ | ⟨holder, change⟩⟩
  · refine ⟨row, ?_, .inl rfl⟩
    simp only [commit, decide_eq_false notOwner, Bool.or_false]
    rfl
  · by_cases same : holder = transaction
    · subst same
      simp only [commit, decide_eq_false notOwner, Bool.or_false, if_true, release_own]
      cases change with
      | lock => exact ⟨row, rfl, .inl rfl⟩
      | update later => exact ⟨later, rfl, .inr rfl⟩
      | delete => exact absurd rfl kept
    · refine ⟨row, ?_, .inl rfl⟩
      simp only [commit, decide_eq_false notOwner, Bool.or_false, if_neg same, release_other same]

theorem abort_release (notOwner : version.owner ≠ transaction) :
    version.abort transaction =
      some { version with holder := release transaction version.holder } := by
  rcases version with ⟨row, owner, committed, _ | ⟨holder, change⟩⟩
  · simp only [abort, notOwner, and_false, if_false]
    rfl
  · by_cases same : holder = transaction
    · subst same
      simp only [abort, notOwner, and_false, if_false, if_true, release_own]
    · simp only [abort, notOwner, and_false, if_false, if_neg same, release_other same]

theorem commit_foreign (foreign : version.Foreign transaction) :
    version.commit transaction = some version := by
  obtain ⟨notOwner, notHolder⟩ := foreign
  rcases version with ⟨row, owner, committed, _ | ⟨holder, change⟩⟩
  · simp only [commit, decide_eq_false notOwner, Bool.or_false]
  · have other : holder ≠ transaction := by
      intro same
      subst same
      exact notHolder change rfl
    simp only [commit, decide_eq_false notOwner, Bool.or_false, if_neg other]

theorem abort_foreign (foreign : version.Foreign transaction) :
    version.abort transaction = some version := by
  obtain ⟨notOwner, notHolder⟩ := foreign
  rcases version with ⟨row, owner, committed, _ | ⟨holder, change⟩⟩
  · simp only [abort, notOwner, and_false, if_false]
  · have other : holder ≠ transaction := by
      intro same
      subst same
      exact notHolder change rfl
    simp only [abort, notOwner, and_false, if_false, if_neg other]

theorem commit_free (free : version.holder = none) (transaction : Nat) :
    ∃ after, version.commit transaction = some after ∧ after.row = version.row := by
  rcases version with ⟨row, owner, committed, holder⟩
  subst free
  exact ⟨_, rfl, rfl⟩

theorem commit_row {after : Version Row} (committed : version.commit transaction = some after) :
    after.row = version.row ∨ version.holder = some (transaction, .update after.row) := by
  rcases version with ⟨row, owner, seen, _ | ⟨holder, change⟩⟩
  · cases committed
    exact .inl rfl
  · by_cases same : holder = transaction
    · subst same
      simp only [commit, if_true, Option.map_eq_some_iff] at committed
      obtain ⟨kept, settled, built⟩ := committed
      subst built
      cases change with
      | lock =>
          cases settled
          exact .inl rfl
      | update later =>
          cases settled
          exact .inr rfl
      | delete => cases settled
    · simp only [commit, if_neg same] at committed
      cases committed
      exact .inl rfl

theorem commit_holder {after : Version Row} (committed : version.commit transaction = some after) :
    after.holder = release transaction version.holder := by
  rcases version with ⟨row, owner, seen, _ | ⟨holder, change⟩⟩
  · cases committed
    rfl
  · by_cases same : holder = transaction
    · subst same
      simp only [commit, if_true, Option.map_eq_some_iff] at committed
      obtain ⟨kept, _, built⟩ := committed
      subst built
      exact (release_own _ _).symm
    · simp only [commit, if_neg same] at committed
      cases committed
      exact (release_other same change).symm

/-- A row that another transaction holds outlasts the commit. -/
theorem commit_held {number : Nat} {change : Change Row}
    (held : version.holder = some (number, change)) (other : number ≠ transaction) :
    ∃ after, version.commit transaction = some after ∧ after.holder = some (number, change) := by
  rcases version with ⟨row, owner, seen, holder⟩
  cases held
  simp only [commit, if_neg other]
  exact ⟨_, rfl, rfl⟩

theorem abort_kept {after : Version Row} (aborted : version.abort transaction = some after) :
    after.row = version.row ∧ after.holder = release transaction version.holder := by
  rcases version with ⟨row, owner, seen, holder⟩
  by_cases own : seen = false ∧ owner = transaction
  · simp only [abort, if_pos own] at aborted
    cases aborted
  · rcases holder with _ | ⟨holder, change⟩
    · simp only [abort, if_neg own] at aborted
      cases aborted
      exact ⟨rfl, rfl⟩
    · by_cases same : holder = transaction
      · subst same
        simp only [abort, if_neg own, if_true] at aborted
        cases aborted
        exact ⟨rfl, (release_own _ _).symm⟩
      · simp only [abort, if_neg own, if_neg same] at aborted
        cases aborted
        exact ⟨rfl, (release_other same change).symm⟩

/-- A version left by an ended transaction, and held by none. -/
structure Resting (next : Nat) (version : Version Row) : Prop where
  committed : version.committed = true
  free : version.holder = none
  earlier : version.owner < next

variable {next : Nat}

theorem resting_mono {later : Nat} (resting : version.Resting next) (grows : next ≤ later) :
    version.Resting later :=
  ⟨resting.committed, resting.free, Nat.lt_of_lt_of_le resting.earlier grows⟩

theorem resting_committed {row : Row} {owner : Nat} (earlier : owner ≤ next) :
    (⟨row, owner, true, none⟩ : Version Row).Resting (next + 1) :=
  ⟨rfl, rfl, Nat.lt_succ_of_le earlier⟩

theorem resting_foreign (resting : version.Resting next) : version.Foreign next := by
  refine ⟨Nat.ne_of_lt resting.earlier, ?_⟩
  intro change held
  rw [resting.free] at held
  cases held

theorem not_held_of_free (free : version.holder = none) : ¬ version.HeldByOther transaction := by
  intro contrary
  obtain ⟨other, change, held, _⟩ := contrary
  rw [free] at held
  cases held

theorem resting_not_unsettled (resting : version.Resting next) :
    ¬ version.Unsettled transaction := by
  intro contrary
  rcases contrary with ⟨uncommitted, _⟩ | ⟨other, change, held, _⟩
  · rw [resting.committed] at uncommitted
    cases uncommitted
  · rw [resting.free] at held
    cases held

end Version

def commit (transaction : Nat) (rows : Rows Key Row) : Rows Key Row :=
  fun key => (rows key).bind (Version.commit transaction)

def abort (transaction : Nat) (rows : Rows Key Row) : Rows Key Row :=
  fun key => (rows key).bind (Version.abort transaction)

/-- Every row was left by an ended transaction, and none is held. -/
def Resting (next : Nat) (rows : Rows Key Row) : Prop :=
  ∀ key version, rows key = some version → version.Resting next

section Rest

variable {next : Nat} {rows : Rows Key Row}

theorem resting_mono {later : Nat} (resting : Resting next rows) (grows : next ≤ later) :
    Resting later rows := by
  intro key version held
  exact Version.resting_mono (resting key version held) grows

theorem commit_resting (resting : Resting next rows) : commit next rows = rows := by
  funext key
  rw [commit]
  cases held : rows key with
  | none => rfl
  | some version =>
      have rests := resting key version held
      exact Version.commit_foreign (Version.resting_foreign rests)

theorem abort_resting (resting : Resting next rows) : abort next rows = rows := by
  funext key
  rw [abort]
  cases held : rows key with
  | none => rfl
  | some version =>
      have rests := resting key version held
      exact Version.abort_foreign (Version.resting_foreign rests)

end Rest

variable [DecidableEq Key]

def insertRow (transaction : Nat) (key : Key) (row : Row) (rows : Rows Key Row) : Rows Key Row :=
  Function.update rows key (some (.fresh transaction row))

def holdRow (transaction : Nat) (change : Change Row) (key : Key) (rows : Rows Key Row) :
    Rows Key Row :=
  Function.update rows key ((rows key).map (Version.hold transaction change))

theorem hold_row_some {transaction : Nat} {change : Change Row} {key other : Key}
    {rows : Rows Key Row} {after : Version Row}
    (held : holdRow transaction change key rows other = some after) :
    ∃ version, rows other = some version ∧ after.row = version.row := by
  by_cases same : other = key
  · subst same
    rw [holdRow, Function.update_self] at held
    obtain ⟨version, present, built⟩ := Option.map_eq_some_iff.mp held
    subst built
    exact ⟨version, present, rfl⟩
  · rw [holdRow, Function.update_of_ne same] at held
    exact ⟨after, held, rfl⟩

omit [DecidableEq Key] in
/-- The row that everyone can see under the key. -/
def committedRow (rows : Rows Key Row) (key : Key) : Option Row :=
  (rows key).bind fun version => if version.committed = true then some version.row else none

omit [DecidableEq Key] in
/-- The version under the key that a statement beginning now can see: a committed
one, or the transaction's own. Its inserter names it. -/
def visible (transaction : Nat) (rows : Rows Key Row) (key : Key) : Option Nat :=
  (rows key).bind fun version =>
    if version.committed = true ∨ version.owner = transaction then some version.owner else none

/-- The statement meets the version that it saw when it began. -/
def Meets (rows : Rows Key Row) (key : Key) (seen : Option Nat) (version : Version Row) : Prop :=
  rows key = some version ∧ seen = some version.owner

/-- What the statement saw is gone, if it saw anything. -/
def Misses (rows : Rows Key Row) (key : Key) (seen : Option Nat) : Prop :=
  ∀ version, rows key = some version → seen ≠ some version.owner

section Alone

variable {next : Nat} {rows : Rows Key Row}

/-- The commit of a transaction that changed one row. -/
theorem commit_update (resting : Resting next rows) (key : Key) (changed : Option (Version Row)) :
    commit next (Function.update rows key changed) =
      Function.update rows key (changed.bind (Version.commit next)) := by
  funext other
  by_cases same : other = key
  · rw [same, commit, Function.update_self, Function.update_self]
  · rw [commit, Function.update_of_ne same, Function.update_of_ne same]
    exact congrFun (commit_resting resting) other

theorem abort_update (resting : Resting next rows) (key : Key) (changed : Option (Version Row)) :
    abort next (Function.update rows key changed) =
      Function.update rows key (changed.bind (Version.abort next)) := by
  funext other
  by_cases same : other = key
  · rw [same, abort, Function.update_self, Function.update_self]
  · rw [abort, Function.update_of_ne same, Function.update_of_ne same]
    exact congrFun (abort_resting resting) other

theorem resting_update (resting : Resting next rows) (key : Key) {changed : Option (Version Row)}
    (rests : ∀ version, changed = some version → version.Resting next) :
    Resting next (Function.update rows key changed) := by
  intro other version held
  by_cases same : other = key
  · rw [same, Function.update_self] at held
    exact rests version held
  · rw [Function.update_of_ne same] at held
    exact resting other version held

theorem commit_insert (resting : Resting next rows) (key : Key) (row : Row) :
    commit next (insertRow next key row rows) =
      Function.update rows key (some ⟨row, next, true, none⟩) := by
  rw [insertRow, commit_update resting, Option.bind_some, Version.commit_fresh]

theorem abort_insert (resting : Resting next rows) {key : Key} (absent : rows key = none)
    (row : Row) : abort next (insertRow next key row rows) = rows := by
  rw [insertRow, abort_update resting, Option.bind_some, Version.abort_fresh, ← absent,
    Function.update_eq_self]

theorem commit_hold (resting : Resting next rows) {key : Key} {version : Version Row}
    (held : rows key = some version) (change : Change Row) :
    commit next (holdRow next change key rows) =
      Function.update rows key
        ((change.settle version.row).map fun row => ⟨row, version.owner, true, none⟩) := by
  rw [holdRow, commit_update resting, held, Option.map_some, Option.bind_some]
  simp only [Version.commit, Version.hold, if_true, (resting key version held).committed,
    Bool.true_or]

/-- The rows, whoever wrote them. -/
def Shows (rows : Rows Key Row) (contents : Key → Option Row) : Prop :=
  ∀ key, (rows key).map Version.row = contents key

theorem shows_update {contents : Key → Option Row} (shows : Shows rows contents) (key : Key)
    (changed : Option (Version Row)) (wanted : Key) :
    (Function.update rows key changed wanted).map Version.row =
      if wanted = key then changed.map Version.row else contents wanted := by
  by_cases same : wanted = key
  · rw [same, Function.update_self, if_pos rfl]
  · rw [Function.update_of_ne same, if_neg same, shows wanted]

omit [DecidableEq Key] in
/-- A statement that begins among resting rows meets what there is. -/
theorem meets_of_resting (resting : Resting next rows) (transaction : Nat) {key : Key}
    {version : Version Row} (held : rows key = some version) :
    Meets rows key (visible transaction rows key) version := by
  refine ⟨held, ?_⟩
  rw [visible, held, Option.bind_some, if_pos (Or.inl (resting key version held).committed)]

omit [DecidableEq Key] in
theorem misses_of_absent {key : Key} (absent : rows key = none) (seen : Option Nat) :
    Misses rows key seen := by
  intro version held
  rw [absent] at held
  cases held

end Alone

end OrderMessaging.ReadCommitted
