import OrderMessaging.Library.AtomicObject
import OrderMessaging.Processing.ConcurrentRecords

/-!
The store's transactions seen by its callers. Statement by statement, they cannot
be told from an object whose calls take effect at one instant each, as long as no
store of an event commits between the deletes of a discard of the same event. A
call takes effect at its commit; a discard that finds no order does where it
looked for one.
-/

namespace OrderMessaging.Processing.ConcurrentAtomicity

open OrderMessaging.AtomicObject OrderMessaging.ClaimLedger OrderMessaging.PyException
open OrderMessaging.ReadCommitted OrderMessaging.Contracts.Models
open OrderMessaging.Contracts.Reference
open OrderMessaging.Processing.PostgresOrderStore OrderMessaging.Processing.OrderLedger
open OrderMessaging.Processing.StoreFidelity OrderMessaging.Processing.StoreOperations
open OrderMessaging.Processing.ConcurrentStore OrderMessaging.Processing.ConcurrentInvariant
open OrderMessaging.Processing.ConcurrentSteps OrderMessaging.Processing.ConcurrentPairing
open OrderMessaging.Processing.ConcurrentRecords

set_option autoImplicit false

abbrev StoreEvent := AtomicObject.Event StoreOp StoreOp.Ret
abbrev StoreObject := Object StoreOp StoreOp.Ret Database

/-- A step, with what the transaction's caller sees of it. -/
inductive Observed (state : Postgres) : ConcurrentStore.Label → Option StoreEvent → Postgres → Prop
    where
  | starts (op : StoreOp) :
      Observed state (.start op) (some (.invoked state.next op)) (state.start op)
  | advances (number : Nat) (now later : Transaction) (claims : Claims) (orders : Orders)
      (opened : state.running number = some now)
      (performed : Statement number state.claims state.orders now claims orders later) :
      Observed state (.advance number) none
        { state with
          claims := claims
          orders := orders
          running := Function.update state.running number (some later) }
  | raises (number : Nat) (now : Transaction) (fault : Exc)
      (opened : state.running number = some now)
      (raised : Raises number state.claims state.orders now fault) :
      Observed state (.advance number) (some (.failed number)) (state.abort number)
  | commits (number : Nat) (now : Transaction) (op : StoreOp) (result : op.Ret)
      (opened : state.running number = some now) (finished : now.Returns op result) :
      Observed state (.commit number) (some (.returned ⟨number, op, result⟩))
        (state.commit number)
  | aborts (number : Nat) (now : Transaction) (opened : state.running number = some now) :
      Observed state (.abort number) (some (.failed number)) (state.abort number)

/-- Every step of the store is observed in one way or another, and nothing else is. -/
theorem step_iff_observed {state reached : Postgres} {label : ConcurrentStore.Label} :
    ConcurrentStore.Step state label reached ↔ ∃ event, Observed state label event reached := by
  constructor
  · intro stepped
    cases stepped with
    | starts op => exact ⟨_, .starts op⟩
    | advances number now later claims orders opened performed =>
        exact ⟨_, .advances number now later claims orders opened performed⟩
    | raises number now fault opened raised => exact ⟨_, .raises number now fault opened raised⟩
    | commits number now op result opened finished =>
        exact ⟨_, .commits number now op result opened finished⟩
    | aborts number now opened => exact ⟨_, .aborts number now opened⟩
  · intro observed
    obtain ⟨event, seen⟩ := observed
    cases seen with
    | starts op => exact .starts op
    | advances number now later claims orders opened performed =>
        exact .advances number now later claims orders opened performed
    | raises number now fault opened raised => exact .raises number now fault opened raised
    | commits number now op result opened finished =>
        exact .commits number now op result opened finished
    | aborts number now opened => exact .aborts number now opened

/-- The steps that commit no store between the deletes of a discard of its event. -/
def SparedStep (state : Postgres) (event : Option StoreEvent) (reached : Postgres) : Prop :=
  ∃ label, Observed state label event reached ∧ SparesDiscards state label

/-- A call of the store as one transaction that nothing disturbs. -/
def atomically : Spec StoreOp StoreOp.Ret Database :=
  fun before op result after => op.run none before = (.ok result, after)

section Answers

variable {database : Database} {ledger : EventLedger}

theorem store_known (holds : Represents database.tables ledger) {event : OrderCreatedEvent}
    {entry : Entry OrderRow} (held : ledger event.eventId = some entry) :
    atomically database (.store event) ⟨false, !entry.completed⟩ database := by
  obtain ⟨result, reached, after, ran, stepped, _⟩ := store_refines holds event
  rw [atomically, StoreOp.run, ran]
  cases stepped with
  | known other again =>
      cases held.symm.trans again
      rfl
  | written row _ fits absent => cases held.symm.trans absent
  | refused fault absent reason => cases held.symm.trans absent

theorem store_new (holds : Represents database.tables ledger) {event : OrderCreatedEvent}
    {row : OrderRow} (fits : orderRow event = .ok row) (absent : ledger event.eventId = none)
    (fresh : ∀ eventId entry, ledger eventId = some entry → entry.record.orderId ≠ row.orderId) :
    ∃ reached, atomically database (.store event) ⟨true, true⟩ reached ∧
      Represents reached.tables (apply (.claim event.eventId row) ledger) := by
  obtain ⟨tables, ran, represented⟩ := store_writes holds fits absent fresh
  refine ⟨{ database with tables := tables }, ?_, represented⟩
  rw [atomically, StoreOp.run, ran]

theorem mark_known (holds : Represents database.tables ledger) {eventId : Uuid}
    {entry : Entry OrderRow} (held : ledger eventId = some entry) :
    ∃ reached, atomically database (.markCompleted eventId) () reached ∧
      Represents reached.tables (apply (.complete eventId) ledger) := by
  obtain ⟨tables, ran, represented⟩ := mark_completes holds held
  refine ⟨⟨tables, eventId :: database.completions⟩, ?_, represented⟩
  rw [atomically, StoreOp.run, ran]

theorem discard_any (holds : Represents database.tables ledger) (eventId : Uuid) :
    ∃ reached, atomically database (.discard eventId) () reached ∧
      Represents reached.tables (apply (.forget eventId) ledger) := by
  obtain ⟨tables, ran, represented⟩ := discard_refines holds eventId
  refine ⟨{ database with tables := tables }, ?_, represented⟩
  rw [atomically, StoreOp.run, ran]

/-- A discard of an event that is not there changes nothing. -/
theorem discard_absent (holds : Represents database.tables ledger) {eventId : Uuid}
    (absent : ledger eventId = none) :
    atomically database (.discard eventId) () database := by
  obtain ⟨tables, ran, represented⟩ := discard_refines holds eventId
  have unchanged : apply (.forget eventId) ledger = ledger := by
    funext wanted
    by_cases same : wanted = eventId
    · subst same
      rw [apply_forget, absent]
    · exact apply_other ledger same
  rw [unchanged] at represented
  have same := tables_eq_of_represents represented holds
  subst same
  rw [atomically, StoreOp.run, ran]

end Answers

section Commits

variable {state : Postgres} {number : Nat}

/-- A commit whose effect at the event is the action's, and that the action leaves alone elsewhere. -/
theorem commit_applies (coherent : Coherent state) {now : Transaction}
    (opened : state.running number = some now) (action : Action Uuid OrderRow)
    (target : action.target = now.eventId)
    (here : ledger (state.commit number) now.eventId = action.revise (ledger state now.eventId)) :
    ledger (state.commit number) = apply action (ledger state) := by
  funext wanted
  by_cases own : wanted = now.eventId
  · have revised := apply_target action (ledger state)
    rw [target] at revised
    rw [own, here, revised]
  · rw [commit_entry_elsewhere coherent opened fun same => own same.symm]
    rw [← target] at own
    exact (apply_other (ledger state) own).symm

theorem commit_inserted (coherent : Coherent state) (recorded : Recorded state)
    {event : OrderCreatedEvent} (opened : state.running number = some (.inserted event)) :
    ∃ row, orderRow event = .ok row ∧ ledger state event.eventId = none ∧
      (∀ eventId entry, ledger state eventId = some entry → entry.record.orderId ≠ row.orderId) ∧
      ledger (state.commit number) = apply (.claim event.eventId row) (ledger state) := by
  obtain ⟨claimed, row, fits, ordered⟩ := recorded.holding number _ opened
  have absent : ledger state event.eventId = none := by
    have present : state.claims event.eventId = some (.fresh number (newClaim event)) := claimed
    unfold ledger cell
    rw [present]
    exact entry_uncommitted rfl _
  refine ⟨row, fits, absent, ?_, ?_⟩
  · intro eventId entry held taken
    obtain ⟨order, present, same, _⟩ := entry_order held
    rw [← same] at taken
    have own := recorded.distinct eventId event.eventId order (.fresh number row) present ordered
      taken
    rw [own, absent] at held
    cases held
  · apply commit_applies coherent opened (.claim event.eventId row) rfl
    have whole : cell state event.eventId =
        ⟨some (.fresh number (newClaim event)), some (.fresh number row)⟩ :=
      congrArg₂ Cell.mk claimed ordered
    have committed : cell (state.commit number) event.eventId =
        (cell state event.eventId).commit number := rfl
    unfold ledger at absent ⊢
    simp only [Transaction.eventId, Action.revise]
    rw [absent, committed, whole]
    simp only [Cell.commit, Option.bind_some, Version.commit_fresh]
    rfl

theorem selected_known (coherent : Coherent state) (recorded : Recorded state)
    {event : OrderCreatedEvent} {status : Status}
    (opened : state.running number = some (.selected event status)) :
    (∃ entry, ledger state event.eventId = some entry ∧
      entry.completed = decide (status = .completed)) ∧
      ledger (state.commit number) = ledger state := by
  obtain ⟨claim, present, holds, same⟩ := recorded.holding number _ opened
  have sound := coherent.sound event.eventId
  obtain ⟨order, whole, settled⟩ := settled_of_held_claim sound.shape present holds
  constructor
  · refine ⟨_, (congrArg entryOf whole).trans (entry_settled settled), ?_⟩
    rw [same]
  · funext wanted
    by_cases own : event.eventId = wanted
    · subst own
      apply commit_entry_kept coherent opened (by simp)
      · intro order held
        exact order_unheld coherent opened id held
      · intro other row again updates
        cases present.symm.trans again
        cases holds.symm.trans updates
    · exact commit_entry_elsewhere coherent opened own

theorem commit_updated (coherent : Coherent state) (recorded : Recorded state) {eventId : Uuid}
    (opened : state.running number = some (.updated eventId)) :
    (∃ entry, ledger state eventId = some entry) ∧
      ledger (state.commit number) = apply (.complete eventId) (ledger state) := by
  obtain ⟨claim, present, holds⟩ := recorded.holding number _ opened
  have sound := coherent.sound eventId
  obtain ⟨order, whole, settled⟩ := settled_of_held_claim sound.shape present holds
  have entry : ledger state eventId =
      some ⟨order.row, decide (claim.row.status = .completed)⟩ :=
    (congrArg entryOf whole).trans (entry_settled settled)
  refine ⟨⟨_, entry⟩, ?_⟩
  apply commit_applies coherent opened (.complete eventId) rfl
  have sameOrder : state.orders eventId = some order := congrArg Cell.order whole
  have unheld := order_unheld coherent opened id sameOrder
  have after := commit_entry_updated coherent opened whole settled unheld holds
  have completed : (complete eventId claim.row).status = .completed := by
    rw [complete, if_pos settled.keyed]
  simp only [Transaction.eventId, Action.revise]
  rw [after, entry, completed]
  rfl

/-- The discard holds an order that it will delete. -/
def Deleting (orders : Orders) (number : Nat) (eventId : Uuid) : Prop :=
  ∃ order, orders eventId = some order ∧ order.holder = some (number, .delete)

theorem commit_discarded (coherent : Coherent state) {eventId : Uuid}
    (opened : state.running number = some (.claimsDeleted eventId)) :
    (Deleting state.orders number eventId →
      ledger (state.commit number) = apply (.forget eventId) (ledger state)) ∧
      (¬ Deleting state.orders number eventId →
        ledger (state.commit number) = ledger state) := by
  have sound := coherent.sound eventId
  constructor
  · intro deleting
    obtain ⟨order, present, deletes⟩ := deleting
    obtain ⟨claim, whole, settled⟩ := settled_of_held_order sound.shape present deletes
    have both := sound.obliged number _ opened rfl
    have deletesClaim : claim.holder = some (number, .delete) :=
      both claim order (congrArg Cell.claim whole) present deletes
    apply commit_applies coherent opened (.forget eventId) rfl
    have same : cell (state.commit number) eventId = (cell state eventId).commit number := rfl
    simp only [Transaction.eventId, Action.revise]
    rw [ledger, same, whole]
    simp only [Cell.commit, Option.bind_some, Version.commit_deleted deletesClaim]
    rfl
  · intro idle
    funext wanted
    by_cases own : eventId = wanted
    · subst own
      apply commit_entry_kept coherent opened (by simp)
      · intro order present deletes
        exact idle ⟨order, present, deletes⟩
      · intro claim row present updates
        obtain ⟨_, _, settled⟩ := settled_of_held_claim sound.shape present updates
        have holder := settled.holdsClaim
        rw [updates] at holder
        cases holder with
        | completed _ _ current keyed => cases opened.symm.trans current
    · exact commit_entry_elsewhere coherent opened own

end Commits

section Following

/-- The call that the transaction carries out. -/
def callOf : Transaction → StoreOp
  | .store event | .claimed event | .inserted event | .known event => .store event
  | .selecting event _ | .selected event _ => .store event
  | .markCompleted eventId | .updating eventId _ | .updated eventId => .markCompleted eventId
  | .discard eventId | .deletingOrders eventId _ | .ordersDeleted eventId => .discard eventId
  | .deletingClaims eventId _ | .claimsDeleted eventId => .discard eventId

/-- A discard that has looked for an order and holds none. -/
def Spent (orders : Orders) (number : Nat) : Transaction → Prop
  | .ordersDeleted eventId | .deletingClaims eventId _ | .claimsDeleted eventId =>
      ¬ Deleting orders number eventId
  | _ => False

/-- What the object knows of an open transaction. -/
inductive Standing (orders : Orders) (number : Nat) (now : Transaction) :
    Phase StoreOp StoreOp.Ret → Prop where
  | waiting (unspent : ¬ Spent orders number now) :
      Standing orders number now (.waiting (callOf now))
  | spent (eventId : Uuid) (discards : callOf now = .discard eventId)
      (spent : Spent orders number now) :
      Standing orders number now (.observed (.discard eventId) ())

structure Follows (state : Postgres) (object : StoreObject) : Prop where
  coherent : Coherent state
  recorded : Recorded state
  represents : Represents object.state.tables (ledger state)
  numbered : object.next = state.next
  closed : ∀ number, state.running number = none → object.phase number = none
  opened : ∀ number now, state.running number = some now →
    ∃ phase, object.phase number = some phase ∧ Standing state.orders number now phase

variable {state : Postgres} {object : StoreObject} {number : Nat} {now later : Transaction}
variable {claims : Claims} {orders ordersAfter : Orders}

theorem standing_moves {phase : Phase StoreOp StoreOp.Ret}
    (standing : Standing orders number now phase) (sameCall : callOf later = callOf now)
    (sameSpent : Spent ordersAfter number later ↔ Spent orders number now) :
    Standing ordersAfter number later phase := by
  cases standing with
  | waiting unspent =>
      rw [← sameCall]
      exact .waiting fun spent => unspent (sameSpent.mp spent)
  | spent eventId discards spent =>
      exact .spent eventId (sameCall.trans discards) (sameSpent.mpr spent)

theorem standing_harmless {phase : Phase StoreOp StoreOp.Ret}
    (standing : Standing orders number now phase) (op : StoreOp) (result : op.Ret) :
    phase ≠ .answered op result := by
  intro same
  subst same
  cases standing

theorem spent_congr {transaction : Nat} {there : Transaction}
    (same : ∀ eventId, Deleting ordersAfter transaction eventId ↔
      Deleting orders transaction eventId) :
    Spent ordersAfter transaction there ↔ Spent orders transaction there := by
  cases there with
  | ordersDeleted eventId | deletingClaims eventId _ | claimsDeleted eventId =>
      exact not_congr (same eventId)
  | _ => exact Iff.rfl

theorem deleting_statement {claimsAfter : Claims}
    (performed : Statement number claims orders now claimsAfter ordersAfter later)
    {transaction : Nat} (other : transaction ≠ number) (eventId : Uuid) :
    Deleting ordersAfter transaction eventId ↔ Deleting orders transaction eventId := by
  cases performed with
  | insertOrder event row fits freshSource freshOrder =>
      by_cases own : eventId = event.eventId
      · subst own
        constructor
        · intro after
          obtain ⟨order, present, deletes⟩ := after
          rw [insertRow, Function.update_self] at present
          cases present
          cases deletes
        · intro before
          obtain ⟨order, present, _⟩ := before
          cases freshSource.symm.trans present
      · simp only [Deleting, insertRow, Function.update_of_ne own]
  | orderDeleted target seen held meets free =>
      by_cases own : eventId = target
      · subst own
        constructor
        · intro after
          obtain ⟨order, present, deletes⟩ := after
          cases (hold_row_here meets.1 .delete).symm.trans present
          cases deletes
          exact absurd rfl other
        · intro before
          obtain ⟨order, present, deletes⟩ := before
          cases meets.1.symm.trans present
          exact absurd ⟨transaction, .delete, deletes, other⟩ free
      · simp only [Deleting, holdRow, Function.update_of_ne own]
  | _ => exact Iff.rfl

theorem deleting_commit {transaction : Nat} (other : transaction ≠ number) (eventId : Uuid) :
    Deleting (ReadCommitted.commit number orders) transaction eventId ↔
      Deleting orders transaction eventId := by
  constructor
  · intro after
    obtain ⟨order, present, deletes⟩ := after
    obtain ⟨before, held, committed⟩ := Option.bind_eq_some_iff.mp present
    rw [Version.commit_holder committed] at deletes
    exact ⟨before, held, (Version.release_eq_some.mp deletes).1⟩
  · intro before
    obtain ⟨order, present, deletes⟩ := before
    obtain ⟨after, committed, still⟩ := Version.commit_held deletes other
    exact ⟨after, Option.bind_eq_some_iff.mpr ⟨order, present, committed⟩, still⟩

theorem deleting_abort (coherent : Coherent state) (opened : state.running number = some now)
    {transaction : Nat} (other : transaction ≠ number) (eventId : Uuid) :
    Deleting (ReadCommitted.abort number state.orders) transaction eventId ↔
      Deleting state.orders transaction eventId := by
  constructor
  · intro after
    obtain ⟨order, present, deletes⟩ := after
    obtain ⟨before, held, aborted⟩ := Option.bind_eq_some_iff.mp present
    rw [(Version.abort_kept aborted).2] at deletes
    exact ⟨before, held, (Version.release_eq_some.mp deletes).1⟩
  · intro before
    obtain ⟨order, present, deletes⟩ := before
    obtain ⟨_, _, settled⟩ :=
      settled_of_held_order (coherent.sound eventId).shape present deletes
    have aborted := Version.abort_release (ended_differs settled.ended opened)
    refine ⟨_, Option.bind_eq_some_iff.mpr ⟨order, present, aborted⟩, ?_⟩
    rw [deletes, Version.release_other other]

/-- A discard that misses what it saw has found the event gone. -/
theorem missed_absent (coherent : Coherent state) {eventId : Uuid} {seen : Option Nat}
    (opened : state.running number = some (.deletingOrders eventId seen))
    (misses : Misses state.orders eventId seen) : ledger state eventId = none := by
  have sound := coherent.sound eventId
  have obliged := sound.obliged number _ opened rfl
  cases held : ledger state eventId with
  | none => rfl
  | some entry =>
      obtain ⟨order, present, _, committed⟩ := entry_order held
      exact absurd (obliged.2 order present committed) (misses order present)

/-- What one statement means to the object: nothing, or a discard that finds the event gone. -/
theorem statement_standing (coherent : Coherent state) {claimsAfter : Claims}
    (opened : state.running number = some now)
    (performed : Statement number state.claims state.orders now claimsAfter ordersAfter later)
    {phase : Phase StoreOp StoreOp.Ret} (standing : Standing state.orders number now phase) :
    Standing ordersAfter number later phase ∨
      ∃ eventId, phase = .waiting (.discard eventId) ∧ ledger state eventId = none ∧
        Standing ordersAfter number later (.observed (.discard eventId) ()) := by
  cases performed with
  | orderDeleted eventId seen held meets free =>
      have deleting : Deleting (holdRow number .delete eventId state.orders) number eventId :=
        ⟨_, hold_row_here meets.1 .delete, rfl⟩
      have sameSpent : Spent (holdRow number .delete eventId state.orders) number
          (.ordersDeleted eventId) ↔
          Spent state.orders number (.deletingOrders eventId seen) := by
        constructor
        · intro spent
          exact spent deleting
        · intro contrary
          cases contrary
      exact .inl (standing_moves standing rfl sameSpent)
  | noOrder eventId seen misses =>
      right
      have unheld : ¬ Deleting state.orders number eventId := by
        intro deleting
        obtain ⟨order, present, deletes⟩ := deleting
        exact order_unheld coherent opened id present deletes
      cases standing with
      | waiting unspent =>
          exact ⟨eventId, rfl, missed_absent coherent opened misses, .spent eventId rfl unheld⟩
      | spent other discards spent => cases spent
  | _ => exact .inl (standing_moves standing rfl Iff.rfl)

/-- What one step of the store means to the object. -/
def Followed (object : StoreObject) (event : Option StoreEvent) (reached : Postgres) : Prop :=
  ∃ later, Emits (AtomicObject.Step atomically) object event.toList later ∧ Follows reached later

theorem start_followed (follows : Follows state object) (op : StoreOp) :
    Followed object (some (.invoked state.next op)) (state.start op) := by
  refine ⟨object.invoke op, ?_, ?_⟩
  · rw [← follows.numbered]
    exact emits_single (.invokes op)
  · have unused : state.running state.next = none := by
      cases held : state.running state.next with
      | none => rfl
      | some now => exact absurd (follows.coherent.numbered _ now held) (Nat.lt_irrefl _)
    constructor
    case coherent => exact start_coherent follows.coherent op
    case recorded => exact start_recorded follows.recorded op
    case represents => exact follows.represents
    case numbered => exact congrArg Nat.succ follows.numbered
    case closed =>
      intro number stopped
      by_cases new : number = state.next
      · rw [new] at stopped
        cases (Function.update_self state.next _ state.running).symm.trans stopped
      · have before := (Function.update_of_ne new _ state.running).symm.trans stopped
        rw [← follows.numbered] at new
        exact (Function.update_of_ne new _ _).trans (follows.closed number before)
    case opened =>
      intro number now running
      by_cases new : number = state.next
      · subst new
        cases (Function.update_self state.next _ state.running).symm.trans running
        refine ⟨.waiting op, ?_, ?_⟩
        · rw [← follows.numbered]
          exact Function.update_self ..
        · have same : callOf (Transaction.opening op) = op := by cases op <;> rfl
          have waiting : Standing (state.start op).orders state.next (Transaction.opening op)
              (.waiting (callOf (Transaction.opening op))) := by
            apply Standing.waiting
            cases op <;> exact id
          rw [same] at waiting
          exact waiting
      · have before := (Function.update_of_ne new _ state.running).symm.trans running
        obtain ⟨phase, held, standing⟩ := follows.opened number now before
        rw [← follows.numbered] at new
        exact ⟨phase, (Function.update_of_ne new _ _).trans held, standing⟩

/-- A step of one transaction, as the object follows it. -/
theorem follows_update (follows : Follows state object) {reached : Postgres} {after : StoreObject}
    (coherent : Coherent reached) (recorded : Recorded reached)
    (represents : Represents after.state.tables (ledger reached))
    (numbered : after.next = reached.next) {result : Option Transaction}
    (runs : reached.running = Function.update state.running number result)
    (elsewhere : ∀ other, other ≠ number → after.phase other = object.phase other)
    (ended : result = none → after.phase number = none)
    (stands : ∀ later, result = some later →
      ∃ phase, after.phase number = some phase ∧ Standing reached.orders number later phase)
    (others : ∀ transaction, transaction ≠ number → ∀ eventId,
      Deleting reached.orders transaction eventId ↔ Deleting state.orders transaction eventId) :
    Follows reached after := by
  refine ⟨coherent, recorded, represents, numbered, ?_, ?_⟩
  · intro transaction stopped
    rw [runs] at stopped
    by_cases own : transaction = number
    · subst own
      rw [Function.update_self] at stopped
      exact ended stopped
    · rw [Function.update_of_ne own] at stopped
      rw [elsewhere transaction own]
      exact follows.closed transaction stopped
  · intro transaction there running
    rw [runs] at running
    by_cases own : transaction = number
    · subst own
      rw [Function.update_self] at running
      exact stands there running
    · rw [Function.update_of_ne own] at running
      obtain ⟨phase, held, standing⟩ := follows.opened transaction there running
      refine ⟨phase, (elsewhere transaction own).trans held, ?_⟩
      exact standing_moves standing rfl (spent_congr (others transaction own))

theorem advance_followed (follows : Follows state object) {claimsAfter : Claims}
    (opened : state.running number = some now)
    (performed : Statement number state.claims state.orders now claimsAfter ordersAfter later) :
    Followed object none
      { state with
        claims := claimsAfter
        orders := ordersAfter
        running := Function.update state.running number (some later) } := by
  have coherent := advance_coherent follows.coherent opened performed
  have recorded := advance_recorded follows.coherent follows.recorded opened performed
  have unseen := funext (statement_entry follows.recorded opened performed)
  have represents := follows.represents
  rw [← unseen] at represents
  have others : ∀ transaction, transaction ≠ number → ∀ eventId,
      Deleting ordersAfter transaction eventId ↔ Deleting state.orders transaction eventId :=
    fun transaction other => deleting_statement performed other
  obtain ⟨phase, held, standing⟩ := follows.opened number now opened
  rcases statement_standing follows.coherent opened performed standing with
    still | ⟨eventId, waits, absent, spent⟩
  · refine ⟨object, .refl, ?_⟩
    refine follows_update follows coherent recorded represents follows.numbered rfl ?_ ?_ ?_ ?_
    · intro other _
      rfl
    · intro contrary
      cases contrary
    · intro moved same
      cases same
      exact ⟨phase, held, still⟩
    · exact others
  · subst waits
    have answer := discard_absent follows.represents absent
    refine ⟨_, emits_single (.observes number (.discard eventId) () held answer), ?_⟩
    refine follows_update follows coherent recorded represents follows.numbered rfl ?_ ?_ ?_ ?_
    · intro other different
      exact Function.update_of_ne different _ _
    · intro contrary
      cases contrary
    · intro moved same
      cases same
      exact ⟨_, Function.update_self .., spent⟩
    · exact others

theorem abort_followed (follows : Follows state object) (opened : state.running number = some now) :
    Followed object (some (.failed number)) (state.abort number) := by
  obtain ⟨phase, held, standing⟩ := follows.opened number now opened
  have unseen : ledger (state.abort number) = ledger state :=
    funext (abort_entry follows.coherent opened)
  refine ⟨_, emits_single (.fails number phase held (standing_harmless standing)), ?_⟩
  have represents := follows.represents
  rw [← unseen] at represents
  refine follows_update follows (abort_coherent follows.coherent opened)
    (abort_recorded follows.coherent follows.recorded opened) represents follows.numbered rfl
    ?_ ?_ ?_ ?_
  · intro other different
    exact Function.update_of_ne different _ _
  · intro _
    exact Function.update_self ..
  · intro moved contrary
    cases contrary
  · exact fun transaction other => deleting_abort follows.coherent opened other

theorem observed_returns {op : StoreOp} {result : op.Ret}
    (observed : object.phase number = some (.observed op result)) :
    AtomicObject.Step atomically object (some (.returned ⟨number, op, result⟩))
      (object.set number none) :=
  .returns number op result (.inl observed)

/-- A waiting call that takes effect at its commit and returns. -/
theorem effect_emitted {op : StoreOp} {result : op.Ret} {after : Database}
    (waits : object.phase number = some (.waiting op))
    (answer : atomically object.state op result after) :
    ∃ reached, Emits (AtomicObject.Step atomically) object [.returned ⟨number, op, result⟩] reached ∧
      reached.state = after ∧ reached.next = object.next ∧ reached.phase number = none ∧
      ∀ other, other ≠ number → reached.phase other = object.phase other := by
  have answering : AtomicObject.Step atomically object none _ :=
    .answers number op result after waits answer
  have returned := Emits.visible (.silent .refl answering)
    (.returns number op result (.inr (Function.update_self ..)))
  refine ⟨_, returned, rfl, rfl, Function.update_self .., ?_⟩
  intro other different
  exact (Function.update_of_ne different _ _).trans (Function.update_of_ne different _ _)

theorem commit_followed (follows : Follows state object) {op : StoreOp} {result : op.Ret}
    (opened : state.running number = some now) (finished : now.Returns op result)
    (spares : SparesDiscards state (.commit number)) :
    Followed object (some (.returned ⟨number, op, result⟩)) (state.commit number) := by
  have coherent := commit_coherent follows.coherent opened finished spares
  have recorded := commit_recorded follows.coherent follows.recorded opened
  obtain ⟨phase, held, standing⟩ := follows.opened number now opened
  have ends : ∀ after : StoreObject, after.next = object.next → after.phase number = none →
      (∀ other, other ≠ number → after.phase other = object.phase other) →
      Represents after.state.tables (ledger (state.commit number)) →
      Follows (state.commit number) after := by
    intro after next closed elsewhere represents
    refine follows_update follows coherent recorded represents (next.trans follows.numbered) rfl
      elsewhere (fun _ => closed) ?_ fun transaction other => deleting_commit other
    intro later contrary
    cases contrary
  have effective : phase = .waiting op → (∃ after, atomically object.state op result after ∧
      Represents after.tables (ledger (state.commit number))) →
      Followed object (some (.returned ⟨number, op, result⟩)) (state.commit number) := by
    intro waits answered
    obtain ⟨after, answer, represents⟩ := answered
    subst waits
    obtain ⟨reached, emitted, sameState, next, closed, elsewhere⟩ := effect_emitted held answer
    refine ⟨reached, emitted, ends reached next closed elsewhere ?_⟩
    rw [sameState]
    exact represents
  cases finished with
  | inserted event =>
      obtain ⟨row, fits, absent, fresh, applied⟩ :=
        commit_inserted follows.coherent follows.recorded opened
      rw [applied] at effective
      cases standing with
      | waiting => exact effective rfl (store_new follows.represents fits absent fresh)
      | spent eventId discards spent => cases spent
  | selected event status =>
      obtain ⟨⟨entry, known, completed⟩, unchanged⟩ :=
        selected_known follows.coherent follows.recorded opened
      have answer := store_known follows.represents known
      rw [completed, ← decide_not] at answer
      rw [unchanged] at effective
      cases standing with
      | waiting => exact effective rfl ⟨_, answer, follows.represents⟩
      | spent eventId discards spent => cases spent
  | updated eventId =>
      obtain ⟨⟨entry, known⟩, applied⟩ :=
        commit_updated follows.coherent follows.recorded opened
      rw [applied] at effective
      cases standing with
      | waiting => exact effective rfl (mark_known follows.represents known)
      | spent eventId discards spent => cases spent
  | claimsDeleted eventId =>
      obtain ⟨deletes, idles⟩ := commit_discarded follows.coherent opened
      cases standing with
      | waiting unspent =>
          rw [deletes (not_not.mp unspent)] at effective
          exact effective rfl (discard_any follows.represents eventId)
      | spent other discards spent =>
          cases discards
          refine ⟨_, emits_single (observed_returns held), ?_⟩
          refine ends _ rfl (Function.update_self ..) ?_ ?_
          · intro other different
            exact Function.update_of_ne different _ _
          · rw [idles spent]
            exact follows.represents

theorem empty_follows : Follows emptyPostgres (Object.initial ⟨emptyTables, []⟩) := by
  constructor
  case coherent => exact empty_coherent
  case recorded => exact empty_recorded
  case represents => exact represents_empty
  case numbered => rfl
  case closed =>
    intro number _
    rfl
  case opened =>
    intro number now contrary
    cases contrary

/-- What every step preserves: the object follows. -/
theorem step_followed (follows : Follows state object) {event : Option StoreEvent}
    {reached : Postgres} (stepped : SparedStep state event reached) :
    Followed object event reached := by
  obtain ⟨label, seen, spares⟩ := stepped
  cases seen with
  | starts op => exact start_followed follows op
  | advances number now later claims orders opened performed =>
      exact advance_followed follows opened performed
  | raises number now fault opened raised => exact abort_followed follows opened
  | commits number now op result opened finished =>
      exact commit_followed follows opened finished spares
  | aborts number now opened => exact abort_followed follows opened

end Following

section Overlapping

variable {claims claimsAfter : Claims} {orders ordersAfter : Orders}
variable {first second : Option Transaction} {now later : Transaction}

/-- Two transactions, and no other yet. -/
def pair (claims : Claims) (orders : Orders) (first second : Option Transaction) : Postgres :=
  ⟨claims, orders, Function.update (Function.update (fun _ => none) 0 first) 1 second, 2⟩

theorem pair_first : (pair claims orders first second).running 0 = first := by
  simp only [pair, Function.update_of_ne Nat.zero_ne_one, Function.update_self]

theorem pair_second : (pair claims orders first second).running 1 = second := by
  simp only [pair, Function.update_self]

theorem pair_set_first (result : Option Transaction) :
    Function.update (pair claims orders first second).running 0 result =
      (pair claims orders result second).running := by
  simp only [pair]
  rw [Function.update_comm Nat.one_ne_zero, Function.update_idem]

theorem pair_set_second (result : Option Transaction) :
    Function.update (pair claims orders first second).running 1 result =
      (pair claims orders first result).running := by
  simp only [pair, Function.update_idem]

theorem advance_first
    (performed : Statement 0 claims orders now claimsAfter ordersAfter later) :
    SparedStep (pair claims orders (some now) second) none
      (pair claimsAfter ordersAfter (some later) second) := by
  refine ⟨.advance 0, ?_, ?_⟩
  · have moved := Observed.advances 0 now later claimsAfter ordersAfter
      (pair_first : (pair claims orders (some now) second).running 0 = some now) performed
    rw [pair_set_first] at moved
    exact moved
  · intro number event contrary
    cases contrary

theorem advance_second
    (performed : Statement 1 claims orders now claimsAfter ordersAfter later) :
    SparedStep (pair claims orders first (some now)) none
      (pair claimsAfter ordersAfter first (some later)) := by
  refine ⟨.advance 1, ?_, ?_⟩
  · have moved := Observed.advances 1 now later claimsAfter ordersAfter
      (pair_second : (pair claims orders first (some now)).running 1 = some now) performed
    rw [pair_set_second] at moved
    exact moved
  · intro number event contrary
    cases contrary

/-- The transaction, if it is open, stores an event. -/
def Stores (transaction : Option Transaction) : Prop :=
  ∀ now, transaction = some now → ∃ event, callOf now = .store event

theorem stores_none : Stores none := by
  intro now contrary
  cases contrary

theorem stores_some {event : OrderCreatedEvent} (calls : callOf now = .store event) :
    Stores (some now) := by
  intro other same
  cases same
  exact ⟨event, calls⟩

theorem pair_spares (firstStores : Stores first) (secondStores : Stores second) (number : Nat) :
    SparesDiscards (pair claims orders first second) (.commit number) := by
  intro _ inserted _ _ running transaction current between
  have stores : ∃ stored, callOf transaction = .store stored := by
    by_cases one : running = 1
    · rw [one, pair_second] at current
      exact secondStores transaction current
    · by_cases zero : running = 0
      · rw [zero, pair_first] at current
        exact firstStores transaction current
      · simp only [pair, Function.update_of_ne one, Function.update_of_ne zero] at current
        cases current
  obtain ⟨stored, calls⟩ := stores
  cases transaction with
  | deletingOrders | ordersDeleted => cases calls
  | _ => cases between

theorem starts_spared (state : Postgres) (op : StoreOp) :
    SparedStep state (some (.invoked state.next op)) (state.start op) := by
  refine ⟨.start op, .starts op, ?_⟩
  intro number event contrary
  cases contrary

theorem commit_first {op : StoreOp} {result : op.Ret} (finished : now.Returns op result)
    (spares : SparesDiscards (pair claims orders (some now) second) (.commit 0)) :
    SparedStep (pair claims orders (some now) second) (some (.returned ⟨0, op, result⟩))
      (pair (ReadCommitted.commit 0 claims) (ReadCommitted.commit 0 orders) none second) := by
  have seen := Observed.commits 0 now op result
    (pair_first : (pair claims orders (some now) second).running 0 = some now) finished
  rw [Postgres.commit, pair_set_first] at seen
  exact ⟨.commit 0, seen, spares⟩

theorem commit_second {op : StoreOp} {result : op.Ret} (finished : now.Returns op result)
    (spares : SparesDiscards (pair claims orders first (some now)) (.commit 1)) :
    SparedStep (pair claims orders first (some now)) (some (.returned ⟨1, op, result⟩))
      (pair (ReadCommitted.commit 1 claims) (ReadCommitted.commit 1 orders) first none) := by
  have seen := Observed.commits 1 now op result
    (pair_second : (pair claims orders first (some now)).running 1 = some now) finished
  rw [Postgres.commit, pair_set_second] at seen
  exact ⟨.commit 1, seen, spares⟩

/-- Two stores of one event, the second begun before the first has inserted its claim. -/
theorem overlapping_stores_emitted {event : OrderCreatedEvent} {row : OrderRow}
    (fits : orderRow event = .ok row) :
    ∃ state, Emits SparedStep emptyPostgres
      [.invoked 0 (.store event), .invoked 1 (.store event),
        .returned ⟨0, .store event, ⟨true, true⟩⟩, .returned ⟨1, .store event, ⟨false, true⟩⟩]
      state := by
  let key := event.eventId
  let claimed : Claims := insertRow 0 key (newClaim event) emptyPostgres.claims
  let ordered : Orders := insertRow 0 key row emptyPostgres.orders
  let claims := ReadCommitted.commit 0 claimed
  let orders := ReadCommitted.commit 0 ordered
  let version : Version ProcessedEventRow := ⟨newClaim event, 0, true, none⟩
  have resting : ∀ {Row : Type}, Resting 0 (fun _ => none : Rows Uuid Row) := by
    intro Row other row contrary
    cases contrary
  have present : claims key = some version := by
    have committed : claims = _ := commit_insert resting key (newClaim event)
    rw [committed, Function.update_self]
  have meets : Meets claims key (visible 1 claims key) version := by
    refine ⟨present, ?_⟩
    rw [visible, present]
    rfl
  have begun : Emits SparedStep emptyPostgres
      [.invoked 0 (.store event), .invoked 1 (.store event)]
      (pair emptyPostgres.claims emptyPostgres.orders (some (.store event))
        (some (.store event))) :=
    .visible (.visible .refl (starts_spared _ _)) (starts_spared _ _)
  have inserted := Emits.silent (.silent begun (advance_first (.insertClaim event rfl)))
    (advance_first (.insertOrder event row fits rfl (by
      intro other held contrary
      cases contrary)))
  have stored := Emits.visible inserted (commit_first (.inserted event)
    (pair_spares (stores_some rfl) (stores_some rfl) 0))
  have known := Emits.silent (.silent (.silent stored
    (advance_second (.doNothing event version present (by
      intro contrary
      rcases contrary with ⟨unseen, _⟩ | ⟨other, change, held, _⟩
      · cases unseen
      · cases held)))) (advance_second (.select event)))
    (advance_second (.selectForUpdate event _ version meets (Version.not_held_of_free rfl)))
  have answered := Emits.visible known (commit_second (.selected event .pending)
    (pair_spares stores_none (stores_some rfl) 1))
  exact ⟨_, answered⟩

end Overlapping

section Runs

variable {state : Postgres} {history : List StoreEvent}

/-- What everyone can see of the two tables. -/
def Shown (state : Postgres) (tables : Tables) : Prop :=
  ∀ eventId, committedRow state.claims eventId = claimOf tables eventId ∧
    committedRow state.orders eventId = orderOfEvent tables eventId

theorem follows_shown {object : StoreObject} (follows : Follows state object) :
    Shown state object.state.tables := by
  intro eventId
  rw [follows.represents.claims, follows.represents.orders]
  have typed := follows.recorded.typed eventId
  have shape := (follows.coherent.sound eventId).shape
  unfold ledger committedRow
  generalize whole : cell state eventId = here at shape
  cases shape with
  | absent =>
      injection whole with noClaim noOrder
      rw [noClaim, noOrder]
      exact ⟨rfl, rfl⟩
  | claiming | storing =>
      injection whole with sameClaim sameOrder
      rw [sameClaim, sameOrder]
      exact ⟨rfl, rfl⟩
  | settled claim order settled =>
      injection whole with sameClaim sameOrder
      rw [sameClaim, sameOrder, entry_settled settled]
      simp only [Option.bind_some, settled.claimCommitted, settled.orderCommitted, if_true,
        Option.map_some, Option.some_inj, and_true]
      have event := typed claim sameClaim
      have keyed := settled.keyed
      rcases claim with ⟨⟨eventId, eventType, status⟩, _, _, _⟩
      cases event
      cases keyed
      cases status <;> rfl

/-- An object follows every run, and leaves no call between its effect and its return. -/
theorem spared_follows (emitted : Emits SparedStep emptyPostgres history state) :
    ∃ object, Emits (AtomicObject.Step atomically) (Object.initial ⟨emptyTables, []⟩) history
        object ∧ Follows state object ∧
      ∀ number op result, object.phase number ≠ some (.answered op result) := by
  obtain ⟨object, followed, follows⟩ := emits_simulated empty_follows
    (fun _ _ _ _ held stepped => step_followed held stepped) emitted
  refine ⟨object, followed, follows, ?_⟩
  intro number op result contrary
  cases running : state.running number with
  | none => cases (follows.closed number running).symm.trans contrary
  | some now =>
      obtain ⟨phase, held, standing⟩ := follows.opened number now running
      cases held.symm.trans contrary
      exact standing_harmless standing op result rfl

/-- Every run is strictly serializable. The calls that returned have one serial
order, which agrees with real time, in which the store as one transaction per call
gives each the result it gave and leaves the rows that everyone can see; a call
that failed has no part in it. -/
theorem committed_calls_serialize
    (emitted : Emits SparedStep emptyPostgres history state) :
    ∃ order database, Serializes atomically ⟨emptyTables, []⟩ history order database ∧
      Shown state database.tables := by
  obtain ⟨object, followed, follows, settled⟩ := spared_follows emitted
  obtain ⟨order, serializes⟩ := emits_serializes followed settled
  exact ⟨order, object.state, serializes, follows_shown follows⟩

theorem overlapping_stores_serialize :
    ∃ state order database,
      Emits SparedStep emptyPostgres
        [.invoked 0 (.store documentedEvent), .invoked 1 (.store documentedEvent),
          .returned ⟨0, .store documentedEvent, ⟨true, true⟩⟩,
          .returned ⟨1, .store documentedEvent, ⟨false, true⟩⟩] state ∧
      Serializes atomically ⟨emptyTables, []⟩
        [.invoked 0 (.store documentedEvent), .invoked 1 (.store documentedEvent),
          .returned ⟨0, .store documentedEvent, ⟨true, true⟩⟩,
          .returned ⟨1, .store documentedEvent, ⟨false, true⟩⟩] order database ∧
      Shown state database.tables := by
  obtain ⟨row, fits⟩ := documented_row
  revert fits
  generalize documentedEvent = event
  intro fits
  obtain ⟨state, emitted⟩ := overlapping_stores_emitted fits
  obtain ⟨order, database, serializes, shown⟩ := committed_calls_serialize emitted
  exact ⟨state, order, database, emitted, serializes, shown⟩

end Runs

end OrderMessaging.Processing.ConcurrentAtomicity
