import OrderMessaging.Processing.ConcurrentPairing

/-!
The rows behind the open transactions. A transaction's answer rests on a row that
it inserted or holds, and while it is open no step of another transaction touches
that row. What everyone can see of an event changes at commits only.
-/

namespace OrderMessaging.Processing.ConcurrentRecords

open OrderMessaging.ClaimLedger OrderMessaging.ReadCommitted OrderMessaging.Contracts.Models
open OrderMessaging.Processing.PostgresOrderStore OrderMessaging.Processing.OrderLedger
open OrderMessaging.Processing.StoreOperations OrderMessaging.Processing.ConcurrentStore
open OrderMessaging.Processing.ConcurrentInvariant OrderMessaging.Processing.ConcurrentSteps
open OrderMessaging.Processing.ConcurrentPairing

set_option autoImplicit false

def newClaim (event : OrderCreatedEvent) : ProcessedEventRow :=
  ⟨event.eventId, event.eventType, .pending⟩

/-- The rows an open transaction has in hand. -/
def Holding (cell : Cell) (number : Nat) : Transaction → Prop
  | .claimed event => cell.claim = some (.fresh number (newClaim event))
  | .inserted event => cell.claim = some (.fresh number (newClaim event)) ∧
      ∃ row, orderRow event = .ok row ∧ cell.order = some (.fresh number row)
  | .selected _ status => ∃ claim, cell.claim = some claim ∧
      claim.holder = some (number, .lock) ∧ claim.row.status = status
  | .updated eventId => ∃ claim, cell.claim = some claim ∧
      claim.holder = some (number, .update (complete eventId claim.row))
  | _ => True

structure Recorded (state : Postgres) : Prop where
  holding : ∀ number now, state.running number = some now →
    Holding (cell state now.eventId) number now
  typed : ∀ eventId claim, state.claims eventId = some claim →
    claim.row.eventType = "order.created"
  distinct : ∀ one other first second, state.orders one = some first →
    state.orders other = some second → first.row.orderId = second.row.orderId → one = other

section Spared

variable {running : Nat → Option Transaction} {next : Nat} {eventId : Uuid} {cell : Cell}
variable {number transaction : Nat} {now later : Transaction}
variable {claims claimsAfter : Claims} {orders ordersAfter : Orders}

theorem settled_of_held_claim (shape : Shape running next eventId cell)
    {claim : Version ProcessedEventRow} (held : cell.claim = some claim)
    {holding : Nat × Change ProcessedEventRow} (holder : claim.holder = some holding) :
    ∃ order, cell = ⟨some claim, some order⟩ ∧ Settled running next eventId claim order := by
  cases shape with
  | absent => cases held
  | claiming | storing =>
      cases held
      cases holder
  | settled claim order settled =>
      cases held
      exact ⟨order, rfl, settled⟩

theorem claim_busy (sound : Sound running next eventId cell) {claim : Version ProcessedEventRow}
    (held : cell.claim = some claim) {change : Change ProcessedEventRow}
    (holds : claim.holder = some (number, change)) (opened : running transaction = some now)
    (other : number ≠ transaction) : claim.Foreign transaction := by
  obtain ⟨order, _, settled⟩ := settled_of_held_claim sound.shape held holds
  have ended := ended_differs settled.ended opened
  rw [← settled.sameOwner] at ended
  refine ⟨ended, ?_⟩
  intro own contrary
  rw [holds] at contrary
  cases contrary
  exact other rfl

/-- A statement of another transaction leaves a held or uncommitted claim alone. -/
theorem statement_spares_claim
    (obliged : Obligation running next ⟨claims now.eventId, orders now.eventId⟩ number now)
    (performed : Statement number claims orders now claimsAfter ordersAfter later)
    {claim : Version ProcessedEventRow} (present : claims now.eventId = some claim)
    (busy : claim.HeldByOther number ∨ ¬ Ended running next claim.owner) :
    claimsAfter now.eventId = claims now.eventId := by
  have met : ∀ seen held, SeenEnded running next seen → Meets claims now.eventId seen held →
      ¬ held.HeldByOther number → False := by
    intro seen held ended meets free
    have same : held = claim := by
      have both := meets.1.symm.trans present
      cases both
      rfl
    subst same
    rcases busy with other | unended
    · exact free other
    · exact unended (ended held.owner meets.2)
  cases performed with
  | insertClaim event absent => cases absent.symm.trans present
  | selectForUpdate event seen held meets free => exact (met seen held obliged meets free).elim
  | setCompleted _ seen held meets free => exact (met seen held obliged meets free).elim
  | claimDeleted _ seen held meets free => exact (met seen held obliged.1 meets free).elim
  | _ => rfl

theorem statement_spares_order
    (obliged : Obligation running next ⟨claims now.eventId, orders now.eventId⟩ number now)
    (performed : Statement number claims orders now claimsAfter ordersAfter later)
    {order : Version OrderRow} (present : orders now.eventId = some order)
    (busy : order.HeldByOther number ∨ ¬ Ended running next order.owner) :
    ordersAfter now.eventId = orders now.eventId := by
  cases performed with
  | insertOrder event row fits freshSource freshOrder => cases freshSource.symm.trans present
  | orderDeleted _ seen held meets free =>
      have same : held = order := by
        have both := meets.1.symm.trans present
        cases both
        rfl
      subst same
      rcases busy with other | unended
      · exact absurd other free
      · exact absurd (obliged.1 held.owner meets.2) unended
  | _ => rfl

/-- A transaction keeps what it has in hand as long as those rows stay. -/
theorem holding_kept {before after : Cell} {there : Transaction}
    (holding : Holding before transaction there)
    (claimKept : ∀ claim, before.claim = some claim →
      claim.owner = transaction ∨ (∃ change, claim.holder = some (transaction, change)) →
      after.claim = some claim)
    (orderKept : ∀ order, before.order = some order → order.owner = transaction →
      after.order = some order) : Holding after transaction there := by
  cases there with
  | claimed event => exact claimKept _ holding (.inl rfl)
  | inserted event =>
      obtain ⟨claimed, row, fits, ordered⟩ := holding
      exact ⟨claimKept _ claimed (.inl rfl), row, fits, orderKept _ ordered rfl⟩
  | selected event status =>
      obtain ⟨claim, present, holds, same⟩ := holding
      exact ⟨claim, claimKept claim present (.inr ⟨_, holds⟩), holds, same⟩
  | updated eventId =>
      obtain ⟨claim, present, holds⟩ := holding
      exact ⟨claim, claimKept claim present (.inr ⟨_, holds⟩), holds⟩
  | _ => trivial

end Spared

section Steps

variable {state : Postgres} {number : Nat} {now later : Transaction}
variable {claims : Claims} {orders : Orders}

theorem running_unended {transaction : Nat} {there : Transaction}
    (opened : state.running transaction = some there) :
    ¬ Ended state.running state.next transaction := by
  intro ended
  have stopped := ended.2
  rw [opened] at stopped
  cases stopped

/-- The transactions that a step of another one passes by. -/
theorem statement_holding (coherent : Coherent state) (recorded : Recorded state)
    (opened : state.running number = some now)
    (performed : Statement number state.claims state.orders now claims orders later)
    {transaction : Nat} {there : Transaction} (running : state.running transaction = some there)
    (other : transaction ≠ number) :
    Holding ⟨claims there.eventId, orders there.eventId⟩ transaction there := by
  obtain ⟨_, elsewhere⟩ := statement_elsewhere performed
  have before := recorded.holding transaction there running
  by_cases own : there.eventId = now.eventId
  · have obliged := (coherent.sound now.eventId).obliged number now opened rfl
    rw [own] at before ⊢
    apply holding_kept before
    · intro claim present inHand
      refine Eq.trans (statement_spares_claim obliged performed present ?_) present
      rcases inHand with owned | ⟨change, holds⟩
      · rw [owned]
        exact .inr (running_unended running)
      · exact .inl ⟨transaction, change, holds, other⟩
    · intro order present owned
      refine Eq.trans (statement_spares_order obliged performed present ?_) present
      rw [owned]
      exact .inr (running_unended running)
  · obtain ⟨sameClaim, sameOrder⟩ := elsewhere there.eventId own
    rw [sameClaim, sameOrder]
    exact before

theorem statement_own_holding (recorded : Recorded state)
    (opened : state.running number = some now)
    (performed : Statement number state.claims state.orders now claims orders later) :
    Holding ⟨claims later.eventId, orders later.eventId⟩ number later := by
  have before := recorded.holding number now opened
  cases performed with
  | insertClaim event absent => exact Function.update_self ..
  | insertOrder event row fits freshSource freshOrder =>
      exact ⟨before, row, fits, Function.update_self ..⟩
  | selectForUpdate event seen held meets free =>
      exact ⟨_, hold_row_here meets.1 .lock, rfl, rfl⟩
  | setCompleted eventId seen held meets free =>
      exact ⟨_, hold_row_here meets.1 _, rfl⟩
  | _ => trivial

theorem statement_typed (recorded : Recorded state)
    (performed : Statement number state.claims state.orders now claims orders later)
    (eventId : Uuid) (claim : Version ProcessedEventRow) (present : claims eventId = some claim) :
    claim.row.eventType = "order.created" := by
  have held : ∀ change target, holdRow number change target state.claims eventId = some claim →
      claim.row.eventType = "order.created" := by
    intro change target after
    obtain ⟨version, before, same⟩ := hold_row_some after
    rw [same]
    exact recorded.typed eventId version before
  cases performed with
  | insertClaim event absent =>
      by_cases own : eventId = event.eventId
      · rw [insertRow, own, Function.update_self] at present
        cases present
        rfl
      · rw [insertRow, Function.update_of_ne own] at present
        exact recorded.typed eventId claim present
  | selectForUpdate event | setCompleted other | claimDeleted other => exact held _ _ present
  | _ => exact recorded.typed eventId claim present

theorem statement_distinct (recorded : Recorded state)
    (performed : Statement number state.claims state.orders now claims orders later)
    (one other : Uuid) (first second : Version OrderRow) (heldFirst : orders one = some first)
    (heldSecond : orders other = some second) (same : first.row.orderId = second.row.orderId) :
    one = other := by
  cases performed with
  | insertOrder event row fits freshSource freshOrder =>
      by_cases firstOwn : one = event.eventId
      · by_cases secondOwn : other = event.eventId
        · exact firstOwn.trans secondOwn.symm
        · rw [insertRow, firstOwn, Function.update_self] at heldFirst
          rw [insertRow, Function.update_of_ne secondOwn] at heldSecond
          cases heldFirst
          exact absurd same.symm (freshOrder other second heldSecond)
      · rw [insertRow, Function.update_of_ne firstOwn] at heldFirst
        by_cases secondOwn : other = event.eventId
        · rw [insertRow, secondOwn, Function.update_self] at heldSecond
          cases heldSecond
          exact absurd same (freshOrder one first heldFirst)
        · rw [insertRow, Function.update_of_ne secondOwn] at heldSecond
          exact recorded.distinct one other first second heldFirst heldSecond same
  | orderDeleted eventId seen held meets free =>
      obtain ⟨before, presentFirst, sameFirst⟩ := hold_row_some heldFirst
      obtain ⟨after, presentSecond, sameSecond⟩ := hold_row_some heldSecond
      rw [sameFirst, sameSecond] at same
      exact recorded.distinct one other before after presentFirst presentSecond same
  | _ => exact recorded.distinct one other first second heldFirst heldSecond same

theorem start_recorded (recorded : Recorded state) (op : StoreOp) : Recorded (state.start op) := by
  refine ⟨?_, recorded.typed, recorded.distinct⟩
  intro number now opened
  by_cases new : number = state.next
  · have same : some (Transaction.opening op) = some now := by
      rw [← opened, new, Postgres.start]
      simp only [Function.update_self]
    cases same
    cases op <;> trivial
  · have before : state.running number = some now :=
      (Function.update_of_ne new _ _).symm.trans opened
    exact recorded.holding number now before

theorem advance_recorded (coherent : Coherent state) (recorded : Recorded state)
    (opened : state.running number = some now)
    (performed : Statement number state.claims state.orders now claims orders later) :
    Recorded { state with
      claims := claims
      orders := orders
      running := Function.update state.running number (some later) } := by
  refine ⟨?_, statement_typed recorded performed, statement_distinct recorded performed⟩
  intro transaction there running
  by_cases own : transaction = number
  · subst own
    cases (Function.update_self transaction (some later) state.running).symm.trans running
    exact statement_own_holding recorded opened performed
  · have before : state.running transaction = some there :=
      (Function.update_of_ne own _ _).symm.trans running
    exact statement_holding coherent recorded opened performed before own

/-- An ending transaction passes by what another one has in hand. -/
theorem in_hand_foreign (coherent : Coherent state) (opened : state.running number = some now)
    {transaction : Nat} (other : transaction ≠ number) (eventId : Uuid) :
    (∀ claim, state.claims eventId = some claim →
        claim.owner = transaction ∨ (∃ change, claim.holder = some (transaction, change)) →
        state.running transaction ≠ none → claim.Foreign number) ∧
      ∀ order, state.orders eventId = some order → order.owner = transaction →
        state.running transaction ≠ none → order.Foreign number := by
  have shape := (coherent.sound eventId).shape
  constructor
  · intro claim present inHand running
    rcases inHand with owned | ⟨change, holds⟩
    · generalize whole : cell state eventId = here at shape
      cases shape with
      | absent =>
          injection whole with noClaim
          rw [noClaim] at present
          cases present
      | claiming fresh event row _ _ _ =>
          injection whole with sameClaim
          cases sameClaim.symm.trans present
          cases owned
          exact fresh_foreign other row
      | storing fresh event row _ _ _ _ _ =>
          injection whole with sameClaim
          cases sameClaim.symm.trans present
          cases owned
          exact fresh_foreign other row
      | settled _ order settled =>
          injection whole with sameClaim
          cases sameClaim.symm.trans present
          have ended := settled.ended.2
          rw [← settled.sameOwner, owned] at ended
          exact absurd ended running
    · exact claim_busy (coherent.sound eventId) present holds opened other
  · intro order present owned running
    generalize whole : cell state eventId = here at shape
    cases shape with
    | absent | claiming =>
        injection whole with _ noOrder
        rw [noOrder] at present
        cases present
    | storing fresh event row orderRow _ _ _ _ =>
        injection whole with _ sameOrder
        cases sameOrder.symm.trans present
        cases owned
        exact fresh_foreign other orderRow
    | settled claim _ settled =>
        injection whole with _ sameOrder
        cases sameOrder.symm.trans present
        have ended := settled.ended.2
        rw [owned] at ended
        exact absurd ended running

theorem still_running {running : Nat → Option Transaction} {transaction : Nat}
    {there : Transaction} (opened : Function.update running number none transaction = some there) :
    transaction ≠ number ∧ running transaction = some there := by
  have other : transaction ≠ number := by
    intro same
    rw [same, Function.update_self] at opened
    cases opened
  rw [Function.update_of_ne other] at opened
  exact ⟨other, opened⟩

theorem ended_holding (coherent : Coherent state) (recorded : Recorded state)
    (opened : state.running number = some now) {transaction : Nat} {there : Transaction}
    (running : state.running transaction = some there) (other : transaction ≠ number) :
    Holding ((cell state there.eventId).commit number) transaction there ∧
      Holding ((cell state there.eventId).abort number) transaction there := by
  have before := recorded.holding transaction there running
  have open' : state.running transaction ≠ none := by
    rw [running]
    exact Option.some_ne_none there
  obtain ⟨claims, orders⟩ := in_hand_foreign coherent opened other there.eventId
  constructor
  · apply holding_kept before
    · intro claim present inHand
      have foreign := claims claim present inHand open'
      simp only [Cell.commit, present, Option.bind_some, Version.commit_foreign foreign]
    · intro order present owned
      have foreign := orders order present owned open'
      simp only [Cell.commit, present, Option.bind_some, Version.commit_foreign foreign]
  · apply holding_kept before
    · intro claim present inHand
      have foreign := claims claim present inHand open'
      simp only [Cell.abort, present, Option.bind_some, Version.abort_foreign foreign]
    · intro order present owned
      have foreign := orders order present owned open'
      simp only [Cell.abort, present, Option.bind_some, Version.abort_foreign foreign]

theorem complete_event_type (eventId : Uuid) (row : ProcessedEventRow) :
    (complete eventId row).eventType = row.eventType := by
  rw [complete]
  split <;> rfl

/-- The only transaction that replaces a claim marks it completed. -/
theorem replaced_claim (coherent : Coherent state) (recorded : Recorded state) {eventId : Uuid}
    {claim : Version ProcessedEventRow} (present : state.claims eventId = some claim)
    {row : ProcessedEventRow} (holds : claim.holder = some (number, .update row)) :
    state.running number = some (.updated eventId) ∧ row = complete eventId claim.row := by
  obtain ⟨order, _, settled⟩ :=
    settled_of_held_claim (coherent.sound eventId).shape present holds
  have holder := settled.holdsClaim
  rw [holds] at holder
  have opened : state.running number = some (.updated eventId) := by
    cases holder with
    | completed _ _ opened keyed => exact opened
  refine ⟨opened, ?_⟩
  obtain ⟨held, here, marked⟩ := recorded.holding number _ opened
  have same : held = claim := by
    have both := here.symm.trans present
    cases both
    rfl
  subst same
  rw [marked] at holds
  cases holds
  rfl

theorem unreplaced_order (coherent : Coherent state) {eventId : Uuid} {order : Version OrderRow}
    (present : state.orders eventId = some order) {row : OrderRow} :
    order.holder ≠ some (number, .update row) := by
  intro holds
  obtain ⟨claim, _, settled⟩ :=
    settled_of_held_order (coherent.sound eventId).shape present holds
  have holder := settled.holdsOrder
  rw [holds] at holder
  cases (order_holder_deletes holder).1

/-- Only a discard past its first delete holds an order. -/
theorem order_unheld (coherent : Coherent state) (opened : state.running number = some now)
    {eventId : Uuid} (idle : ¬ Deletes eventId now) {order : Version OrderRow}
    (present : state.orders eventId = some order) :
    order.holder ≠ some (number, .delete) := by
  intro deletes
  obtain ⟨claim, _, settled⟩ :=
    settled_of_held_order (coherent.sound eventId).shape present deletes
  have holder := settled.holdsOrder
  rw [deletes] at holder
  obtain ⟨_, other, running, deleting⟩ := order_holder_deletes holder
  cases opened.symm.trans running
  exact idle deleting

theorem commit_recorded (coherent : Coherent state) (recorded : Recorded state)
    (opened : state.running number = some now) : Recorded (state.commit number) := by
  have orderKept : ∀ key after, (state.commit number).orders key = some after →
      ∃ order, state.orders key = some order ∧ after.row = order.row := by
    intro key after held
    obtain ⟨order, present, committed⟩ := Option.bind_eq_some_iff.mp held
    rcases Version.commit_row committed with same | replaced
    · exact ⟨order, present, same⟩
    · exact absurd replaced (unreplaced_order coherent present)
  constructor
  case holding =>
    intro transaction there running
    obtain ⟨other, before⟩ := still_running running
    exact (ended_holding coherent recorded opened before other).1
  case typed =>
    intro eventId after held
    obtain ⟨claim, present, committed⟩ := Option.bind_eq_some_iff.mp held
    have typed := recorded.typed eventId claim present
    rcases Version.commit_row committed with same | replaced
    · rw [same, typed]
    · rw [(replaced_claim coherent recorded present replaced).2, complete_event_type, typed]
  case distinct =>
    intro one other first second heldFirst heldSecond same
    obtain ⟨before, presentFirst, sameFirst⟩ := orderKept one first heldFirst
    obtain ⟨after, presentSecond, sameSecond⟩ := orderKept other second heldSecond
    rw [sameFirst, sameSecond] at same
    exact recorded.distinct one other before after presentFirst presentSecond same

theorem abort_recorded (coherent : Coherent state) (recorded : Recorded state)
    (opened : state.running number = some now) : Recorded (state.abort number) := by
  constructor
  case holding =>
    intro transaction there running
    obtain ⟨other, before⟩ := still_running running
    exact (ended_holding coherent recorded opened before other).2
  case typed =>
    intro eventId after held
    obtain ⟨claim, present, aborted⟩ := Option.bind_eq_some_iff.mp held
    rw [(Version.abort_kept aborted).1]
    exact recorded.typed eventId claim present
  case distinct =>
    intro one other first second heldFirst heldSecond same
    obtain ⟨before, presentFirst, abortedFirst⟩ := Option.bind_eq_some_iff.mp heldFirst
    obtain ⟨after, presentSecond, abortedSecond⟩ := Option.bind_eq_some_iff.mp heldSecond
    rw [(Version.abort_kept abortedFirst).1, (Version.abort_kept abortedSecond).1] at same
    exact recorded.distinct one other before after presentFirst presentSecond same

theorem empty_recorded : Recorded emptyPostgres := by
  constructor
  case holding =>
    intro number now contrary
    cases contrary
  case typed =>
    intro eventId claim contrary
    cases contrary
  case distinct =>
    intro one other first second contrary
    cases contrary

end Steps

section Entries

/-- What everyone can see of an event, as the ledger has it. -/
def entryOf : Cell → Option (Entry OrderRow)
  | ⟨some claim, some order⟩ =>
      if claim.committed = true ∧ order.committed = true then
        some ⟨order.row, decide (claim.row.status = .completed)⟩
      else none
  | _ => none

def ledger (state : Postgres) : EventLedger := fun eventId => entryOf (cell state eventId)

variable {running : Nat → Option Transaction} {next : Nat} {eventId : Uuid}
variable {claim : Version ProcessedEventRow} {order : Version OrderRow}

theorem entry_uncommitted (unseen : claim.committed = false)
    (order : Option (Version OrderRow)) : entryOf ⟨some claim, order⟩ = none := by
  cases order with
  | none => rfl
  | some order => simp [entryOf, unseen]

theorem entry_order {cell : Cell} {entry : Entry OrderRow} (held : entryOf cell = some entry) :
    ∃ order, cell.order = some order ∧ order.row = entry.record ∧ order.committed = true := by
  rcases cell with ⟨_ | claim, _ | order⟩
  · cases held
  · cases held
  · cases held
  · rw [entryOf] at held
    split at held
    · next seen =>
        cases held
        exact ⟨order, rfl, rfl, seen.2⟩
    · cases held

theorem entry_no_order (claim : Option (Version ProcessedEventRow)) :
    entryOf ⟨claim, none⟩ = none := by
  cases claim <;> rfl

theorem entry_settled (settled : Settled running next eventId claim order) :
    entryOf ⟨some claim, some order⟩ =
      some ⟨order.row, decide (claim.row.status = .completed)⟩ := by
  simp only [entryOf, settled.claimCommitted, settled.orderCommitted, and_self, if_true]

theorem entry_hold_claim (claim : Option (Version ProcessedEventRow)) (transaction : Nat)
    (change : Change ProcessedEventRow) (order : Option (Version OrderRow)) :
    entryOf ⟨claim.map (Version.hold transaction change), order⟩ =
      entryOf ⟨claim, order⟩ := by
  cases claim <;> cases order <;> rfl

theorem entry_hold_order (claim : Option (Version ProcessedEventRow)) (transaction : Nat)
    (change : Change OrderRow) (order : Option (Version OrderRow)) :
    entryOf ⟨claim, order.map (Version.hold transaction change)⟩ =
      entryOf ⟨claim, order⟩ := by
  cases claim <;> cases order <;> rfl

variable {state : Postgres} {number : Nat} {now later : Transaction}
variable {claims : Claims} {orders : Orders}

/-- No statement changes what the others see. -/
theorem statement_entry (recorded : Recorded state) (opened : state.running number = some now)
    (performed : Statement number state.claims state.orders now claims orders later)
    (eventId : Uuid) : entryOf ⟨claims eventId, orders eventId⟩ = ledger state eventId := by
  obtain ⟨_, elsewhere⟩ := statement_elsewhere performed
  by_cases own : eventId = now.eventId
  · subst own
    have holding := recorded.holding number now opened
    unfold ledger cell
    cases performed with
    | insertClaim event absent =>
        simp only [Transaction.eventId, insertRow, Function.update_self]
        rw [absent, entry_uncommitted rfl]
        rfl
    | insertOrder event row fits freshSource freshOrder =>
        have claimed : state.claims event.eventId = some (.fresh number (newClaim event)) := holding
        simp only [Transaction.eventId, claimed]
        rw [entry_uncommitted rfl, entry_uncommitted rfl]
    | selectForUpdate | setCompleted | claimDeleted =>
        simp only [Transaction.eventId, holdRow, Function.update_self]
        exact entry_hold_claim _ _ _ _
    | orderDeleted =>
        simp only [Transaction.eventId, holdRow, Function.update_self]
        exact entry_hold_order _ _ _ _
    | _ => rfl
  · obtain ⟨sameClaim, sameOrder⟩ := elsewhere eventId own
    rw [sameClaim, sameOrder]
    rfl

/-- A rollback is invisible to the others. -/
theorem abort_entry (coherent : Coherent state) (opened : state.running number = some now)
    (eventId : Uuid) : ledger (state.abort number) eventId = ledger state eventId := by
  have shape := (coherent.sound eventId).shape
  have same : ledger (state.abort number) eventId = entryOf ((cell state eventId).abort number) := rfl
  rw [same, ledger]
  generalize cell state eventId = here at shape
  cases shape with
  | absent => rfl
  | claiming fresh event row current own keyed =>
      simp only [Cell.abort, Option.bind_none]
      rw [entry_no_order, entry_no_order]
  | storing fresh event row orderRow current own keyed source =>
      rw [entry_uncommitted rfl]
      by_cases mine : fresh = number
      · subst mine
        simp only [Cell.abort, Option.bind_some, Version.abort_fresh]
        rfl
      · simp only [Cell.abort, Option.bind_some, Version.abort_foreign (fresh_foreign mine row)]
        exact entry_uncommitted rfl _
  | settled claim order settled =>
      have orderOwner := ended_differs settled.ended opened
      have claimOwner : claim.owner ≠ number := by
        rw [settled.sameOwner]
        exact orderOwner
      simp only [Cell.abort, Option.bind_some, Version.abort_release orderOwner,
        Version.abort_release claimOwner]
      rfl

theorem commit_entry_elsewhere (coherent : Coherent state)
    (opened : state.running number = some now) {eventId : Uuid} (other : now.eventId ≠ eventId) :
    ledger (state.commit number) eventId = ledger state eventId := by
  have unchanged := commit_foreign_cell
    (cell_foreign (coherent.sound eventId).shape opened other)
  exact congrArg entryOf unchanged

/-- The order of a settled event, when the ending transaction does not delete it. -/
theorem commit_order_kept (coherent : Coherent state) (opened : state.running number = some now)
    {eventId : Uuid} (whole : cell state eventId = ⟨some claim, some order⟩)
    (settled : Settled state.running state.next eventId claim order)
    (kept : order.holder ≠ some (number, .delete)) :
    ∃ after, order.commit number = some after ∧ after.row = order.row ∧
      after.committed = true := by
  injection whole with _ sameOrder
  obtain ⟨row, committed, unchanged⟩ :=
    Version.commit_release (ended_differs settled.ended opened) kept
  refine ⟨_, committed, ?_, settled.orderCommitted⟩
  rcases unchanged with same | updated
  · exact same
  · exact absurd updated (unreplaced_order coherent sameOrder)

/-- The commit of a transaction that replaces the claim. -/
theorem commit_entry_updated (coherent : Coherent state) (opened : state.running number = some now)
    {eventId : Uuid} (whole : cell state eventId = ⟨some claim, some order⟩)
    (settled : Settled state.running state.next eventId claim order)
    (kept : order.holder ≠ some (number, .delete)) {row : ProcessedEventRow}
    (holds : claim.holder = some (number, .update row)) :
    ledger (state.commit number) eventId =
      some ⟨order.row, decide (row.status = .completed)⟩ := by
  obtain ⟨after, committed, sameRow, seen⟩ :=
    commit_order_kept coherent opened whole settled kept
  have same : cell (state.commit number) eventId = (cell state eventId).commit number := rfl
  rw [ledger, same, whole]
  simp only [Cell.commit, Option.bind_some, Version.commit_updated holds, committed, entryOf,
    settled.claimCommitted, Bool.true_or, seen, sameRow, and_self, if_true]

/-- A commit that inserts no order, deletes none and replaces no claim. -/
theorem commit_entry_kept (coherent : Coherent state) (opened : state.running number = some now)
    {eventId : Uuid} (quiet : ∀ event, now ≠ .inserted event)
    (kept : ∀ order, state.orders eventId = some order → order.holder ≠ some (number, .delete))
    (unreplaced : ∀ claim row, state.claims eventId = some claim →
      claim.holder ≠ some (number, .update row)) :
    ledger (state.commit number) eventId = ledger state eventId := by
  have shape := (coherent.sound eventId).shape
  have same : ledger (state.commit number) eventId = entryOf ((cell state eventId).commit number) :=
    rfl
  rw [same, ledger]
  generalize whole : cell state eventId = here at shape
  cases shape with
  | absent => rfl
  | claiming fresh event row current own keyed =>
      simp only [Cell.commit, Option.bind_none]
      rw [entry_no_order, entry_no_order]
  | storing fresh event row orderRow current own keyed source =>
      have mine : fresh ≠ number := by
        intro mine
        rw [mine, opened] at current
        cases current
        exact quiet event rfl
      simp only [Cell.commit, Option.bind_some, Version.commit_foreign (fresh_foreign mine row),
        Version.commit_foreign (fresh_foreign mine orderRow)]
  | settled claim order settled =>
      injection whole with sameClaim sameOrder
      have orderKept := kept order sameOrder
      have claimOwner : claim.owner ≠ number := by
        rw [settled.sameOwner]
        exact ended_differs settled.ended opened
      have claimKept : claim.holder ≠ some (number, .delete) := by
        intro deletes
        exact orderKept (settled.deleted number deletes)
      obtain ⟨row, committed, replaced⟩ := Version.commit_release claimOwner claimKept
      obtain ⟨after, committedOrder, sameRow, seen⟩ :=
        commit_order_kept coherent opened (congrArg₂ Cell.mk sameClaim sameOrder) settled orderKept
      have unchanged : row = claim.row :=
        replaced.resolve_right (unreplaced claim row sameClaim)
      simp only [Cell.commit, Option.bind_some, committed, committedOrder, entryOf, sameRow, seen,
        unchanged, settled.claimCommitted, settled.orderCommitted, and_self, if_true]

end Entries

end OrderMessaging.Processing.ConcurrentRecords
