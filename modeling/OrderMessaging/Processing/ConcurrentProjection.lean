import OrderMessaging.Processing.ConcurrentAtomicity

/-!
The transactions of one event by themselves. Whatever the transactions of other
events do, those of one event can run without them: the others stand where they
began until they end. So what holds of every run that spares the discards holds,
for one event, of every run that discards no row of it.
-/

namespace OrderMessaging.Processing.ConcurrentProjection

open OrderMessaging.AtomicObject OrderMessaging.ReadCommitted
open OrderMessaging.Contracts.Models OrderMessaging.Processing.PostgresOrderStore
open OrderMessaging.Processing.StoreOperations OrderMessaging.Processing.ConcurrentStore
open OrderMessaging.Processing.ConcurrentInvariant OrderMessaging.Processing.ConcurrentSteps
open OrderMessaging.Processing.ConcurrentPairing OrderMessaging.Processing.ConcurrentAtomicity

set_option autoImplicit false

/-- Any step, as the callers see it. -/
def ObservedStep (state : Postgres) (event : Option StoreEvent) (reached : Postgres) : Prop :=
  ∃ label, Observed state label event reached

section Rows

variable {Row : Type} {eventId : Uuid} {rows : Rows Uuid Row} {number : Nat}

/-- The row of one event. -/
def onlyRow (eventId : Uuid) (rows : Rows Uuid Row) : Rows Uuid Row :=
  fun key => if key = eventId then rows key else none

@[simp] theorem only_row_self : onlyRow eventId rows eventId = rows eventId := if_pos rfl

theorem only_row_none : onlyRow eventId (fun _ => none : Rows Uuid Row) = fun _ => none := by
  funext key
  exact ite_self none

theorem only_row_update (version : Option (Version Row)) :
    onlyRow eventId (Function.update rows eventId version) =
      Function.update (onlyRow eventId rows) eventId version := by
  funext key
  by_cases same : key = eventId
  · subst same
    simp only [only_row_self, Function.update_self]
  · simp only [onlyRow, if_neg same, Function.update_of_ne same]

theorem only_row_insert (row : Row) :
    onlyRow eventId (insertRow number eventId row rows) =
      insertRow number eventId row (onlyRow eventId rows) := only_row_update _

theorem only_row_hold (change : Change Row) :
    onlyRow eventId (holdRow number change eventId rows) =
      holdRow number change eventId (onlyRow eventId rows) := by
  rw [holdRow, only_row_update, holdRow, only_row_self]

theorem only_row_visible :
    visible number (onlyRow eventId rows) eventId = visible number rows eventId := by
  rw [visible, visible, only_row_self]

theorem only_row_meets {seen : Option Nat} {held : Version Row} :
    Meets (onlyRow eventId rows) eventId seen held ↔ Meets rows eventId seen held := by
  rw [Meets, Meets, only_row_self]

theorem only_row_misses {seen : Option Nat} :
    Misses (onlyRow eventId rows) eventId seen ↔ Misses rows eventId seen := by
  rw [Misses, Misses, only_row_self]

theorem only_row_some {key : Uuid} {version : Version Row}
    (present : onlyRow eventId rows key = some version) : rows key = some version := by
  unfold onlyRow at present
  split at present
  · exact present
  · cases present

theorem only_row_elsewhere {after : Rows Uuid Row} (same : after eventId = rows eventId) :
    onlyRow eventId after = onlyRow eventId rows := by
  funext key
  by_cases own : key = eventId
  · subst own
    simp only [only_row_self, same]
  · simp only [onlyRow, if_neg own]

theorem only_row_committed :
    committedRow (onlyRow eventId rows) eventId = committedRow rows eventId := by
  rw [committedRow, committedRow, only_row_self]

theorem only_row_abort :
    onlyRow eventId (ReadCommitted.abort number rows) =
      ReadCommitted.abort number (onlyRow eventId rows) := by
  funext key
  by_cases same : key = eventId
  · simp only [onlyRow, ReadCommitted.abort, if_pos same]
  · simp only [onlyRow, ReadCommitted.abort, if_neg same, Option.bind_none]

theorem only_row_commit :
    onlyRow eventId (ReadCommitted.commit number rows) =
      ReadCommitted.commit number (onlyRow eventId rows) := by
  funext key
  by_cases same : key = eventId
  · simp only [onlyRow, ReadCommitted.commit, if_pos same]
  · simp only [onlyRow, ReadCommitted.commit, if_neg same, Option.bind_none]

/-- The end of a transaction that has nothing to do with the row. -/
theorem only_row_foreign
    (foreign : ∀ version, rows eventId = some version → version.Foreign number) :
    ReadCommitted.commit number (onlyRow eventId rows) =
      ReadCommitted.abort number (onlyRow eventId rows) := by
  funext key
  simp only [ReadCommitted.commit, ReadCommitted.abort, onlyRow]
  split
  next same =>
    subst same
    cases held : rows key with
    | none => rfl
    | some version =>
        have other := foreign version held
        simp only [Option.bind_some, Version.commit_foreign other, Version.abort_foreign other]
  next => rfl

end Rows

section Transactions

variable {eventId : Uuid} {number : Nat} {now later : Transaction} {claims claimsAfter : Claims}
variable {orders ordersAfter : Orders}

/-- A transaction of another event stands where it began. -/
def parked (eventId : Uuid) (now : Transaction) : Transaction :=
  if now.eventId = eventId then now else .opening (callOf now)

theorem opening_call (op : StoreOp) : callOf (.opening op) = op := by
  cases op <;> rfl

theorem opening_event_id (now : Transaction) :
    (Transaction.opening (callOf now)).eventId = now.eventId := by
  cases now <;> rfl

theorem parked_own (own : now.eventId = eventId) : parked eventId now = now := if_pos own

theorem parked_other (other : now.eventId ≠ eventId) :
    parked eventId now = .opening (callOf now) := if_neg other

theorem parked_opening (op : StoreOp) : parked eventId (.opening op) = .opening op := by
  unfold parked
  split
  · rfl
  · rw [opening_call]

theorem parked_event_id : (parked eventId now).eventId = now.eventId := by
  unfold parked
  split
  · rfl
  · exact opening_event_id now

theorem statement_call
    (performed : Statement number claims orders now claimsAfter ordersAfter later) :
    callOf later = callOf now := by
  cases performed <;> rfl

theorem statement_parked (other : now.eventId ≠ eventId)
    (performed : Statement number claims orders now claimsAfter ordersAfter later) :
    parked eventId later = parked eventId now := by
  have elsewhere : later.eventId ≠ eventId := by
    rw [(statement_elsewhere performed).1]
    exact other
  rw [parked_other other, parked_other elsewhere, statement_call performed]

/-- A statement looks at the rows of its own event; an insertion also asks that no
other row has the order's id, which fewer rows satisfy as well. -/
theorem statement_own (own : now.eventId = eventId)
    (performed : Statement number claims orders now claimsAfter ordersAfter later) :
    Statement number (onlyRow eventId claims) (onlyRow eventId orders) now
      (onlyRow eventId claimsAfter) (onlyRow eventId ordersAfter) later := by
  cases performed with
  | insertClaim event absent =>
      obtain rfl : event.eventId = eventId := own
      rw [only_row_insert]
      exact .insertClaim event (only_row_self.trans absent)
  | doNothing event held present settled =>
      obtain rfl : event.eventId = eventId := own
      exact .doNothing event held (only_row_self.trans present) settled
  | insertOrder event row fits freshSource freshOrder =>
      obtain rfl : event.eventId = eventId := own
      rw [only_row_insert]
      exact .insertOrder event row fits (only_row_self.trans freshSource)
        fun key other present => freshOrder key other (only_row_some present)
  | select event =>
      obtain rfl : event.eventId = eventId := own
      rw [← only_row_visible]
      exact .select event
  | selectForUpdate event seen held meets free =>
      obtain rfl : event.eventId = eventId := own
      rw [only_row_hold]
      exact .selectForUpdate event seen held (only_row_meets.mpr meets) free
  | update other =>
      obtain rfl : other = eventId := own
      rw [← only_row_visible]
      exact .update other
  | setCompleted other seen held meets free =>
      obtain rfl : other = eventId := own
      rw [only_row_hold]
      exact .setCompleted other seen held (only_row_meets.mpr meets) free
  | deleteOrders other =>
      obtain rfl : other = eventId := own
      rw [← only_row_visible]
      exact .deleteOrders other
  | orderDeleted other seen held meets free =>
      obtain rfl : other = eventId := own
      rw [only_row_hold]
      exact .orderDeleted other seen held (only_row_meets.mpr meets) free
  | noOrder other seen misses =>
      obtain rfl : other = eventId := own
      exact .noOrder other seen (only_row_misses.mpr misses)
  | deleteClaims other =>
      obtain rfl : other = eventId := own
      rw [← only_row_visible]
      exact .deleteClaims other
  | claimDeleted other seen held meets free =>
      obtain rfl : other = eventId := own
      rw [only_row_hold]
      exact .claimDeleted other seen held (only_row_meets.mpr meets) free
  | noClaim other seen misses =>
      obtain rfl : other = eventId := own
      exact .noClaim other seen (only_row_misses.mpr misses)

end Transactions

section Runs

variable {eventId : Uuid} {state reached : Postgres}

/-- The store as the transactions of one event see it. -/
def onlyEvent (eventId : Uuid) (state : Postgres) : Postgres :=
  ⟨onlyRow eventId state.claims, onlyRow eventId state.orders,
    fun number => (state.running number).map (parked eventId), state.next⟩

/-- The returns of other events' calls show as failures. -/
def ownView (eventId : Uuid) : StoreEvent → StoreEvent
  | .returned call =>
      if (Transaction.opening call.op).eventId = eventId then .returned call
      else .failed call.number
  | event => event

/-- No transaction of the event discards it. -/
def Undiscarded (eventId : Uuid) (state : Postgres) : Prop :=
  ∀ number now, state.running number = some now → callOf now ≠ .discard eventId

theorem only_event_opened {number : Nat} {now : Transaction}
    (opened : state.running number = some now) :
    (onlyEvent eventId state).running number = some (parked eventId now) := by
  simp only [onlyEvent, opened, Option.map_some]

theorem parked_update (running : Nat → Option Transaction) (number : Nat)
    (now : Option Transaction) :
    (fun other => (Function.update running number now other).map (parked eventId)) =
      Function.update (fun other => (running other).map (parked eventId)) number
        (now.map (parked eventId)) := by
  funext other
  by_cases same : other = number
  · subst same
    simp only [Function.update_self]
  · simp only [Function.update_of_ne same]

theorem only_event_start (op : StoreOp) :
    onlyEvent eventId (state.start op) = (onlyEvent eventId state).start op := by
  simp only [onlyEvent, Postgres.start, parked_update, Option.map_some, parked_opening]

theorem only_event_abort (number : Nat) :
    onlyEvent eventId (state.abort number) = (onlyEvent eventId state).abort number := by
  simp only [onlyEvent, Postgres.abort, parked_update, Option.map_none, only_row_abort]

theorem only_event_commit (number : Nat) :
    onlyEvent eventId (state.commit number) = (onlyEvent eventId state).commit number := by
  simp only [onlyEvent, Postgres.commit, parked_update, Option.map_none, only_row_commit]

/-- The commit of another event's transaction looks like its rollback. -/
theorem only_event_commit_other (coherent : Coherent (onlyEvent eventId state)) {number : Nat}
    {now : Transaction} (opened : state.running number = some now)
    (other : now.eventId ≠ eventId) :
    onlyEvent eventId (state.commit number) = (onlyEvent eventId state).abort number := by
  have elsewhere : (parked eventId now).eventId ≠ eventId := by
    rw [parked_event_id]
    exact other
  obtain ⟨claims, orders⟩ := cell_foreign (coherent.sound eventId).shape
    (only_event_opened opened) elsewhere
  simp only [cell, onlyEvent, only_row_self] at claims orders
  rw [only_event_commit]
  simp only [onlyEvent, Postgres.commit, Postgres.abort, only_row_foreign claims,
    only_row_foreign orders]

theorem undiscarded_spares (undiscarded : Undiscarded eventId state)
    (label : ConcurrentStore.Label) : SparesDiscards (onlyEvent eventId state) label := by
  intro number event _ inserted other transaction current between
  obtain ⟨now, _, same⟩ := Option.map_eq_some_iff.mp inserted
  obtain ⟨there, running, rfl⟩ := Option.map_eq_some_iff.mp current
  by_cases own : now.eventId = eventId
  · rw [parked_own own] at same
    subst same
    by_cases thereOwn : there.eventId = eventId
    · rw [parked_own thereOwn] at between
      cases there with
      | deletingOrders deleting _ | ordersDeleted deleting =>
          exact undiscarded other _ running (congrArg StoreOp.discard thereOwn)
      | _ => cases between
    · rw [parked_other thereOwn] at between
      generalize callOf there = op at between
      cases op <;> cases between
  · rw [parked_other own] at same
    generalize callOf now = op at same
    cases op <;> cases same

theorem only_event_advance_other {number : Nat} {now later : Transaction} {claims : Claims}
    {orders : Orders} (opened : state.running number = some now) (other : now.eventId ≠ eventId)
    (performed : Statement number state.claims state.orders now claims orders later) :
    onlyEvent eventId { state with
      claims := claims
      orders := orders
      running := Function.update state.running number (some later) } = onlyEvent eventId state := by
  obtain ⟨sameClaim, sameOrder⟩ := (statement_elsewhere performed).2 eventId fun own => other own.symm
  have stands : Function.update (fun other => (state.running other).map (parked eventId)) number
      (some (parked eventId now)) = fun other => (state.running other).map (parked eventId) := by
    rw [Function.update_eq_self_iff, opened]
    rfl
  simp only [onlyEvent, only_row_elsewhere sameClaim, only_row_elsewhere sameOrder, parked_update,
    Option.map_some, statement_parked other performed, stands]

theorem only_event_advance_own {number : Nat} {now later : Transaction} {claims : Claims}
    {orders : Orders} (opened : state.running number = some now) (own : now.eventId = eventId)
    (performed : Statement number state.claims state.orders now claims orders later) :
    Observed (onlyEvent eventId state) (.advance number) none (onlyEvent eventId { state with
      claims := claims
      orders := orders
      running := Function.update state.running number (some later) }) := by
  have begun : (onlyEvent eventId state).running number = some now := by
    rw [only_event_opened opened, parked_own own]
  have moved := Observed.advances number now later _ _ begun (statement_own own performed)
  have still : parked eventId later = later :=
    parked_own ((statement_elsewhere performed).1.trans own)
  simp only [onlyEvent, parked_update, Option.map_some, still] at moved ⊢
  exact moved

theorem returns_call {now : Transaction} {op : StoreOp} {result : op.Ret}
    (finished : now.Returns op result) : (Transaction.opening op).eventId = now.eventId := by
  cases finished <;> rfl

/-- What the transactions of the event do in a step. -/
theorem step_projected (coherent : Coherent (onlyEvent eventId state))
    (undiscarded : Undiscarded eventId state) {event : Option StoreEvent}
    (stepped : ObservedStep state event reached) :
    Emits SparedStep (onlyEvent eventId state) (event.map (ownView eventId)).toList
      (onlyEvent eventId reached) := by
  obtain ⟨label, observed⟩ := stepped
  have spares := undiscarded_spares undiscarded
  cases observed with
  | starts op =>
      rw [only_event_start]
      exact emits_single ⟨.start op, .starts op, spares _⟩
  | advances number now later claims orders opened performed =>
      by_cases own : now.eventId = eventId
      · exact .silent .refl ⟨.advance number, only_event_advance_own opened own performed, spares _⟩
      · rw [only_event_advance_other opened own performed]
        exact .refl
  | raises number now fault opened raised =>
      rw [only_event_abort]
      exact emits_single ⟨.abort number, .aborts number _ (only_event_opened opened), spares _⟩
  | commits number now op result opened finished =>
      simp only [Option.map_some, ownView, returns_call finished]
      have begun : (onlyEvent eventId state).running number = some (parked eventId now) :=
        only_event_opened opened
      by_cases own : now.eventId = eventId
      · rw [if_pos own, only_event_commit]
        rw [parked_own own] at begun
        exact emits_single ⟨.commit number, .commits number now op result begun finished, spares _⟩
      · rw [if_neg own, only_event_commit_other coherent opened own]
        exact emits_single ⟨.abort number, .aborts number _ begun, spares _⟩
  | aborts number now opened =>
      rw [only_event_abort]
      exact emits_single ⟨.abort number, .aborts number _ (only_event_opened opened), spares _⟩

theorem undiscarded_update (undiscarded : Undiscarded eventId state) (number : Nat)
    {result : Option Transaction}
    (still : ∀ there, result = some there → callOf there ≠ .discard eventId) :
    ∀ other now, Function.update state.running number result other = some now →
      callOf now ≠ .discard eventId := by
  intro other now running
  by_cases same : other = number
  · subst same
    rw [Function.update_self] at running
    exact still now running
  · rw [Function.update_of_ne same] at running
    exact undiscarded other now running

theorem step_undiscarded (undiscarded : Undiscarded eventId state) {event : Option StoreEvent}
    (stepped : ObservedStep state event reached)
    (kept : ∀ number, event ≠ some (.invoked number (.discard eventId))) :
    Undiscarded eventId reached := by
  obtain ⟨label, observed⟩ := stepped
  have ends : ∀ there, (none : Option Transaction) = some there →
      callOf there ≠ .discard eventId := by
    intro there contrary
    cases contrary
  cases observed with
  | starts op =>
      apply undiscarded_update undiscarded
      intro there same discards
      cases same
      rw [opening_call] at discards
      exact kept state.next (by rw [discards])
  | advances number now later claims orders opened performed =>
      apply undiscarded_update undiscarded
      intro there same
      cases same
      rw [statement_call performed]
      exact undiscarded number now opened
  | raises number now fault opened raised => exact undiscarded_update undiscarded number ends
  | commits number now op result opened finished => exact undiscarded_update undiscarded number ends
  | aborts number now opened => exact undiscarded_update undiscarded number ends

theorem spared_coherent {history : List StoreEvent} (coherent : Coherent state)
    (emitted : Emits SparedStep state history reached) : Coherent reached := by
  apply emits_preserves coherent ?_ emitted
  rintro before event after held ⟨label, observed, spares⟩
  exact step_coherent held (step_iff_observed.mpr ⟨event, observed⟩) spares

/-- What the transactions of one event do in a run that does not discard it. -/
theorem emits_projected {history : List StoreEvent}
    (emitted : Emits ObservedStep emptyPostgres history state)
    (kept : ∀ number, .invoked number (.discard eventId) ∉ history) :
    Emits SparedStep emptyPostgres (history.map (ownView eventId)) (onlyEvent eventId state) := by
  let related (state other : Postgres) : Prop :=
    other = onlyEvent eventId state ∧ Coherent other ∧ Undiscarded eventId state
  have initially : related emptyPostgres emptyPostgres := by
    refine ⟨?_, empty_coherent, ?_⟩
    · simp only [onlyEvent, emptyPostgres, only_row_none, Option.map_none]
    · intro number now contrary
      cases contrary
  have restricted := @emits_restrict _ _ ObservedStep
    (fun event => ∀ number, event ≠ .invoked number (.discard eventId)) _ _ _ emitted (by
      intro event member number same
      rw [same] at member
      exact kept number member)
  obtain ⟨_, projected, rfl, _⟩ := @emits_translated _ _ _ _ _ (ownView eventId) SparedStep related
    _ _ initially (by
      rintro before event after _ ⟨rfl, coherent, undiscarded⟩ ⟨stepped, allowed⟩
      have further := step_projected coherent undiscarded stepped
      refine ⟨_, further, rfl, spared_coherent coherent further, ?_⟩
      apply step_undiscarded undiscarded stepped
      rintro number rfl
      exact allowed _ rfl number rfl) _ _ restricted
  exact projected

theorem spared_observed {history : List StoreEvent}
    (emitted : Emits SparedStep state history reached) :
    Emits ObservedStep state history reached := by
  apply emits_mono ?_ emitted
  rintro before event after ⟨label, observed, _⟩
  exact ⟨label, observed⟩

theorem own_view_invoked {number : Nat} {op : StoreOp} {history : List StoreEvent} :
    .invoked number op ∈ history.map (ownView eventId) ↔ .invoked number op ∈ history := by
  constructor
  · intro member
    obtain ⟨event, listed, same⟩ := List.mem_map.mp member
    cases event with
    | invoked other call =>
        rw [← same]
        exact listed
    | failed other => cases same
    | returned call =>
        by_cases own : (Transaction.opening call.op).eventId = eventId
        · cases (if_pos own).symm.trans same
        · cases (if_neg own).symm.trans same
  · intro member
    exact List.mem_map.mpr ⟨_, member, rfl⟩

theorem own_view_returned {call : AtomicObject.Call StoreOp StoreOp.Ret}
    {history : List StoreEvent} (own : (Transaction.opening call.op).eventId = eventId) :
    .returned call ∈ history.map (ownView eventId) ↔ .returned call ∈ history := by
  constructor
  · intro member
    obtain ⟨event, listed, same⟩ := List.mem_map.mp member
    cases event with
    | invoked other op => cases same
    | failed other => cases same
    | returned told =>
        by_cases mine : (Transaction.opening told.op).eventId = eventId
        · cases (if_pos mine).symm.trans same
          exact listed
        · cases (if_neg mine).symm.trans same
  · intro member
    exact List.mem_map.mpr ⟨_, member, if_pos own⟩

end Runs

end OrderMessaging.Processing.ConcurrentProjection
