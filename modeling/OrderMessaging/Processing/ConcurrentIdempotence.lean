import OrderMessaging.Processing.ConcurrentProjection

/-!
What the store promises its concurrent callers about one event that nobody
discards: among all the stores of it that return, one is told that it is new, and
once a completion has returned no later store is told to do the downstream work.
What becomes of other events meanwhile, and whether their discards are spared, is
of no account: the event's own transactions make a run of their own.
-/

namespace OrderMessaging.Processing.ConcurrentIdempotence

open OrderMessaging.AtomicObject OrderMessaging.ClaimLedger OrderMessaging.ReadCommitted
open OrderMessaging.Contracts.Models OrderMessaging.Contracts.Reference
open OrderMessaging.Processing.PostgresOrderStore OrderMessaging.Processing.OrderLedger
open OrderMessaging.Processing.StoreFidelity OrderMessaging.Processing.StoreOperations
open OrderMessaging.Processing.ConcurrentStore OrderMessaging.Processing.ConcurrentSerial
open OrderMessaging.Processing.ConcurrentPairing OrderMessaging.Processing.ConcurrentAtomicity
open OrderMessaging.Processing.ConcurrentProjection

set_option autoImplicit false

abbrev StoreCall := AtomicObject.Call StoreOp StoreOp.Ret

/-- A store of the event, with what it was told. -/
inductive StoreOf (eventId : Uuid) : EventStoreResult → StoreCall → Prop where
  | mk (number : Nat) (event : OrderCreatedEvent) (stored : EventStoreResult)
      (own : event.eventId = eventId) : StoreOf eventId stored ⟨number, .store event, stored⟩

section Replays

variable {eventId : Uuid} {before after : Database} {ledger : EventLedger}

theorem answer_steps (holds : Represents before.tables ledger) {op : StoreOp} {result : op.Ret}
    (answer : atomically before op result after) :
    ∃ later, LedgerOp before ledger op (.ok result) after later ∧
      Represents after.tables later := by
  obtain ⟨reply, reached, later, ran, stepped, represented⟩ := run_refines holds op none
  rw [atomically, ran] at answer
  cases answer
  exact ⟨later, stepped, represented⟩

/-- The event is claimed, with this order; it may be required to be completed. -/
def Claimed (eventId : Uuid) (row : OrderRow) (completed : Bool) (database : Database) : Prop :=
  ∃ ledger entry, Represents database.tables ledger ∧ ledger eventId = some entry ∧
    entry.record = row ∧ (completed = true → entry.completed = true)

/-- A call on a claimed event that is not a discard of it. -/
theorem answer_claimed {row : OrderRow} {completed : Bool} {call : StoreCall}
    (claimed : Claimed eventId row completed before)
    (answer : atomically before call.op call.result after)
    (kept : call.op ≠ .discard eventId) :
    Claimed eventId row completed after ∧
      ∀ stored, StoreOf eventId stored call →
        stored.isNew = false ∧ (completed = true → stored.downstreamRequired = false) := by
  obtain ⟨ledger, entry, holds, held, recorded, done⟩ := claimed
  obtain ⟨later, stepped, represented⟩ := answer_steps holds answer
  rcases call with ⟨number, op, result⟩
  have elsewhere : ∀ other, eventId ≠ other → ∀ action : Action Uuid OrderRow, action.target = other →
      later = apply action ledger → Claimed eventId row completed after := by
    intro other different action target applied
    subst applied
    subst target
    exact ⟨_, entry, represented, (apply_other ledger different).trans held, recorded, done⟩
  cases stepped with
  | known event other again =>
      refine ⟨⟨ledger, entry, represented, held, recorded, done⟩, ?_⟩
      intro stored stores
      cases stores with
      | mk _ _ _ own =>
          rw [own, held] at again
          cases again
          refine ⟨rfl, ?_⟩
          intro required
          simp only [done required, Bool.not_true]
  | written event fresh reached fits absent =>
      have different : eventId ≠ event.eventId := by
        intro same
        rw [← same, held] at absent
        cases absent
      refine ⟨elsewhere _ different (.claim event.eventId fresh) rfl rfl, ?_⟩
      intro stored stores
      cases stores with
      | mk _ _ _ own => exact absurd own.symm different
  | marked other marked reached present =>
      refine ⟨?_, ?_⟩
      · by_cases same : eventId = other
        · subst same
          have finished := apply_complete ledger eventId
          rw [held, Option.map_some] at finished
          exact ⟨_, entry.finish, represented, finished, recorded, fun _ => rfl⟩
        · exact elsewhere other same (.complete other) rfl rfl
      · intro stored stores
        cases stores
  | discarded other reached =>
      have different : eventId ≠ other := by
        intro same
        exact kept (congrArg StoreOp.discard same.symm)
      refine ⟨elsewhere other different (.forget other) rfl rfl, ?_⟩
      intro stored stores
      cases stores

variable {calls : List StoreCall}

/-- The calls after a claim, or after a completion. -/
theorem replays_claimed {row : OrderRow} {completed : Bool}
    (replayed : Replays atomically before calls after)
    (claimed : Claimed eventId row completed before)
    (kept : ∀ call ∈ calls, call.op ≠ .discard eventId) :
    Claimed eventId row completed after ∧ ∀ call ∈ calls, ∀ stored, StoreOf eventId stored call →
      stored.isNew = false ∧ (completed = true → stored.downstreamRequired = false) := by
  apply replays_holds replayed ?_ claimed
  intro state call later member held answer
  exact answer_claimed held answer (kept call member)

/-- A store that claims the event, and the order it writes. -/
inductive NewStore (eventId : Uuid) (row : OrderRow) : StoreCall → Prop where
  | mk (number : Nat) (event : OrderCreatedEvent) (own : event.eventId = eventId)
      (fits : orderRow event = .ok row) :
      NewStore eventId row ⟨number, .store event, ⟨true, true⟩⟩

/-- Before the event is claimed, a call claims it or does not store it. -/
theorem answer_unclaimed {call : StoreCall} (holds : Represents before.tables ledger)
    (absent : ledger eventId = none) (answer : atomically before call.op call.result after) :
    (∃ row, NewStore eventId row call ∧ Claimed eventId row false after) ∨
      (∀ stored, ¬ StoreOf eventId stored call) ∧
        ∃ later, Represents after.tables later ∧ later eventId = none := by
  obtain ⟨later, stepped, represented⟩ := answer_steps holds answer
  rcases call with ⟨number, op, result⟩
  cases stepped with
  | known event entry held =>
      right
      refine ⟨?_, ledger, represented, absent⟩
      intro stored stores
      cases stores with
      | mk _ _ _ own =>
          rw [own, absent] at held
          cases held
  | written event row reached fits fresh =>
      by_cases own : event.eventId = eventId
      · left
        refine ⟨row, .mk number event own fits, _, ⟨row, false⟩, represented, ?_, rfl, id⟩
        rw [← own]
        exact apply_claim_absent fresh row
      · right
        refine ⟨?_, _, represented, ?_⟩
        · intro stored stores
          cases stores with
          | mk _ _ _ same => exact own same
        · have different : eventId ≠ event.eventId := fun same => own same.symm
          exact (apply_other ledger different).trans absent
  | marked other entry reached held =>
      right
      refine ⟨?_, _, represented, ?_⟩
      · intro stored stores
        cases stores
      · have different : eventId ≠ other := by
          intro same
          rw [← same, absent] at held
          cases held
        exact (apply_other ledger different).trans absent
  | discarded other reached =>
      right
      refine ⟨?_, _, represented, ?_⟩
      · intro stored stores
        cases stores
      · by_cases same : eventId = other
        · subst same
          exact apply_forget ledger eventId
        · exact (apply_other ledger same).trans absent

/-- An order in which the event is stored and never discarded has one claim of it. -/
theorem replays_first (replayed : Replays atomically before calls after)
    (holds : Represents before.tables ledger) (absent : ledger eventId = none)
    (kept : ∀ call ∈ calls, call.op ≠ .discard eventId)
    {call : StoreCall} {stored : EventStoreResult} (member : call ∈ calls)
    (stores : StoreOf eventId stored call) :
    ∃ winner row, winner ∈ calls ∧ NewStore eventId row winner ∧
      Claimed eventId row false after ∧
      ∀ other ∈ calls, ∀ told, StoreOf eventId told other → told.isNew = true →
        other = winner := by
  induction replayed generalizing ledger with
  | nil => cases member
  | @cons before middle after head rest answer further ih =>
      have keptRest : ∀ call ∈ rest, call.op ≠ .discard eventId :=
        fun call later => kept call (List.mem_cons_of_mem _ later)
      rcases answer_unclaimed holds absent answer with
        ⟨row, claims, claimed⟩ | ⟨elsewhere, later, represented, still⟩
      · obtain ⟨final, known⟩ := replays_claimed further claimed keptRest
        refine ⟨head, row, List.mem_cons_self, claims, final, ?_⟩
        intro other among told tells isNew
        rcases List.mem_cons.mp among with same | later
        · exact same
        · rw [(known other later told tells).1] at isNew
          cases isNew
      · have inRest : call ∈ rest := by
          rcases List.mem_cons.mp member with same | later
          · rw [same] at stores
            exact absurd stores (elsewhere stored)
          · exact later
        obtain ⟨winner, row, among, claims, final, only⟩ := ih represented still keptRest inRest
        refine ⟨winner, row, List.mem_cons_of_mem _ among, claims, final, ?_⟩
        intro other present told tells isNew
        rcases List.mem_cons.mp present with same | later
        · rw [same] at tells
          exact absurd tells (elsewhere told)
        · exact only other later told tells isNew

theorem replays_represented (replayed : Replays atomically before calls after)
    (holds : Represents before.tables ledger) : ∃ later, Represents after.tables later := by
  let represented (database : Database) : Prop := ∃ later, Represents database.tables later
  have preserved : ∀ state (call : StoreCall) later, call ∈ calls → represented state →
      atomically state call.op call.result later → represented later ∧ True := by
    intro state call later _ held answer
    obtain ⟨current, holds⟩ := held
    obtain ⟨next, _, still⟩ := answer_steps holds answer
    exact ⟨⟨next, still⟩, trivial⟩
  exact (replays_holds replayed preserved ⟨ledger, holds⟩).1

/-- An order in which the event is completed and never discarded leaves it completed. -/
theorem replays_marked (replayed : Replays atomically before calls after)
    (holds : Represents before.tables ledger)
    (kept : ∀ call ∈ calls, call.op ≠ .discard eventId) {number : Nat}
    (member : ⟨number, .markCompleted eventId, ()⟩ ∈ calls) :
    ∃ row, Claimed eventId row true after := by
  obtain ⟨early, late, split⟩ := List.append_of_mem member
  subst split
  obtain ⟨middle, first, second⟩ := replays_append replayed
  obtain ⟨reached, represented⟩ := replays_represented first holds
  cases second with
  | cons answer further =>
      obtain ⟨later, stepped, still⟩ := answer_steps represented answer
      cases stepped with
      | marked _ entry _ held =>
          have finished := apply_complete reached eventId
          rw [held, Option.map_some] at finished
          have claimed : Claimed eventId entry.record true _ :=
            ⟨_, entry.finish, still, finished, rfl, fun _ => rfl⟩
          refine ⟨entry.record, (replays_claimed further claimed ?_).1⟩
          intro call among
          exact kept call (List.mem_append_right _ (List.mem_cons_of_mem _ among))

end Replays

section Alone

variable {state before after reached : Postgres}

/-- The statements of a transaction that runs alone show nothing. -/
theorem only_emitted (led : Leads (Only state) before after) {now : Transaction}
    (opened : after.running state.next = some now) : Emits SparedStep before [] after := by
  induction led generalizing now with
  | refl => exact .refl
  | @tail middle _ _ last ih =>
      obtain ⟨label, stepped, same, _⟩ := last
      subst same
      cases stepped with
      | advances _ earlier later claims orders current performed =>
          refine .silent (ih current) ⟨.advance state.next, ?_, ?_⟩
          · exact .advances _ earlier later claims orders current performed
          · intro number event contrary
            cases contrary
      | raises _ earlier fault current raised =>
          have stopped : (middle.abort state.next).running state.next = none :=
            Function.update_self ..
          cases stopped.symm.trans opened

theorem returns_emitted (quiescent : Quiescent state) {op : StoreOp} {result : op.Ret}
    (alone : Alone state op (.ok result) reached) :
    Emits SparedStep state
      [.invoked state.next op, .returned ⟨state.next, op, result⟩] reached := by
  cases alone with
  | returns last now _ led opened finished =>
      have started : Emits SparedStep state [.invoked state.next op] (state.start op) :=
        emits_single (starts_spared state op)
      have stands := only_elsewhere led fun other different =>
        Function.update_of_ne different _ _
      have serial : Serial last (.commit state.next) :=
        fun other different => (stands other different).trans (quiescent other)
      exact .visible (emits_trans started (only_emitted led opened))
        ⟨.commit state.next, .commits _ now op result opened finished, serial_spares _ _ serial⟩

/-- Between two calls the tables rest, and mirror the database of the atomic calls. -/
structure Between (state : Postgres) (database : Database) : Prop where
  rest : AtRest state
  quiescent : Quiescent state
  mirrors : Mirrors state database.tables

/-- Every answer of the atomic store is one that a caller can see. -/
theorem answer_emitted {database later : Database} (between : Between state database)
    {op : StoreOp} {result : op.Ret} (answer : atomically database op result later) :
    ∃ reached, Emits SparedStep state
        [.invoked state.next op, .returned ⟨state.next, op, result⟩] reached ∧
      Between reached later ∧ reached.next = state.next + 1 := by
  obtain ⟨claims, orders, alone, rest, mirrors⟩ :=
    alone_answers between.rest between.mirrors op
  rw [atomically] at answer
  rw [answer] at alone mirrors
  exact ⟨_, returns_emitted between.quiescent alone,
    ⟨rest, between.quiescent, mirrors⟩, rfl⟩

theorem empty_between : Between emptyPostgres ⟨emptyTables, []⟩ :=
  ⟨empty_at_rest, fun _ => rfl, empty_mirrors⟩

/-- A store, its completion, and the same store again. -/
def storedAgain (event : OrderCreatedEvent) : List StoreEvent :=
  [.invoked 0 (.store event), .returned ⟨0, .store event, ⟨true, true⟩⟩,
    .invoked 1 (.markCompleted event.eventId),
    .returned ⟨1, .markCompleted event.eventId, ()⟩,
    .invoked 2 (.store event), .returned ⟨2, .store event, ⟨false, false⟩⟩]

theorem stored_again_emitted {event : OrderCreatedEvent} {row : OrderRow}
    (fits : orderRow event = .ok row) :
    ∃ state, Emits SparedStep emptyPostgres (storedAgain event) state := by
  have claimed : apply (.claim event.eventId row) (fun _ => none) event.eventId =
      some ⟨row, false⟩ := apply_claim_absent rfl row
  have completed := apply_complete (apply (.claim event.eventId row) fun _ => none) event.eventId
  rw [claimed, Option.map_some] at completed
  have empty : Represents (Database.mk emptyTables []).tables fun _ => none := represents_empty
  obtain ⟨stored, first, represents⟩ := store_new empty fits rfl (by
    intro eventId entry held
    cases held)
  obtain ⟨marked, second, represented⟩ := mark_known represents claimed
  have third := store_known represented completed
  obtain ⟨one, emittedOne, betweenOne, nextOne⟩ := answer_emitted empty_between first
  obtain ⟨two, emittedTwo, betweenTwo, nextTwo⟩ := answer_emitted betweenOne second
  obtain ⟨final, emittedThree, _, _⟩ := answer_emitted betweenTwo third
  rw [nextTwo, nextOne] at emittedThree
  rw [nextOne] at emittedTwo
  exact ⟨final, emits_trans (emits_trans emittedOne emittedTwo) emittedThree⟩

end Alone

section Runs

variable {state : Postgres} {history : List StoreEvent} {eventId : Uuid}

theorem order_kept {order : List StoreCall} {database : Database}
    (serializes : Serializes atomically ⟨emptyTables, []⟩ history order database)
    (kept : ∀ number, .invoked number (.discard eventId) ∉ history) :
    ∀ call ∈ order, call.op ≠ .discard eventId := by
  intro call member discards
  have invoked := serializes.invoked call member
  rw [discards] at invoked
  exact kept call.number invoked

theorem spared_store_is_new (emitted : Emits SparedStep emptyPostgres history state)
    (kept : ∀ number, .invoked number (.discard eventId) ∉ history) {call : StoreCall}
    {stored : EventStoreResult} (stores : StoreOf eventId stored call)
    (returned : .returned call ∈ history) :
    ∃ winner row, .returned winner ∈ history ∧ NewStore eventId row winner ∧
      committedRow state.orders eventId = some row ∧
      ∀ other told, .returned other ∈ history → StoreOf eventId told other →
        told.isNew = true → other = winner := by
  obtain ⟨object, followed, follows, settled⟩ := spared_follows emitted
  obtain ⟨order, serializes⟩ := emits_serializes followed settled
  obtain ⟨winner, row, member, claims, final, only⟩ :=
    replays_first serializes.replays represents_empty rfl (order_kept serializes kept)
      ((serializes.exact call).mpr returned) stores
  obtain ⟨ledger, entry, holds, held, recorded, _⟩ := final
  refine ⟨winner, row, (serializes.exact winner).mp member, claims, ?_, ?_⟩
  · rw [(follows_shown follows eventId).2, holds.orders, held, Option.map_some, recorded]
  · intro other told ended tells
    exact only other ((serializes.exact other).mpr ended) told tells

theorem spared_completion_outlasts (emitted : Emits SparedStep emptyPostgres history state)
    (kept : ∀ number, .invoked number (.discard eventId) ∉ history) {marking : Nat}
    (marked : .returned ⟨marking, .markCompleted eventId, ()⟩ ∈ history) :
    (∃ claim, committedRow state.claims eventId = some claim ∧ claim.status = .completed) ∧
      ∀ number event stored, event.eventId = eventId →
        [.returned ⟨marking, .markCompleted eventId, ()⟩,
          .invoked number (.store event)].Sublist history →
        .returned ⟨number, .store event, stored⟩ ∈ history → stored = ⟨false, false⟩ := by
  obtain ⟨object, followed, follows, settled⟩ := spared_follows emitted
  obtain ⟨order, serializes⟩ := emits_serializes followed settled
  have keptOrder := order_kept serializes kept
  constructor
  · obtain ⟨row, ledger, entry, holds, held, _, done⟩ := replays_marked serializes.replays
      represents_empty keptOrder ((serializes.exact _).mpr marked)
    refine ⟨claimRow eventId entry, ?_, ?_⟩
    · rw [(follows_shown follows eventId).1, holds.claims, held, Option.map_some]
    · rw [claimRow, statusOfEntry, done rfl]
      rfl
  · intro number event stored own ordered returned
    have member := (serializes.exact _).mpr returned
    have serial := serializes.realTime _ ⟨number, .store event, stored⟩ member ordered
    obtain ⟨early, late, split, first, second⟩ := List.cons_sublist_iff.mp serial
    have replayed := serializes.replays
    rw [split] at replayed keptOrder
    obtain ⟨middle, before, after⟩ := replays_append replayed
    obtain ⟨row, claimed⟩ := replays_marked before represents_empty
      (fun call among => keptOrder call (List.mem_append_left _ among)) first
    obtain ⟨_, told⟩ := replays_claimed after claimed
      fun call among => keptOrder call (List.mem_append_right _ among)
    obtain ⟨notNew, nothing⟩ :=
      told _ (List.singleton_sublist.mp second) stored (.mk number event stored own)
    rcases stored with ⟨isNew, downstream⟩
    cases notNew
    cases nothing rfl
    rfl

theorem store_of_event {stored : EventStoreResult} {call : StoreCall}
    (stores : StoreOf eventId stored call) : (Transaction.opening call.op).eventId = eventId := by
  cases stores with
  | mk number event _ own => exact own

/-- Among the concurrent stores of an event that nobody discards, one is told that
the event is new, and the order that everyone sees is the one it wrote. -/
theorem exactly_one_store_is_new (emitted : Emits ObservedStep emptyPostgres history state)
    (kept : ∀ number, .invoked number (.discard eventId) ∉ history) {call : StoreCall}
    {stored : EventStoreResult} (stores : StoreOf eventId stored call)
    (returned : .returned call ∈ history) :
    ∃ winner row, .returned winner ∈ history ∧ NewStore eventId row winner ∧
      committedRow state.orders eventId = some row ∧
      ∀ other told, .returned other ∈ history → StoreOf eventId told other →
        told.isNew = true → other = winner := by
  have projected := emits_projected emitted kept
  have keptThere : ∀ number, .invoked number (.discard eventId) ∉ history.map (ownView eventId) :=
    fun number member => kept number (own_view_invoked.mp member)
  have seen : .returned call ∈ history.map (ownView eventId) :=
    (own_view_returned (store_of_event stores)).mpr returned
  obtain ⟨winner, row, wins, isNew, shown, only⟩ :=
    spared_store_is_new projected keptThere stores seen
  refine ⟨winner, row, ?_, isNew, only_row_committed.symm.trans shown, ?_⟩
  · cases isNew with
    | mk number event own fits =>
        exact (@own_view_returned eventId ⟨number, .store event, _⟩ history own).mp wins
  · intro other told ended tells
    exact only other told ((own_view_returned (store_of_event tells)).mpr ended) tells

theorem documented_store_is_new :
    ∃ state history winner row, Emits ObservedStep emptyPostgres history state ∧
      .returned winner ∈ history ∧ NewStore documentedEvent.eventId row winner ∧
      committedRow state.orders documentedEvent.eventId = some row ∧
      ∀ other told, .returned other ∈ history → StoreOf documentedEvent.eventId told other →
        told.isNew = true → other = winner := by
  obtain ⟨row, fits⟩ := documented_row
  revert fits
  generalize documentedEvent = event
  intro fits
  obtain ⟨state, emitted⟩ := overlapping_stores_emitted fits
  have stores : StoreOf event.eventId ⟨true, true⟩ ⟨0, .store event, ⟨true, true⟩⟩ :=
    .mk 0 event ⟨true, true⟩ rfl
  obtain ⟨winner, written, unique⟩ :=
    exactly_one_store_is_new (spared_observed emitted) (by simp) stores (by simp)
  exact ⟨state, _, winner, written, spared_observed emitted, unique⟩

/-- Once a completion of an event that nobody discards has returned, everyone sees
it completed, and a store of it that begins later is told to do nothing. -/
theorem completion_outlasts_stores (emitted : Emits ObservedStep emptyPostgres history state)
    (kept : ∀ number, .invoked number (.discard eventId) ∉ history) {marking : Nat}
    (marked : .returned ⟨marking, .markCompleted eventId, ()⟩ ∈ history) :
    (∃ claim, committedRow state.claims eventId = some claim ∧ claim.status = .completed) ∧
      ∀ number event stored, event.eventId = eventId →
        [.returned ⟨marking, .markCompleted eventId, ()⟩,
          .invoked number (.store event)].Sublist history →
        .returned ⟨number, .store event, stored⟩ ∈ history → stored = ⟨false, false⟩ := by
  have projected := emits_projected emitted kept
  have keptThere : ∀ number, .invoked number (.discard eventId) ∉ history.map (ownView eventId) :=
    fun number member => kept number (own_view_invoked.mp member)
  obtain ⟨⟨claim, shown, completed⟩, later⟩ :=
    spared_completion_outlasts projected keptThere ((own_view_returned rfl).mpr marked)
  refine ⟨⟨claim, only_row_committed.symm.trans shown, completed⟩, ?_⟩
  intro number event stored own ordered returned
  apply later number event stored own ?_
    ((@own_view_returned eventId ⟨number, .store event, stored⟩ history own).mpr returned)
  have mapped := ordered.map (ownView eventId)
  simp only [List.map_cons, List.map_nil, ownView, Transaction.opening, Transaction.eventId,
    if_true] at mapped
  exact mapped

theorem documented_completion_outlasts :
    ∃ state, Emits ObservedStep emptyPostgres (storedAgain documentedEvent) state ∧
      ∃ claim, committedRow state.claims documentedEvent.eventId = some claim ∧
        claim.status = .completed := by
  obtain ⟨row, fits⟩ := documented_row
  revert fits
  generalize documentedEvent = event
  intro fits
  obtain ⟨state, emitted⟩ := stored_again_emitted fits
  have marked : (.returned ⟨1, .markCompleted event.eventId, ()⟩ : StoreEvent) ∈
      storedAgain event := by
    simp [storedAgain]
  have kept : ∀ number, (.invoked number (.discard event.eventId) : StoreEvent) ∉
      storedAgain event := by
    simp [storedAgain]
  exact ⟨state, spared_observed emitted,
    (completion_outlasts_stores (spared_observed emitted) kept marked).1⟩

end Runs

end OrderMessaging.Processing.ConcurrentIdempotence
