import OrderMessaging.Processing.StoreFidelity
import OrderMessaging.Processing.ConcurrentSerial
import OrderMessaging.Processing.ConcurrentSteps

/-!
Whether claims and orders stay paired while transactions interleave. They do as
long as no store of an event commits between the starts of the two DELETE
statements of a discard of the same event; a commit in that window leaves the
order without its claim.
-/

namespace OrderMessaging.Processing.ConcurrentPairing

open OrderMessaging.Relation OrderMessaging.ClaimLedger OrderMessaging.ReadCommitted
open OrderMessaging.Contracts.Models OrderMessaging.Contracts.Reference
open OrderMessaging.Processing.PostgresOrderStore OrderMessaging.Processing.OrderLedger
open OrderMessaging.Processing.StoreFidelity OrderMessaging.Processing.StoreOperations
open OrderMessaging.Processing.ConcurrentStore OrderMessaging.Processing.ConcurrentSerial
open OrderMessaging.Processing.ConcurrentInvariant OrderMessaging.Processing.ConcurrentSteps

set_option autoImplicit false

def claimIds (state : Postgres) : Set Uuid :=
  { eventId | ∃ key held, state.claims key = some held ∧ held.row.eventId = eventId }

def orderIds (state : Postgres) : Set Uuid :=
  { eventId | ∃ key held, state.orders key = some held ∧ held.row.sourceEventId = eventId }

def Paired (state : Postgres) : Prop := claimIds state = orderIds state

/-- The step is not the commit of a new order into such a window of its event. -/
def SparesDiscards (state : Postgres) (label : Label) : Prop :=
  ∀ number event, label = .commit number → state.running number = some (.inserted event) →
    ∀ other transaction, state.running other = some transaction →
      ¬ BetweenDeletes event.eventId transaction

section Runs

variable {state reached : Postgres} {label : Label}

/-- What one transaction's step leaves alone: every event but its own. -/
theorem sound_update_elsewhere {running : Nat → Option Transaction} {next transaction : Nat}
    {now : Transaction} {result : Option Transaction} {eventId : Uuid} {cell : Cell}
    (sound : Sound running next eventId cell) (opened : running transaction = some now)
    (other : now.eventId ≠ eventId)
    (same : ∀ later, result = some later → later.eventId = now.eventId) :
    Sound (Function.update running transaction result) next eventId cell := by
  apply sound_elsewhere ?_ (ended_update opened result) sound
  intro number there own
  by_cases mine : number = transaction
  · subst mine
    rw [Function.update_self, opened]
    constructor
    · intro equal
      cases equal
      exact absurd own other
    · intro moved
      exact absurd ((same there moved).symm.trans own) other
  · rw [Function.update_of_ne mine]

theorem statement_elsewhere {number : Nat} {now later : Transaction} {claims claimsAfter : Claims}
    {orders ordersAfter : Orders}
    (performed : Statement number claims orders now claimsAfter ordersAfter later) :
    later.eventId = now.eventId ∧ ∀ other, other ≠ now.eventId →
      claimsAfter other = claims other ∧ ordersAfter other = orders other := by
  cases performed with
  | doNothing | select | update | deleteOrders | noOrder | deleteClaims | noClaim =>
      exact ⟨rfl, fun _ _ => ⟨rfl, rfl⟩⟩
  | insertClaim | selectForUpdate | setCompleted | claimDeleted =>
      exact ⟨rfl, fun _ different => ⟨Function.update_of_ne different _ _, rfl⟩⟩
  | insertOrder | orderDeleted =>
      exact ⟨rfl, fun _ different => ⟨rfl, Function.update_of_ne different _ _⟩⟩

theorem start_coherent (coherent : Coherent state) (op : StoreOp) :
    Coherent (state.start op) := by
  obtain ⟨sound, numbered⟩ := coherent
  have unused : state.running state.next = none := by
    cases held : state.running state.next with
    | none => rfl
    | some now => exact absurd (numbered _ now held) (Nat.lt_irrefl _)
  have differs : ∀ number now, state.running number = some now → number ≠ state.next := by
    intro number now opened same
    rw [same, unused] at opened
    cases opened
  have ended : ∀ owner, Ended state.running state.next owner →
      Ended (state.start op).running (state.start op).next owner := by
    intro owner stopped
    refine ⟨Nat.lt_succ_of_lt stopped.1, ?_⟩
    have different : owner ≠ state.next := Nat.ne_of_lt stopped.1
    exact (Function.update_of_ne different _ _).trans stopped.2
  constructor
  case sound =>
    intro eventId
    have here := sound eventId
    constructor
    case shape =>
      apply shape_mono ?_ ended here.shape
      intro number now _ opened
      exact (Function.update_of_ne (differs number now opened) _ _).trans opened
    case obliged =>
      intro number now opened own
      by_cases new : number = state.next
      · have same : some (Transaction.opening op) = some now := by
          rw [← opened, new, Postgres.start]
          simp only [Function.update_self]
        cases same
        cases op <;> trivial
      · have before : state.running number = some now :=
          (Function.update_of_ne new _ _).symm.trans opened
        exact obligation_mono ended (here.obliged number now before own)
  case numbered =>
    intro number now opened
    by_cases new : number = state.next
    · rw [new]
      exact Nat.lt_succ_self state.next
    · have before : state.running number = some now :=
        (Function.update_of_ne new _ _).symm.trans opened
      exact Nat.lt_succ_of_lt (numbered number now before)

theorem numbered_update (coherent : Coherent state) {transaction : Nat} {now : Transaction}
    (opened : state.running transaction = some now) (result : Option Transaction) :
    ∀ number there, Function.update state.running transaction result number = some there →
      number < state.next := by
  intro number there current
  by_cases mine : number = transaction
  · rw [mine]
    exact coherent.numbered transaction now opened
  · rw [Function.update_of_ne mine] at current
    exact coherent.numbered number there current

theorem advance_coherent (coherent : Coherent state) {number : Nat} {now later : Transaction}
    {claims : Claims} {orders : Orders} (opened : state.running number = some now)
    (performed : Statement number state.claims state.orders now claims orders later) :
    Coherent { state with
      claims := claims
      orders := orders
      running := Function.update state.running number (some later) } := by
  obtain ⟨sameEvent, elsewhere⟩ := statement_elsewhere performed
  constructor
  case numbered => exact numbered_update coherent opened _
  case sound =>
    intro eventId
    by_cases own : now.eventId = eventId
    · subst own
      exact statement_sound (coherent.sound now.eventId) opened performed
    · obtain ⟨sameClaim, sameOrder⟩ := elsewhere eventId fun same => own same.symm
      simp only [cell, sameClaim, sameOrder]
      apply sound_update_elsewhere (coherent.sound eventId) opened own
      intro moved same
      cases same
      exact sameEvent

theorem abort_coherent (coherent : Coherent state) {number : Nat} {now : Transaction}
    (opened : state.running number = some now) : Coherent (state.abort number) := by
  constructor
  case numbered => exact numbered_update coherent opened none
  case sound =>
    intro eventId
    have here := coherent.sound eventId
    by_cases own : now.eventId = eventId
    · subst own
      exact abort_sound here opened
    · have unchanged := abort_foreign_cell (cell_foreign here.shape opened own)
      have same : cell (state.abort number) eventId = cell state eventId := unchanged
      rw [same]
      apply sound_update_elsewhere here opened own
      intro later contrary
      cases contrary

theorem commit_coherent (coherent : Coherent state) {number : Nat} {now : Transaction}
    {op : StoreOp} {result : op.Ret} (opened : state.running number = some now)
    (finished : now.Returns op result) (spares : SparesDiscards state (.commit number)) :
    Coherent (state.commit number) := by
  constructor
  case numbered => exact numbered_update coherent opened none
  case sound =>
    intro eventId
    have here := coherent.sound eventId
    by_cases own : now.eventId = eventId
    · apply commit_sound here opened own finished (coherent.numbered number now opened)
      intro event inserted other there current between
      subst inserted
      subst own
      exact spares number event rfl opened other there current between
    · have unchanged := commit_foreign_cell (cell_foreign here.shape opened own)
      have same : cell (state.commit number) eventId = cell state eventId := unchanged
      rw [same]
      apply sound_update_elsewhere here opened own
      intro later contrary
      cases contrary

/-- What every step preserves. -/
theorem step_coherent (coherent : Coherent state) (stepped : Step state label reached)
    (spares : SparesDiscards state label) : Coherent reached := by
  cases stepped with
  | starts op => exact start_coherent coherent op
  | advances number now later claims orders opened performed =>
      exact advance_coherent coherent opened performed
  | raises number now fault opened raised => exact abort_coherent coherent opened
  | commits number now op result opened finished =>
      exact commit_coherent coherent opened finished spares
  | aborts number now opened => exact abort_coherent coherent opened

theorem empty_coherent : Coherent emptyPostgres := by
  constructor
  case numbered =>
    intro number now contrary
    cases contrary
  case sound =>
    intro eventId
    refine ⟨.absent, ?_⟩
    intro number now contrary
    cases contrary

theorem reaches_coherent (reached : Reaches SparesDiscards state) : Coherent state := by
  induction reached with
  | refl => exact empty_coherent
  | tail _ last ih =>
      obtain ⟨label, stepped, spared⟩ := last
      exact step_coherent ih stepped spared

theorem coherent_paired (coherent : Coherent state) (quiescent : Quiescent state) :
    Paired state := by
  have stored : ∀ key, (state.claims key = none ∧ state.orders key = none) ∨
      ∃ claim order, state.claims key = some claim ∧ state.orders key = some order ∧
        claim.row.eventId = key ∧ order.row.sourceEventId = key := by
    intro key
    generalize whole : cell state key = here
    have shape := (coherent.sound key).shape
    rw [whole] at shape
    cases shape with
    | absent =>
        injection whole with noClaim noOrder
        exact .inl ⟨noClaim, noOrder⟩
    | claiming number event claim opened own keyed =>
        rw [quiescent number] at opened
        cases opened
    | storing number event claim order opened own keyed source =>
        rw [quiescent number] at opened
        cases opened
    | settled claim order settled =>
        injection whole with sameClaim sameOrder
        exact .inr ⟨claim, order, sameClaim, sameOrder, settled.keyed, settled.source⟩
  apply Set.ext
  intro eventId
  constructor
  · intro member
    obtain ⟨key, held, present, own⟩ := member
    rcases stored key with ⟨absent, _⟩ | ⟨claim, order, sameClaim, sameOrder, keyed, source⟩
    · rw [absent] at present
      cases present
    · rw [sameClaim] at present
      cases present
      exact ⟨key, order, sameOrder, source.trans (keyed.symm.trans own)⟩
  · intro member
    obtain ⟨key, held, present, own⟩ := member
    rcases stored key with ⟨_, absent⟩ | ⟨claim, order, sameClaim, sameOrder, keyed, source⟩
    · rw [absent] at present
      cases present
    · rw [sameOrder] at present
      cases present
      exact ⟨key, claim, sameClaim, keyed.trans (source.symm.trans own)⟩

/-- Claims and orders are paired whenever no transaction is open, in every run that
commits no order between the deletes of a discard of its event. -/
theorem paired_of_spared (state : Postgres) (reached : Reaches SparesDiscards state)
    (quiescent : Quiescent state) : Paired state :=
  coherent_paired (reaches_coherent reached) quiescent

end Runs

section Instances

variable {event : OrderCreatedEvent} {row : OrderRow}

theorem serial_spares (state : Postgres) (label : Label) (serial : Serial state label) :
    SparesDiscards state label := by
  intro number event same opened other transaction current between
  subst same
  by_cases own : other = number
  · rw [own, opened] at current
    cases current
    cases between
  · rw [serial other own] at current
    cases current

/-- A discard of the event that has found no order and has not looked for a claim. -/
def betweenDeletes (eventId : Uuid) : Postgres :=
  progress emptyPostgres (.ordersDeleted eventId) emptyPostgres.claims emptyPostgres.orders

theorem between_deletes_reached (eventId : Uuid) :
    Reaches (fun _ _ => True) (betweenDeletes eventId) := by
  have started : Reaches (fun _ _ => True) (emptyPostgres.start (.discard eventId)) :=
    .single ⟨.start (.discard eventId), .starts _, trivial⟩
  have deleted : Leads (Only emptyPostgres) (emptyPostgres.start (.discard eventId))
      (betweenDeletes eventId) := by
    apply (progress_leads (.deleteOrders eventId)).trans
    apply progress_leads
    exact .noOrder eventId _ (misses_of_absent rfl _)
  exact started.trans (leads_mono (fun _ _ _ => trivial) deleted)

theorem between_deletes_at_rest (eventId : Uuid) : AtRest (betweenDeletes eventId) := by
  constructor
  case unused =>
    intro number late
    exact Function.update_of_ne (Nat.ne_of_gt late) _ _
  all_goals
    intro key version contrary
    cases contrary

/-- The rest of that discard, after a store that has come and gone. -/
theorem discard_finishes {state : Postgres} {eventId : Uuid} {claim : Version ProcessedEventRow}
    (rest : AtRest state) (opened : state.running 0 = some (.ordersDeleted eventId))
    (held : state.claims eventId = some claim) :
    Leads (fun _ _ => True) state
      ⟨ReadCommitted.commit 0 (holdRow 0 .delete eventId state.claims),
        ReadCommitted.commit 0 state.orders, Function.update state.running 0 none, state.next⟩ := by
  let at0 (now : Transaction) (claims : Claims) : Postgres :=
    { state with claims := claims, running := Function.update state.running 0 (some now) }
  let seen := visible 0 state.claims eventId
  have current : ∀ now claims, (at0 now claims).running 0 = some now := by
    intro now claims
    exact Function.update_self 0 _ state.running
  have began : Step state (.advance 0) (at0 (.deletingClaims eventId seen) state.claims) :=
    .advances 0 _ _ _ _ opened (.deleteClaims eventId)
  have deleted := Step.advances 0 _ _ _ _ (current (.deletingClaims eventId seen) state.claims)
    (.claimDeleted eventId seen claim (meets_of_resting rest.claims 0 held)
      (Version.not_held_of_free (rest.claims eventId claim held).free))
  have ended := Step.commits 0 _ (.discard eventId) ()
    (current (.claimsDeleted eventId) (holdRow 0 .delete eventId state.claims))
    (.claimsDeleted eventId)
  simp only [at0, Postgres.commit, Function.update_idem] at began deleted ended
  exact ((Relation.ReflTransGen.single ⟨_, began, trivial⟩).tail ⟨_, deleted, trivial⟩).tail
    ⟨_, ended, trivial⟩

/-- The order that the store wrote is there, and its claim is not. -/
theorem discard_splits {state : Postgres} {tables : Tables} {eventId : Uuid} {row : OrderRow}
    (rest : AtRest state) (mirrors : Mirrors state tables)
    (shown : orderOfEvent tables eventId = some row) (running : Nat → Option Transaction) :
    eventId ∈ orderIds ⟨ReadCommitted.commit 0 (holdRow 0 .delete eventId state.claims),
        ReadCommitted.commit 0 state.orders, running, state.next⟩ ∧
      eventId ∉ claimIds ⟨ReadCommitted.commit 0 (holdRow 0 .delete eventId state.claims),
        ReadCommitted.commit 0 state.orders, running, state.next⟩ := by
  constructor
  · rw [← mirrors.orders] at shown
    obtain ⟨version, held, same⟩ := Option.map_eq_some_iff.mp shown
    obtain ⟨after, left, kept⟩ := Version.commit_free (rest.orders eventId version held).free 0
    refine ⟨eventId, after, ?_, ?_⟩
    · simp only [ReadCommitted.commit, held, Option.bind_some, left]
    · rw [kept]
      exact (order_versions mirrors held).2
  · intro member
    obtain ⟨key, after, left, own⟩ := member
    obtain ⟨version, held, settled⟩ := Option.bind_eq_some_iff.mp left
    by_cases same : key = eventId
    · subst same
      simp only [holdRow, Function.update_self] at held
      obtain ⟨before, _, deleted⟩ := Option.map_eq_some_iff.mp held
      subst deleted
      rw [Version.commit_deleted rfl] at settled
      cases settled
    · rw [holdRow, Function.update_of_ne same] at held
      obtain ⟨again, committed, kept⟩ := Version.commit_free (rest.claims key version held).free 0
      rw [committed] at settled
      cases settled
      have listed := mirrors.claims key
      rw [held] at listed
      have keyed := claim_event_id listed.symm
      exact same (keyed.symm.trans ((congrArg _ kept).symm.trans own))

/-- A store that begins and commits between the deletes of a discard of its event. -/
theorem store_between_deletes (fits : orderRow event = .ok row) :
    ∃ state, Reaches (fun _ _ => True) state ∧ Quiescent state ∧
      event.eventId ∈ orderIds state ∧ event.eventId ∉ claimIds state := by
  obtain ⟨tables, ran, _, ⟨claim, claimed⟩, ordered⟩ := first_store fits
  have rest := between_deletes_at_rest event.eventId
  have mirrors : Mirrors (betweenDeletes event.eventId) emptyTables :=
    ⟨empty_mirrors.claims, empty_mirrors.orders⟩
  have outcome := store_outcome event emptyTables
  rw [ran] at outcome
  obtain ⟨claims, orders, alone, restAfter, mirrorsAfter⟩ := store_answers rest mirrors outcome
  have stored := alone_leads trivial (fun _ _ _ _ => trivial) alone
  obtain ⟨version, held, _⟩ := claim_version mirrorsAfter claimed
  have opened : (concluded (betweenDeletes event.eventId) claims orders).running 0 =
      some (.ordersDeleted event.eventId) := rfl
  have finished := discard_finishes restAfter opened held
  refine ⟨_, ((between_deletes_reached event.eventId).trans stored).trans finished, ?_,
    discard_splits restAfter mirrorsAfter ordered _⟩
  intro number
  by_cases zero : number = 0
  · subst zero
    rfl
  · exact (Function.update_of_ne zero _ _).trans (Function.update_of_ne zero _ _)

theorem order_without_claim :
    ∃ state, Reaches (fun _ _ => True) state ∧ Quiescent state ∧
      documentedEvent.eventId ∈ orderIds state ∧
      documentedEvent.eventId ∉ claimIds state ∧ ¬ Paired state := by
  obtain ⟨row, fits⟩ := documented_row
  obtain ⟨state, reached, quiescent, ordered, unclaimed⟩ := store_between_deletes fits
  refine ⟨state, reached, quiescent, ordered, unclaimed, ?_⟩
  intro paired
  rw [Paired] at paired
  rw [paired] at unclaimed
  exact unclaimed ordered

end Instances

section Overlap

variable {event : OrderCreatedEvent} {row : OrderRow}

/-- The state while one of its transactions stands at `now`. -/
def during (state : Postgres) (number : Nat) (now : Transaction) (claims : Claims)
    (orders : Orders) : Postgres :=
  { state with
    claims := claims
    orders := orders
    running := Function.update state.running number (some now) }

theorem during_running (state : Postgres) (number : Nat) (now : Transaction) (claims : Claims)
    (orders : Orders) : (during state number now claims orders).running number = some now :=
  Function.update_self ..

theorem during_elsewhere {state : Postgres} {number other : Nat} {now : Transaction}
    {claims : Claims} {orders : Orders} (different : other ≠ number) :
    (during state number now claims orders).running other = state.running other :=
  Function.update_of_ne different _ _

theorem during_leads {state : Postgres} {number : Nat} {now later : Transaction}
    {claims claimsAfter : Claims} {orders ordersAfter : Orders}
    (performed : Statement number claims orders now claimsAfter ordersAfter later) :
    Leads SparesDiscards (during state number now claims orders)
      (during state number later claimsAfter ordersAfter) := by
  have stepped := Step.advances number now later claimsAfter ordersAfter
    (during_running state number now claims orders) performed
  simp only [during, Function.update_idem] at stepped
  refine .single ⟨.advance number, stepped, ?_⟩
  intro other event contrary
  cases contrary

/-- The statements of a store of a new event. -/
theorem store_leads {state : Postgres} {number : Nat} {claims : Claims} {orders : Orders}
    (fits : orderRow event = .ok row) (unclaimed : claims event.eventId = none)
    (none : ∀ key, orders key = none) :
    Leads SparesDiscards (during state number (.store event) claims orders)
      (during state number (.inserted event)
        (insertRow number event.eventId ⟨event.eventId, event.eventType, .pending⟩ claims)
        (insertRow number event.eventId row orders)) := by
  apply (during_leads (.insertClaim event unclaimed)).trans
  apply during_leads
  apply Statement.insertOrder event row fits (none _)
  intro key other contrary
  rw [none key] at contrary
  cases contrary

/-- The statements of a discard of a stored event. -/
theorem discard_leads {state : Postgres} {number : Nat} {claims : Claims} {orders : Orders}
    {eventId : Uuid} {claim : Version ProcessedEventRow} {order : Version OrderRow}
    (claimed : claims eventId = some claim) (ordered : orders eventId = some order)
    (claimRests : claim.committed = true ∧ claim.holder = none)
    (orderRests : order.committed = true ∧ order.holder = none) :
    Leads SparesDiscards (during state number (.discard eventId) claims orders)
      (during state number (.claimsDeleted eventId) (holdRow number .delete eventId claims)
        (holdRow number .delete eventId orders)) := by
  have seesOrder : Meets orders eventId (visible number orders eventId) order := by
    simp [Meets, visible, ordered, orderRests.1]
  have seesClaim : Meets claims eventId (visible number claims eventId) claim := by
    simp [Meets, visible, claimed, claimRests.1]
  apply (during_leads (.deleteOrders eventId)).trans
  apply (during_leads (.orderDeleted eventId _ order seesOrder
    (Version.not_held_of_free orderRests.2))).trans
  apply (during_leads (.deleteClaims eventId)).trans
  exact during_leads (.claimDeleted eventId _ claim seesClaim
    (Version.not_held_of_free claimRests.2))

theorem during_self {state : Postgres} {number : Nat} {now : Transaction}
    (opened : state.running number = some now) :
    during state number now state.claims state.orders = state := by
  rw [during, ← opened, Function.update_eq_self]

theorem commit_leads {state : Postgres} {number : Nat} {now : Transaction} {op : StoreOp}
    {result : op.Ret} (opened : state.running number = some now)
    (finished : now.Returns op result) (spares : SparesDiscards state (.commit number)) :
    Leads SparesDiscards state (state.commit number) :=
  .single ⟨.commit number, .commits number now op result opened finished, spares⟩

theorem start_leads (state : Postgres) (op : StoreOp) :
    Leads SparesDiscards state (state.start op) := by
  refine .single ⟨.start op, .starts op, ?_⟩
  intro number event contrary
  cases contrary

theorem inserted_row {Row : Type} (number : Nat) (key : Uuid) (row : Row) (rows : Rows Uuid Row) :
    ReadCommitted.commit number (insertRow number key row rows) key =
      some ⟨row, number, true, none⟩ := by
  simp [ReadCommitted.commit, insertRow, Version.commit_fresh]

/-- Nothing is left of the only row once it has been deleted. -/
theorem deleted_rows {Row : Type} (inserter deleter : Nat) (key : Uuid) (row : Row) :
    ReadCommitted.commit deleter (holdRow deleter .delete key
      (ReadCommitted.commit inserter (insertRow inserter key row fun _ => none))) =
        fun _ => none := by
  funext wanted
  by_cases same : wanted = key
  · subst same
    simp [ReadCommitted.commit, holdRow, insertRow, Version.commit_fresh, Version.hold,
      Version.commit_deleted]
  · simp [ReadCommitted.commit, holdRow, insertRow, same]

theorem spares_of_others {state : Postgres} {number : Nat}
    (outside : ∀ other, other ≠ number → ∀ now, state.running other = some now →
      ∀ eventId, ¬ BetweenDeletes eventId now) : SparesDiscards state (.commit number) := by
  intro own event same opened other now current between
  cases same
  by_cases mine : other = number
  · rw [mine, opened] at current
    cases current
    exact between
  · exact outside other mine now current event.eventId between

/-- A discard of the event and a store of it, both open. -/
def bothOpen (event : OrderCreatedEvent) : Postgres :=
  (emptyPostgres.start (.discard event.eventId)).start (.store event)

/-- The store has committed, and a second one is open beside the discard. -/
def storedOnce (event : OrderCreatedEvent) (row : OrderRow) : Postgres :=
  ((during (bothOpen event) 1 (.inserted event)
    (insertRow 1 event.eventId ⟨event.eventId, event.eventType, .pending⟩ fun _ => none)
    (insertRow 1 event.eventId row fun _ => none)).commit 1).start (.store event)

/-- The discard has deleted what the first store wrote. -/
def discardedOnce (event : OrderCreatedEvent) (row : OrderRow) : Postgres :=
  (during (storedOnce event row) 0 (.claimsDeleted event.eventId)
    (holdRow 0 .delete event.eventId (storedOnce event row).claims)
    (holdRow 0 .delete event.eventId (storedOnce event row).orders)).commit 0

/-- The second store has written its own. -/
def storedTwice (event : OrderCreatedEvent) (row : OrderRow) : Postgres :=
  (during (discardedOnce event row) 2 (.inserted event)
    (insertRow 2 event.eventId ⟨event.eventId, event.eventType, .pending⟩
      (discardedOnce event row).claims)
    (insertRow 2 event.eventId row (discardedOnce event row).orders)).commit 2

theorem only_discard_beside {event : OrderCreatedEvent} {other : Nat} {now : Transaction}
    (different : other ≠ 1) (current : (bothOpen event).running other = some now) :
    now = .discard event.eventId := by
  by_cases zero : other = 0
  · subst zero
    cases current
    rfl
  · have unopened : (bothOpen event).running other = none :=
      (Function.update_of_ne different _ _).trans (Function.update_of_ne zero _ _)
    rw [unopened] at current
    cases current

theorem stored_once_reached (fits : orderRow event = .ok row) :
    Reaches SparesDiscards (storedOnce event row) := by
  have begun : Reaches SparesDiscards (bothOpen event) :=
    (start_leads emptyPostgres _).trans (start_leads _ _)
  have opened : (bothOpen event).running 1 = some (.store event) := rfl
  have stored := @store_leads event row (bothOpen event) 1 (fun _ => none) (fun _ => none) fits
    rfl fun _ => rfl
  have stands : during (bothOpen event) 1 (.store event) (fun _ => none) (fun _ => none) =
      bothOpen event := during_self opened
  rw [stands] at stored
  refine ((begun.trans stored).trans ?_).trans (start_leads _ _)
  apply commit_leads (during_running ..) (.inserted event)
  apply spares_of_others
  intro other different now current eventId between
  rw [during_elsewhere different] at current
  rw [only_discard_beside different current] at between
  exact between

theorem stored_once_rows (event : OrderCreatedEvent) (row : OrderRow) :
    (storedOnce event row).claims event.eventId =
        some ⟨⟨event.eventId, event.eventType, .pending⟩, 1, true, none⟩ ∧
      (storedOnce event row).orders event.eventId = some ⟨row, 1, true, none⟩ :=
  ⟨inserted_row 1 _ _ fun _ => none, inserted_row 1 _ row fun _ => none⟩

theorem stored_once_discarded (event : OrderCreatedEvent) (row : OrderRow) :
    Leads SparesDiscards (storedOnce event row) (discardedOnce event row) := by
  obtain ⟨claimed, ordered⟩ := stored_once_rows event row
  have opened : (storedOnce event row).running 0 = some (.discard event.eventId) := rfl
  have deleted := @discard_leads (storedOnce event row) 0 _ _ _ _ _ claimed ordered ⟨rfl, rfl⟩
    ⟨rfl, rfl⟩
  rw [during_self opened] at deleted
  apply deleted.trans
  apply commit_leads (during_running ..) (.claimsDeleted event.eventId)
  intro number other same inserted
  cases same
  cases inserted

theorem discarded_once_rows (event : OrderCreatedEvent) (row : OrderRow) :
    (discardedOnce event row).claims = (fun _ => none) ∧
      (discardedOnce event row).orders = fun _ => none :=
  ⟨@deleted_rows ProcessedEventRow 1 0 event.eventId _, deleted_rows 1 0 event.eventId row⟩

theorem discarded_once_alone {event : OrderCreatedEvent} {row : OrderRow} {other : Nat}
    (different : other ≠ 2) : (discardedOnce event row).running other = none := by
  by_cases zero : other = 0
  · subst zero
    rfl
  by_cases one : other = 1
  · subst one
    rfl
  have stored : (storedOnce event row).running other = none :=
    (Function.update_of_ne different _ _).trans
      ((Function.update_of_ne one _ _).trans
        ((during_elsewhere one).trans
          ((Function.update_of_ne one _ _).trans (Function.update_of_ne zero _ _))))
  exact (Function.update_of_ne zero _ _).trans ((during_elsewhere zero).trans stored)

theorem discarded_once_stored (fits : orderRow event = .ok row) :
    Leads SparesDiscards (discardedOnce event row) (storedTwice event row) := by
  obtain ⟨unclaimed, unordered⟩ := discarded_once_rows event row
  have opened : (discardedOnce event row).running 2 = some (.store event) := rfl
  have stored := @store_leads event row (discardedOnce event row) 2
    (discardedOnce event row).claims (discardedOnce event row).orders fits
    (by rw [unclaimed]) (by rw [unordered]; exact fun _ => rfl)
  rw [during_self opened] at stored
  apply stored.trans
  apply commit_leads (during_running ..) (.inserted event)
  apply spares_of_others
  intro other different now current
  rw [during_elsewhere different, discarded_once_alone different] at current
  cases current

theorem stored_twice_quiescent (event : OrderCreatedEvent) (row : OrderRow) :
    Quiescent (storedTwice event row) := by
  intro number
  by_cases two : number = 2
  · subst two
    rfl
  · have before : (storedTwice event row).running number =
        (discardedOnce event row).running number :=
      (Function.update_of_ne two _ _).trans (Function.update_of_ne two _ _)
    rw [before]
    exact discarded_once_alone two

theorem stored_twice_claimed (event : OrderCreatedEvent) (row : OrderRow) :
    event.eventId ∈ claimIds (storedTwice event row) :=
  ⟨event.eventId, _, @inserted_row ProcessedEventRow 2 event.eventId _ _, rfl⟩

/-- Two stores of one event overlap with a discard of it. -/
theorem documented_order_paired :
    ∃ stored discarded state, Reaches SparesDiscards stored ∧
      stored.running 0 = some (.discard documentedEvent.eventId) ∧
      stored.running 2 = some (.store documentedEvent) ∧
      documentedEvent.eventId ∈ orderIds stored ∧
      Leads SparesDiscards stored discarded ∧ documentedEvent.eventId ∉ orderIds discarded ∧
      Leads SparesDiscards discarded state ∧ Quiescent state ∧
      documentedEvent.eventId ∈ claimIds state ∧ Paired state := by
  obtain ⟨row, fits⟩ := documented_row
  revert fits
  generalize documentedEvent = event
  intro fits
  have begun := stored_once_reached fits
  have discarded := stored_once_discarded event row
  have stored := discarded_once_stored fits
  have quiescent := stored_twice_quiescent event row
  refine ⟨storedOnce event row, discardedOnce event row, storedTwice event row, begun, rfl, rfl,
    ⟨event.eventId, _, (stored_once_rows event row).2, order_row_source fits⟩, discarded, ?_,
    stored, quiescent, stored_twice_claimed event row,
    paired_of_spared _ ((begun.trans discarded).trans stored) quiescent⟩
  rintro ⟨key, held, present, own⟩
  rw [(discarded_once_rows event row).2] at present
  cases present

end Overlap

end OrderMessaging.Processing.ConcurrentPairing
