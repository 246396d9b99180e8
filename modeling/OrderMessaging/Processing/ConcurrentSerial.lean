import OrderMessaging.Processing.ConcurrentStore

/-!
A transaction that runs alone. Its statements, one after the other, leave what
the whole call leaves when it is taken as one step, with the same reply.
-/

namespace OrderMessaging.Processing.ConcurrentSerial

open OrderMessaging.PyException OrderMessaging.Relation OrderMessaging.ReadCommitted
open OrderMessaging.Contracts.Models OrderMessaging.Processing.PostgresOrderStore
open OrderMessaging.Processing.StoreOperations OrderMessaging.Processing.ConcurrentStore

set_option autoImplicit false

/-- No open transaction has touched a row. -/
structure AtRest (state : Postgres) : Prop where
  claims : Resting state.next state.claims
  orders : Resting state.next state.orders
  unused : ∀ number, state.next ≤ number → state.running number = none

structure Mirrors (state : Postgres) (tables : Tables) : Prop where
  claims : Shows state.claims (claimOf tables)
  orders : Shows state.orders (orderOfEvent tables)

/-- Statements of the state's next transaction, while the others stand still. -/
def Only (state before : Postgres) (label : Label) : Prop :=
  label = .advance state.next ∧
    ∀ other, other ≠ state.next → before.running other = state.running other

/-- A call whose transaction runs alone from start to end. -/
inductive Alone (state : Postgres) (op : StoreOp) : Except Exc op.Ret → Postgres → Prop where
  | returns (last : Postgres) (now : Transaction) (result : op.Ret)
      (led : Leads (Only state) (state.start op) last)
      (opened : last.running state.next = some now) (finished : now.Returns op result) :
      Alone state op (.ok result) (last.commit state.next)
  | raises (last : Postgres) (now : Transaction) (fault : Exc)
      (led : Leads (Only state) (state.start op) last)
      (opened : last.running state.next = some now)
      (raised : Raises state.next last.claims last.orders now fault) :
      Alone state op (.error fault) (last.abort state.next)

/-- The state in the middle of its next transaction. -/
def progress (state : Postgres) (now : Transaction) (claims : Claims) (orders : Orders) :
    Postgres :=
  ⟨claims, orders, Function.update state.running state.next (some now), state.next + 1⟩

/-- The state when that transaction is over. -/
def concluded (state : Postgres) (claims : Claims) (orders : Orders) : Postgres :=
  ⟨claims, orders, state.running, state.next + 1⟩

section Moves

variable {state : Postgres} {now later : Transaction} {claims claimsAfter : Claims}
  {orders ordersAfter : Orders}

theorem progress_running : (progress state now claims orders).running state.next = some now :=
  Function.update_self ..

theorem progress_leads
    (performed : Statement state.next claims orders now claimsAfter ordersAfter later) :
    Leads (Only state) (progress state now claims orders)
      (progress state later claimsAfter ordersAfter) := by
  apply Relation.ReflTransGen.single
  refine ⟨.advance state.next, ?_, rfl, ?_⟩
  · have stepped : Step (progress state now claims orders) (.advance state.next) _ :=
      .advances state.next now later claimsAfter ordersAfter progress_running performed
    simp only [progress, Function.update_idem] at stepped
    exact stepped
  · intro other different
    exact Function.update_of_ne different _ _

theorem commit_progress (unused : state.running state.next = none) (now : Transaction)
    (claims : Claims) (orders : Orders) :
    (progress state now claims orders).commit state.next =
      concluded state (ReadCommitted.commit state.next claims)
        (ReadCommitted.commit state.next orders) := by
  simp only [Postgres.commit, progress, concluded, Function.update_idem]
  rw [← unused, Function.update_eq_self]

theorem abort_progress (unused : state.running state.next = none) (now : Transaction)
    (claims : Claims) (orders : Orders) :
    (progress state now claims orders).abort state.next =
      concluded state (ReadCommitted.abort state.next claims)
        (ReadCommitted.abort state.next orders) := by
  simp only [Postgres.abort, progress, concluded, Function.update_idem]
  rw [← unused, Function.update_eq_self]

end Moves

section Calls

variable {state : Postgres} {tables : Tables}

/-- The call's reply and tables are those of the call as one step, and every other
transaction is where it was. -/
def Answers (state : Postgres) (op : StoreOp) (result : Except Exc op.Ret) (after : Tables) :
    Prop :=
  ∃ claims orders, Alone state op result (concluded state claims orders) ∧
    AtRest (concluded state claims orders) ∧ Mirrors (concluded state claims orders) after

theorem concluded_at_rest (rest : AtRest state) {claims : Claims} {orders : Orders}
    (restClaims : Resting (state.next + 1) claims) (restOrders : Resting (state.next + 1) orders) :
    AtRest (concluded state claims orders) := by
  refine ⟨restClaims, restOrders, ?_⟩
  intro number late
  exact rest.unused number (Nat.le_of_succ_le late)

theorem mirrors_concluded (mirrors : Mirrors state tables) :
    Mirrors (concluded state state.claims state.orders) tables :=
  ⟨mirrors.claims, mirrors.orders⟩

theorem returns_alone (rest : AtRest state) {op : StoreOp} {result : op.Ret} {now : Transaction}
    {claims : Claims} {orders : Orders} (finished : now.Returns op result)
    (led : Leads (Only state) (state.start op) (progress state now claims orders)) :
    Alone state op (.ok result)
      (concluded state (ReadCommitted.commit state.next claims)
        (ReadCommitted.commit state.next orders)) := by
  rw [← commit_progress (rest.unused state.next (Nat.le_refl _)) now]
  exact .returns _ now result led progress_running finished

theorem raises_alone (rest : AtRest state) {op : StoreOp} {fault : Exc} {now : Transaction}
    {claims : Claims} {orders : Orders} (raised : Raises state.next claims orders now fault)
    (led : Leads (Only state) (state.start op) (progress state now claims orders)) :
    Alone state op (.error fault)
      (concluded state (ReadCommitted.abort state.next claims)
        (ReadCommitted.abort state.next orders)) := by
  rw [← abort_progress (rest.unused state.next (Nat.le_refl _)) now]
  exact .raises _ now fault led progress_running raised

/-- The order of the event is gone once the transaction commits. -/
theorem delete_orders_alone (rest : AtRest state) (eventId : Uuid) :
    ∃ orders,
      Leads (Only state) (progress state (.discard eventId) state.claims state.orders)
        (progress state (.ordersDeleted eventId) state.claims orders) ∧
      ReadCommitted.commit state.next orders = Function.update state.orders eventId none := by
  have began : Leads (Only state) (progress state (.discard eventId) state.claims state.orders)
      (progress state (.deletingOrders eventId (visible state.next state.orders eventId))
        state.claims state.orders) :=
    progress_leads (.deleteOrders eventId)
  cases held : state.orders eventId with
  | none =>
      refine ⟨state.orders, began.trans (progress_leads ?_), ?_⟩
      · exact .noOrder eventId _ (misses_of_absent held _)
      · rw [commit_resting rest.orders, ← held, Function.update_eq_self]
  | some version =>
      refine ⟨holdRow state.next .delete eventId state.orders,
        began.trans (progress_leads ?_), ?_⟩
      · exact .orderDeleted eventId _ version (meets_of_resting rest.orders state.next held)
          (Version.not_held_of_free (rest.orders eventId version held).free)
      · exact commit_hold rest.orders held .delete

theorem delete_claims_alone (rest : AtRest state) (eventId : Uuid) (orders : Orders) :
    ∃ claims,
      Leads (Only state) (progress state (.ordersDeleted eventId) state.claims orders)
        (progress state (.claimsDeleted eventId) claims orders) ∧
      ReadCommitted.commit state.next claims = Function.update state.claims eventId none := by
  have began : Leads (Only state) (progress state (.ordersDeleted eventId) state.claims orders)
      (progress state (.deletingClaims eventId (visible state.next state.claims eventId))
        state.claims orders) :=
    progress_leads (.deleteClaims eventId)
  cases held : state.claims eventId with
  | none =>
      refine ⟨state.claims, began.trans (progress_leads ?_), ?_⟩
      · exact .noClaim eventId _ (misses_of_absent held _)
      · rw [commit_resting rest.claims, ← held, Function.update_eq_self]
  | some version =>
      refine ⟨holdRow state.next .delete eventId state.claims,
        began.trans (progress_leads ?_), ?_⟩
      · exact .claimDeleted eventId _ version (meets_of_resting rest.claims state.next held)
          (Version.not_held_of_free (rest.claims eventId version held).free)
      · exact commit_hold rest.claims held .delete

theorem discard_answers (rest : AtRest state) (mirrors : Mirrors state tables) (eventId : Uuid) :
    Answers state (.discard eventId) (.ok ())
      (dropClaims (dropOrders tables eventId) eventId) := by
  obtain ⟨orders, first, ordersLeft⟩ := delete_orders_alone rest eventId
  obtain ⟨claims, second, claimsLeft⟩ := delete_claims_alone rest eventId orders
  have alone : Alone state (.discard eventId) (.ok ()) _ :=
    returns_alone rest (.claimsDeleted eventId) (first.trans second)
  rw [claimsLeft, ordersLeft] at alone
  have nothing : ∀ {Row : Type} (version : Version Row), none = some version →
      version.Resting (state.next + 1) := by
    intro Row version contrary
    cases contrary
  refine ⟨_, _, alone, ?_, ?_⟩
  · apply concluded_at_rest rest
    · exact resting_update (resting_mono rest.claims (Nat.le_succ _)) eventId nothing
    · exact resting_update (resting_mono rest.orders (Nat.le_succ _)) eventId nothing
  · constructor
    · intro wanted
      rw [claim_of_drop_claims]
      exact shows_update mirrors.claims eventId none wanted
    · intro wanted
      exact (shows_update mirrors.orders eventId none wanted).trans
        (order_of_drop_orders tables wanted eventId).symm

/-- The version behind a claim that the tables show. -/
theorem claim_version (mirrors : Mirrors state tables) {eventId : Uuid}
    {claim : ProcessedEventRow} (held : claimOf tables eventId = some claim) :
    ∃ version, state.claims eventId = some version ∧ version.row = claim := by
  rw [← mirrors.claims eventId] at held
  exact Option.map_eq_some_iff.mp held

theorem claim_unclaimed (mirrors : Mirrors state tables) {eventId : Uuid}
    (absent : claimOf tables eventId = none) : state.claims eventId = none := by
  rw [← mirrors.claims eventId] at absent
  exact Option.map_eq_none_iff.mp absent

/-- A call that changes one claim, if any, and no order. -/
theorem concluded_claim (rest : AtRest state) (mirrors : Mirrors state tables) {eventId : Uuid}
    {version : Version ProcessedEventRow} (held : state.claims eventId = some version)
    (row : ProcessedEventRow) {after : Tables}
    (claims : ∀ wanted, claimOf after wanted =
      if wanted = eventId then some row else claimOf tables wanted)
    (orders : ∀ wanted, orderOfEvent after wanted = orderOfEvent tables wanted) :
    AtRest (concluded state
        (Function.update state.claims eventId (some ⟨row, version.owner, true, none⟩))
        state.orders) ∧
      Mirrors (concluded state
        (Function.update state.claims eventId (some ⟨row, version.owner, true, none⟩))
        state.orders) after := by
  constructor
  · apply concluded_at_rest rest ?_ (resting_mono rest.orders (Nat.le_succ _))
    apply resting_update (resting_mono rest.claims (Nat.le_succ _))
    intro changed same
    cases same
    exact Version.resting_committed (Nat.le_of_lt (rest.claims eventId version held).earlier)
  · constructor
    · intro wanted
      rw [claims wanted]
      exact shows_update mirrors.claims eventId _ wanted
    · intro wanted
      rw [orders wanted]
      exact mirrors.orders wanted

theorem mark_answers (rest : AtRest state) (mirrors : Mirrors state tables) {eventId : Uuid}
    {result : Except Exc Unit} {after : Tables}
    (outcome : MarkOutcome eventId tables result after) :
    Answers state (.markCompleted eventId) result after := by
  have began : Leads (Only state) (state.start (.markCompleted eventId))
      (progress state (.updating eventId (visible state.next state.claims eventId))
        state.claims state.orders) :=
    progress_leads (.update eventId)
  cases outcome with
  | marked claim shown =>
      obtain ⟨version, held, same⟩ := claim_version mirrors shown
      have finished : Leads (Only state) _ (progress state (.updated eventId) _ state.orders) :=
        began.trans (progress_leads (.setCompleted eventId _ version
          (meets_of_resting rest.claims state.next held)
          (Version.not_held_of_free (rest.claims eventId version held).free)))
      have alone : Alone state (.markCompleted eventId) (.ok ()) _ :=
        returns_alone rest (.updated eventId) finished
      rw [commit_hold rest.claims held, commit_resting rest.orders] at alone
      refine ⟨_, _, alone, concluded_claim rest mirrors held (complete eventId version.row) ?_ ?_⟩
      · intro wanted
        rw [claim_of_complete_claim]
        by_cases own : wanted = eventId
        · rw [if_pos own, own, shown, same]
          rfl
        · rw [if_neg own]
          cases other : claimOf tables wanted with
          | none => rfl
          | some row =>
              have keyed := claim_event_id other
              simp [complete, keyed, own]
      · intro wanted
        rfl
  | unknown absent =>
      have missing := claim_unclaimed mirrors absent
      have alone : Alone state (.markCompleted eventId) (.error (cannotComplete eventId)) _ :=
        raises_alone rest (.unknown eventId _ (misses_of_absent missing _)) began
      rw [abort_resting rest.claims, abort_resting rest.orders] at alone
      refine ⟨_, _, alone, ?_, mirrors_concluded mirrors⟩
      exact concluded_at_rest rest (resting_mono rest.claims (Nat.le_succ _))
        (resting_mono rest.orders (Nat.le_succ _))

theorem order_versions (mirrors : Mirrors state tables) {key : Uuid} {version : Version OrderRow}
    (held : state.orders key = some version) :
    version.row ∈ tables.orders ∧ version.row.sourceEventId = key := by
  have shown := mirrors.orders key
  rw [held] at shown
  exact lookup_eq_some.mp shown.symm

theorem order_version (mirrors : Mirrors state tables) {row : OrderRow}
    (member : row ∈ tables.orders) :
    ∃ version, state.orders row.sourceEventId = some version ∧ version.row = row := by
  have shown : orderOfEvent tables row.sourceEventId = some row := lookup_eq_some.mpr ⟨member, rfl⟩
  rw [← mirrors.orders] at shown
  exact Option.map_eq_some_iff.mp shown

theorem refusal_raises (rest : AtRest state) (mirrors : Mirrors state tables)
    {event : OrderCreatedEvent} {fault : Exc} (reason : Refusal event tables fault)
    (claims : Claims) : Raises state.next claims state.orders (.claimed event) fault := by
  cases reason with
  | column _ unfit => exact .refused event fault unfit
  | order row other fits member taken =>
      obtain ⟨version, held, same⟩ := order_version mirrors member
      apply Raises.duplicateOrder event row fits other.sourceEventId version held
      · rw [same, taken]
      · exact Version.resting_not_unsettled (rest.orders _ version held)
  | source row other fits member taken =>
      obtain ⟨version, held, _⟩ := order_version mirrors member
      rw [taken, order_row_source fits] at held
      apply Raises.duplicateSource event row fits version held
      exact Version.resting_not_unsettled (rest.orders _ version held)

theorem known_answers (rest : AtRest state) (mirrors : Mirrors state tables)
    {event : OrderCreatedEvent} {claim : ProcessedEventRow}
    (shown : claimOf tables event.eventId = some claim) :
    Answers state (.store event) (.ok ⟨false, decide (claim.status ≠ .completed)⟩) tables := by
  obtain ⟨version, held, same⟩ := claim_version mirrors shown
  have rests := rest.claims event.eventId version held
  have known : Leads (Only state) (state.start (.store event))
      (progress state (.known event) state.claims state.orders) :=
    progress_leads (.doNothing event version held (Version.resting_not_unsettled rests))
  have selecting := known.trans (progress_leads (.select event))
  have selected := selecting.trans (progress_leads (.selectForUpdate event _ version
    (meets_of_resting rest.claims state.next held) (Version.not_held_of_free rests.free)))
  have alone : Alone state (.store event)
      (.ok ⟨false, decide (version.row.status ≠ .completed)⟩) _ :=
    returns_alone rest (.selected event version.row.status) selected
  rw [commit_hold rest.claims held, commit_resting rest.orders, same] at alone
  refine ⟨_, _, alone, concluded_claim rest mirrors held claim ?_ ?_⟩
  · intro wanted
    by_cases own : wanted = event.eventId
    · rw [if_pos own, own, shown]
    · rw [if_neg own]
  · intro wanted
    rfl

theorem claimed_leads (mirrors : Mirrors state tables) {event : OrderCreatedEvent}
    (absent : claimOf tables event.eventId = none) :
    Leads (Only state) (state.start (.store event))
      (progress state (.claimed event)
        (insertRow state.next event.eventId ⟨event.eventId, event.eventType, .pending⟩
          state.claims) state.orders) :=
  progress_leads (.insertClaim event (claim_unclaimed mirrors absent))

/-- Both inserts of a new event, and the commit. -/
theorem written_alone (rest : AtRest state) (mirrors : Mirrors state tables)
    {event : OrderCreatedEvent} {row : OrderRow} (fits : orderRow event = .ok row)
    (absent : claimOf tables event.eventId = none)
    (freshOrder : ∀ other ∈ tables.orders, other.orderId ≠ row.orderId)
    (freshSource : ∀ other ∈ tables.orders, other.sourceEventId ≠ row.sourceEventId) :
    Alone state (.store event) (.ok ⟨true, true⟩) (concluded state
      (Function.update state.claims event.eventId
        (some ⟨⟨event.eventId, event.eventType, .pending⟩, state.next, true, none⟩))
      (Function.update state.orders event.eventId (some ⟨row, state.next, true, none⟩))) := by
  have noOrder : state.orders event.eventId = none := by
    cases held : state.orders event.eventId with
    | none => rfl
    | some version =>
        obtain ⟨member, own⟩ := order_versions mirrors held
        exact absurd (own.trans (order_row_source fits).symm) (freshSource _ member)
  have freshKeys : ∀ key other, state.orders key = some other →
      other.row.orderId ≠ row.orderId := by
    intro key other held
    exact freshOrder _ (order_versions mirrors held).1
  have inserted := (claimed_leads mirrors absent).trans
    (progress_leads (.insertOrder event row fits noOrder freshKeys))
  have alone : Alone state (.store event) (.ok ⟨true, true⟩) _ :=
    returns_alone rest (.inserted event) inserted
  rw [commit_insert rest.claims, commit_insert rest.orders] at alone
  exact alone

theorem store_answers (rest : AtRest state) (mirrors : Mirrors state tables)
    {event : OrderCreatedEvent} {result : Except Exc EventStoreResult} {after : Tables}
    (outcome : StoreOutcome event tables result after) :
    Answers state (.store event) result after := by
  cases outcome with
  | known claim shown => exact known_answers rest mirrors shown
  | written row fits fresh freshOrder freshSource =>
      have absent : claimOf tables event.eventId = none := lookup_eq_none.mpr fresh
      have alone := written_alone rest mirrors fits absent freshOrder freshSource
      refine ⟨_, _, alone, ?_, ?_⟩
      · apply concluded_at_rest rest
        · apply resting_update (resting_mono rest.claims (Nat.le_succ _))
          intro version same
          cases same
          exact Version.resting_committed (Nat.le_refl _)
        · apply resting_update (resting_mono rest.orders (Nat.le_succ _))
          intro version same
          cases same
          exact Version.resting_committed (Nat.le_refl _)
      · constructor
        · intro wanted
          have found := claim_of_insert_claim_row tables wanted
            ⟨event.eventId, event.eventType, .pending⟩ fresh
          exact (shows_update mirrors.claims event.eventId _ wanted).trans found.symm
        · intro wanted
          have found := order_of_insert_order_row
            (insertClaimRow tables ⟨event.eventId, event.eventType, .pending⟩ fresh) wanted row
            freshOrder freshSource
          rw [order_row_source fits] at found
          exact (shows_update mirrors.orders event.eventId _ wanted).trans found.symm
  | refused fault fresh reason =>
      have absent : claimOf tables event.eventId = none := lookup_eq_none.mpr fresh
      have alone : Alone state (.store event) (.error fault) _ :=
        raises_alone rest (refusal_raises rest mirrors reason _) (claimed_leads mirrors absent)
      rw [abort_insert rest.claims (claim_unclaimed mirrors absent),
        abort_resting rest.orders] at alone
      refine ⟨_, _, alone, ?_, mirrors_concluded mirrors⟩
      exact concluded_at_rest rest (resting_mono rest.claims (Nat.le_succ _))
        (resting_mono rest.orders (Nat.le_succ _))

/-- A call whose transaction runs alone does what it does as one step. -/
theorem alone_answers (rest : AtRest state) {database : Database}
    (mirrors : Mirrors state database.tables) (op : StoreOp) :
    Answers state op (op.run none database).1 (op.run none database).2.tables := by
  cases op with
  | store event => exact store_answers rest mirrors (store_outcome event database.tables)
  | markCompleted eventId =>
      have answered := mark_answers rest mirrors (mark_outcome eventId database.tables)
      rw [StoreOp.run]
      revert answered
      generalize markCompleted eventId database.tables = reply
      rcases reply with ⟨_ | _, after⟩
      · exact id
      · exact id
  | discard eventId => exact discard_answers rest mirrors eventId

end Calls

section Runs

/-- No transaction is open. -/
def Quiescent (state : Postgres) : Prop := ∀ number, state.running number = none

/-- One transaction at a time. -/
def Serial (state : Postgres) : Label → Prop
  | .start _ => Quiescent state
  | .advance number | .commit number | .abort number =>
      ∀ other, other ≠ number → state.running other = none

variable {state reached : Postgres}

theorem only_elsewhere {before after : Postgres} (led : Leads (Only state) before after)
    (started : ∀ other, other ≠ state.next → before.running other = state.running other) :
    ∀ other, other ≠ state.next → after.running other = state.running other := by
  induction led with
  | refl => exact started
  | tail _ last ih =>
      obtain ⟨label, stepped, same, _⟩ := last
      subst same
      intro other different
      rw [← ih other different]
      cases stepped with
      | advances => exact Function.update_of_ne different _ _
      | raises => exact Function.update_of_ne different _ _

theorem alone_leads {allowed : Postgres → Label → Prop} {op : StoreOp}
    {result : Except Exc op.Ret} (started : allowed state (.start op))
    (inside : ∀ last label, (label = .advance state.next ∨ label = .commit state.next) →
      (∀ other, other ≠ state.next → last.running other = state.running other) →
      allowed last label)
    (alone : Alone state op result reached) : Leads allowed state reached := by
  have first : Leads allowed state (state.start op) := .single ⟨.start op, .starts op, started⟩
  have still : ∀ {last}, Leads (Only state) (state.start op) last →
      ∀ other, other ≠ state.next → last.running other = state.running other := by
    intro last led
    apply only_elsewhere led
    intro other different
    exact Function.update_of_ne different _ _
  have allows : ∀ {last}, Leads (Only state) (state.start op) last → Leads allowed state last := by
    intro last led
    apply first.trans
    apply leads_mono ?_ led
    intro before label only
    exact inside before label (.inl only.1) only.2
  cases alone with
  | returns last now result led opened finished =>
      exact (allows led).tail ⟨.commit state.next, .commits _ now op result opened finished,
        inside _ _ (.inr rfl) (still led)⟩
  | raises last now fault led opened raised =>
      exact (allows led).tail ⟨.advance state.next, .raises _ now fault opened raised,
        inside _ _ (.inl rfl) (still led)⟩

theorem alone_serial (quiescent : Quiescent state) {op : StoreOp} {result : Except Exc op.Ret}
    (alone : Alone state op result reached) : Leads Serial state reached := by
  have started : Serial state (.start op) := quiescent
  apply alone_leads started ?_ alone
  intro last label own still
  rcases own with same | same <;>
  · subst same
    intro other different
    exact (still other different).trans (quiescent other)

/-- Calls made one after the other, each in one step. -/
def serve (ops : List StoreOp) (database : Database) : Database :=
  ops.foldl (fun database op => (op.run none database).2) database

theorem serial_run (ops : List StoreOp) {database : Database} (rest : AtRest state)
    (quiescent : Quiescent state) (mirrors : Mirrors state database.tables) :
    ∃ reached, Leads Serial state reached ∧ Quiescent reached ∧
      Mirrors reached (serve ops database).tables := by
  induction ops generalizing state database with
  | nil => exact ⟨state, .refl, quiescent, mirrors⟩
  | cons op ops ih =>
      obtain ⟨claims, orders, alone, restAfter, mirrorsAfter⟩ := alone_answers rest mirrors op
      obtain ⟨reached, led, final⟩ := ih restAfter quiescent mirrorsAfter
      exact ⟨reached, (alone_serial quiescent alone).trans led, final⟩

theorem empty_at_rest : AtRest emptyPostgres := by
  constructor
  case unused =>
    intro number _
    rfl
  all_goals
    intro key version contrary
    cases contrary

theorem empty_mirrors : Mirrors emptyPostgres emptyTables := by
  constructor <;>
  · intro key
    exact (lookup_eq_none.mpr (by simp [emptyTables])).symm

/-- Every sequence of calls is the run that opens one transaction at a time. -/
theorem serial_reaches (ops : List StoreOp) :
    ∃ state, Reaches Serial state ∧ Quiescent state ∧
      Mirrors state (serve ops ⟨emptyTables, []⟩).tables :=
  serial_run ops empty_at_rest (fun _ => rfl) empty_mirrors

end Runs

end OrderMessaging.Processing.ConcurrentSerial
