import OrderMessaging.Processing.ConcurrentStore

/-!
What holds of the two tables while transactions interleave: what an event can
look like in them, what each open transaction may rely on about its own event,
and what of it survives the steps of the others.
-/

namespace OrderMessaging.Processing.ConcurrentInvariant

open OrderMessaging.ReadCommitted OrderMessaging.Contracts.Models
open OrderMessaging.Processing.PostgresOrderStore OrderMessaging.Processing.ConcurrentStore

set_option autoImplicit false

section Cells

/-- What the two tables hold for one event. -/
structure Cell where
  claim : Option (Version ProcessedEventRow)
  order : Option (Version OrderRow)

def Cell.commit (transaction : Nat) (cell : Cell) : Cell :=
  ⟨cell.claim.bind (Version.commit transaction), cell.order.bind (Version.commit transaction)⟩

def Cell.abort (transaction : Nat) (cell : Cell) : Cell :=
  ⟨cell.claim.bind (Version.abort transaction), cell.order.bind (Version.abort transaction)⟩

variable (running : Nat → Option Transaction) (next : Nat)

/-- A version's inserter, once the version can be seen, has ended. -/
def Ended (owner : Nat) : Prop := owner < next ∧ running owner = none

def SeenEnded (seen : Option Nat) : Prop := ∀ owner, seen = some owner → Ended running next owner

/-- The discard has marked the order of the event for deletion. -/
def Deletes (eventId : Uuid) : Transaction → Prop
  | .ordersDeleted other | .deletingClaims other _ | .claimsDeleted other => other = eventId
  | _ => False

inductive OrderHolder (eventId : Uuid) : Option (Nat × Change OrderRow) → Prop where
  | free : OrderHolder eventId none
  | deleted (number : Nat) (now : Transaction) (opened : running number = some now)
      (deletes : Deletes eventId now) : OrderHolder eventId (some (number, .delete))

inductive ClaimHolder (eventId : Uuid) : Option (Nat × Change ProcessedEventRow) → Prop where
  | free : ClaimHolder eventId none
  | locked (number : Nat) (event : OrderCreatedEvent) (status : Status)
      (opened : running number = some (.selected event status)) (own : event.eventId = eventId) :
      ClaimHolder eventId (some (number, .lock))
  | completed (number : Nat) (row : ProcessedEventRow)
      (opened : running number = some (.updated eventId)) (keyed : row.eventId = eventId) :
      ClaimHolder eventId (some (number, .update row))
  | deleted (number : Nat) (opened : running number = some (.claimsDeleted eventId)) :
      ClaimHolder eventId (some (number, .delete))

/-- A stored event: both rows come from one ended transaction, and a transaction
that deletes the claim deletes the order as well. -/
structure Settled (eventId : Uuid) (claim : Version ProcessedEventRow) (order : Version OrderRow) :
    Prop where
  claimCommitted : claim.committed = true
  orderCommitted : order.committed = true
  sameOwner : claim.owner = order.owner
  ended : Ended running next order.owner
  keyed : claim.row.eventId = eventId
  source : order.row.sourceEventId = eventId
  holdsClaim : ClaimHolder running eventId claim.holder
  holdsOrder : OrderHolder running eventId order.holder
  deleted : ∀ number, claim.holder = some (number, .delete) → order.holder = some (number, .delete)

/-- The four things an event can look like in the two tables. -/
inductive Shape (eventId : Uuid) : Cell → Prop where
  | absent : Shape eventId ⟨none, none⟩
  | claiming (number : Nat) (event : OrderCreatedEvent) (claim : ProcessedEventRow)
      (opened : running number = some (.claimed event)) (own : event.eventId = eventId)
      (keyed : claim.eventId = eventId) : Shape eventId ⟨some (.fresh number claim), none⟩
  | storing (number : Nat) (event : OrderCreatedEvent) (claim : ProcessedEventRow)
      (order : OrderRow)
      (opened : running number = some (.inserted event)) (own : event.eventId = eventId)
      (keyed : claim.eventId = eventId) (source : order.sourceEventId = eventId) :
      Shape eventId ⟨some (.fresh number claim), some (.fresh number order)⟩
  | settled (claim : Version ProcessedEventRow) (order : Version OrderRow)
      (settled : Settled running next eventId claim order) : Shape eventId ⟨some claim, some order⟩

/-- What an open transaction may rely on about the event it touches. -/
def Obligation (cell : Cell) (number : Nat) : Transaction → Prop
  | .claimed _ => ∃ claim, cell.claim = some (.fresh number claim)
  | .inserted _ => ∃ claim, cell.claim = some (.fresh number claim)
  | .selecting _ seen => SeenEnded running next seen
  | .updating _ seen => SeenEnded running next seen
  | .deletingOrders _ seen => SeenEnded running next seen ∧
      ∀ order, cell.order = some order → order.committed = true → seen = some order.owner
  | .ordersDeleted _ =>
      ∀ order, cell.order = some order → order.committed = true →
        order.holder = some (number, .delete)
  | .deletingClaims _ seen => SeenEnded running next seen ∧
      ∀ order, cell.order = some order → order.committed = true →
        (order.holder = some (number, .delete) ↔ seen = some order.owner)
  | .claimsDeleted _ =>
      ∀ claim order, cell.claim = some claim → cell.order = some order →
        order.holder = some (number, .delete) → claim.holder = some (number, .delete)
  | _ => True

structure Sound (eventId : Uuid) (cell : Cell) : Prop where
  shape : Shape running next eventId cell
  obliged : ∀ number now, running number = some now → now.eventId = eventId →
    Obligation running next cell number now

end Cells

def cell (state : Postgres) (eventId : Uuid) : Cell := ⟨state.claims eventId, state.orders eventId⟩

structure Coherent (state : Postgres) : Prop where
  sound : ∀ eventId, Sound state.running state.next eventId (cell state eventId)
  numbered : ∀ number now, state.running number = some now → number < state.next

section Frame

variable {running later : Nat → Option Transaction} {next after : Nat} {eventId : Uuid}

theorem seen_ended_mono (ended : ∀ owner, Ended running next owner → Ended later after owner)
    {seen : Option Nat} (seenEnded : SeenEnded running next seen) : SeenEnded later after seen := by
  intro owner same
  exact ended owner (seenEnded owner same)

theorem obligation_mono (ended : ∀ owner, Ended running next owner → Ended later after owner)
    {cell : Cell} {number : Nat} {now : Transaction}
    (obliged : Obligation running next cell number now) :
    Obligation later after cell number now := by
  cases now with
  | selecting _ seen | updating _ seen => exact seen_ended_mono ended obliged
  | deletingOrders _ seen | deletingClaims _ seen =>
      exact ⟨seen_ended_mono ended obliged.1, obliged.2⟩
  | _ => exact obliged

theorem deletes_event_id {now : Transaction} (deletes : Deletes eventId now) :
    now.eventId = eventId := by
  cases now with
  | ordersDeleted other | deletingClaims other _ | claimsDeleted other => exact deletes
  | _ => cases deletes

theorem claim_holder_mono
    (keeps : ∀ number now, now.eventId = eventId → running number = some now →
      later number = some now)
    {holder : Option (Nat × Change ProcessedEventRow)}
    (holds : ClaimHolder running eventId holder) :
    ClaimHolder later eventId holder := by
  cases holds with
  | free => exact .free
  | locked number event status opened own =>
      exact .locked number event status (keeps _ (.selected event status) own opened) own
  | completed number row opened keyed =>
      exact .completed number row (keeps _ _ rfl opened) keyed
  | deleted number opened => exact .deleted number (keeps _ _ rfl opened)

theorem order_holder_mono
    (keeps : ∀ number now, now.eventId = eventId → running number = some now →
      later number = some now)
    {holder : Option (Nat × Change OrderRow)} (holds : OrderHolder running eventId holder) :
    OrderHolder later eventId holder := by
  cases holds with
  | free => exact .free
  | deleted number now opened deletes =>
      exact .deleted number now (keeps _ _ (deletes_event_id deletes) opened) deletes

theorem shape_mono {cell : Cell}
    (keeps : ∀ number now, now.eventId = eventId → running number = some now →
      later number = some now)
    (ended : ∀ owner, Ended running next owner → Ended later after owner)
    (shape : Shape running next eventId cell) : Shape later after eventId cell := by
  cases shape with
  | absent => exact .absent
  | claiming number event claim opened own keyed =>
      exact .claiming number event claim (keeps _ (.claimed event) own opened) own keyed
  | storing number event claim order opened own keyed source =>
      have still := keeps _ (.inserted event) own opened
      exact .storing number event claim order still own keyed source
  | settled claim order settled =>
      apply Shape.settled claim order
      exact ⟨settled.claimCommitted, settled.orderCommitted, settled.sameOwner,
        ended _ settled.ended, settled.keyed, settled.source,
        claim_holder_mono keeps settled.holdsClaim, order_holder_mono keeps settled.holdsOrder,
        settled.deleted⟩

/-- A step of another event's transaction leaves an event as it was. -/
theorem sound_elsewhere {cell : Cell}
    (keeps : ∀ number now, now.eventId = eventId →
      (running number = some now ↔ later number = some now))
    (ended : ∀ owner, Ended running next owner → Ended later after owner)
    (sound : Sound running next eventId cell) : Sound later after eventId cell := by
  constructor
  case shape =>
    apply shape_mono ?_ ended sound.shape
    intro number now own
    exact (keeps number now own).mp
  case obliged =>
    intro number now opened own
    exact obligation_mono ended (sound.obliged number now ((keeps number now own).mpr opened) own)

variable {transaction : Nat} {now : Transaction}

theorem ended_update (opened : running transaction = some now) (result : Option Transaction)
    (owner : Nat) (ended : Ended running next owner) :
    Ended (Function.update running transaction result) next owner := by
  refine ⟨ended.1, ?_⟩
  have other : owner ≠ transaction := by
    intro same
    have stopped := ended.2
    rw [same, opened] at stopped
    cases stopped
  rw [Function.update_of_ne other]
  exact ended.2

theorem claim_holder_update {holder : Option (Nat × Change ProcessedEventRow)}
    (holds : ClaimHolder running eventId holder) (result : Option Transaction)
    (other : ∀ change, holder ≠ some (transaction, change)) :
    ClaimHolder (Function.update running transaction result) eventId holder := by
  have differs : ∀ number change, holder = some (number, change) →
      Function.update running transaction result number = running number := by
    intro number change held
    apply Function.update_of_ne
    intro same
    rw [same] at held
    exact other change held
  cases holds with
  | free => exact .free
  | locked number event status opened own =>
      exact .locked number event status ((differs number _ rfl).trans opened) own
  | completed number row opened keyed =>
      exact .completed number row ((differs number _ rfl).trans opened) keyed
  | deleted number opened => exact .deleted number ((differs number _ rfl).trans opened)

theorem order_holder_update {holder : Option (Nat × Change OrderRow)}
    (holds : OrderHolder running eventId holder) (result : Option Transaction)
    (own : holder = some (transaction, .delete) →
      ∃ later, result = some later ∧ Deletes eventId later) :
    OrderHolder (Function.update running transaction result) eventId holder := by
  cases holds with
  | free => exact .free
  | deleted number before opened deletes =>
      by_cases same : number = transaction
      · subst same
        obtain ⟨later, moved, still⟩ := own rfl
        apply OrderHolder.deleted number later ?_ still
        rw [Function.update_self, moved]
      · apply OrderHolder.deleted number before ?_ deletes
        rw [Function.update_of_ne same, opened]

/-- One transaction's step at the event it touches: the other transactions there
keep their obligations. -/
theorem sound_step {before reached : Cell} {result : Option Transaction}
    (sound : Sound running next eventId before) (opened : running transaction = some now)
    (shape : Shape (Function.update running transaction result) next eventId reached)
    (own : ∀ later, result = some later → Obligation running next reached transaction later)
    (others : ∀ number other, number ≠ transaction → running number = some other →
      Obligation running next before number other → Obligation running next reached number other) :
    Sound (Function.update running transaction result) next eventId reached := by
  refine ⟨shape, ?_⟩
  intro number other current same
  apply obligation_mono (ended_update opened result)
  by_cases mine : number = transaction
  · subst mine
    rw [Function.update_self] at current
    exact own other current
  · rw [Function.update_of_ne mine] at current
    exact others number other mine current (sound.obliged number other current same)

end Frame

section Cases

variable {running : Nat → Option Transaction} {next : Nat} {eventId : Uuid} {cell : Cell}

/-- The transactions that may hold a claim. -/
def HoldsClaim : Transaction → Prop
  | .selected _ _ | .updated _ | .claimsDeleted _ => True
  | _ => False

theorem claim_holder_holds {holder : Nat} {change : Change ProcessedEventRow}
    (holds : ClaimHolder running eventId (some (holder, change))) :
    ∃ now, running holder = some now ∧ HoldsClaim now := by
  cases holds with
  | locked _ event status opened own => exact ⟨_, opened, trivial⟩
  | completed _ row opened keyed => exact ⟨_, opened, trivial⟩
  | deleted _ opened => exact ⟨_, opened, trivial⟩

theorem order_holder_deletes {holder : Nat} {change : Change OrderRow}
    (holds : OrderHolder running eventId (some (holder, change))) :
    change = .delete ∧ ∃ now, running holder = some now ∧ Deletes eventId now := by
  cases holds with
  | deleted _ now opened deletes => exact ⟨rfl, now, opened, deletes⟩

theorem settled_of_claim (shape : Shape running next eventId cell)
    {claim : Version ProcessedEventRow} (held : cell.claim = some claim)
    (ended : Ended running next claim.owner) :
    ∃ order, cell = ⟨some claim, some order⟩ ∧ Settled running next eventId claim order := by
  cases shape with
  | absent => cases held
  | claiming number event claim opened own keyed =>
      cases held
      have stopped : running number = none := ended.2
      rw [opened] at stopped
      cases stopped
  | storing number event claim order opened own keyed source =>
      cases held
      have stopped : running number = none := ended.2
      rw [opened] at stopped
      cases stopped
  | settled claim order settled =>
      cases held
      exact ⟨order, rfl, settled⟩

theorem settled_of_order (shape : Shape running next eventId cell) {order : Version OrderRow}
    (held : cell.order = some order) (committed : order.committed = true) :
    ∃ claim, cell = ⟨some claim, some order⟩ ∧ Settled running next eventId claim order := by
  cases shape with
  | absent | claiming => cases held
  | storing number event claim row opened own keyed source =>
      cases held
      cases committed
  | settled claim order settled =>
      cases held
      exact ⟨claim, rfl, settled⟩

theorem settled_of_ended_order (shape : Shape running next eventId cell)
    {order : Version OrderRow} (held : cell.order = some order)
    (ended : Ended running next order.owner) :
    ∃ claim, cell = ⟨some claim, some order⟩ ∧ Settled running next eventId claim order := by
  apply settled_of_order shape held
  cases shape with
  | absent | claiming => cases held
  | storing number event claim row opened own keyed source =>
      cases held
      have stopped : running number = none := ended.2
      rw [opened] at stopped
      cases stopped
  | settled claim order settled =>
      cases held
      exact settled.orderCommitted

theorem settled_of_held_order (shape : Shape running next eventId cell)
    {order : Version OrderRow} (held : cell.order = some order)
    {holding : Nat × Change OrderRow} (holder : order.holder = some holding) :
    ∃ claim, cell = ⟨some claim, some order⟩ ∧ Settled running next eventId claim order := by
  apply settled_of_order shape held
  cases shape with
  | absent | claiming => cases held
  | storing number event claim row opened own keyed source =>
      cases held
      cases holder
  | settled claim order settled =>
      cases held
      exact settled.orderCommitted

variable {transaction : Nat} {now : Transaction}

theorem claim_free {claim : Version ProcessedEventRow} (opened : running transaction = some now)
    (idle : ¬ HoldsClaim now) (holds : ClaimHolder running eventId claim.holder)
    (free : ¬ claim.HeldByOther transaction) : claim.holder = none := by
  cases held : claim.holder with
  | none => rfl
  | some holding =>
      rcases holding with ⟨holder, change⟩
      rw [held] at holds
      obtain ⟨other, running, holdsClaim⟩ := claim_holder_holds holds
      by_cases same : holder = transaction
      · rw [same, opened] at running
        cases running
        exact absurd holdsClaim idle
      · exact absurd ⟨holder, change, held, same⟩ free

theorem order_free {order : Version OrderRow} (opened : running transaction = some now)
    (idle : ¬ Deletes eventId now) (holds : OrderHolder running eventId order.holder)
    (free : ¬ order.HeldByOther transaction) : order.holder = none := by
  cases held : order.holder with
  | none => rfl
  | some holding =>
      rcases holding with ⟨holder, change⟩
      rw [held] at holds
      obtain ⟨_, other, running, deletes⟩ := order_holder_deletes holds
      by_cases same : holder = transaction
      · rw [same, opened] at running
        cases running
        exact absurd deletes idle
      · exact absurd ⟨holder, change, held, same⟩ free

/-- What the transaction sees of a settled event, or of none, has ended. -/
theorem visible_claim_ended (shape : Shape running next eventId cell)
    (opened : running transaction = some now)
    (quiet : ∀ event, now ≠ .claimed event ∧ now ≠ .inserted event)
    {claims : Claims} (here : claims eventId = cell.claim) :
    SeenEnded running next (visible transaction claims eventId) := by
  intro owner seen
  unfold visible at seen
  rw [here] at seen
  obtain ⟨claim, held, shown⟩ := Option.bind_eq_some_iff.mp seen
  cases shape with
  | absent => cases held
  | claiming number event row current own keyed =>
      cases held
      obtain ⟨mine, same⟩ : number = transaction ∧ number = owner := by
        simpa [Version.fresh] using shown
      rw [mine, opened] at current
      cases current
      exact absurd rfl (quiet event).1
  | storing number event row order current own keyed source =>
      cases held
      obtain ⟨mine, same⟩ : number = transaction ∧ number = owner := by
        simpa [Version.fresh] using shown
      rw [mine, opened] at current
      cases current
      exact absurd rfl (quiet event).2
  | settled claim order settled =>
      cases held
      rw [if_pos (.inl settled.claimCommitted)] at shown
      injection shown with same
      rw [← same, settled.sameOwner]
      exact settled.ended

theorem visible_order_ended (shape : Shape running next eventId cell)
    (opened : running transaction = some now) (quiet : ∀ event, now ≠ .inserted event)
    {orders : Orders} (here : orders eventId = cell.order) :
    SeenEnded running next (visible transaction orders eventId) := by
  intro owner seen
  unfold visible at seen
  rw [here] at seen
  obtain ⟨order, held, shown⟩ := Option.bind_eq_some_iff.mp seen
  cases shape with
  | absent | claiming => cases held
  | storing number event row order current own keyed source =>
      cases held
      obtain ⟨mine, same⟩ : number = transaction ∧ number = owner := by
        simpa [Version.fresh] using shown
      rw [mine, opened] at current
      cases current
      exact absurd rfl (quiet event)
  | settled claim order settled =>
      cases held
      rw [if_pos (.inl settled.orderCommitted)] at shown
      injection shown with same
      rw [← same]
      exact settled.ended

end Cases

end OrderMessaging.Processing.ConcurrentInvariant
