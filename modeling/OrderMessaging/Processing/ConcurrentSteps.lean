import OrderMessaging.Processing.ConcurrentInvariant

/-!
What each step does to the event its transaction touches: one statement, a
rollback, or a commit. Every one preserves the invariant there, except the commit
of a new order between the two deletes of a discard of its event.
-/

namespace OrderMessaging.Processing.ConcurrentSteps

open OrderMessaging.ReadCommitted OrderMessaging.Contracts.Models
open OrderMessaging.Processing.PostgresOrderStore OrderMessaging.Processing.StoreOperations
open OrderMessaging.Processing.ConcurrentStore OrderMessaging.Processing.ConcurrentInvariant

set_option autoImplicit false

/-- The discard has begun its first DELETE and not yet its second. -/
def BetweenDeletes (eventId : Uuid) : Transaction → Prop
  | .deletingOrders other _ | .ordersDeleted other => other = eventId
  | _ => False

section Statements

variable {running : Nat → Option Transaction} {next : Nat} {eventId : Uuid}
variable {transaction : Nat} {now later : Transaction}

theorem claim_holder_idle {holder : Option (Nat × Change ProcessedEventRow)}
    (holds : ClaimHolder running eventId holder) (opened : running transaction = some now)
    (idle : ¬ HoldsClaim now) (change : Change ProcessedEventRow) :
    holder ≠ some (transaction, change) := by
  intro held
  subst held
  obtain ⟨other, current, holdsClaim⟩ := claim_holder_holds holds
  rw [opened] at current
  cases current
  exact idle holdsClaim

theorem order_holder_moves {holder : Option (Nat × Change OrderRow)}
    (holds : OrderHolder running eventId holder) (opened : running transaction = some now)
    (moves : Deletes eventId now → Deletes eventId later) :
    OrderHolder (Function.update running transaction (some later)) eventId holder := by
  apply order_holder_update holds
  intro held
  subst held
  obtain ⟨_, other, current, deletes⟩ := order_holder_deletes holds
  rw [opened] at current
  cases current
  exact ⟨later, rfl, moves deletes⟩

/-- A statement that changes neither row of the event. -/
theorem sound_moves {cell : Cell} (sound : Sound running next eventId cell)
    (opened : running transaction = some now)
    (quiet : ∀ event, now ≠ .claimed event ∧ now ≠ .inserted event) (idle : ¬ HoldsClaim now)
    (moves : Deletes eventId now → Deletes eventId later)
    (own : Obligation running next cell transaction later) :
    Sound (Function.update running transaction (some later)) next eventId cell := by
  have differs : ∀ number other, running number = some other → other ≠ now →
      Function.update running transaction (some later) number = some other := by
    intro number other current different
    rw [Function.update_of_ne, current]
    intro same
    rw [same, opened] at current
    exact different (Option.some.inj current).symm
  apply sound_step sound opened
  · cases sound.shape with
    | absent => exact .absent
    | claiming number event claim current mine keyed =>
        exact .claiming number event claim
          (differs _ _ current fun same => (quiet event).1 same.symm) mine keyed
    | storing number event claim order current mine keyed source =>
        exact .storing number event claim order
          (differs _ _ current fun same => (quiet event).2 same.symm) mine keyed source
    | settled claim order settled =>
        apply Shape.settled claim order
        exact ⟨settled.claimCommitted, settled.orderCommitted, settled.sameOwner,
          ended_update opened _ _ settled.ended, settled.keyed, settled.source,
          claim_holder_update settled.holdsClaim _
            (claim_holder_idle settled.holdsClaim opened idle),
          order_holder_moves settled.holdsOrder opened moves, settled.deleted⟩
  · intro moved same
    cases same
    exact own
  · intro number other _ _ obliged
    exact obliged

theorem obligation_hold_claim {claim : Version ProcessedEventRow} {order : Version OrderRow}
    {number : Nat} {other : Transaction} (committed : claim.committed = true)
    (free : claim.holder = none) (change : Change ProcessedEventRow)
    (obliged : Obligation running next ⟨some claim, some order⟩ number other) :
    Obligation running next ⟨some (claim.hold transaction change), some order⟩ number other := by
  cases other with
  | claimed | inserted =>
      obtain ⟨row, same⟩ := obliged
      cases same
      cases committed
  | claimsDeleted =>
      intro held row sameClaim sameOrder deletes
      have before := obliged claim row rfl sameOrder deletes
      rw [free] at before
      cases before
  | _ => exact obliged

theorem obligation_hold_order {claim : Version ProcessedEventRow} {order : Version OrderRow}
    {number : Nat} {other : Transaction} (different : number ≠ transaction)
    (committed : order.committed = true) (free : order.holder = none)
    (obliged : Obligation running next ⟨some claim, some order⟩ number other) :
    Obligation running next ⟨some claim, some (order.hold transaction .delete)⟩ number other := by
  have foreign : (order.hold transaction .delete).holder ≠ some (number, .delete) := by
    intro same
    cases same
    exact different rfl
  cases other with
  | deletingOrders =>
      refine ⟨obliged.1, ?_⟩
      intro row same _
      cases same
      exact obliged.2 order rfl committed
  | ordersDeleted =>
      have before := obliged order rfl committed
      rw [free] at before
      cases before
  | deletingClaims =>
      refine ⟨obliged.1, ?_⟩
      intro row same _
      cases same
      have before := obliged.2 order rfl committed
      rw [free] at before
      constructor
      · intro deletes
        exact absurd deletes foreign
      · intro seen
        cases before.mpr seen
  | claimsDeleted =>
      intro held row sameClaim sameOrder deletes
      cases sameOrder
      exact absurd deletes foreign
  | _ => exact obliged

theorem sound_hold_claim (later : Transaction) {claim : Version ProcessedEventRow}
    {order : Version OrderRow}
    (sound : Sound running next eventId ⟨some claim, some order⟩)
    (settled : Settled running next eventId claim order) (opened : running transaction = some now)
    (free : claim.holder = none) (change : Change ProcessedEventRow)
    (moves : Deletes eventId now → Deletes eventId later)
    (holds : ClaimHolder (Function.update running transaction (some later)) eventId
      (some (transaction, change)))
    (deletes : change = .delete → order.holder = some (transaction, .delete))
    (own : Obligation running next ⟨some (claim.hold transaction change), some order⟩ transaction
      later) :
    Sound (Function.update running transaction (some later)) next eventId
      ⟨some (claim.hold transaction change), some order⟩ := by
  apply sound_step sound opened
  · apply Shape.settled
    refine ⟨settled.claimCommitted, settled.orderCommitted, settled.sameOwner,
      ended_update opened _ _ settled.ended, settled.keyed, settled.source, holds,
      order_holder_moves settled.holdsOrder opened moves, ?_⟩
    intro number held
    cases held
    exact deletes rfl
  · intro moved same
    cases same
    exact own
  · intro number other _ _ obliged
    exact obligation_hold_claim settled.claimCommitted free change obliged

theorem sound_hold_order (later : Transaction) {claim : Version ProcessedEventRow}
    {order : Version OrderRow}
    (sound : Sound running next eventId ⟨some claim, some order⟩)
    (settled : Settled running next eventId claim order) (opened : running transaction = some now)
    (idle : ¬ HoldsClaim now) (free : order.holder = none) (deletes : Deletes eventId later)
    (own : Obligation running next ⟨some claim, some (order.hold transaction .delete)⟩ transaction
      later) :
    Sound (Function.update running transaction (some later)) next eventId
      ⟨some claim, some (order.hold transaction .delete)⟩ := by
  apply sound_step sound opened
  · apply Shape.settled
    refine ⟨settled.claimCommitted, settled.orderCommitted, settled.sameOwner,
      ended_update opened _ _ settled.ended, settled.keyed, settled.source,
      claim_holder_update settled.holdsClaim _ (claim_holder_idle settled.holdsClaim opened idle),
      .deleted transaction later (Function.update_self ..) deletes, ?_⟩
    intro number held
    have both := settled.deleted number held
    rw [free] at both
    cases both
  · intro moved same
    cases same
    exact own
  · intro number other different _ obliged
    exact obligation_hold_order different settled.orderCommitted free obliged

/-- The claim insert: nothing of the event is there, and then its claim. -/
theorem sound_insert_claim {cell : Cell} {event : OrderCreatedEvent} (claim : ProcessedEventRow)
    (sound : Sound running next event.eventId cell)
    (opened : running transaction = some (.store event)) (absent : cell.claim = none)
    (keyed : claim.eventId = event.eventId) :
    Sound (Function.update running transaction (some (.claimed event))) next event.eventId
      ⟨some (.fresh transaction claim), cell.order⟩ := by
  have noOrder : cell.order = none := by
    cases sound.shape with
    | absent => rfl
    | claiming | storing | settled => cases absent
  rw [noOrder]
  apply sound_step sound opened
  · exact .claiming transaction event claim (Function.update_self ..) rfl keyed
  · intro moved same
    cases same
    exact ⟨claim, rfl⟩
  · intro number other _ _ obliged
    cases other with
    | claimed | inserted =>
        obtain ⟨row, held⟩ := obliged
        rw [absent] at held
        cases held
    | deletingOrders | deletingClaims =>
        refine ⟨obliged.1, ?_⟩
        intro order held
        cases held
    | ordersDeleted =>
        intro order held
        cases held
    | claimsDeleted =>
        intro held order _ none
        cases none
    | _ => exact obliged

/-- The order insert of a claimed event: the order joins its claim, both uncommitted. -/
theorem sound_insert_order {cell : Cell} {event : OrderCreatedEvent} {order : OrderRow}
    (sound : Sound running next event.eventId cell)
    (opened : running transaction = some (.claimed event))
    (source : order.sourceEventId = event.eventId) :
    Sound (Function.update running transaction (some (.inserted event))) next event.eventId
      ⟨cell.claim, some (.fresh transaction order)⟩ := by
  obtain ⟨claim, held⟩ := sound.obliged transaction _ opened rfl
  have keyed : claim.eventId = event.eventId := by
    cases sound.shape with
    | absent => cases held
    | claiming _ _ _ _ _ keyed | storing _ _ _ _ _ _ keyed _ =>
        cases held
        exact keyed
    | settled _ _ settled =>
        cases held
        cases settled.claimCommitted
  rw [held]
  apply sound_step sound opened
  · exact .storing transaction event claim order (Function.update_self ..) rfl keyed source
  · intro moved same
    cases same
    exact ⟨claim, rfl⟩
  · intro number other different _ obliged
    cases other with
    | claimed | inserted =>
        obtain ⟨row, again⟩ := obliged
        rw [held] at again
        injection again with same
        injection same with _ owner
        exact absurd owner.symm different
    | deletingOrders | deletingClaims =>
        refine ⟨obliged.1, ?_⟩
        intro row same committed
        cases same
        cases committed
    | ordersDeleted =>
        intro row same committed
        cases same
        cases committed
    | claimsDeleted =>
        intro _ row _ same deletes
        cases same
        cases deletes
    | _ => exact obliged

variable {claims claimsAfter : Claims} {orders ordersAfter : Orders}

theorem hold_row_here {Row : Type} {rows : Rows Uuid Row} {held : Version Row}
    (present : rows eventId = some held) (change : Change Row) :
    holdRow transaction change eventId rows eventId = some (held.hold transaction change) := by
  unfold holdRow
  rw [Function.update_self, present]
  rfl

/-- A statement that takes hold of the claim it saw. -/
theorem sound_holds (later : Transaction) {held : Version ProcessedEventRow}
    (sound : Sound running next eventId ⟨claims eventId, orders eventId⟩)
    (opened : running transaction = some now) (idle : ¬ HoldsClaim now)
    (present : claims eventId = some held) (ended : Ended running next held.owner)
    (free : ¬ held.HeldByOther transaction) (change : Change ProcessedEventRow)
    (moves : Deletes eventId now → Deletes eventId later)
    (holds : held.row.eventId = eventId →
      ClaimHolder (Function.update running transaction (some later)) eventId
        (some (transaction, change)))
    (deletes : change = .delete → ∀ order, orders eventId = some order →
      Settled running next eventId held order → order.holder = some (transaction, .delete))
    (own : ∀ order, Obligation running next ⟨some (held.hold transaction change), some order⟩
      transaction later) :
    Sound (Function.update running transaction (some later)) next eventId
      ⟨holdRow transaction change eventId claims eventId, orders eventId⟩ := by
  obtain ⟨order, whole, settled⟩ := settled_of_claim sound.shape present ended
  have unheld := claim_free opened idle settled.holdsClaim free
  injection whole with sameClaim sameOrder
  rw [sameClaim, sameOrder] at sound
  rw [hold_row_here present, sameOrder]
  apply sound_hold_claim later sound settled opened unheld change moves (holds settled.keyed) ?_
    (own order)
  intro deletion
  exact deletes deletion order sameOrder settled

/-- What one statement preserves at its event. -/
theorem statement_sound
    (sound : Sound running next now.eventId ⟨claims now.eventId, orders now.eventId⟩)
    (opened : running transaction = some now)
    (performed : Statement transaction claims orders now claimsAfter ordersAfter later) :
    Sound (Function.update running transaction (some later)) next now.eventId
      ⟨claimsAfter now.eventId, ordersAfter now.eventId⟩ := by
  have obliged := sound.obliged transaction now opened rfl
  cases performed with
  | insertClaim event absent =>
      have inserted := sound_insert_claim ⟨event.eventId, event.eventType, .pending⟩ sound opened
        absent rfl
      simp only [Transaction.eventId, insertRow, Function.update_self]
      exact inserted
  | doNothing event held present settled =>
      exact sound_moves sound opened (by simp) id False.elim trivial
  | insertOrder event row fits freshSource freshOrder =>
      have inserted := sound_insert_order sound opened (order_row_source fits)
      simp only [Transaction.eventId, insertRow, Function.update_self]
      exact inserted
  | select event =>
      apply sound_moves sound opened (by simp) id False.elim
      exact visible_claim_ended sound.shape opened (by simp) rfl
  | update eventId =>
      apply sound_moves sound opened (by simp) id False.elim
      exact visible_claim_ended sound.shape opened (by simp) rfl
  | selectForUpdate event seen held meets free =>
      apply sound_holds (.selected event held.row.status) sound opened id meets.1
        (obliged held.owner meets.2) free .lock False.elim
      · intro _
        exact .locked transaction event _ (Function.update_self ..) rfl
      · intro contrary
        cases contrary
      · intro order
        trivial
  | setCompleted eventId seen held meets free =>
      apply sound_holds (.updated eventId) sound opened id meets.1 (obliged held.owner meets.2)
        free (.update (complete eventId held.row)) False.elim
      · intro keyed
        have still := (complete_event_id eventId held.row).trans keyed
        exact .completed transaction _ (Function.update_self ..) still
      · intro contrary
        cases contrary
      · intro order
        trivial
  | deleteOrders eventId =>
      apply sound_moves sound opened (by simp) id False.elim
      refine ⟨visible_order_ended sound.shape opened (by simp) rfl, ?_⟩
      intro order held committed
      have present : orders eventId = some order := held
      simp only [visible, present, Option.bind_some, committed, true_or, if_true]
  | orderDeleted eventId seen held meets free =>
      have ended : Ended running next held.owner := obliged.1 held.owner meets.2
      obtain ⟨claim, whole, settled⟩ := settled_of_ended_order sound.shape meets.1 ended
      have unheld := order_free opened id settled.holdsOrder free
      rw [whole] at sound
      injection whole with sameClaim _
      have deleted := sound_hold_order (.ordersDeleted eventId) sound settled opened id
        unheld rfl (by
          intro order same _
          cases same
          rfl)
      simp only [Transaction.eventId] at sameClaim ⊢
      rw [hold_row_here meets.1, sameClaim]
      exact deleted
  | noOrder eventId seen misses =>
      apply sound_moves sound opened (by simp) id False.elim
      intro order held committed
      exact absurd (obliged.2 order held committed) (misses order held)
  | deleteClaims eventId =>
      refine sound_moves sound opened (by simp) id (fun deletes => deletes) ?_
      refine ⟨visible_claim_ended sound.shape opened (by simp) rfl, ?_⟩
      intro order held committed
      obtain ⟨claim, whole, settled⟩ := settled_of_order sound.shape held committed
      injection whole with sameClaim _
      have present : claims eventId = some claim := sameClaim
      have seen : visible transaction claims eventId = some order.owner := by
        simp only [visible, present, Option.bind_some, settled.claimCommitted, true_or, if_true,
          settled.sameOwner]
      exact ⟨fun _ => seen, fun _ => obliged order held committed⟩
  | claimDeleted eventId seen held meets free =>
      apply sound_holds (.claimsDeleted eventId) sound opened id meets.1
        (obliged.1 held.owner meets.2) free .delete id
      · intro _
        exact .deleted transaction (Function.update_self ..)
      · intro _ order present settled
        have owned : seen = some order.owner := by rw [meets.2, settled.sameOwner]
        exact (obliged.2 order present settled.orderCommitted).mpr owned
      · intro order claim row same _ _
        cases same
        rfl
  | noClaim eventId seen misses =>
      refine sound_moves sound opened (by simp) id (fun deletes => deletes) ?_
      intro claim order heldClaim heldOrder deletes
      obtain ⟨_, whole, settled⟩ := settled_of_held_order sound.shape heldOrder deletes
      injection whole with sameClaim _
      rw [sameClaim] at heldClaim
      cases heldClaim
      have seenOwner := (obliged.2 order heldOrder settled.orderCommitted).mp deletes
      exact absurd (seenOwner.trans (congrArg some settled.sameOwner.symm)) (misses _ sameClaim)

end Statements

section Endings

variable {running : Nat → Option Transaction} {next : Nat} {eventId : Uuid}
variable {transaction : Nat} {now : Transaction}

/-- The event is gone, and the transaction that ends is the only one that had inserted it. -/
theorem sound_removed {cell : Cell} (sound : Sound running next eventId cell)
    (opened : running transaction = some now)
    (mine : ∀ number claim, cell.claim = some (.fresh number claim) → number = transaction) :
    Sound (Function.update running transaction none) next eventId ⟨none, none⟩ := by
  apply sound_step sound opened .absent
  · intro later contrary
    cases contrary
  · intro number other different _ obliged
    cases other with
    | claimed | inserted =>
        obtain ⟨claim, held⟩ := obliged
        exact absurd (mine number claim held) different
    | deletingOrders | deletingClaims =>
        refine ⟨obliged.1, ?_⟩
        intro order contrary
        cases contrary
    | ordersDeleted =>
        intro order contrary
        cases contrary
    | claimsDeleted =>
        intro claim order contrary
        cases contrary
    | _ => exact obliged

theorem claim_holder_release {holder : Option (Nat × Change ProcessedEventRow)}
    (holds : ClaimHolder running eventId holder) :
    ClaimHolder (Function.update running transaction none) eventId
      (Version.release transaction holder) := by
  cases held : Version.release transaction holder with
  | none => exact .free
  | some holding =>
      rcases holding with ⟨number, change⟩
      obtain ⟨same, other⟩ := Version.release_eq_some.mp held
      rw [← same]
      apply claim_holder_update holds
      intro change again
      rw [same] at again
      cases again
      exact other rfl

theorem order_holder_release {holder : Option (Nat × Change OrderRow)}
    (holds : OrderHolder running eventId holder) :
    OrderHolder (Function.update running transaction none) eventId
      (Version.release transaction holder) := by
  cases held : Version.release transaction holder with
  | none => exact .free
  | some holding =>
      rcases holding with ⟨number, change⟩
      obtain ⟨same, other⟩ := Version.release_eq_some.mp held
      rw [← same]
      apply order_holder_update holds
      intro again
      rw [same] at again
      cases again
      exact absurd rfl other

/-- A settled event whose rows the ending transaction only releases. -/
theorem sound_released {claim : Version ProcessedEventRow} {order : Version OrderRow}
    (sound : Sound running next eventId ⟨some claim, some order⟩)
    (settled : Settled running next eventId claim order) (opened : running transaction = some now)
    (row : ProcessedEventRow) (keyed : row.eventId = eventId) :
    Sound (Function.update running transaction none) next eventId
      ⟨some ⟨row, claim.owner, claim.committed, Version.release transaction claim.holder⟩,
        some { order with holder := Version.release transaction order.holder }⟩ := by
  apply sound_step sound opened
  · apply Shape.settled
    refine ⟨settled.claimCommitted, settled.orderCommitted, settled.sameOwner,
      ended_update opened _ _ settled.ended, keyed, settled.source,
      claim_holder_release settled.holdsClaim, order_holder_release settled.holdsOrder, ?_⟩
    intro number held
    obtain ⟨holdsClaim, other⟩ := Version.release_eq_some.mp held
    exact Version.release_eq_some.mpr ⟨settled.deleted number holdsClaim, other⟩
  · intro later contrary
    cases contrary
  · intro number other different _ obliged
    cases other with
    | claimed | inserted =>
        obtain ⟨claim, same⟩ := obliged
        cases same
        cases settled.claimCommitted
    | deletingOrders =>
        refine ⟨obliged.1, ?_⟩
        intro row same _
        cases same
        exact obliged.2 order rfl settled.orderCommitted
    | ordersDeleted =>
        intro row same _
        cases same
        have deletes := obliged order rfl settled.orderCommitted
        exact Version.release_eq_some.mpr ⟨deletes, different⟩
    | deletingClaims =>
        refine ⟨obliged.1, ?_⟩
        intro row same _
        cases same
        have before := obliged.2 order rfl settled.orderCommitted
        constructor
        · intro deletes
          exact before.mp (Version.release_eq_some.mp deletes).1
        · intro seen
          exact Version.release_eq_some.mpr ⟨before.mpr seen, different⟩
    | claimsDeleted =>
        intro held row sameClaim sameOrder deletes
        cases sameClaim
        cases sameOrder
        have before := obliged claim order rfl rfl (Version.release_eq_some.mp deletes).1
        exact Version.release_eq_some.mpr ⟨before, different⟩
    | _ => exact obliged

/-- An event that is being stored by another transaction. -/
theorem sound_unsettled {cell : Cell} (sound : Sound running next eventId cell)
    (opened : running transaction = some now)
    (shape : Shape (Function.update running transaction none) next eventId cell) :
    Sound (Function.update running transaction none) next eventId cell := by
  apply sound_step sound opened shape
  · intro later contrary
    cases contrary
  · intro number other _ _ obliged
    exact obliged

theorem fresh_foreign {Row : Type} {number : Nat} (different : number ≠ transaction) (row : Row) :
    (Version.fresh number row).Foreign transaction := by
  refine ⟨different, ?_⟩
  intro change contrary
  cases contrary

theorem ended_differs {owner : Nat} (ended : Ended running next owner)
    (opened : running transaction = some now) : owner ≠ transaction := by
  intro same
  have stopped := ended.2
  rw [same, opened] at stopped
  cases stopped

/-- A rollback at the event the transaction touches. -/
theorem abort_sound {cell : Cell} (sound : Sound running next eventId cell)
    (opened : running transaction = some now) :
    Sound (Function.update running transaction none) next eventId (cell.abort transaction) := by
  cases whole : sound.shape with
  | absent =>
      exact sound_removed sound opened (by
        intro number claim contrary
        cases contrary)
  | claiming number event claim current own keyed =>
      by_cases same : number = transaction
      · subst same
        simp only [Cell.abort, Option.bind_some, Option.bind_none, Version.abort_fresh]
        apply sound_removed sound opened
        intro number row held
        cases held
        rfl
      · simp only [Cell.abort, Option.bind_some, Option.bind_none,
          Version.abort_foreign (fresh_foreign same claim)]
        apply sound_unsettled sound opened
        apply Shape.claiming number event claim ?_ own keyed
        rw [Function.update_of_ne same, current]
  | storing number event claim order current own keyed source =>
      by_cases same : number = transaction
      · subst same
        simp only [Cell.abort, Option.bind_some, Version.abort_fresh]
        apply sound_removed sound opened
        intro number row held
        cases held
        rfl
      · simp only [Cell.abort, Option.bind_some,
          Version.abort_foreign (fresh_foreign same claim),
          Version.abort_foreign (fresh_foreign same order)]
        apply sound_unsettled sound opened
        apply Shape.storing number event claim order ?_ own keyed source
        rw [Function.update_of_ne same, current]
  | settled claim order settled =>
      have orderOwner := ended_differs settled.ended opened
      have claimOwner : claim.owner ≠ transaction := by
        rw [settled.sameOwner]
        exact orderOwner
      simp only [Cell.abort, Option.bind_some, Version.abort_release orderOwner,
        Version.abort_release claimOwner]
      exact sound_released sound settled opened claim.row settled.keyed

/-- The commit of a new order, with no discard of its event between its deletes. -/
theorem sound_commit_insert {claim : ProcessedEventRow} {order : OrderRow}
    (sound : Sound running next eventId
      ⟨some (.fresh transaction claim), some (.fresh transaction order)⟩)
    (opened : running transaction = some now) (numbered : transaction < next)
    (keyed : claim.eventId = eventId) (source : order.sourceEventId = eventId)
    (spares : ∀ number other, running number = some other → ¬ BetweenDeletes eventId other) :
    Sound (Function.update running transaction none) next eventId
      ⟨some ⟨claim, transaction, true, none⟩, some ⟨order, transaction, true, none⟩⟩ := by
  refine ⟨?_, ?_⟩
  · apply Shape.settled
    have ended : Ended (Function.update running transaction none) next transaction :=
      ⟨numbered, Function.update_self ..⟩
    refine ⟨rfl, rfl, rfl, ended, keyed, source, .free, .free, ?_⟩
    intro number contrary
    cases contrary
  · intro number other current own
    have different : number ≠ transaction := by
      intro same
      rw [same, Function.update_self] at current
      cases current
    rw [Function.update_of_ne different] at current
    have obliged := sound.obliged number other current own
    apply obligation_mono (ended_update opened none)
    cases other with
    | claimed | inserted =>
        obtain ⟨row, held⟩ := obliged
        injection held with same
        injection same with _ owner
        exact absurd owner.symm different
    | deletingOrders | ordersDeleted => exact absurd own (spares number _ current)
    | deletingClaims _ seen =>
        refine ⟨obliged.1, ?_⟩
        intro row same _
        cases same
        constructor
        · intro contrary
          cases contrary
        · intro seen
          exact absurd rfl (ended_differs (obliged.1 transaction seen) opened)
    | claimsDeleted =>
        intro held row _ same contrary
        cases same
        cases contrary
    | _ => exact obliged

theorem deletes_both {op : StoreOp} {result : op.Ret} {claim : Version ProcessedEventRow}
    {order : Version OrderRow} (sound : Sound running next eventId ⟨some claim, some order⟩)
    (settled : Settled running next eventId claim order) (opened : running transaction = some now)
    (own : now.eventId = eventId) (finished : now.Returns op result)
    (deletes : order.holder = some (transaction, .delete)) :
    claim.holder = some (transaction, .delete) := by
  have holds := settled.holdsOrder
  rw [deletes] at holds
  obtain ⟨_, other, current, deletesOrder⟩ := order_holder_deletes holds
  rw [opened] at current
  cases current
  have obliged := sound.obliged transaction now opened own
  cases finished with
  | inserted | selected | updated => cases deletesOrder
  | claimsDeleted => exact obliged claim order rfl rfl deletes

theorem updated_keyed {row : ProcessedEventRow}
    (holds : ClaimHolder running eventId (some (transaction, .update row))) :
    row.eventId = eventId := by
  cases holds with
  | completed _ _ _ keyed => exact keyed

/-- A commit at the event the transaction touches. -/
theorem commit_sound {cell : Cell} {op : StoreOp} {result : op.Ret}
    (sound : Sound running next eventId cell) (opened : running transaction = some now)
    (own : now.eventId = eventId) (finished : now.Returns op result) (numbered : transaction < next)
    (spares : ∀ event, now = .inserted event → ∀ number other, running number = some other →
      ¬ BetweenDeletes eventId other) :
    Sound (Function.update running transaction none) next eventId (cell.commit transaction) := by
  cases whole : sound.shape with
  | absent =>
      exact sound_removed sound opened (by
        intro number claim contrary
        cases contrary)
  | claiming number event claim current mine keyed =>
      have same : number ≠ transaction := by
        intro same
        subst same
        rw [opened] at current
        cases current
        cases finished
      simp only [Cell.commit, Option.bind_some, Option.bind_none,
        Version.commit_foreign (fresh_foreign same claim)]
      apply sound_unsettled sound opened
      apply Shape.claiming number event claim ?_ mine keyed
      rw [Function.update_of_ne same, current]
  | storing number event claim order current mine keyed source =>
      by_cases same : number = transaction
      · subst same
        rw [opened] at current
        simp only [Cell.commit, Option.bind_some, Version.commit_fresh]
        exact sound_commit_insert sound opened numbered keyed source
          (spares event (Option.some.inj current))
      · simp only [Cell.commit, Option.bind_some,
          Version.commit_foreign (fresh_foreign same claim),
          Version.commit_foreign (fresh_foreign same order)]
        apply sound_unsettled sound opened
        apply Shape.storing number event claim order ?_ mine keyed source
        rw [Function.update_of_ne same, current]
  | settled claim order settled =>
      have orderOwner := ended_differs settled.ended opened
      have claimOwner : claim.owner ≠ transaction := by
        rw [settled.sameOwner]
        exact orderOwner
      by_cases deletes : claim.holder = some (transaction, .delete)
      · have both := settled.deleted transaction deletes
        simp only [Cell.commit, Option.bind_some, Version.commit_deleted deletes,
          Version.commit_deleted both]
        apply sound_removed sound opened
        intro number row held
        cases held
        cases settled.claimCommitted
      · have kept : order.holder ≠ some (transaction, .delete) := by
          intro held
          exact deletes (deletes_both sound settled opened own finished held)
        obtain ⟨row, committed, replaced⟩ := Version.commit_release claimOwner deletes
        obtain ⟨sameRow, committedOrder, unchanged⟩ := Version.commit_release orderOwner kept
        have keyed : row.eventId = eventId := by
          rcases replaced with same | updated
          · rw [same]
            exact settled.keyed
          · have holds := settled.holdsClaim
            rw [updated] at holds
            exact updated_keyed holds
        have sameOrder : sameRow = order.row := by
          rcases unchanged with same | updated
          · exact same
          · have holds := settled.holdsOrder
            rw [updated] at holds
            cases (order_holder_deletes holds).1
        simp only [Cell.commit, Option.bind_some, committed, committedOrder, sameOrder]
        exact sound_released sound settled opened row keyed

/-- Rows of another event are not the transaction's. -/
theorem cell_foreign {cell : Cell} (shape : Shape running next eventId cell)
    (opened : running transaction = some now) (other : now.eventId ≠ eventId) :
    (∀ claim, cell.claim = some claim → claim.Foreign transaction) ∧
      ∀ order, cell.order = some order → order.Foreign transaction := by
  have differs : ∀ number there, running number = some there → there.eventId = eventId →
      number ≠ transaction := by
    intro number there current own same
    rw [same, opened] at current
    cases current
    exact other own
  cases shape with
  | absent =>
      constructor <;>
      · intro row contrary
        cases contrary
  | claiming number event claim current own keyed =>
      constructor
      · intro row same
        cases same
        exact fresh_foreign (differs number _ current own) claim
      · intro row contrary
        cases contrary
  | storing number event claim order current own keyed source =>
      have different := differs number _ current own
      constructor
      · intro row same
        cases same
        exact fresh_foreign different claim
      · intro row same
        cases same
        exact fresh_foreign different order
  | settled claim order settled =>
      have orderOwner := ended_differs settled.ended opened
      constructor
      · intro row same
        cases same
        refine ⟨?_, ?_⟩
        · rw [settled.sameOwner]
          exact orderOwner
        · intro change held
          have holds := settled.holdsClaim
          rw [held] at holds
          cases holds with
          | locked _ event status current own => exact differs _ _ current own rfl
          | completed _ row current keyed => exact differs _ _ current rfl rfl
          | deleted _ current => exact differs _ _ current rfl rfl
      · intro row same
        cases same
        refine ⟨orderOwner, ?_⟩
        intro change held
        have holds := settled.holdsOrder
        rw [held] at holds
        obtain ⟨_, there, current, deletes⟩ := order_holder_deletes holds
        exact differs _ there current (deletes_event_id deletes) rfl

theorem commit_foreign_cell {cell : Cell}
    (foreign : (∀ claim, cell.claim = some claim → claim.Foreign transaction) ∧
      ∀ order, cell.order = some order → order.Foreign transaction) :
    cell.commit transaction = cell := by
  rcases cell with ⟨_ | claim, _ | order⟩
  · rfl
  · simp only [Cell.commit, Option.bind_none, Option.bind_some,
      Version.commit_foreign (foreign.2 order rfl)]
  · simp only [Cell.commit, Option.bind_none, Option.bind_some,
      Version.commit_foreign (foreign.1 claim rfl)]
  · simp only [Cell.commit, Option.bind_some, Version.commit_foreign (foreign.1 claim rfl),
      Version.commit_foreign (foreign.2 order rfl)]

theorem abort_foreign_cell {cell : Cell}
    (foreign : (∀ claim, cell.claim = some claim → claim.Foreign transaction) ∧
      ∀ order, cell.order = some order → order.Foreign transaction) :
    cell.abort transaction = cell := by
  rcases cell with ⟨_ | claim, _ | order⟩
  · rfl
  · simp only [Cell.abort, Option.bind_none, Option.bind_some,
      Version.abort_foreign (foreign.2 order rfl)]
  · simp only [Cell.abort, Option.bind_none, Option.bind_some,
      Version.abort_foreign (foreign.1 claim rfl)]
  · simp only [Cell.abort, Option.bind_some, Version.abort_foreign (foreign.1 claim rfl),
      Version.abort_foreign (foreign.2 order rfl)]

end Endings

end OrderMessaging.Processing.ConcurrentSteps
