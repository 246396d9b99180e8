import Mathlib.Logic.Relation
import OrderMessaging.Library.ReadCommitted
import OrderMessaging.Processing.StoreOperations

/-!
The store's transactions statement by statement, any number of them open at once.
A statement that reads begins, which fixes what it can see, and finishes later; a
statement that would have to wait has no step until it need not. A transaction
can be aborted at any point, and one whose code raises is.
-/

namespace OrderMessaging.Processing.ConcurrentStore

open OrderMessaging.PyException OrderMessaging.PyValue OrderMessaging.ReadCommitted
open OrderMessaging.Contracts.Models OrderMessaging.Processing.PostgresOrderStore
open OrderMessaging.Processing.StoreOperations

set_option autoImplicit false

/-- An open transaction: the statements it has behind it, and for a statement that
has begun the version it saw. -/
inductive Transaction where
  | store (event : OrderCreatedEvent)
  | claimed (event : OrderCreatedEvent)
  | inserted (event : OrderCreatedEvent)
  | known (event : OrderCreatedEvent)
  | selecting (event : OrderCreatedEvent) (seen : Option Nat)
  | selected (event : OrderCreatedEvent) (status : Status)
  | markCompleted (eventId : Uuid)
  | updating (eventId : Uuid) (seen : Option Nat)
  | updated (eventId : Uuid)
  | discard (eventId : Uuid)
  | deletingOrders (eventId : Uuid) (seen : Option Nat)
  | ordersDeleted (eventId : Uuid)
  | deletingClaims (eventId : Uuid) (seen : Option Nat)
  | claimsDeleted (eventId : Uuid)

namespace Transaction

def opening : StoreOp → Transaction
  | .store event => store event
  | .markCompleted eventId => markCompleted eventId
  | .discard eventId => discard eventId

/-- The event whose rows the transaction touches. -/
def eventId : Transaction → Uuid
  | store event | claimed event | inserted event | known event => event.eventId
  | selecting event _ | selected event _ => event.eventId
  | markCompleted eventId | updating eventId _ | updated eventId => eventId
  | discard eventId | deletingOrders eventId _ | ordersDeleted eventId => eventId
  | deletingClaims eventId _ | claimsDeleted eventId => eventId

/-- What the call returns when the transaction commits in this state. -/
inductive Returns : Transaction → (op : StoreOp) → op.Ret → Prop where
  | inserted (event : OrderCreatedEvent) : Returns (inserted event) (.store event) ⟨true, true⟩
  | selected (event : OrderCreatedEvent) (status : Status) :
      Returns (selected event status) (.store event) ⟨false, decide (status ≠ .completed)⟩
  | updated (eventId : Uuid) : Returns (updated eventId) (.markCompleted eventId) ()
  | claimsDeleted (eventId : Uuid) : Returns (claimsDeleted eventId) (.discard eventId) ()

end Transaction

abbrev Claims := Rows Uuid ProcessedEventRow
abbrev Orders := Rows Uuid OrderRow

/-- Each table by the column that holds the event's identity. -/
structure Postgres where
  claims : Claims
  orders : Orders
  running : Nat → Option Transaction
  next : Nat

def emptyPostgres : Postgres := ⟨fun _ => none, fun _ => none, fun _ => none, 0⟩

namespace Postgres

def start (state : Postgres) (op : StoreOp) : Postgres :=
  { state with
    running := Function.update state.running state.next (some (.opening op))
    next := state.next + 1 }

def commit (state : Postgres) (number : Nat) : Postgres :=
  { state with
    claims := ReadCommitted.commit number state.claims
    orders := ReadCommitted.commit number state.orders
    running := Function.update state.running number none }

def abort (state : Postgres) (number : Nat) : Postgres :=
  { state with
    claims := ReadCommitted.abort number state.claims
    orders := ReadCommitted.abort number state.orders
    running := Function.update state.running number none }

end Postgres

section Statements

variable (number : Nat) (claims : Claims) (orders : Orders)

/-- One statement of transaction `number`, begun or finished, with the tables it leaves. -/
inductive Statement : Transaction → Claims → Orders → Transaction → Prop where
  | insertClaim (event : OrderCreatedEvent) (absent : claims event.eventId = none) :
      Statement (.store event)
        (insertRow number event.eventId ⟨event.eventId, event.eventType, .pending⟩ claims) orders
        (.claimed event)
  | doNothing (event : OrderCreatedEvent) (held : Version ProcessedEventRow)
      (present : claims event.eventId = some held) (settled : ¬ held.Unsettled number) :
      Statement (.store event) claims orders (.known event)
  | insertOrder (event : OrderCreatedEvent) (row : OrderRow) (fits : orderRow event = .ok row)
      (freshSource : orders event.eventId = none)
      (freshOrder : ∀ key other, orders key = some other → other.row.orderId ≠ row.orderId) :
      Statement (.claimed event) claims (insertRow number event.eventId row orders)
        (.inserted event)
  | select (event : OrderCreatedEvent) :
      Statement (.known event) claims orders
        (.selecting event (visible number claims event.eventId))
  | selectForUpdate (event : OrderCreatedEvent) (seen : Option Nat)
      (held : Version ProcessedEventRow) (meets : Meets claims event.eventId seen held)
      (free : ¬ held.HeldByOther number) :
      Statement (.selecting event seen) (holdRow number .lock event.eventId claims) orders
        (.selected event held.row.status)
  | update (eventId : Uuid) :
      Statement (.markCompleted eventId) claims orders
        (.updating eventId (visible number claims eventId))
  | setCompleted (eventId : Uuid) (seen : Option Nat) (held : Version ProcessedEventRow)
      (meets : Meets claims eventId seen held) (free : ¬ held.HeldByOther number) :
      Statement (.updating eventId seen)
        (holdRow number (.update (complete eventId held.row)) eventId claims) orders
        (.updated eventId)
  | deleteOrders (eventId : Uuid) :
      Statement (.discard eventId) claims orders
        (.deletingOrders eventId (visible number orders eventId))
  | orderDeleted (eventId : Uuid) (seen : Option Nat) (held : Version OrderRow)
      (meets : Meets orders eventId seen held) (free : ¬ held.HeldByOther number) :
      Statement (.deletingOrders eventId seen) claims (holdRow number .delete eventId orders)
        (.ordersDeleted eventId)
  | noOrder (eventId : Uuid) (seen : Option Nat) (misses : Misses orders eventId seen) :
      Statement (.deletingOrders eventId seen) claims orders (.ordersDeleted eventId)
  | deleteClaims (eventId : Uuid) :
      Statement (.ordersDeleted eventId) claims orders
        (.deletingClaims eventId (visible number claims eventId))
  | claimDeleted (eventId : Uuid) (seen : Option Nat) (held : Version ProcessedEventRow)
      (meets : Meets claims eventId seen held) (free : ¬ held.HeldByOther number) :
      Statement (.deletingClaims eventId seen) (holdRow number .delete eventId claims) orders
        (.claimsDeleted eventId)
  | noClaim (eventId : Uuid) (seen : Option Nat) (misses : Misses claims eventId seen) :
      Statement (.deletingClaims eventId seen) claims orders (.claimsDeleted eventId)

/-- The statements that make the transaction's code raise. -/
inductive Raises : Transaction → Exc → Prop where
  | refused (event : OrderCreatedEvent) (fault : Exc) (unfit : orderRow event = .error fault) :
      Raises (.claimed event) fault
  | duplicateOrder (event : OrderCreatedEvent) (row : OrderRow) (fits : orderRow event = .ok row)
      (key : Uuid) (other : Version OrderRow) (present : orders key = some other)
      (taken : other.row.orderId = row.orderId) (settled : ¬ other.Unsettled number) :
      Raises (.claimed event) orderTaken
  | duplicateSource (event : OrderCreatedEvent) (row : OrderRow) (fits : orderRow event = .ok row)
      (other : Version OrderRow) (present : orders event.eventId = some other)
      (settled : ¬ other.Unsettled number) :
      Raises (.claimed event) sourceTaken
  | disappeared (event : OrderCreatedEvent) (seen : Option Nat)
      (misses : Misses claims event.eventId seen) :
      Raises (.selecting event seen) (claimDisappeared event.eventId)
  | unknown (eventId : Uuid) (seen : Option Nat) (misses : Misses claims eventId seen) :
      Raises (.updating eventId seen) (cannotComplete eventId)

end Statements

inductive Label where
  | start (op : StoreOp)
  | advance (number : Nat)
  | commit (number : Nat)
  | abort (number : Nat)

inductive Step (state : Postgres) : Label → Postgres → Prop where
  | starts (op : StoreOp) : Step state (.start op) (state.start op)
  | advances (number : Nat) (now later : Transaction) (claims : Claims) (orders : Orders)
      (opened : state.running number = some now)
      (performed : Statement number state.claims state.orders now claims orders later) :
      Step state (.advance number)
        { state with
          claims := claims
          orders := orders
          running := Function.update state.running number (some later) }
  | raises (number : Nat) (now : Transaction) (fault : Exc)
      (opened : state.running number = some now)
      (raised : Raises number state.claims state.orders now fault) :
      Step state (.advance number) (state.abort number)
  | commits (number : Nat) (now : Transaction) (op : StoreOp) (result : op.Ret)
      (opened : state.running number = some now) (finished : now.Returns op result) :
      Step state (.commit number) (state.commit number)
  | aborts (number : Nat) (now : Transaction) (opened : state.running number = some now) :
      Step state (.abort number) (state.abort number)

/-- Runs of any length whose steps are all allowed. -/
def Leads (allowed : Postgres → Label → Prop) : Postgres → Postgres → Prop :=
  Relation.ReflTransGen fun before after =>
    ∃ label, Step before label after ∧ allowed before label

theorem leads_mono {allowed permitted : Postgres → Label → Prop}
    (weaker : ∀ state label, allowed state label → permitted state label) {before after : Postgres}
    (led : Leads allowed before after) : Leads permitted before after := by
  induction led with
  | refl => exact .refl
  | tail _ last ih =>
      obtain ⟨label, stepped, permission⟩ := last
      exact ih.tail ⟨label, stepped, weaker _ label permission⟩

def Reaches (allowed : Postgres → Label → Prop) (state : Postgres) : Prop :=
  Leads allowed emptyPostgres state

end OrderMessaging.Processing.ConcurrentStore
