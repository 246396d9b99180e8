import Mathlib.Data.List.Sublists
import Mathlib.Logic.Function.Basic

/-!
Atomic objects, and the systems that cannot be told from one. Each call takes
effect at one instant between its invocation and its end, and a call that fails
has taken none. What the callers of such an object see is then explained by one
serial order of the calls that returned, in which a call that returned before
another was invoked comes first.
-/

namespace OrderMessaging.AtomicObject

set_option autoImplicit false

section Traces

variable {Event State Other : Type}

/-- A run, with the events that can be seen of it in the order they happened. -/
inductive Emits (step : State → Option Event → State → Prop) (start : State) :
    List Event → State → Prop where
  | refl : Emits step start [] start
  | silent {history : List Event} {before after : State}
      (emitted : Emits step start history before) (last : step before none after) :
      Emits step start history after
  | visible {history : List Event} {before after : State} {event : Event}
      (emitted : Emits step start history before) (last : step before (some event) after) :
      Emits step start (history ++ [event]) after

variable {step : State → Option Event → State → Prop}

theorem emits_trans {start middle after : State} {early late : List Event}
    (first : Emits step start early middle) (second : Emits step middle late after) :
    Emits step start (early ++ late) after := by
  induction second with
  | refl =>
      rw [List.append_nil]
      exact first
  | silent _ last ih => exact .silent ih last
  | visible _ last ih =>
      rw [← List.append_assoc]
      exact .visible ih last

theorem emits_single {before after : State} {event : Option Event}
    (stepped : step before event after) : Emits step before event.toList after := by
  cases event with
  | none => exact .silent .refl stepped
  | some event =>
      have seen := Emits.visible .refl stepped
      rw [List.nil_append] at seen
      exact seen

theorem emits_preserves {holds : State → Prop} {start : State} (initially : holds start)
    (preserved : ∀ before event after, holds before → step before event after → holds after)
    {history : List Event} {after : State} (emitted : Emits step start history after) :
    holds after := by
  induction emitted with
  | refl => exact initially
  | silent _ last ih => exact preserved _ _ _ ih last
  | visible _ last ih => exact preserved _ _ _ ih last

theorem emits_mono {wider : State → Option Event → State → Prop}
    (weaker : ∀ before event after, step before event after → wider before event after)
    {start : State} {history : List Event} {after : State}
    (emitted : Emits step start history after) : Emits wider start history after := by
  induction emitted with
  | refl => exact .refl
  | silent _ last ih => exact .silent ih (weaker _ _ _ last)
  | visible _ last ih => exact .visible ih (weaker _ _ _ last)

/-- A run all of whose events are allowed is one of allowed steps. -/
theorem emits_restrict {allowed : Event → Prop} {start : State} {history : List Event}
    {after : State} (emitted : Emits step start history after)
    (each : ∀ event ∈ history, allowed event) :
    Emits (fun before event after => step before event after ∧ ∀ seen ∈ event, allowed seen)
      start history after := by
  induction emitted with
  | refl => exact .refl
  | silent _ last ih =>
      refine .silent (ih each) ⟨last, ?_⟩
      intro seen contrary
      cases contrary
  | visible _ last ih =>
      have earlier := ih fun event member => each event (List.mem_append_left _ member)
      refine .visible earlier ⟨last, ?_⟩
      intro seen same
      cases same
      exact each _ (List.mem_append_right _ (List.mem_singleton.mpr rfl))

/-- Forward simulation under a translation of events: the other system can follow
each step and shows its translation. -/
theorem emits_translated {Seen : Type} {translate : Event → Seen}
    {follower : Other → Option Seen → Other → Prop} {related : State → Other → Prop}
    {start : State} {begin : Other} (initially : related start begin)
    (follows : ∀ before event after other, related before other → step before event after →
      ∃ later, Emits follower other (event.map translate).toList later ∧ related after later)
    {history : List Event} {after : State} (emitted : Emits step start history after) :
    ∃ later, Emits follower begin (history.map translate) later ∧ related after later := by
  induction emitted with
  | refl => exact ⟨begin, .refl, initially⟩
  | silent _ last ih =>
      obtain ⟨other, followed, held⟩ := ih
      obtain ⟨later, further, still⟩ := follows _ _ _ other held last
      have whole := emits_trans followed further
      rw [Option.map_none, Option.toList_none, List.append_nil] at whole
      exact ⟨later, whole, still⟩
  | visible _ last ih =>
      obtain ⟨other, followed, held⟩ := ih
      obtain ⟨later, further, still⟩ := follows _ _ _ other held last
      refine ⟨later, ?_, still⟩
      rw [List.map_append]
      exact emits_trans followed further

/-- Forward simulation: the other system can follow each step and show the same. -/
theorem emits_simulated {follower : Other → Option Event → Other → Prop}
    {related : State → Other → Prop} {start : State} {begin : Other} (initially : related start begin)
    (follows : ∀ before event after other, related before other → step before event after →
      ∃ later, Emits follower other event.toList later ∧ related after later)
    {history : List Event} {after : State} (emitted : Emits step start history after) :
    ∃ later, Emits follower begin history later ∧ related after later := by
  have translated := @emits_translated _ _ _ step _ id follower related _ _ initially (by
    intro before event after other held stepped
    rw [Option.map_id]
    exact follows before event after other held stepped) _ _ emitted
  rw [List.map_id] at translated
  exact translated

end Traces

section Objects

variable {Op State : Type} {Ret : Op → Type}

structure Call (Op : Type) (Ret : Op → Type) where
  number : Nat
  op : Op
  result : Ret op

inductive Event (Op : Type) (Ret : Op → Type) where
  | invoked (number : Nat) (op : Op)
  | returned (call : Call Op Ret)
  | failed (number : Nat)

/-- The results an operation may have in a state, and the states it may leave. -/
abbrev Spec (Op : Type) (Ret : Op → Type) (State : Type) :=
  State → (op : Op) → Ret op → State → Prop

/-- Where an open call stands. One that has only observed the object can still fail. -/
inductive Phase (Op : Type) (Ret : Op → Type) where
  | waiting (op : Op)
  | observed (op : Op) (result : Ret op)
  | answered (op : Op) (result : Ret op)

def Phase.op : Phase Op Ret → Op
  | waiting op | observed op _ | answered op _ => op

/-- The object, its open calls, and the calls that have taken effect and not failed. -/
structure Object (Op : Type) (Ret : Op → Type) (State : Type) where
  state : State
  phase : Nat → Option (Phase Op Ret)
  log : List (Call Op Ret)
  next : Nat

namespace Object

def initial (state : State) : Object Op Ret State := ⟨state, fun _ => none, [], 0⟩

def set (object : Object Op Ret State) (number : Nat) (phase : Option (Phase Op Ret)) :
    Object Op Ret State :=
  { object with phase := Function.update object.phase number phase }

def invoke (object : Object Op Ret State) (op : Op) : Object Op Ret State :=
  { object.set object.next (some (.waiting op)) with next := object.next + 1 }

def append (object : Object Op Ret State) (call : Call Op Ret) (after : State) :
    Object Op Ret State :=
  { object with state := after, log := object.log ++ [call] }

def withdraw (object : Object Op Ret State) (number : Nat) : Object Op Ret State :=
  { object.set number none with log := object.log.filter fun call => call.number ≠ number }

end Object

variable (spec : Spec Op Ret State)

inductive Step (object : Object Op Ret State) :
    Option (Event Op Ret) → Object Op Ret State → Prop where
  | invokes (op : Op) : Step object (some (.invoked object.next op)) (object.invoke op)
  | observes (number : Nat) (op : Op) (result : Ret op)
      (waits : object.phase number = some (.waiting op))
      (answer : spec object.state op result object.state) :
      Step object none
        ((object.set number (some (.observed op result))).append ⟨number, op, result⟩ object.state)
  | answers (number : Nat) (op : Op) (result : Ret op) (after : State)
      (waits : object.phase number = some (.waiting op))
      (answer : spec object.state op result after) :
      Step object none
        ((object.set number (some (.answered op result))).append ⟨number, op, result⟩ after)
  | returns (number : Nat) (op : Op) (result : Ret op)
      (done : object.phase number = some (.observed op result) ∨
        object.phase number = some (.answered op result)) :
      Step object (some (.returned ⟨number, op, result⟩)) (object.set number none)
  | fails (number : Nat) (phase : Phase Op Ret) (opened : object.phase number = some phase)
      (harmless : ∀ op result, phase ≠ .answered op result) :
      Step object (some (.failed number)) (object.withdraw number)

inductive Replays : State → List (Call Op Ret) → State → Prop where
  | nil (state : State) : Replays state [] state
  | cons {before middle after : State} {call : Call Op Ret} {rest : List (Call Op Ret)}
      (answer : spec before call.op call.result middle) (further : Replays middle rest after) :
      Replays before (call :: rest) after

/-- One serial order that explains what the callers have seen. -/
structure Serializes (initial : State) (history : List (Event Op Ret))
    (order : List (Call Op Ret)) (final : State) : Prop where
  replays : Replays spec initial order final
  exact : ∀ call, call ∈ order ↔ .returned call ∈ history
  invoked : ∀ call ∈ order, .invoked call.number call.op ∈ history
  kept : ∀ call ∈ order, .failed call.number ∉ history
  once : (order.map Call.number).Nodup
  realTime : ∀ first second, second ∈ order →
    [.returned first, .invoked second.number second.op].Sublist history →
    [first, second].Sublist order

end Objects

section Account

variable {Op State : Type} {Ret : Op → Type} {spec : Spec Op Ret State}

/-- A replay in which the calls of the idle numbers leave the state as it was. -/
inductive Traces (spec : Spec Op Ret State) (idle : Nat → Prop) :
    State → List (Call Op Ret) → State → Prop where
  | nil (state : State) : Traces spec idle state [] state
  | cons {before middle after : State} {call : Call Op Ret} {rest : List (Call Op Ret)}
      (answer : spec before call.op call.result middle)
      (unchanged : idle call.number → middle = before)
      (further : Traces spec idle middle rest after) : Traces spec idle before (call :: rest) after

variable {idle fewer : Nat → Prop} {before middle after : State} {log : List (Call Op Ret)}

theorem traces_replays (traced : Traces spec idle before log after) :
    Replays spec before log after := by
  induction traced with
  | nil state => exact .nil state
  | cons answer _ _ ih => exact .cons answer ih

theorem traces_concat (traced : Traces spec idle before log middle) {call : Call Op Ret}
    (answer : spec middle call.op call.result after)
    (unchanged : idle call.number → after = middle) :
    Traces spec idle before (log ++ [call]) after := by
  induction traced with
  | nil state => exact .cons answer unchanged (.nil after)
  | cons earlier same _ ih => exact .cons earlier same (ih answer unchanged)

theorem traces_mono (traced : Traces spec idle before log after)
    (still : ∀ call ∈ log, fewer call.number → idle call.number) :
    Traces spec fewer before log after := by
  induction traced with
  | nil state => exact .nil state
  | cons answer unchanged _ ih =>
      apply Traces.cons answer
      · intro held
        exact unchanged (still _ List.mem_cons_self held)
      · apply ih
        intro call member
        exact still call (List.mem_cons_of_mem _ member)

/-- Idle calls can be left out. -/
theorem traces_filter (traced : Traces spec idle before log after) (keeps : Call Op Ret → Bool)
    (dropped : ∀ call ∈ log, keeps call = false → idle call.number) :
    Traces spec idle before (log.filter keeps) after := by
  induction traced with
  | nil state => exact .nil state
  | @cons before middle after call rest answer unchanged further ih =>
      have onward := ih fun other member => dropped other (List.mem_cons_of_mem _ member)
      rw [List.filter_cons]
      cases kept : keeps call with
      | true => exact .cons answer unchanged onward
      | false =>
          have same := unchanged (dropped call List.mem_cons_self kept)
          rw [same] at onward
          exact onward

theorem pair_sublist_concat {Item : Type} {first second last : Item} {items : List Item}
    (sublist : [first, second].Sublist (items ++ [last])) :
    [first, second].Sublist items ∨ first ∈ items ∧ second = last := by
  obtain ⟨early, late, split, inItems, inLast⟩ := List.sublist_append_iff.mp sublist
  rcases List.sublist_singleton.mp inLast with none | one
  · subst none
    rw [List.append_nil] at split
    rw [split]
    exact .inl inItems
  · subst one
    have same : [first] ++ [second] = early ++ [last] := split
    obtain ⟨one, two⟩ := List.append_inj' same rfl
    subst one
    cases two
    exact .inr ⟨List.singleton_sublist.mp inItems, rfl⟩

theorem replays_append {early late : List (Call Op Ret)}
    (replayed : Replays spec before (early ++ late) after) :
    ∃ middle, Replays spec before early middle ∧ Replays spec middle late after := by
  induction early generalizing before with
  | nil => exact ⟨before, .nil before, replayed⟩
  | cons call early ih =>
      cases replayed with
      | cons answer further =>
          obtain ⟨middle, first, second⟩ := ih further
          exact ⟨middle, .cons answer first, second⟩

/-- What every call of a serial order preserves, and what each may answer under it. -/
theorem replays_holds {holds : State → Prop} {answers : Call Op Ret → Prop}
    (replayed : Replays spec before log after)
    (preserved : ∀ state call later, call ∈ log → holds state →
      spec state call.op call.result later → holds later ∧ answers call)
    (held : holds before) : holds after ∧ ∀ call ∈ log, answers call := by
  induction replayed with
  | nil state =>
      refine ⟨held, ?_⟩
      intro call contrary
      cases contrary
  | cons answer _ ih =>
      obtain ⟨still, first⟩ := preserved _ _ _ List.mem_cons_self held answer
      have onward := ih (fun state call later member =>
        preserved state call later (List.mem_cons_of_mem _ member)) still
      refine ⟨onward.1, ?_⟩
      intro call member
      rcases List.mem_cons.mp member with same | later
      · rw [same]
        exact first
      · exact onward.2 call later

def Idle (object : Object Op Ret State) (number : Nat) : Prop :=
  ∃ op result, object.phase number = some (.observed op result)

/-- Where a logged call stands: it has returned, or it still may. -/
def Stands (history : List (Event Op Ret)) (object : Object Op Ret State) (call : Call Op Ret) :
    Prop :=
  .returned call ∈ history ∨ object.phase call.number = some (.observed call.op call.result) ∨
    object.phase call.number = some (.answered call.op call.result)

/-- What the log of an atomic object has to do with the events seen of it. -/
structure Accounts (spec : Spec Op Ret State) (initial : State) (history : List (Event Op Ret))
    (object : Object Op Ret State) : Prop where
  traces : Traces spec (Idle object) initial object.log object.state
  opened : ∀ number phase, object.phase number = some phase →
    number < object.next ∧ .invoked number phase.op ∈ history
  waiting : ∀ number op, object.phase number = some (.waiting op) →
    ∀ call ∈ object.log, call.number ≠ number
  stands : ∀ call ∈ object.log, Stands history object call
  logged : ∀ number op result, object.phase number = some (.observed op result) ∨
    object.phase number = some (.answered op result) → ⟨number, op, result⟩ ∈ object.log
  invoked : ∀ call ∈ object.log, .invoked call.number call.op ∈ history
  once : (object.log.map Call.number).Nodup
  returned : ∀ call, .returned call ∈ history →
    call ∈ object.log ∧ object.phase call.number = none
  failed : ∀ number, .failed number ∈ history →
    object.phase number = none ∧ number < object.next ∧ ∀ call ∈ object.log, call.number ≠ number
  numbered : ∀ number op, .invoked number op ∈ history → number < object.next
  realTime : ∀ first second op, second ∈ object.log →
    [.returned first, .invoked second.number op].Sublist history →
    [first, second].Sublist object.log

variable {initial : State} {history : List (Event Op Ret)} {object : Object Op Ret State}

theorem accounts_initial (spec : Spec Op Ret State) (initial : State) :
    Accounts spec initial [] (Object.initial initial : Object Op Ret State) where
  traces := .nil initial
  opened := by
    intro number phase contrary
    cases contrary
  waiting := by
    intro number op contrary
    cases contrary
  stands := by
    intro call contrary
    cases contrary
  logged := by
    intro number op result contrary
    rcases contrary with observed | answered
    · cases observed
    · cases answered
  invoked := by
    intro call contrary
    cases contrary
  once := List.nodup_nil
  returned := by
    intro call contrary
    cases contrary
  failed := by
    intro number contrary
    cases contrary
  numbered := by
    intro number op contrary
    cases contrary
  realTime := by
    intro first second op contrary
    cases contrary

theorem logged_below (accounts : Accounts spec initial history object) {call : Call Op Ret}
    (member : call ∈ object.log) : call.number < object.next :=
  accounts.numbered call.number call.op (accounts.invoked call member)

theorem mem_concat {Item : Type} {item last : Item} {items : List Item} :
    item ∈ items ++ [last] ↔ item ∈ items ∨ item = last := by
  rw [List.mem_append, List.mem_singleton]

theorem accounts_invoke (accounts : Accounts spec initial history object) (op : Op) :
    Accounts spec initial (history ++ [.invoked object.next op]) (object.invoke op) := by
  have elsewhere : ∀ number, number ≠ object.next →
      (object.invoke op).phase number = object.phase number :=
    fun number other => Function.update_of_ne other _ _
  have here : (object.invoke op).phase object.next = some (.waiting op) := Function.update_self ..
  have below : ∀ call ∈ object.log, call.number ≠ object.next :=
    fun call member => Nat.ne_of_lt (logged_below accounts member)
  constructor
  case traces =>
    apply traces_mono accounts.traces
    intro call member idle
    rw [Idle, elsewhere _ (below call member)] at idle
    exact idle
  case opened =>
    intro number phase held
    by_cases new : number = object.next
    · subst new
      rw [here] at held
      cases held
      exact ⟨Nat.lt_succ_self _, mem_concat.mpr (.inr rfl)⟩
    · rw [elsewhere number new] at held
      obtain ⟨bounded, seen⟩ := accounts.opened number phase held
      exact ⟨Nat.lt_succ_of_lt bounded, mem_concat.mpr (.inl seen)⟩
  case waiting =>
    intro number other held call member
    by_cases new : number = object.next
    · rw [new]
      exact below call member
    · rw [elsewhere number new] at held
      exact accounts.waiting number other held call member
  case stands =>
    intro call member
    have before := accounts.stands call member
    rw [Stands, elsewhere _ (below call member), mem_concat]
    exact before.imp_left .inl
  case logged =>
    intro number other result done
    have different : number ≠ object.next := by
      intro new
      rw [new, here] at done
      rcases done with observed | answered
      · cases observed
      · cases answered
    rw [elsewhere number different] at done
    exact accounts.logged number other result done
  case invoked =>
    intro call member
    exact mem_concat.mpr (.inl (accounts.invoked call member))
  case once => exact accounts.once
  case returned =>
    intro call seen
    rcases mem_concat.mp seen with before | contrary
    · obtain ⟨member, ended⟩ := accounts.returned call before
      refine ⟨member, ?_⟩
      rw [elsewhere _ (below call member), ended]
    · cases contrary
  case failed =>
    intro number seen
    rcases mem_concat.mp seen with before | contrary
    · obtain ⟨ended, bounded, absent⟩ := accounts.failed number before
      refine ⟨?_, Nat.lt_succ_of_lt bounded, absent⟩
      rw [elsewhere number (Nat.ne_of_lt bounded), ended]
    · cases contrary
  case numbered =>
    intro number other seen
    rcases mem_concat.mp seen with before | same
    · exact Nat.lt_succ_of_lt (accounts.numbered number other before)
    · cases same
      exact Nat.lt_succ_self _
  case realTime =>
    intro first second other member sublist
    rcases pair_sublist_concat sublist with before | ⟨_, same⟩
    · exact accounts.realTime first second other member before
    · injection same with number _
      exact absurd number (below second member)

/-- A waiting call takes its effect, or sees that it has none. -/
theorem accounts_answer (accounts : Accounts spec initial history object) {number : Nat} {op : Op}
    {result : Ret op} {after : State} {phase : Phase Op Ret}
    (waits : object.phase number = some (.waiting op))
    (answer : spec object.state op result after)
    (reached : phase = .observed op result ∧ after = object.state ∨ phase = .answered op result) :
    Accounts spec initial history
      ((object.set number (some phase)).append ⟨number, op, result⟩ after) := by
  let later := (object.set number (some phase)).append ⟨number, op, result⟩ after
  have elsewhere : ∀ other, other ≠ number → later.phase other = object.phase other :=
    fun other different => Function.update_of_ne different _ _
  have here : later.phase number = some phase := Function.update_self ..
  have unlogged := accounts.waiting number op waits
  have sameOp : phase.op = op := by
    rcases reached with ⟨observed, _⟩ | answered
    · rw [observed, Phase.op]
    · rw [answered, Phase.op]
  obtain ⟨bounded, seen⟩ := accounts.opened number _ waits
  constructor
  case traces =>
    apply traces_concat
    · apply traces_mono accounts.traces
      intro call member idle
      have same := elsewhere _ (unlogged call member)
      obtain ⟨otherOp, otherResult, held⟩ := idle
      exact ⟨otherOp, otherResult, same.symm.trans held⟩
    · exact answer
    · intro idle
      obtain ⟨otherOp, otherResult, held⟩ := idle
      rcases reached with ⟨_, same⟩ | answered
      · exact same
      · rw [answered] at here
        cases here.symm.trans held
  case opened =>
    intro other current held
    by_cases same : other = number
    · subst same
      cases here.symm.trans held
      rw [sameOp]
      exact ⟨bounded, seen⟩
    · exact accounts.opened other current ((elsewhere other same).symm.trans held)
  case waiting =>
    intro other otherOp held call member
    have different : other ≠ number := by
      intro same
      subst same
      have waiting := here.symm.trans held
      rcases reached with ⟨observed, _⟩ | answered
      · rw [observed] at waiting
        cases waiting
      · rw [answered] at waiting
        cases waiting
    rcases mem_concat.mp member with before | same
    · exact accounts.waiting other otherOp ((elsewhere other different).symm.trans held) call before
    · subst same
      exact different.symm
  case stands =>
    intro call member
    rcases mem_concat.mp member with before | same
    · have standing := accounts.stands call before
      have unmoved := elsewhere _ (unlogged call before)
      simp only [Stands] at standing ⊢
      exact unmoved ▸ standing
    · subst same
      right
      rcases reached with ⟨observed, _⟩ | answered
      · left
        rw [here, observed]
      · right
        rw [here, answered]
  case logged =>
    intro other otherOp otherResult done
    by_cases same : other = number
    · subst same
      rw [here, Option.some_inj, Option.some_inj] at done
      apply mem_concat.mpr
      right
      rcases reached with ⟨observed, _⟩ | answered
      · rw [observed] at done
        rcases done with held | held <;> cases held
        rfl
      · rw [answered] at done
        rcases done with held | held <;> cases held
        rfl
    · rw [elsewhere other same] at done
      exact mem_concat.mpr (.inl (accounts.logged other otherOp otherResult done))
  case invoked =>
    intro call member
    rcases mem_concat.mp member with before | same
    · exact accounts.invoked call before
    · subst same
      exact seen
  case once =>
    have joined : later.log.map Call.number = object.log.map Call.number ++ [number] :=
      List.map_append
    rw [joined, List.nodup_append]
    refine ⟨accounts.once, List.nodup_singleton _, ?_⟩
    intro logged member other single
    obtain ⟨call, before, same⟩ := List.mem_map.mp member
    rw [List.mem_singleton.mp single, ← same]
    exact unlogged call before
  case returned =>
    intro call ended
    obtain ⟨member, closed⟩ := accounts.returned call ended
    exact ⟨mem_concat.mpr (.inl member), (elsewhere _ (unlogged call member)).trans closed⟩
  case failed =>
    intro other ended
    obtain ⟨closed, below, absent⟩ := accounts.failed other ended
    have different : other ≠ number := by
      intro same
      rw [same, waits] at closed
      cases closed
    refine ⟨(elsewhere other different).trans closed, below, ?_⟩
    intro call member
    rcases mem_concat.mp member with before | same
    · exact absent call before
    · subst same
      exact different.symm
  case numbered => exact accounts.numbered
  case realTime =>
    intro first second otherOp member sublist
    rcases mem_concat.mp member with before | same
    · exact (accounts.realTime first second otherOp before sublist).trans
        (List.sublist_append_left _ _)
    · subst same
      have returned : first ∈ object.log := (accounts.returned first
        (sublist.subset List.mem_cons_self)).1
      exact (List.singleton_sublist.mpr returned).append (List.Sublist.refl _)

theorem accounts_return (accounts : Accounts spec initial history object) {number : Nat} {op : Op}
    {result : Ret op} (done : object.phase number = some (.observed op result) ∨
      object.phase number = some (.answered op result)) :
    Accounts spec initial (history ++ [.returned ⟨number, op, result⟩]) (object.set number none) := by
  have elsewhere : ∀ other, other ≠ number →
      (object.set number none).phase other = object.phase other :=
    fun other different => Function.update_of_ne different _ _
  have here : (object.set number none).phase number = none := Function.update_self ..
  have earlier : ∀ other phase, (object.set number none).phase other = some phase →
      object.phase other = some phase := by
    intro other phase held
    have different : other ≠ number := by
      intro same
      rw [same, here] at held
      cases held
    exact (elsewhere other different).symm.trans held
  have member : ⟨number, op, result⟩ ∈ object.log := accounts.logged number op result done
  constructor
  case traces =>
    apply traces_mono accounts.traces
    intro call _ idle
    obtain ⟨otherOp, otherResult, held⟩ := idle
    exact ⟨otherOp, otherResult, earlier _ _ held⟩
  case opened =>
    intro other phase held
    obtain ⟨bounded, seen⟩ := accounts.opened other phase (earlier other phase held)
    exact ⟨bounded, mem_concat.mpr (.inl seen)⟩
  case waiting =>
    intro other otherOp held
    exact accounts.waiting other otherOp (earlier other _ held)
  case stands =>
    intro call logged
    have standing := accounts.stands call logged
    by_cases same : call.number = number
    · left
      apply mem_concat.mpr
      right
      rcases standing with ended | open'
      · have closed := (accounts.returned call ended).2
        rw [same] at closed
        rw [closed] at done
        rcases done with held | held <;> cases held
      · rw [same] at open'
        rcases call with ⟨otherNumber, otherOp, otherResult⟩
        cases same
        rcases done with held | held <;> rcases open' with again | again <;>
          cases held.symm.trans again
        · rfl
        · rfl
    · rw [Stands, elsewhere _ same, mem_concat]
      exact standing.imp_left .inl
  case logged =>
    intro other otherOp otherResult held
    exact accounts.logged other otherOp otherResult (held.imp (earlier other _) (earlier other _))
  case invoked =>
    intro call logged
    exact mem_concat.mpr (.inl (accounts.invoked call logged))
  case once => exact accounts.once
  case returned =>
    intro call ended
    rcases mem_concat.mp ended with before | same
    · obtain ⟨logged, closed⟩ := accounts.returned call before
      refine ⟨logged, ?_⟩
      by_cases mine : call.number = number
      · rw [mine, here]
      · rw [elsewhere _ mine, closed]
    · cases same
      exact ⟨member, here⟩
  case failed =>
    intro other ended
    rcases mem_concat.mp ended with before | contrary
    · obtain ⟨closed, below, absent⟩ := accounts.failed other before
      refine ⟨?_, below, absent⟩
      by_cases mine : other = number
      · rw [mine, here]
      · rw [elsewhere _ mine, closed]
    · cases contrary
  case numbered =>
    intro other otherOp seen
    rcases mem_concat.mp seen with before | contrary
    · exact accounts.numbered other otherOp before
    · cases contrary
  case realTime =>
    intro first second otherOp logged sublist
    rcases pair_sublist_concat sublist with before | ⟨_, contrary⟩
    · exact accounts.realTime first second otherOp logged before
    · cases contrary

/-- A call that fails before it has changed the object drops out of the log. -/
theorem accounts_fail (accounts : Accounts spec initial history object) {number : Nat}
    {phase : Phase Op Ret} (opened : object.phase number = some phase)
    (harmless : ∀ op result, phase ≠ .answered op result) :
    Accounts spec initial (history ++ [.failed number]) (object.withdraw number) := by
  have elsewhere : ∀ other, other ≠ number →
      (object.withdraw number).phase other = object.phase other :=
    fun other different => Function.update_of_ne different _ _
  have here : (object.withdraw number).phase number = none := Function.update_self ..
  have left : ∀ call, call ∈ (object.withdraw number).log ↔
      call ∈ object.log ∧ call.number ≠ number := by
    intro call
    simp only [Object.withdraw, List.mem_filter, decide_eq_true_eq]
  have earlier : ∀ other current, (object.withdraw number).phase other = some current →
      other ≠ number ∧ object.phase other = some current := by
    intro other current held
    have different : other ≠ number := by
      intro same
      rw [same, here] at held
      cases held
    exact ⟨different, (elsewhere other different).symm.trans held⟩
  constructor
  case traces =>
    have kept : Traces spec (Idle object) initial (object.withdraw number).log object.state := by
      apply traces_filter accounts.traces
      intro call member dropped
      have same : call.number = number := by simpa using dropped
      cases phase with
      | waiting op => exact absurd same (accounts.waiting number op opened call member)
      | observed op result => exact ⟨op, result, by rw [same, opened]⟩
      | answered op result => exact absurd rfl (harmless op result)
    apply traces_mono kept
    intro call _ idle
    obtain ⟨otherOp, otherResult, held⟩ := idle
    exact ⟨otherOp, otherResult, (earlier _ _ held).2⟩
  case opened =>
    intro other current held
    obtain ⟨bounded, seen⟩ := accounts.opened other current (earlier other current held).2
    exact ⟨bounded, mem_concat.mpr (.inl seen)⟩
  case waiting =>
    intro other otherOp held call member
    exact accounts.waiting other otherOp (earlier other _ held).2 call ((left call).mp member).1
  case stands =>
    intro call member
    obtain ⟨logged, different⟩ := (left call).mp member
    rw [Stands, elsewhere _ different, mem_concat]
    exact (accounts.stands call logged).imp_left .inl
  case logged =>
    intro other otherOp otherResult held
    apply (left _).mpr
    rcases held with observed | answered
    · obtain ⟨different, before⟩ := earlier other _ observed
      exact ⟨accounts.logged other otherOp otherResult (.inl before), different⟩
    · obtain ⟨different, before⟩ := earlier other _ answered
      exact ⟨accounts.logged other otherOp otherResult (.inr before), different⟩
  case invoked =>
    intro call member
    exact mem_concat.mpr (.inl (accounts.invoked call ((left call).mp member).1))
  case once => exact accounts.once.sublist (List.filter_sublist.map _)
  case returned =>
    intro call ended
    rcases mem_concat.mp ended with before | contrary
    · obtain ⟨logged, closed⟩ := accounts.returned call before
      have different : call.number ≠ number := by
        intro same
        rw [same, opened] at closed
        cases closed
      exact ⟨(left call).mpr ⟨logged, different⟩, (elsewhere _ different).trans closed⟩
    · cases contrary
  case failed =>
    intro other ended
    rcases mem_concat.mp ended with before | same
    · obtain ⟨closed, below, absent⟩ := accounts.failed other before
      have different : other ≠ number := by
        intro same
        rw [same, opened] at closed
        cases closed
      refine ⟨(elsewhere _ different).trans closed, below, ?_⟩
      intro call member
      exact absent call ((left call).mp member).1
    · cases same
      refine ⟨here, (accounts.opened number phase opened).1, ?_⟩
      intro call member
      exact ((left call).mp member).2
  case numbered =>
    intro other otherOp seen
    rcases mem_concat.mp seen with before | contrary
    · exact accounts.numbered other otherOp before
    · cases contrary
  case realTime =>
    intro first second otherOp member sublist
    obtain ⟨logged, different⟩ := (left second).mp member
    rcases pair_sublist_concat sublist with before | ⟨_, contrary⟩
    · have ordered := accounts.realTime first second otherOp logged before
      have ended := accounts.returned first (before.subset List.mem_cons_self)
      have open' : first.number ≠ number := by
        intro same
        rw [same, opened] at ended
        cases ended.2
      have both := ordered.filter fun call => decide (call.number ≠ number)
      rw [List.filter_cons_of_pos (by simpa using open'),
        List.filter_cons_of_pos (by simpa using different), List.filter_nil] at both
      exact both
    · cases contrary

/-- What one step of an atomic object preserves. -/
theorem step_accounts (accounts : Accounts spec initial history object)
    {event : Option (Event Op Ret)} {later : Object Op Ret State}
    (stepped : Step spec object event later) :
    Accounts spec initial (history ++ event.toList) later := by
  cases stepped with
  | invokes op => exact accounts_invoke accounts op
  | observes number op result waits answer =>
      rw [Option.toList_none, List.append_nil]
      exact accounts_answer accounts waits answer (.inl ⟨rfl, rfl⟩)
  | answers number op result after waits answer =>
      rw [Option.toList_none, List.append_nil]
      exact accounts_answer accounts waits answer (.inr rfl)
  | returns number op result done => exact accounts_return accounts done
  | fails number phase opened harmless => exact accounts_fail accounts opened harmless

theorem emits_accounts
    (emitted : Emits (Step spec) (Object.initial initial) history object) :
    Accounts spec initial history object := by
  induction emitted with
  | refl => exact accounts_initial spec initial
  | silent _ last ih =>
      have accounts := step_accounts ih last
      rw [Option.toList_none, List.append_nil] at accounts
      exact accounts
  | visible _ last ih => exact step_accounts ih last

/-- With no call between its effect and its return, the calls that have returned
are serialized, and leave the object's state. -/
theorem emits_serializes (emitted : Emits (Step spec) (Object.initial initial) history object)
    (settled : ∀ number op result, object.phase number ≠ some (.answered op result)) :
    ∃ order, Serializes spec initial history order object.state := by
  classical
  have accounts := emits_accounts emitted
  let order := object.log.filter fun call => decide (object.phase call.number = none)
  have ordered : ∀ call, call ∈ order ↔ call ∈ object.log ∧ object.phase call.number = none := by
    intro call
    simp only [order, List.mem_filter, decide_eq_true_eq]
  refine ⟨order, ?_⟩
  constructor
  case replays =>
    apply traces_replays
    apply traces_filter accounts.traces
    intro call member dropped
    have opened : object.phase call.number ≠ none := by simpa using dropped
    rcases accounts.stands call member with ended | observed | answered
    · exact absurd (accounts.returned call ended).2 opened
    · exact ⟨call.op, call.result, observed⟩
    · exact absurd answered (settled _ _ _)
  case exact =>
    intro call
    rw [ordered]
    constructor
    · intro both
      obtain ⟨member, closed⟩ := both
      rcases accounts.stands call member with ended | observed | answered
      · exact ended
      · rw [closed] at observed
        cases observed
      · rw [closed] at answered
        cases answered
    · exact accounts.returned call
  case invoked =>
    intro call member
    exact accounts.invoked call ((ordered call).mp member).1
  case kept =>
    intro call member ended
    exact (accounts.failed call.number ended).2.2 call ((ordered call).mp member).1 rfl
  case once => exact accounts.once.sublist (List.filter_sublist.map _)
  case realTime =>
    intro first second member sublist
    obtain ⟨logged, closed⟩ := (ordered second).mp member
    have both := (accounts.realTime first second second.op logged sublist).filter
      fun call => decide (object.phase call.number = none)
    have ended := (accounts.returned first (sublist.subset List.mem_cons_self)).2
    rw [List.filter_cons_of_pos (by simpa using ended),
      List.filter_cons_of_pos (by simpa using closed), List.filter_nil] at both
    exact both

end Account

end OrderMessaging.AtomicObject
