import Mathlib.Algebra.Order.Floor.Semiring
import Mathlib.Algebra.Order.Field.Basic
import Mathlib.Tactic.Linarith
import OrderMessaging.Library.Program

/-!
Loops of programs, and loops that wait for something until a deadline. A program
is a finite tree, so a loop is given the number of passes it may make; one that
has used them up is still running, which is a fault of its own. The rule for a
loop bounds the passes it can need, so that with as many it ends by itself.
-/

namespace OrderMessaging.Polling

open OrderMessaging.Program

set_option autoImplicit false

/-- Where a pass of a loop gets to. -/
inductive Pass (State Value : Type) where
  | again (state : State)
  | leave (value : Value)

section Loop

variable {Fault Op : Type} {Ret Choice : Op → Type} {World State Value : Type}

def loop (running : Fault) (pass : State → Prog Fault Ret (Pass State Value)) :
    Nat → State → Prog Fault Ret Value
  | 0, _ => .raise running
  | passes + 1, state =>
      (pass state).bind fun reached =>
        match reached with
        | .again later => loop running pass passes later
        | .leave value => pure value

variable {exec : Semantics Fault Ret Choice World} {rely : World → World → Prop}
variable {pre : Op → World → Prop} {post : Except Fault Value → World → Prop}

/-- A pass ends the loop rightly, or leaves fewer than `left` passes to be made. -/
def PassEnds (post : Except Fault Value → World → Prop) (invariant : State → World → Prop)
    (variant : World → Nat) (left : Nat) :
    Except Fault (Pass State Value) → World → Prop
  | .ok (.again state), world => invariant state world ∧ variant world < left
  | .ok (.leave value), world => post (.ok value) world
  | .error fault, world => post (.error fault) world

theorem upholds_loop {running : Fault} {pass : State → Prog Fault Ret (Pass State Value)}
    {invariant : State → World → Prop} {variant : World → Nat}
    (each : ∀ state world, invariant state world →
      Upholds exec rely pre (PassEnds post invariant variant (variant world)) (pass state) world)
    {passes : Nat} {state : State} {world : World} (holds : invariant state world)
    (enough : variant world < passes) :
    Upholds exec rely pre post (loop running pass passes state) world := by
  induction passes generalizing state world with
  | zero => exact absurd enough (Nat.not_lt_zero _)
  | succ passes ih =>
      rw [loop, upholds_bind]
      apply upholds_mono (each state world holds)
      intro outcome final ended
      cases outcome with
      | error fault => exact ended
      | ok reached =>
          cases reached with
          | leave value => exact ended
          | again later => exact ih ended.1 (Nat.lt_of_lt_of_le ended.2 (Nat.le_of_lt_succ enough))

/-- A loop does the calls of its passes. -/
theorem makes_loop {allowed : Op → Prop} {running : Fault}
    {pass : State → Prog Fault Ret (Pass State Value)}
    (made : ∀ state, Makes allowed (pass state)) (passes : Nat) (state : State) :
    Makes allowed (loop running pass passes state) := by
  induction passes generalizing state with
  | zero => exact makes_done _
  | succ passes ih =>
      apply makes_bind (made state)
      intro reached
      cases reached with
      | again later => exact ih later
      | leave value => exact makes_done _

end Loop

section Deadline

variable {Time : Type} [Field Time] [LinearOrder Time] [IsStrictOrderedRing Time]
variable [FloorSemiring Time]

/-- How often one can still wait for `interval` before the deadline is there. -/
def waitsLeft (deadline interval clock : Time) : Nat := ⌈(deadline - clock) / interval⌉₊

theorem waits_left_lt {deadline interval clock later : Time} (positive : 0 < interval)
    (early : clock < deadline) (moved : clock + interval ≤ later) :
    waitsLeft deadline interval later < waitsLeft deadline interval clock := by
  have ahead : 0 < (deadline - clock) / interval := div_pos (sub_pos.mpr early) positive
  apply Nat.lt_ceil.mpr
  by_cases passed : deadline ≤ later
  · have none : waitsLeft deadline interval later = 0 :=
      Nat.ceil_eq_zero.mpr (div_nonpos_of_nonpos_of_nonneg (sub_nonpos.mpr passed) positive.le)
    rw [none, Nat.cast_zero]
    exact ahead
  · have still : 0 ≤ (deadline - later) / interval :=
      div_nonneg (sub_nonneg.mpr (not_le.mp passed).le) positive.le
    calc (⌈(deadline - later) / interval⌉₊ : Time)
        < (deadline - later) / interval + 1 := Nat.ceil_lt_add_one still
      _ = (deadline - later + interval) / interval := div_add_one positive.ne'
      _ ≤ (deadline - clock) / interval := by
          apply div_le_div_of_nonneg_right _ positive.le
          linarith only [moved]

theorem waits_left_le {timeout interval started clock : Time} (positive : 0 < interval)
    (since : started ≤ clock) :
    waitsLeft (started + timeout) interval clock ≤ ⌈timeout / interval⌉₊ := by
  apply Nat.ceil_mono
  apply div_le_div_of_nonneg_right _ positive.le
  linarith only [since]

end Deadline

section Polling

variable {Fault Op : Type} {Ret Choice : Op → Type} {World State Value Time : Type}
variable [Field Time] [LinearOrder Time] [IsStrictOrderedRing Time] [FloorSemiring Time]

/-- A loop `while monotonic() < deadline: look; wait`, and the exception after it. -/
structure Poll (Fault : Type) {Op : Type} (Ret : Op → Type) (State Value Time : Type) where
  deadline : Time
  now : Prog Fault Ret Time
  look : State → Prog Fault Ret (Pass State Value)
  wait : Prog Fault Ret Unit
  expired : State → Fault

def Poll.pass (poll : Poll Fault Ret State Value Time) (state : State) :
    Prog Fault Ret (Pass State Value) :=
  poll.now.bind fun time =>
    if time < poll.deadline then
      (poll.look state).bind fun reached =>
        match reached with
        | .leave value => pure (.leave value)
        | .again later => poll.wait.bind fun _ => pure (.again later)
    else .raise (poll.expired state)

def Poll.loop (poll : Poll Fault Ret State Value Time) (running : Fault) (passes : Nat)
    (state : State) : Prog Fault Ret Value :=
  Polling.loop running poll.pass passes state

/-- What a look may end in: as the loop may end, or with a state to go on from. -/
def Looked (post : Except Fault Value → World → Prop) (invariant : State → World → Prop)
    (clock : World → Time) (since : Time) : Except Fault (Pass State Value) → World → Prop
  | .ok (.again state), world => invariant state world ∧ since ≤ clock world
  | .ok (.leave value), world => post (.ok value) world
  | .error fault, world => post (.error fault) world

/-- What a poll asks of its parts: a clock that does not go back, waits that last
at least `interval`, and looks and expiry that establish the postcondition. -/
structure Sound (poll : Poll Fault Ret State Value Time) (exec : Semantics Fault Ret Choice World)
    (rely : World → World → Prop) (pre : Op → World → Prop)
    (post : Except Fault Value → World → Prop) (invariant : State → World → Prop)
    (clock : World → Time) (interval : Time) : Prop where
  reads : ∀ state world, invariant state world → Upholds exec rely pre
    (fun outcome final => ∃ time, outcome = .ok time ∧ clock world ≤ time ∧ time ≤ clock final ∧
      invariant state final) poll.now world
  looks : ∀ state world, invariant state world → Upholds exec rely pre
    (Looked post invariant clock (clock world)) (poll.look state) world
  waits : ∀ state world, invariant state world → Upholds exec rely pre
    (fun outcome final => outcome = .ok () ∧ clock world + interval ≤ clock final ∧
      invariant state final) poll.wait world
  expires : ∀ state world, invariant state world → poll.deadline ≤ clock world →
    post (.error (poll.expired state)) world

variable {poll : Poll Fault Ret State Value Time} {exec : Semantics Fault Ret Choice World}
variable {rely : World → World → Prop} {pre : Op → World → Prop}
variable {post : Except Fault Value → World → Prop} {invariant : State → World → Prop}
variable {clock : World → Time} {interval : Time}

/-- One pass: it ends the loop, or a wait fewer is left. -/
theorem upholds_pass (positive : 0 < interval)
    (sound : Sound poll exec rely pre post invariant clock interval) {state : State}
    {world : World} (holds : invariant state world) :
    Upholds exec rely pre
      (PassEnds post invariant (fun final => waitsLeft poll.deadline interval (clock final))
        (waitsLeft poll.deadline interval (clock world)))
      (poll.pass state) world := by
  rw [Poll.pass, upholds_bind]
  apply upholds_mono (sound.reads state world holds)
  intro outcome seen read
  obtain ⟨time, returned, since, reached, still⟩ := read
  subst returned
  rw [continues_ok]
  by_cases early : time < poll.deadline
  · rw [if_pos early, upholds_bind]
    apply upholds_mono (sound.looks state seen still)
    intro outcome looked ended
    cases outcome with
    | error fault => exact ended
    | ok reply =>
        cases reply with
        | leave value => exact ended
        | again later =>
            rw [continues_ok, upholds_bind]
            apply upholds_mono (sound.waits later looked ended.1)
            intro outcome final waited
            obtain ⟨returned, moved, kept⟩ := waited
            subst returned
            refine ⟨kept, waits_left_lt positive (since.trans_lt early) ?_⟩
            calc clock world + interval
                ≤ clock looked + interval := by
                  have later := since.trans (reached.trans ended.2)
                  exact add_le_add_left later interval
              _ ≤ clock final := moved
  · rw [if_neg early]
    exact sound.expires state seen still ((not_lt.mp early).trans reached)

/-- A poll ends as it should, and does so by itself, with a pass for each wait
before its deadline and one more. -/
theorem upholds_poll {running : Fault} (positive : 0 < interval)
    (sound : Sound poll exec rely pre post invariant clock interval) {passes : Nat}
    {state : State} {world : World} (holds : invariant state world)
    (enough : waitsLeft poll.deadline interval (clock world) < passes) :
    Upholds exec rely pre post (poll.loop running passes state) world :=
  upholds_loop (fun _ _ kept => upholds_pass positive sound kept) holds enough

omit [Field Time] [IsStrictOrderedRing Time] [FloorSemiring Time] in
theorem makes_poll {allowed : Op → Prop} {running : Fault} (reads : Makes allowed poll.now)
    (looks : ∀ state, Makes allowed (poll.look state)) (waits : Makes allowed poll.wait)
    (passes : Nat) (state : State) : Makes allowed (poll.loop running passes state) := by
  apply makes_loop
  intro state
  apply makes_bind reads
  intro time
  split
  · apply makes_bind (looks state)
    intro reached
    cases reached with
    | leave value => exact makes_done _
    | again later => exact makes_bind waits fun _ => makes_done _
  · exact makes_done _

end Polling

end OrderMessaging.Polling
