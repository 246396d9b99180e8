import Mathlib.Logic.Function.Basic
import OrderMessaging.Library.Program

/-!
Programs interleaved call by call over one world. A thread can be started on a
fresh input, advanced over its next call, or stopped anywhere. The rule carries a
`rely` that every call guarantees: then each thread's obligations hold wherever
it stands, whatever the other threads did.
-/

namespace OrderMessaging.Interleaving

open OrderMessaging.Program

set_option autoImplicit false

structure System (Fault : Type) {Op : Type} (Ret : Op → Type) (Value World : Type) where
  threads : Nat → Option (Prog Fault Ret Value)
  world : World

inductive Label (Input : Type) {Op : Type} (Choice : Op → Type) where
  | start (thread : Nat) (input : Input)
  | advance (thread : Nat) (answer : (op : Op) → Choice op)
  | stop (thread : Nat)

variable {Fault Op Input Value World : Type} {Ret Choice : Op → Type}

def System.idle (world : World) : System Fault Ret Value World := ⟨fun _ => none, world⟩

section Steps

variable (exec : Semantics Fault Ret Choice World) (program : Input → Prog Fault Ret Value)

def step (system : System Fault Ret Value World) (label : Label Input Choice) :
    System Fault Ret Value World :=
  match label with
  | .start thread input =>
      match system.threads thread with
      | none => { system with threads := Function.update system.threads thread (program input) }
      | some _ => system
  | .stop thread => { system with threads := Function.update system.threads thread none }
  | .advance thread answer =>
      match system.threads thread with
      | some (.call op next) =>
          let (result, reached) := exec op (answer op) system.world
          ⟨Function.update system.threads thread (next result), reached⟩
      | some (.done _) => { system with threads := Function.update system.threads thread none }
      | none => system

def run (labels : List (Label Input Choice)) (system : System Fault Ret Value World) :
    System Fault Ret Value World := labels.foldl (step exec program) system

theorem run_append (early late : List (Label Input Choice))
    (system : System Fault Ret Value World) :
    run exec program (early ++ late) system =
      run exec program late (run exec program early system) :=
  List.foldl_append

theorem step_start_thread {system : System Fault Ret Value World} {thread : Nat}
    (idle : system.threads thread = none) (input : Input) :
    (step exec program system (.start thread input)).threads thread = some (program input) := by
  simp only [step, idle, Function.update_self]

theorem step_advance {system : System Fault Ret Value World} {thread : Nat} {op : Op}
    {next : Except Fault (Ret op) → Prog Fault Ret Value}
    (held : system.threads thread = some (.call op next)) (answer : (op : Op) → Choice op) :
    step exec program system (.advance thread answer) =
      ⟨Function.update system.threads thread (next (exec op (answer op) system.world).1),
        (exec op (answer op) system.world).2⟩ := by
  simp only [step, held]

theorem step_advance_thread {system : System Fault Ret Value World} {thread : Nat} {op : Op}
    {next : Except Fault (Ret op) → Prog Fault Ret Value}
    (held : system.threads thread = some (.call op next)) (answer : (op : Op) → Choice op) :
    (step exec program system (.advance thread answer)).threads thread =
      some (next (exec op (answer op) system.world).1) := by
  rw [step_advance exec program held]
  exact Function.update_self ..

/-- The call that a step makes. -/
def callOf (system : System Fault Ret Value World) :
    Label Input Choice → Option ((op : Op) × Choice op)
  | .advance thread answer =>
      match system.threads thread with
      | some (.call op _) => some ⟨op, answer op⟩
      | _ => none
  | _ => none

/-- A step changes the world by its call, or not at all. -/
theorem step_world (system : System Fault Ret Value World) (label : Label Input Choice) :
    (step exec program system label).world = match callOf system label with
      | some ⟨op, choice⟩ => (exec op choice system.world).2
      | none => system.world := by
  cases label with
  | start thread input =>
      simp only [step, callOf]
      cases system.threads thread <;> rfl
  | stop thread => rfl
  | advance thread answer =>
      simp only [step, callOf]
      cases system.threads thread with
      | none => rfl
      | some running => cases running <;> rfl

/-- The steps that take one thread from `running` to its end with no other between. -/
def drive (thread : Nat) (env : Nat → (op : Op) → Choice op) :
    Nat → Prog Fault Ret Value → World → List (Label Input Choice)
  | index, .done _, _ => [.advance thread (env index)]
  | index, .call op next, world =>
      let (result, reached) := exec op (env index op) world
      .advance thread (env index) :: drive thread env (index + 1) (next result) reached

/-- A thread that nothing interrupts does what the program does alone. -/
theorem run_drive (thread : Nat) (env : Nat → (op : Op) → Choice op) (index : Nat)
    {running : Prog Fault Ret Value} {system : System Fault Ret Value World}
    (held : system.threads thread = some running) :
    run exec program (drive exec thread env index running system.world) system =
      ⟨Function.update system.threads thread none,
        (execute exec env index running system.world).final⟩ := by
  induction running generalizing index system with
  | done outcome =>
      simp only [drive, run, List.foldl_cons, List.foldl_nil, step, held]
      rfl
  | call op next ih =>
      have advanced := step_advance exec program held (env index)
      have further := @ih (exec op (env index op) system.world).1 (index + 1)
        (step exec program system (.advance thread (env index)))
      simp only [drive, run, List.foldl_cons] at further ⊢
      rw [advanced] at further ⊢
      rw [further (Function.update_self ..), Function.update_idem]
      rfl

end Steps

section Rule

variable {exec : Semantics Fault Ret Choice World} {program : Input → Prog Fault Ret Value}
variable {rely : World → World → Prop} {pre : Op → World → Prop}
variable {post : Except Fault Value → World → Prop}

/-- Every running thread upholds its obligations in the current world. -/
def Sound (exec : Semantics Fault Ret Choice World) (rely : World → World → Prop)
    (pre : Op → World → Prop) (post : Except Fault Value → World → Prop) (origin : World)
    (system : System Fault Ret Value World) : Prop :=
  rely origin system.world ∧ ∀ thread running, system.threads thread = some running →
    Upholds exec rely pre post running system.world

theorem sound_update {origin reached : World} {system : System Fault Ret Value World}
    (reliable : Reliable rely post) (sound : Sound exec rely pre post origin system)
    (between : rely system.world reached)
    (thread : Nat) (running : Option (Prog Fault Ret Value))
    (upheld : ∀ own, running = some own → Upholds exec rely pre post own reached) :
    Sound exec rely pre post origin ⟨Function.update system.threads thread running, reached⟩ := by
  refine ⟨reliable.trans _ _ _ sound.1 between, ?_⟩
  intro other current held
  have updated : Function.update system.threads thread running other = some current := held
  by_cases same : other = thread
  · subst same
    rw [Function.update_self] at updated
    exact upheld current updated
  · rw [Function.update_of_ne same] at updated
    exact upholds_stable reliable between (sound.2 other current updated)

/-- What one step preserves. -/
theorem step_sound {origin : World} {system : System Fault Ret Value World}
    (reliable : Reliable rely post)
    (guarantee : ∀ op choice world, rely origin world → pre op world →
      rely world (exec op choice world).2)
    (ready : ∀ input world, rely origin world → Upholds exec rely pre post (program input) world)
    (sound : Sound exec rely pre post origin system) (label : Label Input Choice) :
    Sound exec rely pre post origin (step exec program system label) := by
  have still := reliable.refl system.world
  cases label with
  | stop thread =>
      apply sound_update reliable sound still
      intro own running
      cases running
  | start thread input =>
      simp only [step]
      cases held : system.threads thread with
      | some _ => exact sound
      | none =>
          apply sound_update reliable sound still
          intro own running
          cases running
          exact ready input system.world sound.1
  | advance thread answer =>
      simp only [step]
      cases held : system.threads thread with
      | none => exact sound
      | some running =>
          cases running with
          | done outcome =>
              apply sound_update reliable sound still
              intro own running
              cases running
          | call op next =>
              obtain ⟨allowed, after⟩ := sound.2 thread _ held system.world still
              have between := guarantee op (answer op) system.world sound.1 allowed
              apply sound_update reliable sound between
              intro own running
              cases running
              exact after (answer op)

theorem run_sound {origin : World} (reliable : Reliable rely post)
    (guarantee : ∀ op choice world, rely origin world → pre op world →
      rely world (exec op choice world).2)
    (ready : ∀ input world, rely origin world → Upholds exec rely pre post (program input) world)
    (labels : List (Label Input Choice)) {system : System Fault Ret Value World}
    (sound : Sound exec rely pre post origin system) :
    Sound exec rely pre post origin (run exec program labels system) := by
  induction labels generalizing system with
  | nil => exact sound
  | cons label rest ih =>
      apply ih
      exact step_sound reliable guarantee ready sound label

/-- Any state of a run can serve as the origin of the rest of it. -/
theorem run_sound_from {origin : World} (reliable : Reliable rely post)
    (guarantee : ∀ op choice world, rely origin world → pre op world →
      rely world (exec op choice world).2)
    (ready : ∀ input world, rely origin world → Upholds exec rely pre post (program input) world)
    (labels : List (Label Input Choice)) {system : System Fault Ret Value World}
    (sound : Sound exec rely pre post origin system) :
    Sound exec rely pre post system.world (run exec program labels system) := by
  have onward : ∀ world, rely system.world world → rely origin world := by
    intro world later
    exact reliable.trans _ _ _ sound.1 later
  apply run_sound reliable
  · intro op choice world later
    exact guarantee op choice world (onward world later)
  · intro input world later
    exact ready input world (onward world later)
  · exact ⟨reliable.refl system.world, sound.2⟩

theorem sound_idle (reliable : Reliable rely post) (origin : World) :
    Sound exec rely pre post origin (System.idle origin) := by
  refine ⟨reliable.refl origin, ?_⟩
  intro thread running held
  cases held

end Rule

section Growth

variable {exec : Semantics Fault Ret Choice World} {program : Input → Prog Fault Ret Value}
variable {invariant : World → Prop} {grows : World → World → Prop} {pre : Op → World → Prop}
variable {post : Except Fault Value → World → Prop}

/-- A rely of a common kind: nothing known is taken back, and an invariant is kept. -/
def Keeps (invariant : World → Prop) (grows : World → World → Prop) (before after : World) :
    Prop :=
  grows before after ∧ (invariant before → invariant after)

/-- What such a rely asks of the order in which worlds grow. -/
structure Growth (grows : World → World → Prop) (post : Except Fault Value → World → Prop) :
    Prop where
  refl : ∀ world, grows world world
  trans : ∀ first second third, grows first second → grows second third → grows first third
  stable : ∀ outcome before after, grows before after → post outcome before → post outcome after

theorem keeps_reliable (growth : Growth grows post) : Reliable (Keeps invariant grows) post where
  refl world := ⟨growth.refl world, id⟩
  trans first second third := by
    intro early late
    exact ⟨growth.trans first second third early.1 late.1, fun holds => late.2 (early.2 holds)⟩
  stable outcome before after := by
    intro between holds
    exact growth.stable outcome before after between.1 holds

/-- A program ends in a world grown from the one it began in. -/
theorem upholds_grown {Result : Type} {ends : Except Fault Result → World → Prop}
    (growth : Growth grows post)
    (guarantee : ∀ op choice world, invariant world → pre op world →
      Keeps invariant grows world (exec op choice world).2)
    {running : Prog Fault Ret Result} {world : World} (holds : invariant world)
    (upheld : Upholds exec (Keeps invariant grows) pre ends running world) :
    Upholds exec (Keeps invariant grows) pre
      (fun outcome final => ends outcome final ∧ invariant final ∧ grows world final)
      running world := by
  induction running generalizing world with
  | done outcome => exact ⟨upheld, holds, growth.refl world⟩
  | call op next ih =>
      intro reached between
      obtain ⟨ready, after⟩ := upheld reached between
      refine ⟨ready, ?_⟩
      intro choice
      have reachedHolds := between.2 holds
      have called := guarantee op choice reached reachedHolds ready
      apply upholds_mono (ih _ (called.2 reachedHolds) (after choice))
      intro outcome final ended
      obtain ⟨own, still, grown⟩ := ended
      exact ⟨own, still, growth.trans _ _ _ (growth.trans _ _ _ between.1 called.1) grown⟩

/-- Every thread upholds its obligations in a world that has grown since `origin`. -/
structure Safe (exec : Semantics Fault Ret Choice World) (invariant : World → Prop)
    (grows : World → World → Prop) (pre : Op → World → Prop)
    (post : Except Fault Value → World → Prop) (origin : World)
    (system : System Fault Ret Value World) : Prop where
  holds : invariant system.world
  grown : grows origin system.world
  upheld : ∀ thread running, system.threads thread = some running →
    Upholds exec (Keeps invariant grows) pre post running system.world

theorem run_safe (growth : Growth grows post)
    (guarantee : ∀ op choice world, invariant world → pre op world →
      Keeps invariant grows world (exec op choice world).2)
    (ready : ∀ input world, invariant world →
      Upholds exec (Keeps invariant grows) pre post (program input) world)
    (labels : List (Label Input Choice)) {origin : World} {system : System Fault Ret Value World}
    (safe : Safe exec invariant grows pre post origin system) :
    Safe exec invariant grows pre post system.world (run exec program labels system) := by
  have begun : Sound exec (Keeps invariant grows) pre post system.world system :=
    ⟨⟨growth.refl system.world, id⟩, safe.upheld⟩
  have sound := run_sound (keeps_reliable growth)
    (fun op choice world later => guarantee op choice world (later.2 safe.holds))
    (fun input world later => ready input world (later.2 safe.holds)) labels begun
  exact ⟨sound.1.2 safe.holds, sound.1.1, sound.2⟩

theorem safe_idle (growth : Growth grows post) {origin : World} (holds : invariant origin) :
    Safe exec invariant grows pre post origin (System.idle origin) := by
  refine ⟨holds, growth.refl origin, ?_⟩
  intro thread running held
  cases held

/-- No call is made before its precondition holds. -/
theorem safe_called (growth : Growth grows post) {origin : World}
    {system : System Fault Ret Value World}
    (safe : Safe exec invariant grows pre post origin system) {label : Label Input Choice}
    {op : Op} {choice : Choice op} (called : callOf system label = some ⟨op, choice⟩) :
    pre op system.world := by
  cases label with
  | start thread input => cases called
  | stop thread => cases called
  | advance thread answer =>
      cases held : system.threads thread with
      | none =>
          simp only [callOf, held] at called
          cases called
      | some running =>
          cases running with
          | done outcome =>
              simp only [callOf, held] at called
              cases called
          | call own next =>
              simp only [callOf, held] at called
              cases called
              exact (safe.upheld thread _ held system.world ⟨growth.refl _, id⟩).1

end Growth

end OrderMessaging.Interleaving
