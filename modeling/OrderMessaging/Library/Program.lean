import Mathlib.Logic.Basic
import Mathlib.Data.List.Basic

/-!
Programs that call collaborators. A program is the finite tree of the calls it
makes: every node names one operation and continues on what that operation
returned or raised. The meaning of the operations is a parameter, so one program
can be run alone, stopped after any call, or interleaved with others.

`Upholds` is the rule of pre- and postconditions. `rely` is what other programs
may do to the world between two calls of this one; a program that runs alone
relies on equality.
-/

namespace OrderMessaging.Program

set_option autoImplicit false

inductive Prog (Fault : Type) {Op : Type} (Ret : Op → Type) (Value : Type) : Type where
  | done (outcome : Except Fault Value)
  | call (op : Op) (next : Except Fault (Ret op) → Prog Fault Ret Value)

namespace Prog

variable {Fault Op : Type} {Ret : Op → Type} {Value Other : Type}

def bind : Prog Fault Ret Value → (Value → Prog Fault Ret Other) → Prog Fault Ret Other
  | done (.ok value), next => next value
  | done (.error fault), _ => done (.error fault)
  | call op after, next => call op fun result => (after result).bind next

def raise (fault : Fault) : Prog Fault Ret Value := done (.error fault)

def perform (op : Op) : Prog Fault Ret (Ret op) := call op done

/-- Runs the program to its end and hands its exception over as a value: the body of
a `try` with an `except Exception` whose handler still sees the local variables. A
fault stands for an instance of a subclass of `Exception` only; what such a handler
does not catch, a `KeyboardInterrupt` or `SystemExit`, is not a fault but stops the
program where it is. -/
def attempt : Prog Fault Ret Value → Prog Fault Ret (Except Fault Value)
  | done outcome => done (.ok outcome)
  | call op next => call op fun result => (next result).attempt

instance : Monad (Prog Fault Ret) where
  pure value := done (.ok value)
  bind := bind

/-- One exception leaves where another came in: the handler of a `try` that
only wraps what it caught. -/
def mapFault (wrap : Fault → Fault) : Prog Fault Ret Value → Prog Fault Ret Value
  | done (.ok value) => done (.ok value)
  | done (.error fault) => done (.error (wrap fault))
  | call op next => call op fun result => (next result).mapFault wrap

/-- The program over a larger set of operations. -/
def rename {Own : Type} (inject : Own → Op) :
    Prog Fault (fun own => Ret (inject own)) Value → Prog Fault Ret Value
  | done outcome => done outcome
  | call own next => call (inject own) fun result => (next result).rename inject

@[simp] theorem pure_eq (value : Value) :
    (pure value : Prog Fault Ret Value) = done (.ok value) := rfl

@[simp] theorem bind_eq (program : Prog Fault Ret Value) (next : Value → Prog Fault Ret Other) :
    program >>= next = program.bind next := rfl

end Prog

/-- What one operation does to the world, given the choice its environment made. -/
abbrev Semantics (Fault : Type) {Op : Type} (Ret Choice : Op → Type) (World : Type) :=
  (op : Op) → Choice op → World → Except Fault (Ret op) × World

section Judgment

variable {Fault Op : Type} {Ret Choice : Op → Type} {World Value Other : Type}
variable (exec : Semantics Fault Ret Choice World)
variable (rely : World → World → Prop) (pre : Op → World → Prop)

def Upholds (post : Except Fault Value → World → Prop) : Prog Fault Ret Value → World → Prop
  | .done outcome, world => post outcome world
  | .call op next, world => ∀ reached, rely world reached → pre op reached ∧
      ∀ choice, Upholds post (next (exec op choice reached).1) (exec op choice reached).2

/-- The postcondition of the first of two programs in sequence. -/
def Continues (post : Except Fault Other → World → Prop) (next : Value → Prog Fault Ret Other) :
    Except Fault Value → World → Prop
  | .ok value, world => Upholds exec rely pre post (next value) world
  | .error fault, world => post (.error fault) world

variable {exec rely pre}

@[simp] theorem upholds_done (post : Except Fault Value → World → Prop)
    (outcome : Except Fault Value) (world : World) :
    Upholds exec rely pre post (.done outcome) world ↔ post outcome world := Iff.rfl

@[simp] theorem upholds_raise (post : Except Fault Value → World → Prop)
    (fault : Fault) (world : World) :
    Upholds exec rely pre post (.raise fault) world ↔ post (.error fault) world := Iff.rfl

@[simp] theorem continues_ok (post : Except Fault Other → World → Prop)
    (next : Value → Prog Fault Ret Other) (value : Value) (world : World) :
    Continues exec rely pre post next (.ok value) world ↔
      Upholds exec rely pre post (next value) world := Iff.rfl

@[simp] theorem continues_error (post : Except Fault Other → World → Prop)
    (next : Value → Prog Fault Ret Other) (fault : Fault) (world : World) :
    Continues exec rely pre post next (.error fault) world ↔ post (.error fault) world := Iff.rfl

theorem upholds_bind (post : Except Fault Other → World → Prop)
    (program : Prog Fault Ret Value) (next : Value → Prog Fault Ret Other) (world : World) :
    Upholds exec rely pre post (program.bind next) world ↔
      Upholds exec rely pre (Continues exec rely pre post next) program world := by
  induction program generalizing world with
  | done outcome => cases outcome <;> rfl
  | call op after ih => simp only [Prog.bind, Upholds, ih]

theorem upholds_attempt (post : Except Fault (Except Fault Value) → World → Prop)
    (program : Prog Fault Ret Value) (world : World) :
    Upholds exec rely pre post program.attempt world ↔
      Upholds exec rely pre (fun outcome => post (.ok outcome)) program world := by
  induction program generalizing world with
  | done outcome => rfl
  | call op next ih => simp only [Prog.attempt, Upholds, ih]

theorem upholds_mapFault (wrap : Fault → Fault) (post : Except Fault Value → World → Prop)
    (program : Prog Fault Ret Value) (world : World) :
    Upholds exec rely pre post (program.mapFault wrap) world ↔
      Upholds exec rely pre (fun outcome => post (outcome.mapError wrap)) program world := by
  induction program generalizing world with
  | done outcome => cases outcome <;> rfl
  | call op next ih => simp only [Prog.mapFault, Upholds, ih]

theorem upholds_rename {Own : Type} (inject : Own → Op) (post : Except Fault Value → World → Prop)
    (program : Prog Fault (fun own => Ret (inject own)) Value) (world : World) :
    Upholds exec rely pre post (program.rename inject) world ↔
      Upholds (fun own => exec (inject own)) rely (fun own => pre (inject own)) post program
        world := by
  induction program generalizing world with
  | done outcome => rfl
  | call own next ih => simp only [Prog.rename, Upholds, ih]

theorem upholds_perform {op : Op} (post : Except Fault (Ret op) → World → Prop) (world : World) :
    Upholds exec rely pre post (.perform op) world ↔
      ∀ reached, rely world reached → pre op reached ∧
        ∀ choice, post (exec op choice reached).1 (exec op choice reached).2 := Iff.rfl

/-- A call of a program that runs alone. -/
theorem upholds_call {op : Op} {post : Except Fault Other → World → Prop}
    {next : Ret op → Prog Fault Ret Other} {world : World} (ready : pre op world)
    (after : ∀ choice, Continues exec Eq pre post next (exec op choice world).1
      (exec op choice world).2) :
    Upholds exec Eq pre post ((Prog.perform op).bind next) world := by
  rw [upholds_bind, upholds_perform]
  intro reached same
  subst same
  exact ⟨ready, after⟩

theorem upholds_mono {post weaker : Except Fault Value → World → Prop}
    {program : Prog Fault Ret Value} {world : World}
    (upheld : Upholds exec rely pre post program world)
    (weaken : ∀ outcome final, post outcome final → weaker outcome final) :
    Upholds exec rely pre weaker program world := by
  induction program generalizing world with
  | done outcome => exact weaken outcome world upheld
  | call op next ih =>
      intro reached between
      obtain ⟨ready, after⟩ := upheld reached between
      exact ⟨ready, fun choice => ih _ (after choice)⟩

theorem upholds_ready {weaker : Op → World → Prop} {post : Except Fault Value → World → Prop}
    {program : Prog Fault Ret Value} {world : World}
    (upheld : Upholds exec rely pre post program world)
    (weaken : ∀ op reached, pre op reached → weaker op reached) :
    Upholds exec rely weaker post program world := by
  induction program generalizing world with
  | done outcome => exact upheld
  | call op next ih =>
      intro reached between
      obtain ⟨ready, after⟩ := upheld reached between
      exact ⟨weaken op reached ready, fun choice => ih _ (after choice)⟩

/-- A program that works on a part of the world upholds there what it upholds on
the part alone, if others treat the part as they may. -/
theorem upholds_view {Part : Type} {view : World → Part} {part : Semantics Fault Ret Choice Part}
    {relyPart : Part → Part → Prop} {prePart : Op → Part → Prop}
    {post : Except Fault Value → Part → Prop}
    (acts : ∀ op choice world, (exec op choice world).1 = (part op choice (view world)).1 ∧
      view (exec op choice world).2 = (part op choice (view world)).2)
    (sees : ∀ before after, rely before after → relyPart (view before) (view after))
    (ready : ∀ op world, prePart op (view world) → pre op world)
    {program : Prog Fault Ret Value} {world : World}
    (upheld : Upholds part relyPart prePart post program (view world)) :
    Upholds exec rely pre (fun outcome final => post outcome (view final)) program world := by
  induction program generalizing world with
  | done outcome => exact upheld
  | call op next ih =>
      intro reached between
      obtain ⟨allowed, after⟩ := upheld (view reached) (sees world reached between)
      refine ⟨ready op reached allowed, ?_⟩
      intro choice
      have further := after choice
      obtain ⟨result, moved⟩ := acts op choice reached
      rw [← result, ← moved] at further
      exact ih _ further

/-- What interleaving asks of the parameters of the judgment. -/
structure Reliable (rely : World → World → Prop) (post : Except Fault Value → World → Prop) :
    Prop where
  refl : ∀ world, rely world world
  trans : ∀ first second third, rely first second → rely second third → rely first third
  stable : ∀ outcome before after, rely before after → post outcome before → post outcome after

/-- A program's obligations survive what others do. -/
theorem upholds_stable {post : Except Fault Value → World → Prop} (reliable : Reliable rely post)
    {program : Prog Fault Ret Value} {before after : World} (between : rely before after)
    (upheld : Upholds exec rely pre post program before) :
    Upholds exec rely pre post program after := by
  cases program with
  | done outcome => exact reliable.stable outcome before after between upheld
  | call op next =>
      intro reached later
      exact upheld reached (reliable.trans before after reached between later)

end Judgment

section Calls

variable {Fault Op : Type} {Ret Choice : Op → Type} {World Value Other : Type}
variable {allowed : Op → Prop}

/-- Operations that may return or raise anything. -/
def anything : Semantics Fault Ret (fun op => Except Fault (Ret op)) Unit :=
  fun _ result _ => (result, ())

/-- Whatever its calls return, the program makes only allowed ones. -/
def Makes (allowed : Op → Prop) (program : Prog Fault Ret Value) : Prop :=
  Upholds anything Eq (fun op _ => allowed op) (fun _ _ => True) program ()

theorem makes_done (outcome : Except Fault Value) :
    Makes allowed (.done outcome : Prog Fault Ret Value) := trivial

theorem makes_perform {op : Op} (own : allowed op) :
    Makes allowed (.perform op : Prog Fault Ret (Ret op)) :=
  fun _ _ => ⟨own, fun _ => trivial⟩

theorem makes_bind {program : Prog Fault Ret Value} {next : Value → Prog Fault Ret Other}
    (first : Makes allowed program) (rest : ∀ value, Makes allowed (next value)) :
    Makes allowed (program.bind next) := by
  apply (upholds_bind _ _ _ _).mpr
  apply upholds_mono first
  intro outcome final _
  cases outcome with
  | ok value => exact rest value
  | error fault => trivial

theorem makes_attempt {program : Prog Fault Ret Value} (made : Makes allowed program) :
    Makes allowed program.attempt :=
  (upholds_attempt _ _ _).mpr made

theorem makes_mapFault {wrap : Fault → Fault} {program : Prog Fault Ret Value}
    (made : Makes allowed program) : Makes allowed (program.mapFault wrap) :=
  (upholds_mapFault _ _ _ _).mpr made

theorem makes_mono {wider : Op → Prop} (widens : ∀ op, allowed op → wider op)
    {program : Prog Fault Ret Value} (made : Makes allowed program) : Makes wider program := by
  induction program with
  | done outcome => trivial
  | call op next ih =>
      obtain ⟨own, after⟩ := made () rfl
      intro _ _
      exact ⟨widens op own, fun answer => ih answer (after answer)⟩

theorem makes_rename {Own : Type} {inject : Own → Op}
    {program : Prog Fault (fun own => Ret (inject own)) Value}
    (own : ∀ op, allowed (inject op)) : Makes allowed (program.rename inject) := by
  induction program with
  | done outcome => trivial
  | call op next ih =>
      intro _ _
      exact ⟨own op, fun answer => ih answer⟩

/-- A program whose calls need nothing and that may end in any way. -/
theorem upholds_free {exec : Semantics Fault Ret Choice World} {rely : World → World → Prop}
    {pre : Op → World → Prop} {post : Except Fault Value → World → Prop}
    (free : ∀ op world, allowed op → pre op world) (ends : ∀ outcome world, post outcome world)
    {program : Prog Fault Ret Value} (made : Makes allowed program) (world : World) :
    Upholds exec rely pre post program world := by
  induction program generalizing world with
  | done outcome => exact ends outcome world
  | call op next ih =>
      obtain ⟨own, after⟩ := made () rfl
      intro reached _
      exact ⟨free op reached own, fun choice => ih _ (after _) _⟩

/-- A program that upholds its obligations meets them at the calls it can make. -/
theorem upholds_allowed {exec : Semantics Fault Ret Choice World} {rely : World → World → Prop}
    {pre : Op → World → Prop} {post : Except Fault Value → World → Prop}
    {program : Prog Fault Ret Value} {world : World} (made : Makes allowed program)
    (upheld : Upholds exec rely pre post program world) :
    Upholds exec rely (fun op reached => pre op reached ∧ allowed op) post program world := by
  induction program generalizing world with
  | done outcome => exact upheld
  | call op next ih =>
      obtain ⟨own, further⟩ := made () rfl
      intro reached between
      obtain ⟨ready, after⟩ := upheld reached between
      exact ⟨⟨ready, own⟩, fun choice => ih _ (further _) (after choice)⟩

/-- What every allowed call preserves holds before each call and at the end. -/
theorem upholds_of_makes {exec : Semantics Fault Ret Choice World} {invariant : World → Prop}
    (preserved : ∀ op choice world, allowed op → invariant world →
      invariant (exec op choice world).2)
    {program : Prog Fault Ret Value} (made : Makes allowed program) {world : World}
    (holds : invariant world) :
    Upholds exec Eq (fun _ => invariant) (fun _ => invariant) program world := by
  induction program generalizing world with
  | done outcome => exact holds
  | call op next ih =>
      obtain ⟨own, after⟩ := made () rfl
      intro reached same
      subst same
      refine ⟨holds, ?_⟩
      intro choice
      exact ih _ (after _) (preserved op choice world own holds)

end Calls

section Answers

variable {Fault Op : Type} {Ret : Op → Type} {Value Other : Type}

/-- `Makes`, against collaborators whose answers are as `may` says. -/
def MakesUnder (may : (op : Op) → Except Fault (Ret op) → Prop) (allowed : Op → Prop) :
    Prog Fault Ret Value → Prop
  | .done _ => True
  | .call op next => allowed op ∧ ∀ answer, may op answer → MakesUnder may allowed (next answer)

variable {may : (op : Op) → Except Fault (Ret op) → Prop} {allowed : Op → Prop}

theorem makes_under {program : Prog Fault Ret Value} (made : Makes allowed program) :
    MakesUnder may allowed program := by
  induction program with
  | done outcome => trivial
  | call op next ih =>
      obtain ⟨own, after⟩ := made () rfl
      exact ⟨own, fun answer _ => ih answer (after answer)⟩

end Answers

section Alone

variable {Fault Op : Type} {Ret Choice : Op → Type} {World Value : Type}
variable (exec : Semantics Fault Ret Choice World)

/-- A program run to its end on its own: every call with the world it was made
in, the outcome and the final world. -/
structure Execution (Fault Op World Value : Type) where
  calls : List (Op × World)
  outcome : Except Fault Value
  final : World

/-- `env` answers the call number `index`; the number is all the environment
needs, since the program and the world are determined by the earlier answers. -/
def execute (env : Nat → (op : Op) → Choice op) :
    Nat → Prog Fault Ret Value → World → Execution Fault Op World Value
  | _, .done outcome, world => ⟨[], outcome, world⟩
  | index, .call op next, world =>
      let (result, reached) := exec op (env index op) world
      let rest := execute env (index + 1) (next result) reached
      ⟨(op, world) :: rest.calls, rest.outcome, rest.final⟩

/-- The worlds a crash can leave behind: the one before each call and the last. -/
def Execution.worlds (execution : Execution Fault Op World Value) : List World :=
  execution.calls.map Prod.snd ++ [execution.final]

variable {exec}

theorem execute_upholds {pre : Op → World → Prop} {post : Except Fault Value → World → Prop}
    (env : Nat → (op : Op) → Choice op) (index : Nat) {program : Prog Fault Ret Value}
    {world : World} (upheld : Upholds exec Eq pre post program world) :
    (∀ made ∈ (execute exec env index program world).calls, pre made.1 made.2) ∧
      post (execute exec env index program world).outcome
        (execute exec env index program world).final := by
  induction program generalizing index world with
  | done outcome => exact ⟨by simp [execute], upheld⟩
  | call op next ih =>
      obtain ⟨ready, after⟩ := upheld world rfl
      obtain ⟨calls, ended⟩ := ih _ (index + 1) (after (env index op))
      refine ⟨?_, ended⟩
      intro made member
      rcases List.mem_cons.mp member with rfl | later
      · exact ready
      · exact calls made later

theorem execute_invariant {invariant : World → Prop} (env : Nat → (op : Op) → Choice op)
    (index : Nat) {program : Prog Fault Ret Value} {world : World}
    (upheld : Upholds exec Eq (fun _ => invariant) (fun _ => invariant) program world) :
    ∀ reached ∈ (execute exec env index program world).worlds, invariant reached := by
  obtain ⟨calls, ended⟩ := execute_upholds env index upheld
  intro reached member
  rcases List.mem_append.mp member with before | last
  · obtain ⟨made, called, same⟩ := List.mem_map.mp before
    rw [← same]
    exact calls made called
  · rw [List.mem_singleton.mp last]
    exact ended

/-- The same operations in an environment that only makes some choices. -/
def within (exec : Semantics Fault Ret Choice World) (may : (op : Op) → Choice op → Prop) :
    Semantics Fault Ret (fun op => { choice // may op choice }) World :=
  fun op choice world => exec op choice.val world

theorem execute_within {may : (op : Op) → Choice op → Prop} (env : Nat → (op : Op) → Choice op)
    (chosen : ∀ index op, may op (env index op)) (index : Nat) (program : Prog Fault Ret Value)
    (world : World) :
    execute (within exec may) (fun index op => ⟨env index op, chosen index op⟩) index program
      world =
      execute exec env index program world := by
  induction program generalizing index world with
  | done outcome => rfl
  | call op next ih =>
      simp only [execute, within]
      rw [ih]

end Alone

end OrderMessaging.Program
