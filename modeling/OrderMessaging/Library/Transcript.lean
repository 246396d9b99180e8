import Mathlib.Data.List.Induction
import OrderMessaging.Library.Interleaving

/-!
What a program says to its collaborators. A transcript lists every call with what
it returned or raised; `Transcribes` relates a program to the transcripts it can
produce against collaborators that may answer anything. A run of the program over
a world produces one of them.

Programs that run at the same time share a history, in which the exchanges of
each are a transcript of its own. A system that records each call beside its run
keeps such a history: what a thread has said so far is a beginning of one of its
transcripts. A program can also be translated call by call into programs over
other operations; its transcripts then expand exchange by exchange.
-/

namespace OrderMessaging.Transcript

open OrderMessaging.Program

set_option autoImplicit false

/-- One call and its answer. -/
structure Exchange (Fault : Type) {Op : Type} (Ret : Op → Type) where
  op : Op
  answer : Except Fault (Ret op)

variable {Fault Op : Type} {Ret Choice : Op → Type} {World Value Other : Type}

inductive Transcribes : Prog Fault Ret Value → List (Exchange Fault Ret) → Except Fault Value →
    Prop where
  | done (outcome : Except Fault Value) : Transcribes (.done outcome) [] outcome
  | call (op : Op) (next : Except Fault (Ret op) → Prog Fault Ret Value)
      (answer : Except Fault (Ret op)) (rest : List (Exchange Fault Ret))
      (outcome : Except Fault Value) (after : Transcribes (next answer) rest outcome) :
      Transcribes (.call op next) (⟨op, answer⟩ :: rest) outcome

/-- The calls after a program that ended with the first argument. -/
def Resumes (next : Value → Prog Fault Ret Other) :
    Except Fault Value → List (Exchange Fault Ret) → Except Fault Other → Prop
  | .ok value, calls, outcome => Transcribes (next value) calls outcome
  | .error fault, calls, outcome => calls = [] ∧ outcome = .error fault

section Inversion

variable {calls : List (Exchange Fault Ret)}

@[simp] theorem transcribes_done_iff {ended outcome : Except Fault Value} :
    Transcribes (.done ended) calls outcome ↔ calls = [] ∧ outcome = ended := by
  constructor
  · intro transcribed
    cases transcribed
    exact ⟨rfl, rfl⟩
  · rintro ⟨rfl, rfl⟩
    exact .done _

@[simp] theorem transcribes_raise_iff {fault : Fault} {outcome : Except Fault Value} :
    Transcribes (.raise fault) calls outcome ↔ calls = [] ∧ outcome = .error fault :=
  transcribes_done_iff

theorem transcribes_call_iff {op : Op} {next : Except Fault (Ret op) → Prog Fault Ret Value}
    {outcome : Except Fault Value} :
    Transcribes (.call op next) calls outcome ↔
      ∃ answer rest, calls = ⟨op, answer⟩ :: rest ∧ Transcribes (next answer) rest outcome := by
  constructor
  · intro transcribed
    cases transcribed with
    | call _ _ answer rest _ after => exact ⟨answer, rest, rfl, after⟩
  · rintro ⟨answer, rest, rfl, after⟩
    exact .call op next answer rest outcome after

theorem transcribes_perform_iff {op : Op} {outcome : Except Fault (Ret op)} :
    Transcribes (.perform op) calls outcome ↔ calls = [⟨op, outcome⟩] := by
  rw [Prog.perform, transcribes_call_iff]
  constructor
  · rintro ⟨answer, rest, rfl, after⟩
    obtain ⟨rfl, rfl⟩ := transcribes_done_iff.mp after
    rfl
  · intro single
    exact ⟨outcome, [], single, .done outcome⟩

theorem transcribes_bind_iff {program : Prog Fault Ret Value}
    {next : Value → Prog Fault Ret Other} {outcome : Except Fault Other} :
    Transcribes (program.bind next) calls outcome ↔
      ∃ first rest result, calls = first ++ rest ∧ Transcribes program first result ∧
        Resumes next result rest outcome := by
  induction program generalizing calls with
  | done ended =>
      constructor
      · intro transcribed
        refine ⟨[], calls, ended, rfl, .done ended, ?_⟩
        cases ended with
        | ok value => exact transcribed
        | error fault => exact transcribes_done_iff.mp transcribed
      · rintro ⟨first, rest, result, rfl, transcribed, resumed⟩
        obtain ⟨rfl, rfl⟩ := transcribes_done_iff.mp transcribed
        cases result with
        | ok value => exact resumed
        | error fault => exact transcribes_done_iff.mpr resumed
  | call op after ih =>
      rw [Prog.bind, transcribes_call_iff]
      constructor
      · rintro ⟨answer, remaining, rfl, continued⟩
        obtain ⟨first, rest, result, rfl, transcribed, resumed⟩ := (ih answer).mp continued
        exact ⟨⟨op, answer⟩ :: first, rest, result, rfl,
          .call op after answer first result transcribed, resumed⟩
      · rintro ⟨first, rest, result, rfl, transcribed, resumed⟩
        obtain ⟨answer, remaining, rfl, continued⟩ := transcribes_call_iff.mp transcribed
        exact ⟨answer, remaining ++ rest, rfl,
          (ih answer).mpr ⟨remaining, rest, result, rfl, continued, resumed⟩⟩

/-- A program that returned, cut after its first part. -/
theorem transcribes_bind_ok {program : Prog Fault Ret Value}
    {next : Value → Prog Fault Ret Other} {result : Other}
    (transcribed : Transcribes (program.bind next) calls (.ok result)) :
    ∃ first rest value, calls = first ++ rest ∧ Transcribes program first (.ok value) ∧
      Transcribes (next value) rest (.ok result) := by
  obtain ⟨first, rest, ended, same, own, resumed⟩ := transcribes_bind_iff.mp transcribed
  cases ended with
  | ok value => exact ⟨first, rest, value, same, own, resumed⟩
  | error fault => cases resumed.2

/-- A call followed by the rest of the program. -/
theorem transcribes_step_iff {op : Op} {next : Ret op → Prog Fault Ret Other}
    {outcome : Except Fault Other} :
    Transcribes ((Prog.perform op).bind next) calls outcome ↔
      ∃ answer rest, calls = ⟨op, answer⟩ :: rest ∧ Resumes next answer rest outcome := by
  rw [transcribes_bind_iff]
  constructor
  · rintro ⟨first, rest, answer, rfl, performed, resumed⟩
    rw [transcribes_perform_iff.mp performed]
    exact ⟨answer, rest, rfl, resumed⟩
  · rintro ⟨answer, rest, rfl, resumed⟩
    exact ⟨[⟨op, answer⟩], rest, answer, rfl, transcribes_perform_iff.mpr rfl, resumed⟩

/-- A computation without calls, followed by the rest of the program. -/
theorem transcribes_pure_iff {computed : Except Fault Value}
    {next : Value → Prog Fault Ret Other} {outcome : Except Fault Other} :
    Transcribes ((Prog.done computed).bind next) calls outcome ↔
      Resumes next computed calls outcome := by
  rw [transcribes_bind_iff]
  constructor
  · rintro ⟨first, rest, result, rfl, transcribed, resumed⟩
    obtain ⟨rfl, rfl⟩ := transcribes_done_iff.mp transcribed
    exact resumed
  · intro resumed
    exact ⟨[], calls, computed, rfl, .done computed, resumed⟩

/-- Whatever keeps every call and rewrites the end has the same transcripts. -/
theorem transcribes_transform_iff {transform : Prog Fault Ret Value → Prog Fault Ret Other}
    {ends : Except Fault Value → Except Fault Other}
    (done : ∀ ended, transform (.done ended) = .done (ends ended))
    (call : ∀ op next, transform (.call op next) = .call op fun answer => transform (next answer))
    {program : Prog Fault Ret Value} {outcome : Except Fault Other} :
    Transcribes (transform program) calls outcome ↔
      ∃ result, outcome = ends result ∧ Transcribes program calls result := by
  induction program generalizing calls with
  | done ended =>
      rw [done, transcribes_done_iff]
      constructor
      · rintro ⟨rfl, rfl⟩
        exact ⟨ended, rfl, .done ended⟩
      · rintro ⟨result, rfl, transcribed⟩
        obtain ⟨rfl, rfl⟩ := transcribes_done_iff.mp transcribed
        exact ⟨rfl, rfl⟩
  | call op next ih =>
      rw [call, transcribes_call_iff]
      constructor
      · rintro ⟨answer, rest, rfl, continued⟩
        obtain ⟨result, rfl, transcribed⟩ := (ih answer).mp continued
        exact ⟨result, rfl, .call op next answer rest result transcribed⟩
      · rintro ⟨result, rfl, transcribed⟩
        obtain ⟨answer, rest, rfl, continued⟩ := transcribes_call_iff.mp transcribed
        exact ⟨answer, rest, rfl, (ih answer).mpr ⟨result, rfl, continued⟩⟩

theorem transcribes_attempt_iff {program : Prog Fault Ret Value}
    {outcome : Except Fault (Except Fault Value)} :
    Transcribes program.attempt calls outcome ↔
      ∃ result, outcome = .ok result ∧ Transcribes program calls result :=
  transcribes_transform_iff (fun _ => rfl) (fun _ _ => rfl)

theorem transcribes_mapFault_iff {wrap : Fault → Fault} {program : Prog Fault Ret Value}
    {outcome : Except Fault Value} :
    Transcribes (program.mapFault wrap) calls outcome ↔
      ∃ result, outcome = result.mapError wrap ∧ Transcribes program calls result := by
  apply transcribes_transform_iff
  · intro ended
    cases ended <;> rfl
  · exact fun _ _ => rfl

/-- What a program says in the words of a larger set of operations. -/
theorem transcribes_rename {Own : Type} (inject : Own → Op)
    {program : Prog Fault (fun own => Ret (inject own)) Value}
    {said : List (Exchange Fault fun own => Ret (inject own))} {outcome : Except Fault Value}
    (transcribed : Transcribes program said outcome) :
    Transcribes (program.rename inject)
      (said.map fun exchange => ⟨inject exchange.op, exchange.answer⟩) outcome := by
  induction transcribed with
  | done outcome => exact .done outcome
  | call op next answer rest outcome _ ih => exact .call (inject op) _ answer _ outcome ih

end Inversion

/-- Some collaborators answer any program to its end. -/
theorem exists_transcript (fault : Fault) (program : Prog Fault Ret Value) :
    ∃ calls outcome, Transcribes program calls outcome := by
  induction program with
  | done outcome => exact ⟨[], outcome, .done outcome⟩
  | call op next ih =>
      obtain ⟨calls, outcome, transcribed⟩ := ih (.error fault)
      exact ⟨_, outcome, .call op next (.error fault) calls outcome transcribed⟩

/-- A list of answers leaves a program no choice, and no transcript begins another. -/
theorem transcribes_prefix_unique {program : Prog Fault Ret Value}
    {first second firstRest secondRest : List (Exchange Fault Ret)}
    {left right : Except Fault Value} (one : Transcribes program first left)
    (other : Transcribes program second right) (same : first ++ firstRest = second ++ secondRest) :
    first = second ∧ left = right := by
  induction one generalizing second with
  | done outcome =>
      obtain ⟨rfl, rfl⟩ := transcribes_done_iff.mp other
      exact ⟨rfl, rfl⟩
  | call op next answer rest outcome after ih =>
      obtain ⟨otherAnswer, otherRest, rfl, otherAfter⟩ := transcribes_call_iff.mp other
      obtain ⟨sameCall, sameRest⟩ := List.cons.inj same
      cases sameCall
      obtain ⟨rfl, rfl⟩ := ih otherAfter sameRest
      exact ⟨rfl, rfl⟩

section Running

variable (exec : Semantics Fault Ret Choice World)

/-- The same operations over a world that keeps a record of every exchange. -/
def recording : Semantics Fault Ret Choice (World × List (Exchange Fault Ret)) :=
  fun op choice recorded =>
    let (answer, reached) := exec op choice recorded.1
    (answer, (reached, recorded.2 ++ [⟨op, answer⟩]))

/-- What the program said to its collaborators in one run. -/
def transcript (env : Nat → (op : Op) → Choice op) (program : Prog Fault Ret Value)
    (world : World) : List (Exchange Fault Ret) :=
  (execute (recording exec) env 0 program (world, [])).final.2

theorem execute_recording (env : Nat → (op : Op) → Choice op) (index : Nat)
    (program : Prog Fault Ret Value) (world : World) (log : List (Exchange Fault Ret)) :
    (execute (recording exec) env index program (world, log)).outcome =
        (execute exec env index program world).outcome ∧
      (execute (recording exec) env index program (world, log)).final.1 =
        (execute exec env index program world).final := by
  induction program generalizing index world log with
  | done outcome => exact ⟨rfl, rfl⟩
  | call op next ih => exact ih _ _ _ _

/-- The world answers these calls, one after the other, and ends in the last. -/
inductive Plays : World → List (Exchange Fault Ret) → World → Prop where
  | nil (world : World) : Plays world [] world
  | cons (op : Op) (choice : Choice op) (world final : World) (calls : List (Exchange Fault Ret))
      (further : Plays (exec op choice world).2 calls final) :
      Plays world (⟨op, (exec op choice world).1⟩ :: calls) final

variable {exec} in
theorem plays_step {op : Op} {choice : Choice op} {answer : Except Fault (Ret op)}
    {world reached final : World} {calls : List (Exchange Fault Ret)}
    (answered : exec op choice world = (answer, reached))
    (further : Plays exec reached calls final) :
    Plays exec world (⟨op, answer⟩ :: calls) final := by
  have first : answer = (exec op choice world).1 := by rw [answered]
  have second : reached = (exec op choice world).2 := by rw [answered]
  subst first second
  exact .cons op choice world final calls further

theorem plays_cons_iff {op : Op} {answer : Except Fault (Ret op)} {world final : World}
    {calls : List (Exchange Fault Ret)} :
    Plays exec world (⟨op, answer⟩ :: calls) final ↔
      ∃ choice reached, exec op choice world = (answer, reached) ∧
        Plays exec reached calls final := by
  constructor
  · intro plays
    cases plays with
    | cons _ choice _ _ _ further => exact ⟨choice, _, rfl, further⟩
  · rintro ⟨choice, reached, answered, further⟩
    exact plays_step answered further

theorem plays_append_iff {world final : World} {first rest : List (Exchange Fault Ret)} :
    Plays exec world (first ++ rest) final ↔
      ∃ middle, Plays exec world first middle ∧ Plays exec middle rest final := by
  induction first generalizing world with
  | nil =>
      constructor
      · intro plays
        exact ⟨world, .nil world, plays⟩
      · rintro ⟨middle, none, plays⟩
        cases none
        exact plays
  | cons exchange first ih =>
      obtain ⟨op, answer⟩ := exchange
      rw [List.cons_append, plays_cons_iff]
      constructor
      · rintro ⟨choice, reached, answered, plays⟩
        obtain ⟨middle, early, late⟩ := ih.mp plays
        exact ⟨middle, plays_step answered early, late⟩
      · rintro ⟨middle, early, late⟩
        obtain ⟨choice, reached, answered, further⟩ := (plays_cons_iff exec).mp early
        exact ⟨choice, reached, answered, ih.mpr ⟨middle, further, late⟩⟩

variable {exec} in
theorem plays_append {world middle final : World} {first rest : List (Exchange Fault Ret)}
    (early : Plays exec world first middle) (late : Plays exec middle rest final) :
    Plays exec world (first ++ rest) final :=
  (plays_append_iff exec).mpr ⟨middle, early, late⟩

/-- The answer of an exchange is one that the world can give. -/
def Answerable (exchange : Exchange Fault Ret) : Prop :=
  ∃ choice world, exchange.answer = (exec exchange.op choice world).1

theorem plays_answered {world final : World} {calls : List (Exchange Fault Ret)}
    (plays : Plays exec world calls final) : ∀ exchange ∈ calls, Answerable exec exchange := by
  induction plays with
  | nil world => simp
  | cons op choice world final calls further ih =>
      intro exchange member
      rcases List.mem_cons.mp member with rfl | later
      · exact ⟨choice, world, rfl⟩
      · exact ih exchange later

theorem recording_transcribes (env : Nat → (op : Op) → Choice op) (index : Nat)
    (program : Prog Fault Ret Value) (world : World) (log : List (Exchange Fault Ret)) :
    ∃ calls, (execute (recording exec) env index program (world, log)).final.2 = log ++ calls ∧
      Transcribes program calls (execute exec env index program world).outcome ∧
      Plays exec world calls (execute exec env index program world).final := by
  induction program generalizing index world log with
  | done outcome => exact ⟨[], (List.append_nil log).symm, .done outcome, .nil world⟩
  | call op next ih =>
      obtain ⟨calls, logged, transcribed, plays⟩ := ih (exec op (env index op) world).1 (index + 1)
        (exec op (env index op) world).2 (log ++ [⟨op, (exec op (env index op) world).1⟩])
      refine ⟨⟨op, (exec op (env index op) world).1⟩ :: calls, ?_, ?_, ?_⟩
      · refine logged.trans ?_
        rw [List.append_assoc]
        rfl
      · exact .call op next _ calls _ transcribed
      · exact .cons op _ world _ calls plays

theorem transcript_transcribes (env : Nat → (op : Op) → Choice op) (program : Prog Fault Ret Value)
    (world : World) :
    Transcribes program (transcript exec env program world)
      (execute exec env 0 program world).outcome := by
  obtain ⟨calls, logged, transcribed, _⟩ :=
    recording_transcribes exec env 0 program world []
  rw [transcript, logged]
  exact transcribed

/-- A run's own world answers its transcript. -/
theorem transcript_plays (env : Nat → (op : Op) → Choice op) (program : Prog Fault Ret Value)
    (world : World) :
    Plays exec world (transcript exec env program world)
      (execute exec env 0 program world).final := by
  obtain ⟨calls, logged, _, plays⟩ :=
    recording_transcribes exec env 0 program world []
  rw [transcript, logged]
  exact plays

theorem transcript_answered (env : Nat → (op : Op) → Choice op) (program : Prog Fault Ret Value)
    (world : World) :
    ∀ exchange ∈ transcript exec env program world, Answerable exec exchange :=
  plays_answered exec (transcript_plays exec env program world)

theorem execute_shift (env : Nat → (op : Op) → Choice op) (index : Nat)
    (program : Prog Fault Ret Value) (world : World) :
    execute exec env (index + 1) program world =
      execute exec (fun index => env (index + 1)) index program world := by
  induction program generalizing index world with
  | done outcome => rfl
  | call op next ih =>
      simp only [execute]
      rw [ih]

theorem exists_recording {program : Prog Fault Ret Value} {calls : List (Exchange Fault Ret)}
    {outcome : Except Fault Value} (transcribed : Transcribes program calls outcome)
    (base : (op : Op) → Choice op) {world final : World} (plays : Plays exec world calls final)
    (log : List (Exchange Fault Ret)) :
    ∃ env, (execute (recording exec) env 0 program (world, log)).outcome = outcome ∧
      (execute (recording exec) env 0 program (world, log)).final = (final, log ++ calls) := by
  classical
  induction transcribed generalizing world log with
  | done outcome =>
      cases plays
      exact ⟨fun _ => base, rfl, by simp [execute]⟩
  | call op next answer rest outcome after ih =>
      generalize said : (⟨op, answer⟩ :: rest : List (Exchange Fault Ret)) = calls at plays
      cases plays with
      | nil => cases said
      | cons own choice _ _ later further =>
          cases said
          obtain ⟨env, ended, reached⟩ := ih further (log ++ [⟨op, (exec op choice world).1⟩])
          let first : (other : Op) → Choice other := fun other =>
            if same : op = other then same ▸ choice else base other
          have chosen : first op = choice := by simp [first]
          have shifted := execute_shift (recording exec)
            (fun index => if index = 0 then first else env (index - 1)) 0
            (next (exec op choice world).1)
            ((exec op choice world).2, log ++ [⟨op, (exec op choice world).1⟩])
          have onward : (fun index => if index + 1 = 0 then first else env (index + 1 - 1)) = env := by
            funext index
            simp
          rw [onward] at shifted
          refine ⟨fun index => if index = 0 then first else env (index - 1), ?_, ?_⟩
          · simp only [execute, recording, if_true, chosen]
            exact (congrArg Execution.outcome shifted).trans ended
          · simp only [execute, recording, if_true, chosen]
            refine (congrArg Execution.final shifted).trans (reached.trans ?_)
            rw [List.append_assoc]
            rfl

/-- A transcript that the world can answer is that of some run. -/
theorem exists_run {program : Prog Fault Ret Value} {calls : List (Exchange Fault Ret)}
    {outcome : Except Fault Value} (transcribed : Transcribes program calls outcome)
    (base : (op : Op) → Choice op) {world final : World} (plays : Plays exec world calls final) :
    ∃ env, transcript exec env program world = calls ∧
      (execute exec env 0 program world).outcome = outcome ∧
      (execute exec env 0 program world).final = final := by
  obtain ⟨env, ended, reached⟩ := exists_recording exec transcribed base plays []
  obtain ⟨sameOutcome, sameFinal⟩ := execute_recording exec env 0 program world []
  refine ⟨env, ?_, ?_, ?_⟩
  · rw [transcript, reached]
    exact List.nil_append calls
  · rw [← sameOutcome, ended]
  · rw [← sameFinal, reached]

end Running

section Threads

open OrderMessaging.Interleaving

variable {exec : Semantics Fault Ret Choice World}

/-- A program whose calls need nothing ends as one of its transcripts does. -/
theorem upholds_of_transcripts {rely : World → World → Prop} {pre : Op → World → Prop}
    {allowed : Op → Prop} {post : Except Fault Value → Prop}
    (free : ∀ op world, allowed op → pre op world) {program : Prog Fault Ret Value}
    (made : Makes allowed program)
    (ends : ∀ calls outcome, Transcribes program calls outcome → post outcome) (world : World) :
    Upholds exec rely pre (fun outcome _ => post outcome) program world := by
  induction program generalizing world with
  | done outcome => exact ends [] outcome (.done outcome)
  | call op next ih =>
      obtain ⟨own, after⟩ := made () rfl
      intro reached _
      refine ⟨free op reached own, ?_⟩
      intro choice
      apply ih _ (after _)
      intro calls outcome transcribed
      exact ends _ outcome (.call op next _ calls outcome transcribed)

/-- A thread can be advanced along any transcript that the world answers. -/
theorem run_transcript {Input : Type} (program : Input → Prog Fault Ret Value) (thread : Nat)
    (other : (op : Op) → Choice op) {running : Prog Fault Ret Value}
    {calls : List (Exchange Fault Ret)} {outcome : Except Fault Value} {final : World}
    {system : System Fault Ret Value World} (held : system.threads thread = some running)
    (transcribed : Transcribes running calls outcome)
    (plays : Plays exec system.world calls final) :
    ∃ labels : List (Label Input Choice), run exec program labels system =
      ⟨Function.update system.threads thread (some (.done outcome)), final⟩ := by
  classical
  induction transcribed generalizing system with
  | done outcome =>
      cases plays
      refine ⟨[], ?_⟩
      rw [← held, Function.update_eq_self]
      rfl
  | call op next answer rest outcome after ih =>
      obtain ⟨choice, reached, answered, further⟩ := (plays_cons_iff exec).mp plays
      have advanced := step_advance exec program held (Function.update other op choice)
      rw [Function.update_self, answered] at advanced
      have moved : (step exec program system
          (.advance thread (Function.update other op choice))).threads thread =
            some (next answer) := by
        rw [advanced]
        exact Function.update_self ..
      obtain ⟨labels, ended⟩ := ih moved (by rw [advanced]; exact further)
      refine ⟨.advance thread (Function.update other op choice) :: labels, ?_⟩
      have whole : run exec program (.advance thread (Function.update other op choice) :: labels)
          system = run exec program labels (step exec program system
            (.advance thread (Function.update other op choice))) := rfl
      rw [whole, ended, advanced, Function.update_idem]

end Threads

section Histories

open OrderMessaging.Interleaving

/-- The program goes on as the last argument once it has said these calls. -/
inductive Reaches : Prog Fault Ret Value → List (Exchange Fault Ret) → Prog Fault Ret Value → Prop where
  | start (program : Prog Fault Ret Value) : Reaches program [] program
  | call (op : Op) (next : Except Fault (Ret op) → Prog Fault Ret Value)
      (answer : Except Fault (Ret op)) (rest : List (Exchange Fault Ret))
      (remaining : Prog Fault Ret Value) (after : Reaches (next answer) rest remaining) :
      Reaches (.call op next) (⟨op, answer⟩ :: rest) remaining

theorem reaches_snoc {program : Prog Fault Ret Value} {calls : List (Exchange Fault Ret)} {op : Op}
    {next : Except Fault (Ret op) → Prog Fault Ret Value}
    (reaches : Reaches program calls (.call op next)) (answer : Except Fault (Ret op)) :
    Reaches program (calls ++ [⟨op, answer⟩]) (next answer) := by
  generalize same : Prog.call op next = remaining at reaches
  induction reaches with
  | start program =>
      cases same
      exact .call op next answer [] _ (.start _)
  | call other after reply rest remaining further ih =>
      exact .call other after reply _ _ (ih same)

/-- What is said so far and what is said then make a transcript. -/
theorem reaches_transcribes {program remaining : Prog Fault Ret Value}
    {first rest : List (Exchange Fault Ret)} {outcome : Except Fault Value}
    (reaches : Reaches program first remaining) (transcribed : Transcribes remaining rest outcome) :
    Transcribes program (first ++ rest) outcome := by
  induction reaches with
  | start program => exact transcribed
  | call op next answer early remaining further ih =>
      exact .call op next answer _ outcome (ih transcribed)

variable {Input : Type}
variable (exec : Semantics Fault Ret Choice World) (program : Input → Prog Fault Ret Value)

/-- What each thread was started on, and what it has said since. -/
abbrev Histories (Input Fault : Type) {Op : Type} (Ret : Op → Type) :=
  Nat → Option (Input × List (Exchange Fault Ret))

/-- The histories after a step. -/
def note (system : System Fault Ret Value World) (histories : Histories Input Fault Ret) :
    Label Input Choice → Histories Input Fault Ret
  | .start thread input =>
      match system.threads thread with
      | none => Function.update histories thread (some (input, []))
      | some _ => histories
  | .stop thread => Function.update histories thread none
  | .advance thread answer =>
      match system.threads thread with
      | some (.call op _) =>
          Function.update histories thread ((histories thread).map fun (input, calls) =>
            (input, calls ++ [⟨op, (exec op (answer op) system.world).1⟩]))
      | some (.done _) => Function.update histories thread none
      | none => histories

/-- A step with the histories recorded beside it. -/
def record (recorded : System Fault Ret Value World × Histories Input Fault Ret)
    (label : Label Input Choice) : System Fault Ret Value World × Histories Input Fault Ret :=
  (step exec program recorded.1 label, note exec recorded.1 recorded.2 label)

/-- The histories of a run that begins with no thread. -/
def heard (labels : List (Label Input Choice)) (world : World) : Histories Input Fault Ret :=
  (labels.foldl (record exec program) (System.idle world, fun _ => none)).2

theorem record_run (labels : List (Label Input Choice))
    (recorded : System Fault Ret Value World × Histories Input Fault Ret) :
    (labels.foldl (record exec program) recorded).1 = run exec program labels recorded.1 := by
  induction labels generalizing recorded with
  | nil => rfl
  | cons label rest ih => exact ih _

theorem heard_snoc (labels : List (Label Input Choice)) (label : Label Input Choice)
    (world : World) :
    heard exec program (labels ++ [label]) world =
      note exec (run exec program labels (System.idle world)) (heard exec program labels world)
        label := by
  rw [heard, List.foldl_append, List.foldl_cons, List.foldl_nil, record, record_run]
  rfl

/-- Every running thread has said its history, and no other thread has one. -/
def Recorded (system : System Fault Ret Value World) (histories : Histories Input Fault Ret) :
    Prop :=
  ∀ thread, Option.Rel (fun running history => Reaches (program history.1) history.2 running ∧
    ∀ exchange ∈ history.2, Answerable exec exchange) (system.threads thread) (histories thread)

variable {exec program}

theorem recorded_update {system : System Fault Ret Value World}
    {histories : Histories Input Fault Ret} (recorded : Recorded exec program system histories)
    (thread : Nat) {running : Option (Prog Fault Ret Value)}
    {history : Option (Input × List (Exchange Fault Ret))} (world : World)
    (own : Option.Rel (fun running history => Reaches (program history.1) history.2 running ∧
      ∀ exchange ∈ history.2, Answerable exec exchange) running history) :
    Recorded exec program ⟨Function.update system.threads thread running, world⟩
      (Function.update histories thread history) := by
  intro other
  by_cases same : other = thread
  · subst same
    simp only [Function.update_self]
    exact own
  · simp only [Function.update_of_ne same]
    exact recorded other

/-- What one step preserves. -/
theorem step_recorded {system : System Fault Ret Value World}
    {histories : Histories Input Fault Ret} (recorded : Recorded exec program system histories)
    (label : Label Input Choice) :
    Recorded exec program (step exec program system label) (note exec system histories label) := by
  cases label with
  | stop thread => exact recorded_update recorded thread _ .none
  | start thread input =>
      simp only [step, note]
      cases system.threads thread with
      | none => exact recorded_update recorded thread _ (.some ⟨.start _, by simp⟩)
      | some running => exact recorded
  | advance thread answer =>
      have own := recorded thread
      simp only [step, note]
      cases held : system.threads thread with
      | none => exact recorded
      | some running =>
          rw [held] at own
          cases running with
          | done outcome => exact recorded_update recorded thread _ .none
          | call op next =>
              apply recorded_update recorded thread
              cases said : histories thread with
              | none =>
                  rw [said] at own
                  cases own
              | some history =>
                  rw [said] at own
                  obtain ⟨reaches, answered⟩ := own
                  refine .some ⟨reaches_snoc reaches _, ?_⟩
                  intro exchange member
                  rcases List.mem_append.mp member with early | last
                  · exact answered exchange early
                  · rw [List.mem_singleton.mp last]
                    exact ⟨answer op, system.world, rfl⟩

/-- A run begun with no thread keeps its histories. -/
theorem run_recorded (labels : List (Label Input Choice)) (world : World) :
    Recorded exec program (run exec program labels (System.idle world))
      (heard exec program labels world) := by
  induction labels using List.reverseRecOn with
  | nil => exact fun _ => .none
  | append_singleton labels label ih =>
      rw [heard_snoc, run_append]
      exact step_recorded ih label

/-- Whatever a running thread has said can be continued to a transcript of its whole
program, as it would go on alone. -/
theorem recorded_continues {system : System Fault Ret Value World}
    {histories : Histories Input Fault Ret} (recorded : Recorded exec program system histories)
    (answer : (op : Op) → Choice op) {thread : Nat} {running : Prog Fault Ret Value}
    (held : system.threads thread = some running) :
    ∃ input calls rest outcome, histories thread = some (input, calls) ∧
      Transcribes running rest outcome ∧ Transcribes (program input) (calls ++ rest) outcome ∧
      ∀ exchange ∈ calls ++ rest, Answerable exec exchange := by
  have own := recorded thread
  rw [held] at own
  cases said : histories thread with
  | none =>
      rw [said] at own
      cases own
  | some history =>
      rw [said] at own
      obtain ⟨reaches, answered⟩ := own
      have further := transcript_transcribes exec (fun _ => answer) running system.world
      refine ⟨history.1, history.2, _, _, rfl, further, reaches_transcribes reaches further, ?_⟩
      intro exchange member
      rcases List.mem_append.mp member with early | late
      · exact answered exchange early
      · exact transcript_answered exec (fun _ => answer) running system.world exchange late

end Histories

section Interleaving

/-- The exchanges of one of several callers, in their order. -/
def ownCalls (caller : Nat) (history : List (Nat × Exchange Fault Ret)) :
    List (Exchange Fault Ret) :=
  (history.filter fun entry => entry.1 = caller).map Prod.snd

@[simp] theorem own_calls_append (caller : Nat) (first rest : List (Nat × Exchange Fault Ret)) :
    ownCalls caller (first ++ rest) = ownCalls caller first ++ ownCalls caller rest := by
  rw [ownCalls, List.filter_append, List.map_append]
  rfl

theorem own_calls_cons (caller : Nat) (exchange : Exchange Fault Ret)
    (rest : List (Nat × Exchange Fault Ret)) :
    ownCalls caller ((caller, exchange) :: rest) = exchange :: ownCalls caller rest := by
  simp [ownCalls]

theorem mem_own_calls {caller : Nat} {exchange : Exchange Fault Ret}
    {history : List (Nat × Exchange Fault Ret)} :
    exchange ∈ ownCalls caller history ↔ (caller, exchange) ∈ history := by
  constructor
  · intro member
    obtain ⟨⟨other, own⟩, filtered, rfl⟩ := List.mem_map.mp member
    obtain ⟨inHistory, same⟩ := List.mem_filter.mp filtered
    rw [← of_decide_eq_true same]
    exact inHistory
  · intro member
    exact List.mem_map.mpr ⟨(caller, exchange), List.mem_filter.mpr ⟨member, by simp⟩, rfl⟩

variable (exec : Semantics Fault Ret Choice World)

/-- Programs that run at the same time over one world, interleaved call by call.
Each caller has said the beginning of what its program says. -/
structure Interleaved (program : Nat → Prog Fault Ret Value) (start : World)
    (history : List (Nat × Exchange Fault Ret)) (final : World) : Prop where
  answered : Plays exec start (history.map Prod.snd) final
  spoken : ∀ caller, ∃ rest outcome,
    Transcribes (program caller) (ownCalls caller history ++ rest) outcome

variable {exec}

theorem plays_relates {relation : World → World → Prop} (refl : ∀ world, relation world world)
    (trans : ∀ first second third, relation first second → relation second third →
      relation first third)
    (stepped : ∀ op choice world, relation world (exec op choice world).2)
    {world final : World} {calls : List (Exchange Fault Ret)}
    (plays : Plays exec world calls final) : relation world final := by
  induction plays with
  | nil world => exact refl world
  | cons op choice world final calls further ih =>
      exact trans _ _ _ (stepped op choice world) ih

theorem plays_invariant {invariant : World → Prop}
    (preserved : ∀ op choice world, invariant world → invariant (exec op choice world).2)
    {world final : World} {calls : List (Exchange Fault Ret)}
    (plays : Plays exec world calls final) (holds : invariant world) : invariant final := by
  induction plays with
  | nil world => exact holds
  | cons op choice world final calls further ih => exact ih (preserved op choice world holds)

end Interleaving

section Translation

variable {Low : Type} {LowRet : Low → Type}

/-- Every call is carried out by a program over other operations. -/
def translate (carry : (op : Op) → Prog Fault LowRet (Ret op)) :
    Prog Fault Ret Value → Prog Fault LowRet Value
  | .done outcome => .done outcome
  | .call op next => (carry op).attempt.bind fun answer => translate carry (next answer)

end Translation

end OrderMessaging.Transcript
