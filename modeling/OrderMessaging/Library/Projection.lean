import Mathlib.Data.List.Induction
import Mathlib.Tactic.Choose
import OrderMessaging.Library.Interleaving

/-!
Reading one kind of thread out of a system. Some threads are programs of a smaller
system, on the part of the world that `view` shows; the other threads leave that
part alone. Then every run of the large system shows a run of the small one.
-/

namespace OrderMessaging.Projection

open OrderMessaging.Program OrderMessaging.Interleaving

set_option autoImplicit false

variable {Fault Op Own Input OwnInput Value OwnValue World OwnWorld : Type}
variable {Ret Choice : Op → Type} {OwnChoice : Own → Type}

section Definitions

variable (inject : Own → Op) (wrap : OwnValue → Value)

/-- A program of the small system as a thread of the large one. -/
def embed (program : Prog Fault (fun own => Ret (inject own)) OwnValue) : Prog Fault Ret Value :=
  (program.rename inject).bind fun value => .done (.ok (wrap value))

variable (exec : Semantics Fault Ret Choice World) (program : Input → Prog Fault Ret Value)
variable (ownExec : Semantics Fault (fun own => Ret (inject own)) OwnChoice OwnWorld)
variable (ownProgram : OwnInput → Prog Fault (fun own => Ret (inject own)) OwnValue)
variable (view : World → OwnWorld) (foreign : Op → Prop) (fine : World → Prop)

/-- `fine` says which worlds are shown faithfully; it is lost for good once it is lost. -/
structure Projects : Prop where
  own : ∀ op (choice : Choice (inject op)) world, ∃ ownChoice,
    fine (exec (inject op) choice world).2 →
    ownExec op ownChoice (view world) =
      ((exec (inject op) choice world).1, view (exec (inject op) choice world).2)
  unseen : ∀ op choice world, foreign op → view (exec op choice world).2 = view world
  threads : ∀ input, (∃ ownInput, program input = embed inject wrap (ownProgram ownInput)) ∨
    Makes foreign (program input)
  lost : ∀ op choice world, fine (exec op choice world).2 → fine world

/-- A thread of the large system and what the small one runs under its number. -/
def Shows (thread : Option (Prog Fault Ret Value)) :
    Option (Prog Fault (fun own => Ret (inject own)) OwnValue) → Prop
  | some own => thread = some (embed inject wrap own)
  | none => ∀ running, thread = some running → Makes foreign running

structure Related (system : System Fault Ret Value World)
    (shown : System Fault (fun own => Ret (inject own)) OwnValue OwnWorld) : Prop where
  world : view system.world = shown.world
  threads : ∀ thread, Shows inject wrap foreign (system.threads thread) (shown.threads thread)

end Definitions

section Simulation

variable {inject : Own → Op} {wrap : OwnValue → Value}
variable {exec : Semantics Fault Ret Choice World} {program : Input → Prog Fault Ret Value}
variable {ownExec : Semantics Fault (fun own => Ret (inject own)) OwnChoice OwnWorld}
variable {ownProgram : OwnInput → Prog Fault (fun own => Ret (inject own)) OwnValue}
variable {view : World → OwnWorld} {foreign : Op → Prop} {fine : World → Prop}
variable {system : System Fault Ret Value World}
variable {shown : System Fault (fun own => Ret (inject own)) OwnValue OwnWorld}

theorem shows_none : Shows inject wrap foreign (none : Option (Prog Fault Ret Value))
    (none : Option (Prog Fault (fun own => Ret (inject own)) OwnValue)) := by
  intro running held
  cases held

theorem shows_own (own : Prog Fault (fun own => Ret (inject own)) OwnValue) :
    Shows inject wrap foreign (some (embed inject wrap own)) (some own) := rfl

/-- Both systems replace the same thread. -/
theorem related_update (related : Related inject wrap view foreign system shown) (thread : Nat)
    {running : Option (Prog Fault Ret Value)}
    {own : Option (Prog Fault (fun own => Ret (inject own)) OwnValue)}
    (shows : Shows inject wrap foreign running own) {world : World} {ownWorld : OwnWorld}
    (same : view world = ownWorld) :
    Related inject wrap view foreign ⟨Function.update system.threads thread running, world⟩
      ⟨Function.update shown.threads thread own, ownWorld⟩ := by
  refine ⟨same, ?_⟩
  intro other
  by_cases here : other = thread
  · subst here
    simp only [Function.update_self]
    exact shows
  · simp only [Function.update_of_ne here]
    exact related.threads other

/-- Only the large system replaces the thread, which is not one of the small one. -/
theorem related_foreign (related : Related inject wrap view foreign system shown) (thread : Nat)
    {running : Option (Prog Fault Ret Value)} (absent : shown.threads thread = none)
    (made : ∀ own, running = some own → Makes foreign own) {world : World}
    (same : view world = shown.world) :
    Related inject wrap view foreign ⟨Function.update system.threads thread running, world⟩
      shown := by
  have updated := related_update related thread
    (show Shows inject wrap foreign running (shown.threads thread) by
      rw [absent]
      exact made) same
  rw [Function.update_eq_self] at updated
  exact updated

variable (projects : Projects inject wrap exec program ownExec ownProgram view foreign fine)

include projects

theorem start_projects (related : Related inject wrap view foreign system shown) (thread : Nat)
    (input : Input) :
    ∃ labels : List (Label OwnInput OwnChoice), Related inject wrap view foreign
      (step exec program system (.start thread input)) (run ownExec ownProgram labels shown) := by
  cases held : system.threads thread with
  | some running =>
      refine ⟨[], ?_⟩
      simp only [step, held]
      exact related
  | none =>
      cases own : shown.threads thread with
      | some running =>
          have shows := related.threads thread
          rw [own, held] at shows
          cases shows
      | none =>
          simp only [step, held]
          rcases projects.threads input with ⟨ownInput, same⟩ | made
          · refine ⟨[.start thread ownInput], ?_⟩
            simp only [run, List.foldl_cons, List.foldl_nil, step, own]
            have shows : Shows inject wrap foreign (some (program input))
                (some (ownProgram ownInput)) := congrArg some same
            exact related_update related thread shows related.world
          · refine ⟨[], related_foreign related thread own ?_ related.world⟩
            intro started same
            cases same
            exact made

theorem advance_projects (related : Related inject wrap view foreign system shown) (thread : Nat)
    (answer : (op : Op) → Choice op)
    (reached : fine (step exec program system (.advance thread answer)).world) :
    ∃ labels : List (Label OwnInput OwnChoice), Related inject wrap view foreign
      (step exec program system (.advance thread answer))
      (run ownExec ownProgram labels shown) := by
  have shows := related.threads thread
  cases own : shown.threads thread with
  | none =>
      rw [own] at shows
      refine ⟨[], ?_⟩
      cases held : system.threads thread with
      | none =>
          simp only [step, held]
          exact related
      | some running =>
          cases running with
          | done outcome =>
              simp only [step, held]
              apply related_foreign related thread own _ related.world
              intro other contrary
              cases contrary
          | call op next =>
              obtain ⟨allowed, after⟩ := shows _ held () rfl
              simp only [step, held]
              apply related_foreign related thread own
              · intro continued same
                cases same
                exact after _
              · rw [projects.unseen op (answer op) system.world allowed]
                exact related.world
  | some running =>
      rw [own] at shows
      choose ownAnswer answered using fun op =>
        projects.own op (answer (inject op)) system.world
      refine ⟨[.advance thread ownAnswer], ?_⟩
      cases running with
      | done outcome =>
          have held : system.threads thread = some (.done (outcome.map wrap)) := by
            rw [shows]
            cases outcome <;> rfl
          simp only [run, List.foldl_cons, List.foldl_nil, step, own, held]
          exact related_update related thread shows_none related.world
      | call op next =>
          have held : system.threads thread =
              some (.call (inject op) fun result => embed inject wrap (next result)) := shows
          have called := step_advance exec program held answer
          rw [called] at reached ⊢
          have matched := answered op reached
          rw [related.world] at matched
          simp only [run, List.foldl_cons, List.foldl_nil, step, own, matched]
          exact related_update related thread (shows_own (next _)) rfl

theorem step_projects (related : Related inject wrap view foreign system shown)
    (label : Label Input Choice) (reached : fine (step exec program system label).world) :
    ∃ labels : List (Label OwnInput OwnChoice), Related inject wrap view foreign
      (step exec program system label) (run ownExec ownProgram labels shown) := by
  cases label with
  | start thread input => exact start_projects projects related thread input
  | stop thread =>
      exact ⟨[.stop thread], related_update related thread shows_none related.world⟩
  | advance thread answer => exact advance_projects projects related thread answer reached

theorem step_lost {label : Label Input Choice}
    (reached : fine (step exec program system label).world) : fine system.world := by
  rw [step_world] at reached
  split at reached
  · exact projects.lost _ _ _ reached
  · exact reached

/-- Every run of the large system shows a run of the small one. -/
theorem run_projects (world : World) (labels : List (Label Input Choice))
    (reached : fine (run exec program labels (System.idle world)).world) :
    ∃ own : List (Label OwnInput OwnChoice), Related inject wrap view foreign
      (run exec program labels (System.idle world))
      (run ownExec ownProgram own (System.idle (view world))) := by
  induction labels using List.reverseRecOn with
  | nil => exact ⟨[], rfl, fun _ => shows_none⟩
  | append_singleton labels label ih =>
      rw [run_append] at reached ⊢
      obtain ⟨early, related⟩ := ih (step_lost projects reached)
      obtain ⟨late, next⟩ := step_projects projects related label reached
      refine ⟨early ++ late, ?_⟩
      rw [run_append]
      exact next

end Simulation

end OrderMessaging.Projection
