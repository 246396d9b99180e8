import OrderMessaging.Library.Interleaving
import OrderMessaging.Messaging.TopicAdmin

/-!
What the calls on a cluster preserve. A broker that serves a future answers it for
good; time, the topics there have been, the tickets and the failures only grow.
-/

namespace OrderMessaging.Messaging.ClusterGrowth

open OrderMessaging.PyText OrderMessaging.PyException OrderMessaging.Interleaving
open OrderMessaging.Messaging.TopicAdmin

set_option autoImplicit false

structure WellKept (cluster : Cluster) : Prop where
  current : ∀ name topic, cluster.topics name = some topic →
    topic ∈ cluster.past ∧ topic.name = name
  timed : ∀ ticket ∈ cluster.tickets, ∀ since answer, ticket.answer = some (since, answer) →
    since ≤ cluster.clock

/-- A ticket as it was, or answered since. -/
def Follows (before after : Ticket) : Prop :=
  after.request = before.request ∧ (before.answer ≠ none → after = before)

structure Grows (before after : Cluster) : Prop where
  clock : before.clock ≤ after.clock
  past : before.past ⊆ after.past
  failures : before.failures ⊆ after.failures
  tickets : ∀ (future : Nat) (ticket : Ticket), before.tickets[future]? = some ticket →
    ∃ later, after.tickets[future]? = some later ∧ Follows ticket later

theorem follows_refl (ticket : Ticket) : Follows ticket ticket := ⟨rfl, fun _ => rfl⟩

theorem follows_trans {first second third : Ticket} (early : Follows first second)
    (late : Follows second third) : Follows first third := by
  refine ⟨late.1.trans early.1, ?_⟩
  intro answered
  have same := early.2 answered
  subst same
  exact late.2 answered

theorem grows_refl (cluster : Cluster) : Grows cluster cluster where
  clock := le_refl _
  past := List.Subset.refl _
  failures := List.Subset.refl _
  tickets _ ticket held := ⟨ticket, held, follows_refl ticket⟩

theorem grows_trans (first second third : Cluster) (early : Grows first second)
    (late : Grows second third) : Grows first third where
  clock := early.clock.trans late.clock
  past := List.Subset.trans early.past late.past
  failures := List.Subset.trans early.failures late.failures
  tickets := by
    intro future ticket held
    obtain ⟨next, kept, follows⟩ := early.tickets future ticket held
    obtain ⟨last, still, again⟩ := late.tickets future next kept
    exact ⟨last, still, follows_trans follows again⟩

theorem keeps_refl (cluster : Cluster) : Keeps WellKept Grows cluster cluster :=
  ⟨grows_refl cluster, id⟩

theorem keeps_trans {first second third : Cluster} (early : Keeps WellKept Grows first second)
    (late : Keeps WellKept Grows second third) : Keeps WellKept Grows first third :=
  ⟨grows_trans _ _ _ early.1 late.1, late.2 ∘ early.2⟩

/-- Everything that serving one future can do. -/
inductive Served (cluster : Cluster) (future : Nat) : Cluster → Prop where
  | closed : Served cluster future cluster
  | refused (request : Request) (waiting : cluster.tickets[future]? = some ⟨request, none⟩)
      (fault : Exc) : Served cluster future (cluster.settle future (.error fault))
  | created (topic : TopicSpec)
      (waiting : cluster.tickets[future]? = some ⟨.create topic, none⟩)
      (absent : cluster.topics topic.name = none) :
      Served cluster future ((cluster.addTopic topic).settle future (.ok ()))
  | deleted (name : Str) (waiting : cluster.tickets[future]? = some ⟨.delete name, none⟩) :
      Served cluster future ((cluster.dropTopic name).settle future (.ok ()))

theorem serve_outcome (cluster : Cluster) (future : Nat) (refusal : Option Exc) :
    Served cluster future (cluster.serve future refusal) := by
  unfold Cluster.serve
  split
  next request waiting =>
    cases refusal with
    | some fault => exact .refused request waiting fault
    | none =>
        cases request with
        | create topic =>
            cases present : cluster.topics topic.name with
            | some other =>
                simp only [Cluster.carryOut, present]
                exact .refused _ waiting _
            | none =>
                simp only [Cluster.carryOut, present]
                exact .created topic waiting present
        | delete name =>
            cases present : cluster.topics name with
            | none =>
                simp only [Cluster.carryOut, present]
                exact .refused _ waiting _
            | some other =>
                simp only [Cluster.carryOut, present]
                exact .deleted name waiting
  next => exact .closed

/-- Answering an open future takes nothing back. -/
theorem settle_grows {cluster : Cluster} {future : Nat} {request : Request}
    (waiting : cluster.tickets[future]? = some ⟨request, none⟩) (answer : Except Exc Unit) :
    Grows cluster (cluster.settle future answer) where
  clock := le_refl _
  past := List.Subset.refl _
  failures := List.Subset.refl _
  tickets := by
    intro other ticket held
    simp only [Cluster.settle, List.getElem?_modify]
    by_cases same : future = other
    · subst same
      rw [waiting] at held
      cases held
      simp only [waiting, if_true]
      exact ⟨_, rfl, rfl, fun answered => absurd rfl answered⟩
    · simp only [if_neg same, held]
      exact ⟨ticket, rfl, follows_refl ticket⟩

/-- Only the ticket that is answered changes. -/
theorem settle_tickets {cluster : Cluster} {future : Nat} {answer : Except Exc Unit}
    {ticket : Ticket} (member : ticket ∈ (cluster.settle future answer).tickets) :
    ticket ∈ cluster.tickets ∨ ticket.answer = some (cluster.clock, answer) := by
  obtain ⟨place, held⟩ := List.mem_iff_getElem?.mp member
  simp only [Cluster.settle, List.getElem?_modify] at held
  cases earlier : cluster.tickets[place]? with
  | none => simp [earlier] at held
  | some own =>
      simp only [earlier, Option.map_eq_map, Option.map_some, Option.some.injEq] at held
      by_cases same : future = place
      · rw [if_pos same] at held
        subst held
        exact .inr rfl
      · rw [if_neg same] at held
        subst held
        exact .inl (List.mem_of_getElem? earlier)

theorem settle_timed {cluster : Cluster} {future : Nat} {answer : Except Exc Unit}
    (timed : ∀ ticket ∈ cluster.tickets, ∀ since answer, ticket.answer = some (since, answer) →
      since ≤ cluster.clock) :
    ∀ ticket ∈ (cluster.settle future answer).tickets, ∀ since answer,
      ticket.answer = some (since, answer) → since ≤ (cluster.settle future answer).clock := by
  intro ticket member since reply answered
  rcases settle_tickets member with earlier | now
  · exact timed ticket earlier since reply answered
  · rw [now] at answered
    cases answered
    exact le_refl cluster.clock

theorem add_topics (cluster : Cluster) (topic : TopicSpec) (name : Str) :
    (cluster.addTopic topic).topics name =
      if name = topic.name then some topic else cluster.topics name :=
  Function.update_apply ..

theorem drop_topics (cluster : Cluster) (dropped name : Str) :
    (cluster.dropTopic dropped).topics name =
      if name = dropped then none else cluster.topics name :=
  Function.update_apply ..

theorem add_keeps (cluster : Cluster) (topic : TopicSpec) :
    Keeps WellKept Grows cluster (cluster.addTopic topic) := by
  refine ⟨{ grows_refl cluster with past := List.subset_append_left _ _ }, ?_⟩
  intro kept
  refine ⟨?_, kept.timed⟩
  intro name other held
  rw [add_topics] at held
  split at held
  next same =>
    cases held
    exact ⟨List.mem_append_right _ (List.mem_singleton_self _), same.symm⟩
  next =>
    obtain ⟨member, named⟩ := kept.current name other held
    exact ⟨List.mem_append_left _ member, named⟩

theorem drop_keeps (cluster : Cluster) (dropped : Str) :
    Keeps WellKept Grows cluster (cluster.dropTopic dropped) := by
  refine ⟨{ grows_refl cluster with clock := le_refl _ }, ?_⟩
  intro kept
  refine ⟨?_, kept.timed⟩
  intro name topic held
  rw [drop_topics] at held
  split at held
  next => cases held
  next => exact kept.current name topic held

theorem serve_keeps (cluster : Cluster) (future : Nat) (refusal : Option Exc) :
    Keeps WellKept Grows cluster (cluster.serve future refusal) := by
  have outcome := serve_outcome cluster future refusal
  generalize cluster.serve future refusal = reached at outcome ⊢
  cases outcome with
  | closed => exact keeps_refl cluster
  | refused request waiting fault =>
      refine ⟨settle_grows waiting _, ?_⟩
      intro kept
      exact ⟨kept.current, settle_timed kept.timed⟩
  | created topic waiting absent =>
      have pending : (cluster.addTopic topic).tickets[future]? = some ⟨.create topic, none⟩ := waiting
      refine ⟨grows_trans _ _ _ (add_keeps cluster topic).1 (settle_grows pending _), ?_⟩
      intro kept
      have added := (add_keeps cluster topic).2 kept
      exact ⟨added.current, settle_timed added.timed⟩
  | deleted name waiting =>
      have pending : (cluster.dropTopic name).tickets[future]? = some ⟨.delete name, none⟩ := waiting
      refine ⟨grows_trans _ _ _ (drop_keeps cluster name).1 (settle_grows pending _), ?_⟩
      intro kept
      have dropped := (drop_keeps cluster name).2 kept
      exact ⟨dropped.current, settle_timed dropped.timed⟩

theorem advance_keeps (cluster : Cluster) {time : ℚ} (forward : 0 ≤ time) :
    Keeps WellKept Grows cluster { cluster with clock := cluster.clock + time } := by
  have later : cluster.clock ≤ cluster.clock + time := le_add_of_nonneg_right forward
  refine ⟨{ grows_refl cluster with clock := later }, ?_⟩
  intro kept
  refine ⟨kept.current, ?_⟩
  intro ticket member since answer answered
  exact (kept.timed ticket member since answer answered).trans later

theorem serve_all_keeps (served : List (Nat × Option Exc)) (cluster : Cluster) :
    Keeps WellKept Grows cluster
      (served.foldl (fun reached each => reached.serve each.1 each.2) cluster) := by
  induction served generalizing cluster with
  | nil => exact keeps_refl cluster
  | cons each rest ih => exact keeps_trans (serve_keeps cluster each.1 each.2) (ih _)

theorem elapse_keeps (cluster : Cluster) (meanwhile : Meanwhile) :
    Keeps WellKept Grows cluster (cluster.elapse meanwhile) :=
  keeps_trans (advance_keeps cluster meanwhile.forward) (serve_all_keeps meanwhile.served _)

theorem raise_keeps (Value : Type) (cluster : Cluster) (fault : Exc) :
    Keeps WellKept Grows cluster (cluster.raise fault : Except Halt Value × Cluster).2 :=
  ⟨{ grows_refl cluster with failures := List.subset_cons_self _ _ },
    fun kept => ⟨kept.current, kept.timed⟩⟩

theorem submit_keeps (cluster : Cluster) (request : Request) (failure : Option Exc) :
    Keeps WellKept Grows cluster (cluster.submit request failure).2 := by
  cases failure with
  | some fault => exact raise_keeps Nat cluster fault
  | none =>
      constructor
      · refine { grows_refl cluster with tickets := ?_ }
        intro future ticket held
        have inside : future < cluster.tickets.length := (List.getElem?_eq_some_iff.mp held).1
        exact ⟨ticket, (List.getElem?_append_left inside).trans held, follows_refl ticket⟩
      · intro kept
        refine ⟨kept.current, ?_⟩
        intro ticket member since answer answered
        rcases List.mem_append.mp member with earlier | added
        · exact kept.timed ticket earlier since answer answered
        · rw [List.mem_singleton.mp added] at answered
          cases answered

theorem result_keeps (cluster : Cluster) (future : Nat) (failure : Option Exc) :
    Keeps WellKept Grows cluster (cluster.result future failure).2 := by
  cases failure with
  | some fault => exact raise_keeps Unit cluster fault
  | none =>
      simp only [Cluster.result]
      split
      · exact keeps_refl cluster
      · exact raise_keeps Unit cluster _
      · exact raise_keeps Unit cluster _

/-- What every call keeps. -/
theorem call_keeps (op : Op) (choice : op.Choice) (cluster : Cluster) :
    Keeps WellKept Grows cluster (exec op choice cluster).2 := by
  cases op with
  | monotonic => exact elapse_keeps cluster choice
  | sleep seconds =>
      simp only [exec]
      by_cases negative : seconds < 0
      · rw [if_pos negative]
        exact keeps_trans (elapse_keeps cluster choice) (raise_keeps Unit _ _)
      · rw [if_neg negative]
        exact keeps_trans (elapse_keeps cluster choice) (advance_keeps _ (not_lt.mp negative))
  | createTopics topic =>
      obtain ⟨meanwhile, failure⟩ := choice
      exact keeps_trans (elapse_keeps cluster meanwhile) (submit_keeps _ _ failure)
  | deleteTopics name =>
      obtain ⟨meanwhile, failure⟩ := choice
      exact keeps_trans (elapse_keeps cluster meanwhile) (submit_keeps _ _ failure)
  | result future =>
      obtain ⟨meanwhile, failure⟩ := choice
      exact keeps_trans (elapse_keeps cluster meanwhile) (result_keeps _ _ failure)
  | listTopics =>
      obtain ⟨meanwhile, fault | sights⟩ := choice
      · exact keeps_trans (elapse_keeps cluster meanwhile)
          (raise_keeps ClusterMetadata _ fault)
      · exact elapse_keeps cluster meanwhile

end OrderMessaging.Messaging.ClusterGrowth
