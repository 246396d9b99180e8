import Mathlib.Logic.Function.Basic
import OrderMessaging.Library.Transcript
import OrderMessaging.Processing.KafkaCollaborators

/-!
One Kafka producer that many callers share. A record's place among the records
handed to the producer is its ticket. Between two calls of any caller the broker
may acknowledge or reject records, and a flush of any caller may serve delivery
callbacks: each record's callback is called once, with what the broker said about
that record. `flush` returns the number of records, of all callers, whose
callback has not been called.
-/

namespace OrderMessaging.Messaging.SharedProducer

open OrderMessaging.PyText OrderMessaging.PyException OrderMessaging.Program
open OrderMessaging.Transcript OrderMessaging.Contracts.Models
open OrderMessaging.Processing.KafkaCollaborators (TopicPartition DeliveredMessage)

set_option autoImplicit false

structure ProducerRecord where
  topic : Str
  key : ByteArray
  value : ByteArray
  headers : List (Str × ByteArray)

abbrev Verdict := Except Str DeliveredMessage

structure World where
  produced : List ProducerRecord
  /-- The partitions: tickets of acknowledged records, and `none` for all others. -/
  log : TopicPartition → List (Option Nat)
  verdicts : Nat → Option Verdict
  /-- The calls of each record's `on_delivery` so far. -/
  reports : Nat → List Verdict

/-- A new producer and empty partitions. -/
def idleWorld : World := ⟨[], fun _ => [], fun _ => none, fun _ => []⟩

inductive ClientEvent where
  | acknowledge (ticket partition : Nat) (timestampMs : Option Int)
  | reject (ticket : Nat) (error : Str)
  /-- Any other record enters a partition. -/
  | append (place : TopicPartition)
  | serve (ticket : Nat)

namespace World

variable (world : World)

def judge (ticket : Nat) (verdict : Verdict) : World :=
  { world with verdicts := Function.update world.verdicts ticket (some verdict) }

def store (place : TopicPartition) (entry : Option Nat) : World :=
  { world with log := Function.update world.log place (world.log place ++ [entry]) }

def report (ticket : Nat) (verdict : Verdict) : World :=
  { world with reports := Function.update world.reports ticket [verdict] }

/-- The broker decides about a record once, and its callback is called once. -/
def pass : ClientEvent → World
  | .acknowledge ticket partition timestampMs =>
      match world.produced[ticket]?, world.verdicts ticket with
      | some record, none =>
          let place := (record.topic, partition)
          (world.store place (some ticket)).judge ticket
            (.ok ⟨record.topic, partition, (world.log place).length, timestampMs⟩)
      | _, _ => world
  | .reject ticket error =>
      match world.produced[ticket]?, world.verdicts ticket with
      | some _, none => world.judge ticket (.error error)
      | _, _ => world
  | .append place => world.store place none
  | .serve ticket =>
      match world.verdicts ticket, world.reports ticket with
      | some verdict, [] => world.report ticket verdict
      | _, _ => world

def passAll (events : List ClientEvent) : World := events.foldl pass world

/-- Records whose callback has not been called. -/
def queued : List Nat :=
  (List.range world.produced.length).filter fun ticket => (world.reports ticket).isEmpty

def errors (ticket : Nat) : List Str :=
  (world.reports ticket).filterMap fun
    | .error error => some error
    | .ok _ => none

def delivered (ticket : Nat) : List DeliveredMessage :=
  (world.reports ticket).filterMap fun
    | .error _ => none
    | .ok message => some message

end World

/-- The calls of a request. The two lists that a delivery callback appends to are
read when the code reads them. -/
inductive Op where
  | uuid4
  | now
  | produce (record : ProducerRecord)
  | flush (timeoutSeconds : ℚ)
  | deliveryErrors (ticket : Nat)
  | deliveredMessages (ticket : Nat)

/-- `produce` returns the ticket that stands for its callback's lists. -/
abbrev Op.Ret : Op → Type
  | uuid4 => Uuid
  | now => AwareDatetime
  | produce _ => Nat
  | flush _ => Nat
  | deliveryErrors _ => List Str
  | deliveredMessages _ => List DeliveredMessage

abbrev Op.Own : Op → Type
  | uuid4 => Uuid
  | now => AwareDatetime
  | produce _ => Option Exc
  | flush _ => Option Exc
  | deliveryErrors _ => Unit
  | deliveredMessages _ => Unit

/-- What the client and the broker did since the last call, of any caller, and
what is open about the call itself. -/
abbrev Op.Choice (op : Op) : Type := List ClientEvent × op.Own

abbrev Calls := List (Exchange Exc Op.Ret)

def answer : (op : Op) → op.Own → World → Except Exc op.Ret × World
  | .uuid4, fresh, world => (.ok fresh, world)
  | .now, now, world => (.ok now, world)
  | .produce record, failure, world =>
      match failure with
      | some fault => (.error fault, world)
      | none => (.ok world.produced.length, { world with produced := world.produced ++ [record] })
  | .flush _, failure, world =>
      match failure with
      | some fault => (.error fault, world)
      | none => (.ok world.queued.length, world)
  | .deliveryErrors ticket, _, world => (.ok (world.errors ticket), world)
  | .deliveredMessages ticket, _, world => (.ok (world.delivered ticket), world)

def exec : Semantics Exc Op.Ret Op.Choice World :=
  fun op choice world => answer op choice.2 (world.passAll choice.1)

section Laws

/-- Nothing that has happened to a record is taken back. -/
structure Grows (before after : World) : Prop where
  produced : ∀ (ticket : Nat) (record : ProducerRecord),
    before.produced[ticket]? = some record → after.produced[ticket]? = some record
  verdicts : ∀ ticket verdict, before.verdicts ticket = some verdict →
    after.verdicts ticket = some verdict
  reports : ∀ ticket verdict, before.reports ticket = [verdict] →
    after.reports ticket = [verdict]

/-- What the client and the broker keep true of every record. -/
structure Lawful (world : World) : Prop where
  decided : ∀ ticket verdict, world.verdicts ticket = some verdict →
    ticket < world.produced.length
  reported : ∀ ticket, world.reports ticket = [] ∨
    ∃ verdict, world.verdicts ticket = some verdict ∧ world.reports ticket = [verdict]
  placed : ∀ (ticket : Nat) message, world.verdicts ticket = some (.ok message) →
    ∃ record, world.produced[ticket]? = some record ∧ message.topic = record.topic ∧
      (world.log (message.topic, message.partition))[message.offset]? = some (some ticket)
  logged : ∀ place (offset : Nat) ticket, (world.log place)[offset]? = some (some ticket) →
    ∃ message, world.verdicts ticket = some (.ok message) ∧
      place = (message.topic, message.partition) ∧ offset = message.offset

theorem idle_lawful : Lawful idleWorld where
  decided ticket verdict said := by cases said
  reported ticket := .inl rfl
  placed ticket message said := by cases said
  logged place offset ticket found := by cases found

theorem grows_refl (world : World) : Grows world world :=
  ⟨fun _ _ => id, fun _ _ => id, fun _ _ => id⟩

theorem grows_trans (first second third : World) (early : Grows first second)
    (late : Grows second third) : Grows first third where
  produced ticket record found := late.produced ticket record (early.produced ticket record found)
  verdicts ticket verdict said := late.verdicts ticket verdict (early.verdicts ticket verdict said)
  reports ticket verdict called := late.reports ticket verdict (early.reports ticket verdict called)

variable {world : World}

theorem stored_iff {place other : TopicPartition} {entry : Option Nat} {offset ticket : Nat} :
    ((world.store place entry).log other)[offset]? = some (some ticket) ↔
      (world.log other)[offset]? = some (some ticket) ∨
        (entry = some ticket ∧ other = place ∧ offset = (world.log place).length) := by
  unfold World.store
  by_cases same : other = place
  · subst same
    simp only [Function.update_self, List.getElem?_append, true_and]
    rcases Nat.lt_trichotomy offset (world.log other).length with inside | last | beyond
    · rw [if_pos inside]
      have differ : offset ≠ (world.log other).length := Nat.ne_of_lt inside
      simp [differ]
    · subst last
      simp
    · have outside : (world.log other)[offset]? = none :=
        List.getElem?_eq_none (Nat.le_of_lt beyond)
      have differ : offset ≠ (world.log other).length := Nat.ne_of_gt beyond
      have after : offset - (world.log other).length ≠ 0 := by omega
      rw [if_neg (Nat.not_lt.mpr (Nat.le_of_lt beyond)), outside]
      simp [differ, after]
  · simp only [Function.update_of_ne same]
    simp [same]

theorem judged_iff {ticket other : Nat} {verdict said : Verdict} :
    (world.judge ticket verdict).verdicts other = some said ↔
      (other = ticket ∧ verdict = said) ∨ (other ≠ ticket ∧ world.verdicts other = some said) := by
  unfold World.judge
  by_cases same : other = ticket
  · subst same
    simp
  · simp [same]

theorem judge_grows {ticket : Nat} {verdict : Verdict}
    (undecided : world.verdicts ticket = none) : Grows world (world.judge ticket verdict) where
  produced _ _ := id
  verdicts other said earlier := by
    refine judged_iff.mpr (.inr ⟨?_, earlier⟩)
    rintro rfl
    rw [undecided] at earlier
    cases earlier
  reports _ _ := id

/-- A verdict on an undecided record; an acknowledged one takes its place in the log. -/
theorem judge_lawful (lawful : Lawful world) {ticket : Nat} {verdict : Verdict}
    {record : ProducerRecord} {log : TopicPartition → List (Option Nat)}
    (found : world.produced[ticket]? = some record) (undecided : world.verdicts ticket = none)
    (kept : ∀ place (offset : Nat) other, (world.log place)[offset]? = some (some other) →
      (log place)[offset]? = some (some other))
    (only : ∀ place (offset : Nat) other, (log place)[offset]? = some (some other) →
      (world.log place)[offset]? = some (some other) ∨ (other = ticket ∧ ∃ message,
        verdict = .ok message ∧ place = (message.topic, message.partition) ∧
        offset = message.offset))
    (placed : ∀ message, verdict = .ok message → message.topic = record.topic ∧
      (log (message.topic, message.partition))[message.offset]? = some (some ticket)) :
    Lawful ({ world with log := log }.judge ticket verdict) where
  decided other said judged := by
    rcases judged_iff.mp judged with ⟨rfl, _⟩ | ⟨_, earlier⟩
    · exact (List.getElem?_eq_some_iff.mp found).1
    · exact lawful.decided other said earlier
  reported other := by
    rcases lawful.reported other with none | ⟨said, earlier, called⟩
    · exact .inl none
    · exact .inr ⟨said, (judge_grows undecided).verdicts other said earlier, called⟩
  placed other message judged := by
    rcases judged_iff.mp judged with ⟨rfl, same⟩ | ⟨_, earlier⟩
    · exact ⟨record, found, placed message same⟩
    · obtain ⟨own, produced, topic, held⟩ := lawful.placed other message earlier
      exact ⟨own, produced, topic, kept _ _ _ held⟩
  logged place offset other held := by
    rcases only place offset other held with earlier | ⟨rfl, message, same, place⟩
    · obtain ⟨message, said, place⟩ := lawful.logged place offset other earlier
      exact ⟨message, (judge_grows undecided).verdicts other _ said, place⟩
    · exact ⟨message, judged_iff.mpr (.inl ⟨rfl, same⟩), place⟩

/-- Everything one event can do. -/
inductive Passed (world : World) : World → Prop where
  | idle : Passed world world
  | acknowledged (ticket partition : Nat) (timestampMs : Option Int) (record : ProducerRecord)
      (found : world.produced[ticket]? = some record) (undecided : world.verdicts ticket = none) :
      Passed world ((world.store (record.topic, partition) (some ticket)).judge ticket
        (.ok ⟨record.topic, partition, (world.log (record.topic, partition)).length, timestampMs⟩))
  | rejected (ticket : Nat) (error : Str) (record : ProducerRecord)
      (found : world.produced[ticket]? = some record) (undecided : world.verdicts ticket = none) :
      Passed world (world.judge ticket (.error error))
  | appended (place : TopicPartition) : Passed world (world.store place none)
  | served (ticket : Nat) (verdict : Verdict) (said : world.verdicts ticket = some verdict)
      (silent : world.reports ticket = []) : Passed world (world.report ticket verdict)

theorem pass_passed (world : World) (event : ClientEvent) : Passed world (world.pass event) := by
  cases event with
  | acknowledge ticket partition timestampMs =>
      simp only [World.pass]
      split
      next record found undecided =>
        exact .acknowledged ticket partition timestampMs record found undecided
      next => exact .idle
  | reject ticket error =>
      simp only [World.pass]
      split
      next record found undecided => exact .rejected ticket error record found undecided
      next => exact .idle
  | append place => exact .appended place
  | serve ticket =>
      simp only [World.pass]
      split
      next verdict said silent => exact .served ticket verdict said silent
      next => exact .idle

theorem passed_grows {reached : World} (passed : Passed world reached) : Grows world reached := by
  cases passed with
  | idle => exact grows_refl world
  | acknowledged ticket partition timestampMs record found undecided =>
      exact ⟨fun _ _ => id, (judge_grows undecided).verdicts, fun _ _ => id⟩
  | rejected ticket error record found undecided => exact judge_grows undecided
  | appended place => exact ⟨fun _ _ => id, fun _ _ => id, fun _ _ => id⟩
  | served ticket verdict said silent =>
      refine ⟨fun _ _ => id, fun _ _ => id, ?_⟩
      intro other earlier called
      have differ : other ≠ ticket := by
        rintro rfl
        rw [silent] at called
        cases called
      exact (Function.update_of_ne differ _ _).trans called

theorem passed_lawful {reached : World} (lawful : Lawful world) (passed : Passed world reached) :
    Lawful reached := by
  cases passed with
  | idle => exact lawful
  | acknowledged ticket partition timestampMs record found undecided =>
      apply judge_lawful lawful found undecided
      · intro place offset other held
        exact stored_iff.mpr (.inl held)
      · intro place offset other held
        rcases stored_iff.mp held with earlier | ⟨own, rfl, rfl⟩
        · exact .inl earlier
        · cases own
          exact .inr ⟨rfl, _, rfl, rfl, rfl⟩
      · intro message same
        cases same
        exact ⟨rfl, stored_iff.mpr (.inr ⟨rfl, rfl, rfl⟩)⟩
  | rejected ticket error record found undecided =>
      apply judge_lawful lawful found undecided
      · exact fun _ _ _ => id
      · exact fun _ _ _ => .inl
      · intro message same
        cases same
  | appended place =>
      constructor
      · exact lawful.decided
      · exact lawful.reported
      · intro ticket message said
        obtain ⟨record, found, topic, held⟩ := lawful.placed ticket message said
        exact ⟨record, found, topic, stored_iff.mpr (.inl held)⟩
      · intro other offset ticket held
        rcases stored_iff.mp held with earlier | ⟨none, _⟩
        · exact lawful.logged other offset ticket earlier
        · cases none
  | served ticket verdict said silent =>
      constructor
      · exact lawful.decided
      · intro other
        by_cases same : other = ticket
        · subst same
          exact .inr ⟨verdict, said, Function.update_self ..⟩
        · simp only [World.report, Function.update_of_ne same]
          exact lawful.reported other
      · exact lawful.placed
      · exact lawful.logged

theorem pass_all_grows (events : List ClientEvent) (world : World) :
    Grows world (world.passAll events) := by
  induction events generalizing world with
  | nil => exact grows_refl world
  | cons event rest ih =>
      exact grows_trans _ _ _ (passed_grows (pass_passed world event)) (ih (world.pass event))

theorem pass_all_lawful (events : List ClientEvent) {world : World} (lawful : Lawful world) :
    Lawful (world.passAll events) := by
  induction events generalizing world with
  | nil => exact lawful
  | cons event rest ih => exact ih (passed_lawful lawful (pass_passed world event))

end Laws

section Runs

theorem pass_all_produced (events : List ClientEvent) (world : World) :
    (world.passAll events).produced = world.produced := by
  induction events generalizing world with
  | nil => rfl
  | cons event rest ih =>
      have own : (world.pass event).produced = world.produced := by
        have passed := pass_passed world event
        generalize world.pass event = reached at passed
        cases passed <;> rfl
      exact (ih (world.pass event)).trans own

/-- A call adds a record, or leaves the world as the events before it left it. -/
theorem answer_cases (op : Op) (own : op.Own) (world : World) :
    (answer op own world).2 = world ∨ ∃ record,
      (⟨op, (answer op own world).1⟩ : Exchange Exc Op.Ret) =
        ⟨.produce record, .ok world.produced.length⟩ ∧
      (answer op own world).2 = { world with produced := world.produced ++ [record] } := by
  cases op with
  | uuid4 | now | deliveryErrors ticket | deliveredMessages ticket => exact .inl rfl
  | flush timeoutSeconds => cases own <;> exact .inl rfl
  | produce record =>
      cases own with
      | some fault => exact .inl rfl
      | none => exact .inr ⟨record, rfl, rfl⟩

theorem produce_grows (world : World) (record : ProducerRecord) :
    Grows world { world with produced := world.produced ++ [record] } where
  produced _ _ found :=
    (List.getElem?_append_left (List.getElem?_eq_some_iff.mp found).1).trans found
  verdicts _ _ := id
  reports _ _ := id

theorem exec_grows (op : Op) (choice : op.Choice) (world : World) :
    Grows world (exec op choice world).2 := by
  have passed := pass_all_grows choice.1 world
  rcases answer_cases op choice.2 (world.passAll choice.1) with same | ⟨record, _, added⟩
  · exact same ▸ passed
  · have grown := produce_grows (world.passAll choice.1) record
    rw [← added] at grown
    exact grows_trans _ _ _ passed grown

theorem exec_lawful (op : Op) (choice : op.Choice) (world : World) (lawful : Lawful world) :
    Lawful (exec op choice world).2 := by
  have passed := pass_all_lawful choice.1 lawful
  rcases answer_cases op choice.2 (world.passAll choice.1) with same | ⟨record, _, added⟩
  · exact same ▸ passed
  · have grown := produce_grows (world.passAll choice.1) record
    have reached : Lawful { world.passAll choice.1 with
        produced := (world.passAll choice.1).produced ++ [record] } := by
      constructor
      · intro ticket verdict said
        have inside := passed.decided ticket verdict said
        rw [List.length_append]
        exact Nat.lt_add_right _ inside
      · exact passed.reported
      · intro ticket message said
        obtain ⟨own, found, topic, held⟩ := passed.placed ticket message said
        exact ⟨own, grown.produced ticket own found, topic, held⟩
      · exact passed.logged
    rw [← added] at reached
    exact reached

variable {world final : World} {calls : Calls}

theorem plays_grows (plays : Plays exec world calls final) : Grows world final :=
  plays_relates grows_refl grows_trans exec_grows plays

theorem plays_lawful (plays : Plays exec world calls final) (lawful : Lawful world) :
    Lawful final :=
  plays_invariant exec_lawful plays lawful

theorem produce_answered {record : ProducerRecord} {choice : (Op.produce record).Choice}
    {ticket : Nat} {reached : World}
    (answered : exec (.produce record) choice world = (.ok ticket, reached)) :
    ticket = world.produced.length ∧ reached.produced[ticket]? = some record := by
  obtain ⟨events, failure⟩ := choice
  cases failure with
  | some fault => cases answered
  | none =>
      cases answered
      refine ⟨congrArg List.length (pass_all_produced events world), ?_⟩
      simp

theorem flush_answered {timeoutSeconds : ℚ} {choice : (Op.flush timeoutSeconds).Choice}
    {undelivered : Nat} {reached : World}
    (answered : exec (.flush timeoutSeconds) choice world = (.ok undelivered, reached)) :
    undelivered = reached.queued.length := by
  obtain ⟨events, failure⟩ := choice
  cases failure with
  | some fault => cases answered
  | none =>
      cases answered
      rfl

theorem errors_answered {ticket : Nat} {choice : (Op.deliveryErrors ticket).Choice}
    {said : Except Exc (List Str)} {reached : World}
    (answered : exec (.deliveryErrors ticket) choice world = (said, reached)) :
    said = .ok (reached.errors ticket) := by
  obtain ⟨own, left⟩ := Prod.mk.inj answered
  rw [← left]
  exact own.symm

theorem delivered_answered {ticket : Nat} {choice : (Op.deliveredMessages ticket).Choice}
    {said : Except Exc (List DeliveredMessage)} {reached : World}
    (answered : exec (.deliveredMessages ticket) choice world = (said, reached)) :
    said = .ok (reached.delivered ticket) := by
  obtain ⟨own, left⟩ := Prod.mk.inj answered
  rw [← left]
  exact own.symm

/-- A call of the run, with the worlds before and after it. -/
theorem plays_member {op : Op} {said : Except Exc op.Ret} (plays : Plays exec world calls final)
    (member : ⟨op, said⟩ ∈ calls) :
    ∃ choice before reached, exec op choice before = (said, reached) ∧ Grows world reached ∧
      Grows reached final ∧ (Lawful world → Lawful reached) := by
  obtain ⟨early, late, rfl⟩ := List.append_of_mem member
  obtain ⟨before, first, rest⟩ := (plays_append_iff exec).mp plays
  obtain ⟨choice, reached, answered, further⟩ := (plays_cons_iff exec).mp rest
  have grown := exec_grows op choice before
  rw [answered] at grown
  refine ⟨choice, before, reached, answered, grows_trans _ _ _ (plays_grows first) grown,
    plays_grows further, ?_⟩
  intro lawful
  have kept := exec_lawful op choice before (plays_lawful first lawful)
  rw [answered] at kept
  exact kept

/-- A record that was handed over keeps its ticket. -/
theorem plays_produced (plays : Plays exec world calls final) {record : ProducerRecord}
    {ticket : Nat} (member : ⟨.produce record, .ok ticket⟩ ∈ calls) :
    final.produced[ticket]? = some record := by
  obtain ⟨choice, before, reached, answered, _, grown, _⟩ := plays_member plays member
  exact grown.produced ticket record (produce_answered answered).2

theorem reported_iff (lawful : Lawful world) {ticket : Nat} {message : DeliveredMessage} :
    world.delivered ticket = [message] ↔ world.reports ticket = [.ok message] := by
  unfold World.delivered
  rcases lawful.reported ticket with none | ⟨verdict, _, called⟩
  · simp [none]
  · rw [called]
    cases verdict <;> simp

/-- A delivery that the code has read stays reported. -/
theorem plays_delivered (plays : Plays exec world calls final) (lawful : Lawful world)
    {ticket : Nat} {message : DeliveredMessage}
    (member : ⟨.deliveredMessages ticket, .ok [message]⟩ ∈ calls) :
    final.reports ticket = [.ok message] := by
  obtain ⟨choice, before, reached, answered, _, grown, kept⟩ := plays_member plays member
  have read := Except.ok.inj (delivered_answered answered)
  exact grown.reports ticket _ ((reported_iff (kept lawful)).mp read.symm)

/-- Later calls hand out later tickets. -/
theorem tickets_above (plays : Plays exec world calls final) {record : ProducerRecord}
    {ticket : Nat} (member : ⟨.produce record, .ok ticket⟩ ∈ calls) :
    world.produced.length ≤ ticket := by
  obtain ⟨early, late, rfl⟩ := List.append_of_mem member
  obtain ⟨before, first, rest⟩ := (plays_append_iff exec).mp plays
  obtain ⟨choice, reached, answered, _⟩ := (plays_cons_iff exec).mp rest
  rw [(produce_answered answered).1]
  by_contra fewer
  have inside : before.produced.length < world.produced.length := by omega
  have kept := (plays_grows first).produced _ _ (List.getElem?_eq_getElem inside)
  rw [List.getElem?_eq_none (Nat.le_refl _)] at kept
  cases kept

/-- Two callers never hold the same ticket. -/
theorem tickets_distinct {history : List (Nat × Exchange Exc Op.Ret)}
    (plays : Plays exec world (history.map Prod.snd) final) {left right ticket : Nat}
    {first second : ProducerRecord} (one : (left, ⟨.produce first, .ok ticket⟩) ∈ history)
    (other : (right, ⟨.produce second, .ok ticket⟩) ∈ history) : left = right := by
  induction history generalizing world with
  | nil => cases one
  | cons entry rest ih =>
      obtain ⟨caller, op, said⟩ := entry
      obtain ⟨choice, reached, answered, further⟩ := (plays_cons_iff exec).mp plays
      have later : ∀ {caller : Nat} {record second : ProducerRecord},
          op = .produce second → HEq said (Except.ok ticket : Except Exc Nat) →
          (caller, (⟨.produce record, .ok ticket⟩ : Exchange Exc Op.Ret)) ∉ rest := by
        rintro caller record second rfl same member
        cases same
        obtain ⟨own, found⟩ := produce_answered answered
        have above := tickets_above further (List.mem_map.mpr ⟨_, member, rfl⟩)
        have inside := (List.getElem?_eq_some_iff.mp found).1
        omega
      rcases List.mem_cons.mp one with firstOne | oneLater
      · cases firstOne
        rcases List.mem_cons.mp other with same | otherLater
        · cases same
          rfl
        · exact absurd otherLater (later rfl HEq.rfl)
      · rcases List.mem_cons.mp other with firstOther | otherLater
        · cases firstOther
          exact absurd oneLater (later rfl HEq.rfl)
        · exact ih further oneLater otherLater

end Runs

end OrderMessaging.Messaging.SharedProducer
