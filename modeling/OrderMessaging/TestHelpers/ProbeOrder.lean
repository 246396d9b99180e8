import OrderMessaging.TestHelpers.EventProbe

/-!
The order in which the probe examines what it polled. The records given to the
predicates and those still pending are together what `poll` returned, in poll
order; every pass of either loop keeps that, unless a record is lost because its
value raises something the conversion does not catch.
-/

namespace OrderMessaging.TestHelpers.ProbeOrder

open OrderMessaging.PyText OrderMessaging.PyException OrderMessaging.PyValue
open OrderMessaging.Contracts.Models OrderMessaging.Contracts.Reference
open OrderMessaging.TestHelpers.EventProbe

set_option autoImplicit false

section Laws

variable (runtime : Runtime)

/-- What decoding and parsing raise is caught. -/
def Readable (value : Option ByteArray) : Prop :=
  ∀ fault, parseValue runtime value = .error fault → fault.isInstance parseFailures = true

def Converts (message : BrokerMessage) : Prop := ∃ record, toRecord runtime message = .ok record

def Ordered (probe : KafkaEventProbe) : Prop :=
  (probe.examined ++ probe.pending).map Except.ok = probe.polled.map (toRecord runtime)

/-- The records of all polls, by the position at which `poll` returned them. -/
def polledRecords (probe : KafkaEventProbe) : List (Except Exc ObservedKafkaRecord) :=
  probe.polled.map (toRecord runtime)

def satisfies (predicate : RecordPredicate) : Except Exc ObservedKafkaRecord → Bool
  | .ok record => predicate record
  | .error _ => false

/-- The records the call gave to its predicate. -/
def examinedBy (report : Report) : List ObservedKafkaRecord :=
  report.after.examined.drop report.before.examined.length

structure ReportLaw (settings : ProbeSettings) (report : Report) : Prop where
  inOrder : report.after.examined.map Except.ok <+: polledRecords runtime report.after
  continues : report.before.examined <+: report.after.examined
  returns : ∀ predicate timeoutSeconds startup waiting record,
    report.call = .waitForEvent predicate timeoutSeconds startup waiting →
    report.outcome = .returned (some record) →
    ((polledRecords runtime report.after).drop report.before.examined.length).find?
      (satisfies predicate) = some (.ok record)
  timesOut : ∀ evidence, report.outcome = .raised (.timeout evidence) →
    polledRecords runtime report.after = report.after.examined.map Except.ok ∧
    evidence.observedCount = (examinedBy report).length ∧
    evidence.observedSummaries =
      ((examinedBy report).map (summarize runtime)).rtake settings.diagnosticRecordLimit.toNat

end Laws

section Steps

variable {runtime : Runtime} {settings : ProbeSettings} {topic : Str}

theorem converts_of_readable {message : BrokerMessage} (sound : message.error = none)
    (readable : Readable runtime message.value) : Converts runtime message := by
  unfold Converts toRecord
  rw [sound]
  cases parsed : parseValue runtime message.value with
  | ok event => exact ⟨_, rfl⟩
  | error fault =>
      simp only [readable fault parsed, if_true]
      exact ⟨_, rfl⟩

/-- Everything `poll` and a conversion that succeeds can do. -/
inductive Received (runtime : Runtime) (probe : KafkaEventProbe) :
    Except Exc (Option ObservedKafkaRecord) × KafkaEventProbe → Prop where
  | failed (fault : Exc) : Received runtime probe (.error fault, probe)
  | nothing : Received runtime probe (.ok none, probe)
  | record (message : BrokerMessage) (record : ObservedKafkaRecord)
      (converted : toRecord runtime message = .ok record) :
      Received runtime probe (.ok (some record), { probe with polled := probe.polled ++ [message] })

theorem receive_received (probe : KafkaEventProbe) {answer : Except Exc (Option BrokerMessage)}
    (converts : ∀ message, answer = .ok (some message) → Converts runtime message) :
    Received runtime probe (probe.receive runtime answer) := by
  rcases answer with fault | _ | message
  · exact .failed fault
  · exact .nothing
  · obtain ⟨record, converted⟩ := converts message rfl
    simp only [KafkaEventProbe.receive, converted]
    exact .record message record converted

theorem Ordered.append {probe : KafkaEventProbe} (ordered : Ordered runtime probe)
    {message : BrokerMessage} {record : ObservedKafkaRecord}
    (converted : toRecord runtime message = .ok record) :
    Ordered runtime { probe with
      pending := probe.pending ++ [record]
      polled := probe.polled ++ [message] } := by
  unfold Ordered at ordered ⊢
  rw [← List.append_assoc, List.map_append, ordered]
  simp [converted]

/-- What awaiting the assignment leaves: its records are kept for the waits. -/
structure Begun (runtime : Runtime) (before : KafkaEventProbe)
    (result : Progress Unit × KafkaEventProbe) : Prop where
  ordered : Ordered runtime result.2
  same : result.2.examined = before.examined
  noTimeout : ∀ evidence, result.1 ≠ .raised (.timeout evidence)

theorem start_loop_begun (deadline : ℚ) (rounds : List StartRound) {probe : KafkaEventProbe}
    (ordered : Ordered runtime probe)
    (converts : ∀ round ∈ rounds, ∀ timeout message, round.poll timeout = .ok (some message) →
      Converts runtime message) :
    Begun runtime probe (startLoop runtime settings topic deadline rounds probe) := by
  induction rounds generalizing probe with
  | nil => exact ⟨ordered, rfl, by rintro _ ⟨⟩⟩
  | cons round rounds ih =>
      have roundConverts := converts round List.mem_cons_self
      have laterConverts : ∀ later ∈ rounds, ∀ timeout message,
          later.poll timeout = .ok (some message) → Converts runtime message :=
        fun later member => converts later (List.mem_cons_of_mem _ member)
      by_cases late : deadline - round.clock ≤ 0
      · simp only [startLoop, if_pos late]
        exact ⟨ordered, rfl, by rintro _ ⟨⟩⟩
      · simp only [startLoop, if_neg late]
        have received := receive_received probe (roundConverts
          (min settings.pollIntervalSeconds (deadline - round.clock)))
        generalize probe.receive runtime
          (round.poll (min settings.pollIntervalSeconds (deadline - round.clock))) = result
          at received
        cases received with
        | failed fault => exact ⟨ordered, rfl, by rintro _ ⟨⟩⟩
        | nothing =>
            dsimp only [Option.toList_none]
            rw [List.append_nil]
            split_ifs with assigned
            · exact ⟨ordered, rfl, by rintro _ ⟨⟩⟩
            · exact ih ordered laterConverts
        | record message record converted =>
            have arrived := ordered.append converted
            dsimp only [Option.toList_some]
            split_ifs with assigned
            · exact ⟨arrived, rfl, by rintro _ ⟨⟩⟩
            · obtain ⟨kept, same, noTimeout⟩ := ih arrived laterConverts
              exact ⟨kept, same, noTimeout⟩

/-- Everything one pass of the wait loop can do. -/
inductive Passed (runtime : Runtime) (probe : KafkaEventProbe) :
    Except Exc Pass × KafkaEventProbe → Prop where
  | failed (fault : Exc) : Passed runtime probe (.error fault, probe)
  | expired (drained : probe.pending = []) : Passed runtime probe (.ok .expired, probe)
  | nothing : Passed runtime probe (.ok .nothing, probe)
  | record (record : ObservedKafkaRecord) (after : KafkaEventProbe)
      (same : after.examined = probe.examined)
      (ordered : Ordered runtime { after with examined := after.examined ++ [record] }) :
      Passed runtime probe (.ok (.record record), after)

theorem next_passed {probe : KafkaEventProbe} (ordered : Ordered runtime probe) (deadline : ℚ)
    (round : WaitRound)
    (converts : ∀ timeout message, round.poll timeout = .ok (some message) →
      Converts runtime message) :
    Passed runtime probe (probe.next runtime settings deadline round) := by
  unfold KafkaEventProbe.next
  cases waiting : probe.pending with
  | cons record pending =>
      refine .record record _ rfl ?_
      simpa [Ordered, waiting] using ordered
  | nil =>
      dsimp only
      split_ifs with late
      · exact .expired waiting
      · have received := receive_received probe (converts
          (min settings.pollIntervalSeconds (deadline - round.clock)))
        generalize probe.receive runtime
          (round.poll (min settings.pollIntervalSeconds (deadline - round.clock))) = result
          at received
        cases received with
        | failed fault => exact .failed fault
        | nothing => exact .nothing
        | record message record converted =>
            refine .record record _ rfl ?_
            have arrived := ordered.append converted
            simpa [Ordered, waiting] using arrived

end Steps

section Search

variable {runtime : Runtime} {settings : ProbeSettings} {topic : Str}

/-- How a search that began with these counters, after the records `earlier` had
been examined, stands or ends. `skipped` are the records it examined in vain. -/
inductive Searched (runtime : Runtime) (settings : ProbeSettings) (topic : Str) (search : Search)
    (observedCount : Nat) (summaries : List Str) (earlier : List ObservedKafkaRecord) :
    Progress ObservedKafkaRecord × KafkaEventProbe → Prop where
  | running (skipped : List ObservedKafkaRecord) (after : KafkaEventProbe)
      (grown : after.examined = earlier ++ skipped) :
      Searched runtime settings topic search observedCount summaries earlier (.running, after)
  | failed (fault : Exc) (skipped : List ObservedKafkaRecord) (after : KafkaEventProbe)
      (grown : after.examined = earlier ++ skipped) :
      Searched runtime settings topic search observedCount summaries earlier
        (.raised (.exception fault), after)
  | found (record : ObservedKafkaRecord) (skipped : List ObservedKafkaRecord)
      (after : KafkaEventProbe)
      (grown : after.examined = earlier ++ (skipped ++ [record]))
      (rejected : ∀ other ∈ skipped, search.predicate other = false)
      (accepted : search.predicate record = true) :
      Searched runtime settings topic search observedCount summaries earlier
        (.returned record, after)
  | expired (skipped : List ObservedKafkaRecord) (after : KafkaEventProbe)
      (grown : after.examined = earlier ++ skipped) (drained : after.pending = []) :
      Searched runtime settings topic search observedCount summaries earlier
        (.raised (.timeout ⟨topic, settings.groupId, search.timeoutSeconds,
          observedCount + skipped.length,
          (skipped.map (summarize runtime)).foldl (pushBounded search.limit) summaries⟩), after)

/-- One more rejected record before the search goes on. -/
theorem Searched.after_rejected {search : Search} {observedCount : Nat} {summaries : List Str}
    {earlier next : List ObservedKafkaRecord} {record : ObservedKafkaRecord}
    {result : Progress ObservedKafkaRecord × KafkaEventProbe}
    (searched : Searched runtime settings topic search (observedCount + 1)
      (pushBounded search.limit summaries (summarize runtime record)) next result)
    (grown : next = earlier ++ [record])
    (rejected : search.predicate record = false) :
    Searched runtime settings topic search observedCount summaries earlier result := by
  have joined (skipped : List ObservedKafkaRecord) :
      next ++ skipped = earlier ++ (record :: skipped) := by
    rw [grown, List.append_assoc, List.singleton_append]
  cases searched with
  | running skipped after later =>
      exact .running (record :: skipped) after (later.trans (joined skipped))
  | failed fault skipped after later =>
      exact .failed fault (record :: skipped) after (later.trans (joined skipped))
  | found result skipped after later others accepted =>
      refine .found result (record :: skipped) after (later.trans (joined _)) ?_ accepted
      intro other member
      rcases List.mem_cons.mp member with rfl | member
      · exact rejected
      · exact others other member
  | expired skipped after later drained =>
      have counted : observedCount + 1 + skipped.length =
          observedCount + (record :: skipped).length := by
        simp only [List.length_cons]
        omega
      rw [counted]
      exact .expired (record :: skipped) after (later.trans (joined skipped)) drained

theorem wait_loop_searched (search : Search) (rounds : List WaitRound) (observedCount : Nat)
    (summaries : List Str) {probe : KafkaEventProbe} (ordered : Ordered runtime probe)
    (converts : ∀ round ∈ rounds, ∀ timeout message, round.poll timeout = .ok (some message) →
      Converts runtime message) :
    Ordered runtime (waitLoop runtime settings topic search rounds observedCount summaries probe).2 ∧
      Searched runtime settings topic search observedCount summaries probe.examined
        (waitLoop runtime settings topic search rounds observedCount summaries probe) := by
  induction rounds generalizing observedCount summaries probe with
  | nil => exact ⟨ordered, .running [] probe (List.append_nil _).symm⟩
  | cons round rounds ih =>
      have laterConverts : ∀ later ∈ rounds, ∀ timeout message,
          later.poll timeout = .ok (some message) → Converts runtime message :=
        fun later member => converts later (List.mem_cons_of_mem _ member)
      have passed : Passed runtime probe (probe.next runtime settings search.deadline round) :=
        next_passed ordered search.deadline round (converts round List.mem_cons_self)
      simp only [waitLoop]
      generalize probe.next runtime settings search.deadline round = result at passed
      cases passed with
      | failed fault => exact ⟨ordered, .failed fault [] probe (List.append_nil _).symm⟩
      | expired drained =>
          exact ⟨ordered, .expired [] probe (List.append_nil _).symm drained⟩
      | nothing => exact ih observedCount summaries ordered laterConverts
      | record record after same arrived =>
          have grown : after.examined ++ [record] = probe.examined ++ [record] := by rw [same]
          cases verdict : search.predicate record with
          | true =>
              simp only [verdict, if_true]
              exact ⟨arrived, .found record [] _ grown (by simp) verdict⟩
          | false =>
              simp only [verdict, Bool.false_eq_true, if_false]
              have later := ih (observedCount + 1)
                (pushBounded search.limit summaries (summarize runtime record)) arrived
                laterConverts
              exact ⟨later.1, later.2.after_rejected grown verdict⟩

/-- A deque of that `maxlen` holds the last of everything appended to it. -/
theorem push_bounded_last (limit : Nat) (summaries : List Str) :
    summaries.foldl (pushBounded limit) [] = summaries.rtake limit := by
  induction summaries using List.reverseRecOn with
  | nil => exact (List.rtake_nil limit).symm
  | append_singleton earlier last ih =>
      rw [List.foldl_append, ih]
      change (earlier.rtake limit ++ [last]).rtake limit = (earlier ++ [last]).rtake limit
      cases limit with
      | zero => rw [List.rtake_zero, List.rtake_zero]
      | succ limit =>
          rw [List.rtake_concat_succ, List.rtake_concat_succ]
          simp only [List.rtake_eq_reverse_take_reverse, List.reverse_reverse, List.take_take]
          rw [Nat.min_eq_left (Nat.le_succ limit)]

end Search

section Calls

variable {runtime : Runtime} {settings : ProbeSettings} {topic : Str}

theorem examined_begins {probe : KafkaEventProbe} (ordered : Ordered runtime probe) :
    probe.examined.map Except.ok <+: polledRecords runtime probe := by
  refine ⟨probe.pending.map Except.ok, ?_⟩
  rw [← List.map_append]
  exact ordered

/-- Where nothing is pending, everything polled has been examined. -/
theorem ordered_drained {probe : KafkaEventProbe} (ordered : Ordered runtime probe)
    (drained : probe.pending = []) :
    polledRecords runtime probe = probe.examined.map Except.ok := by
  unfold Ordered at ordered
  rw [drained, List.append_nil] at ordered
  exact ordered.symm

theorem law_of_idle {call : Call} {before after : KafkaEventProbe}
    {outcome : Progress (Option ObservedKafkaRecord)} (ordered : Ordered runtime after)
    (same : after.examined = before.examined)
    (noRecord : ∀ record, outcome ≠ .returned (some record))
    (noTimeout : ∀ evidence, outcome ≠ .raised (.timeout evidence)) :
    ReportLaw runtime settings ⟨call, before, outcome, after⟩ where
  inOrder := examined_begins ordered
  continues := same ▸ List.prefix_rfl
  returns _ _ _ _ record _ returned := (noRecord record returned).elim
  timesOut evidence raised := (noTimeout evidence raised).elim

theorem find_first {before after : KafkaEventProbe} (ordered : Ordered runtime after)
    {predicate : RecordPredicate} {skipped : List ObservedKafkaRecord}
    {record : ObservedKafkaRecord}
    (grown : after.examined = before.examined ++ (skipped ++ [record]))
    (rejected : ∀ other ∈ skipped, predicate other = false)
    (accepted : predicate record = true) :
    ((polledRecords runtime after).drop before.examined.length).find? (satisfies predicate) =
      some (.ok record) := by
  have stream : polledRecords runtime after =
      before.examined.map Except.ok ++
        (skipped.map Except.ok ++ (Except.ok record :: after.pending.map Except.ok)) := by
    refine Eq.trans (Eq.symm ordered) ?_
    simp [grown]
  have start : before.examined.length =
      (before.examined.map (Except.ok : _ → Except Exc ObservedKafkaRecord)).length := by simp
  rw [stream, start, List.drop_left, List.find?_append]
  have none_earlier : (skipped.map Except.ok).find? (satisfies predicate) = none := by
    refine List.find?_eq_none.mpr ?_
    intro other member
    obtain ⟨candidate, inSkipped, rfl⟩ := List.mem_map.mp member
    simp [satisfies, rejected candidate inSkipped]
  rw [none_earlier, Option.none_or]
  exact List.find?_cons_of_pos accepted

theorem law_of_searched (search : Search) {before after : KafkaEventProbe}
    {progress : Progress ObservedKafkaRecord} (startup : Startup) (waiting : Waiting)
    (ordered : Ordered runtime after)
    (limit : search.limit = settings.diagnosticRecordLimit.toNat)
    (searched : Searched runtime settings topic search 0 [] before.examined (progress, after)) :
    ReportLaw runtime settings
      ⟨.waitForEvent search.predicate search.timeoutSeconds startup waiting, before,
        progress.map some, after⟩ := by
  generalize ended : (progress, after) = result at searched
  cases searched with
  | running skipped after' grown =>
      obtain ⟨rfl, rfl⟩ := Prod.mk.inj ended
      exact ⟨examined_begins ordered, grown ▸ List.prefix_append _ _,
        by rintro _ _ _ _ _ _ ⟨⟩, by rintro _ ⟨⟩⟩
  | failed fault skipped after' grown =>
      obtain ⟨rfl, rfl⟩ := Prod.mk.inj ended
      exact ⟨examined_begins ordered, grown ▸ List.prefix_append _ _,
        by rintro _ _ _ _ _ _ ⟨⟩, by rintro _ ⟨⟩⟩
  | found record skipped after' grown rejected accepted =>
      obtain ⟨rfl, rfl⟩ := Prod.mk.inj ended
      refine ⟨examined_begins ordered, grown ▸ List.prefix_append _ _, ?_, by rintro _ ⟨⟩⟩
      rintro _ _ _ _ _ ⟨⟩ ⟨⟩
      exact find_first ordered grown rejected accepted
  | expired skipped after' grown drained =>
      obtain ⟨rfl, rfl⟩ := Prod.mk.inj ended
      refine ⟨examined_begins ordered, grown ▸ List.prefix_append _ _,
        by rintro _ _ _ _ _ _ ⟨⟩, ?_⟩
      rintro _ ⟨⟩
      refine ⟨ordered_drained ordered drained, ?_, ?_⟩
      · simp [examinedBy, grown]
      · rw [push_bounded_last, limit]
        simp [examinedBy, grown]

theorem start_begun {probe : KafkaEventProbe} (ordered : Ordered runtime probe)
    (startup : Startup)
    (converts : ∀ round ∈ startup.rounds, ∀ timeout message,
      round.poll timeout = .ok (some message) → Converts runtime message) :
    Begun runtime probe (probe.start runtime settings topic startup) := by
  unfold KafkaEventProbe.start
  split_ifs
  · exact ⟨ordered, rfl, by rintro _ ⟨⟩⟩
  · exact ⟨ordered, rfl, by rintro _ ⟨⟩⟩
  · exact start_loop_begun _ startup.rounds ordered converts

theorem search_law {before probe : KafkaEventProbe} (ordered : Ordered runtime probe)
    (same : probe.examined = before.examined) (predicate : RecordPredicate)
    (timeoutSeconds : ℚ) (startup : Startup) (waiting : Waiting)
    (converts : ∀ round ∈ waiting.rounds, ∀ timeout message,
      round.poll timeout = .ok (some message) → Converts runtime message) :
    Ordered runtime (probe.search runtime settings topic predicate timeoutSeconds waiting).2 ∧
      ReportLaw runtime settings
        ⟨.waitForEvent predicate timeoutSeconds startup waiting, before,
          (probe.search runtime settings topic predicate timeoutSeconds waiting).1.map some,
          (probe.search runtime settings topic predicate timeoutSeconds waiting).2⟩ := by
  unfold KafkaEventProbe.search
  split_ifs with negative
  · exact ⟨ordered, law_of_idle ordered same (by rintro _ ⟨⟩) (by rintro _ ⟨⟩)⟩
  · obtain ⟨kept, searched⟩ := wait_loop_searched
      ⟨predicate, timeoutSeconds, waiting.clock + timeoutSeconds,
        settings.diagnosticRecordLimit.toNat⟩ waiting.rounds 0 [] ordered converts
    rw [same] at searched
    exact ⟨kept, law_of_searched _ startup waiting kept rfl searched⟩

theorem wait_for_event_law {probe : KafkaEventProbe} (ordered : Ordered runtime probe)
    (predicate : RecordPredicate) (timeoutSeconds : ℚ) (startup : Startup) (waiting : Waiting)
    (starts : ∀ round ∈ startup.rounds, ∀ timeout message,
      round.poll timeout = .ok (some message) → Converts runtime message)
    (waits : ∀ round ∈ waiting.rounds, ∀ timeout message,
      round.poll timeout = .ok (some message) → Converts runtime message) :
    Ordered runtime
        (probe.waitForEvent runtime settings topic predicate timeoutSeconds startup waiting).2 ∧
      ReportLaw runtime settings
        ⟨.waitForEvent predicate timeoutSeconds startup waiting, probe,
          (probe.waitForEvent runtime settings topic predicate timeoutSeconds startup
            waiting).1.map some,
          (probe.waitForEvent runtime settings topic predicate timeoutSeconds startup
            waiting).2⟩ := by
  unfold KafkaEventProbe.waitForEvent
  split_ifs with unusable started
  · exact ⟨ordered, law_of_idle ordered rfl (by rintro _ ⟨⟩) (by rintro _ ⟨⟩)⟩
  · exact search_law ordered rfl predicate timeoutSeconds startup waiting waits
  · have begun : Begun runtime probe (probe.start runtime settings topic startup) :=
      start_begun ordered startup starts
    generalize probe.start runtime settings topic startup = result at begun
    obtain ⟨kept, same, noTimeout⟩ := begun
    obtain ⟨progress, started⟩ := result
    cases progress with
    | running => exact ⟨kept, law_of_idle kept same (by rintro _ ⟨⟩) (by rintro _ ⟨⟩)⟩
    | returned _ => exact search_law kept same predicate timeoutSeconds startup waiting waits
    | raised fault =>
        refine ⟨kept, law_of_idle kept same (by rintro _ ⟨⟩) ?_⟩
        rintro evidence ⟨⟩
        exact noTimeout evidence rfl

theorem perform_law (call : Call) {probe : KafkaEventProbe} (ordered : Ordered runtime probe)
    (converts : ∀ message, call.Polls message → Converts runtime message) :
    Ordered runtime (call.perform runtime settings topic probe).2 ∧
      ReportLaw runtime settings
        ⟨call, probe, (call.perform runtime settings topic probe).1,
          (call.perform runtime settings topic probe).2⟩ := by
  cases call with
  | start startup =>
      have begun : Begun runtime probe (probe.start runtime settings topic startup) :=
        start_begun ordered startup fun round member timeout message polled =>
          converts message ⟨round, member, timeout, polled⟩
      simp only [Call.perform]
      generalize probe.start runtime settings topic startup = result at begun
      obtain ⟨kept, same, noTimeout⟩ := begun
      obtain ⟨progress, started⟩ := result
      refine ⟨kept, law_of_idle kept same ?_ ?_⟩
      · intro record
        cases progress <;> simp [Progress.map]
      · intro evidence
        cases progress with
        | running => simp [Progress.map]
        | returned _ => simp [Progress.map]
        | raised fault => simpa [Progress.map] using noTimeout evidence
  | close =>
      simp only [Call.perform, KafkaEventProbe.close]
      split_ifs
      · exact ⟨ordered, law_of_idle ordered rfl (by rintro _ ⟨⟩) (by rintro _ ⟨⟩)⟩
      · exact ⟨ordered, law_of_idle ordered rfl (by rintro _ ⟨⟩) (by rintro _ ⟨⟩)⟩
  | waitForEvent predicate timeoutSeconds startup waiting =>
      refine wait_for_event_law ordered predicate timeoutSeconds startup waiting ?_ ?_
      · exact fun round member timeout message polled =>
          converts message (Or.inl ⟨round, member, timeout, polled⟩)
      · exact fun round member timeout message polled =>
          converts message (Or.inr ⟨round, member, timeout, polled⟩)

end Calls

section Runs

variable {runtime : Runtime} {settings : ProbeSettings} {topic : Str}

theorem run_law (calls : List Call) {probe : KafkaEventProbe} (ordered : Ordered runtime probe)
    (converts : ∀ call ∈ calls, ∀ message, call.Polls message → Converts runtime message) :
    ∀ report ∈ runCalls runtime settings topic calls probe, ReportLaw runtime settings report := by
  induction calls generalizing probe with
  | nil => simp [runCalls]
  | cons call calls ih =>
      obtain ⟨kept, law⟩ : Ordered runtime (call.perform runtime settings topic probe).2 ∧
          ReportLaw runtime settings
            ⟨call, probe, (call.perform runtime settings topic probe).1,
              (call.perform runtime settings topic probe).2⟩ :=
        perform_law call ordered (converts call List.mem_cons_self)
      have later := ih kept fun other member => converts other (List.mem_cons_of_mem _ member)
      intro report member
      simp only [runCalls] at member
      rcases List.mem_cons.mp member with rfl | following
      · exact law
      · generalize (call.perform runtime settings topic probe).1 = outcome at following
        cases outcome with
        | running => cases following
        | returned _ => exact later report following
        | raised _ => exact later report following

theorem fresh_ordered : Ordered runtime freshProbe := rfl

theorem probe_examines_in_order (calls : List Call)
    (sound : ∀ call ∈ calls, ∀ message, call.Polls message → message.error = none)
    (readable : ∀ call ∈ calls, ∀ message, call.Polls message → Readable runtime message.value) :
    ∀ report ∈ runCalls runtime settings topic calls freshProbe,
      ReportLaw runtime settings report :=
  run_law calls fresh_ordered fun call member message polled =>
    converts_of_readable (sound call member message polled) (readable call member message polled)

end Runs

section Loss

variable {runtime : Runtime} {settings : ProbeSettings} {topic : Str}

def assignedStart : Startup := ⟨0, [⟨0, fun _ => .ok none, true⟩]⟩

def waitPolling (message : BrokerMessage) : Call :=
  .waitForEvent (fun _ => true) 1 assignedStart ⟨0, [⟨0, fun _ => .ok (some message)⟩]⟩

theorem assigned_start_polls {message : BrokerMessage} :
    ¬∃ round ∈ assignedStart.rounds, ∃ timeout, round.poll timeout = .ok (some message) := by
  simp [assignedStart]

theorem wait_polling_polls {message other : BrokerMessage}
    (polled : (waitPolling message).Polls other) : message = other := by
  rcases polled with starting | ⟨round, member, timeout, answered⟩
  · exact (assigned_start_polls starting).elim
  · rw [List.mem_singleton.mp member] at answered
    exact Option.some.inj (Except.ok.inj answered)

/-- A wait that polls `lost`, and another that polls the record after it. -/
def lossyCalls (lost next : BrokerMessage) : List Call :=
  [.start assignedStart, waitPolling lost, waitPolling next]

def startedProbe : KafkaEventProbe := { freshProbe with started := true }

theorem unreadable_raises {message : BrokerMessage} (sound : message.error = none)
    (unreadable : ¬Readable runtime message.value) :
    ∃ fault, toRecord runtime message = .error fault := by
  obtain ⟨fault, escaped⟩ := not_forall.mp unreadable
  obtain ⟨raised, uncaught⟩ := Classical.not_imp.mp escaped
  refine ⟨fault, ?_⟩
  unfold toRecord
  rw [sound, raised]
  simp only [uncaught, Bool.false_eq_true, if_false]

theorem start_assigned (positive : 0 < settings.startupTimeoutSeconds) :
    (Call.start assignedStart).perform runtime settings topic freshProbe =
      (.returned none, startedProbe) := by
  have early : ¬settings.startupTimeoutSeconds ≤ 0 := not_le.mpr positive
  simp [Call.perform, KafkaEventProbe.start, assignedStart, freshProbe, startLoop, early,
    KafkaEventProbe.receive, startedProbe, Progress.map]

theorem wait_loses (limit : 0 ≤ settings.diagnosticRecordLimit) {probe : KafkaEventProbe}
    (started : probe.started = true) (drained : probe.pending = []) {message : BrokerMessage}
    {fault : Exc} (raised : toRecord runtime message = .error fault) :
    (waitPolling message).perform runtime settings topic probe =
      (.raised (.exception fault), { probe with polled := probe.polled ++ [message] }) := by
  have bounded : ¬settings.diagnosticRecordLimit < 0 := not_lt.mpr limit
  have positive : ¬(1 : ℚ) ≤ 0 := by decide
  simp [waitPolling, Call.perform, KafkaEventProbe.waitForEvent, positive, started,
    KafkaEventProbe.search, bounded, waitLoop, KafkaEventProbe.next, drained,
    KafkaEventProbe.receive, raised, Progress.map]

theorem wait_finds (limit : 0 ≤ settings.diagnosticRecordLimit) {probe : KafkaEventProbe}
    (started : probe.started = true) (drained : probe.pending = []) {message : BrokerMessage}
    {record : ObservedKafkaRecord} (converted : toRecord runtime message = .ok record) :
    (waitPolling message).perform runtime settings topic probe =
      (.returned (some record), { probe with
        polled := probe.polled ++ [message]
        examined := probe.examined ++ [record] }) := by
  have bounded : ¬settings.diagnosticRecordLimit < 0 := not_lt.mpr limit
  have positive : ¬(1 : ℚ) ≤ 0 := by decide
  simp [waitPolling, Call.perform, KafkaEventProbe.waitForEvent, positive, started,
    KafkaEventProbe.search, bounded, waitLoop, KafkaEventProbe.next, drained,
    KafkaEventProbe.receive, converted, Progress.map]

theorem run_returned {call : Call} {calls : List Call} {probe after : KafkaEventProbe}
    {value : Option ObservedKafkaRecord}
    (performed : call.perform runtime settings topic probe = (.returned value, after)) :
    runCalls runtime settings topic (call :: calls) probe =
      ⟨call, probe, .returned value, after⟩ :: runCalls runtime settings topic calls after := by
  simp only [runCalls, performed]

theorem run_raised {call : Call} {calls : List Call} {probe after : KafkaEventProbe}
    {fault : ProbeFault}
    (performed : call.perform runtime settings topic probe = (.raised fault, after)) :
    runCalls runtime settings topic (call :: calls) probe =
      ⟨call, probe, .raised fault, after⟩ :: runCalls runtime settings topic calls after := by
  simp only [runCalls, performed]

/-- The record of the raising poll is in nobody's hands: the next wait examines
the one after it. -/
theorem lossy_run (startup : 0 < settings.startupTimeoutSeconds)
    (limit : 0 ≤ settings.diagnosticRecordLimit) {lost next : BrokerMessage} {fault : Exc}
    {record : ObservedKafkaRecord} (raised : toRecord runtime lost = .error fault)
    (converted : toRecord runtime next = .ok record) :
    runCalls runtime settings topic (lossyCalls lost next) freshProbe =
      [⟨.start assignedStart, freshProbe, .returned none, startedProbe⟩,
        ⟨waitPolling lost, startedProbe, .raised (.exception fault),
          { startedProbe with polled := [lost] }⟩,
        ⟨waitPolling next, { startedProbe with polled := [lost] }, .returned (some record),
          { startedProbe with polled := [lost, next], examined := [record] }⟩] := by
  have first : (waitPolling lost).perform runtime settings topic startedProbe =
      (.raised (.exception fault), { startedProbe with polled := [lost] }) :=
    wait_loses limit rfl rfl raised
  have second :
      (waitPolling next).perform runtime settings topic { startedProbe with polled := [lost] } =
        (.returned (some record),
          { startedProbe with polled := [lost, next], examined := [record] }) :=
    wait_finds limit rfl rfl converted
  rw [lossyCalls, run_returned (start_assigned startup), run_raised first, run_returned second,
    runCalls]

theorem lossy_run_out_of_order (startup : 0 < settings.startupTimeoutSeconds)
    (limit : 0 ≤ settings.diagnosticRecordLimit) {lost next : BrokerMessage} {fault : Exc}
    (raised : toRecord runtime lost = .error fault) (converts : Converts runtime next) :
    ¬ ∀ report ∈ runCalls runtime settings topic (lossyCalls lost next) freshProbe,
      ReportLaw runtime settings report := by
  obtain ⟨record, converted⟩ := converts
  rw [lossy_run startup limit raised converted]
  intro laws
  have law := laws _ (List.mem_cons_of_mem _ (List.mem_cons_of_mem _ List.mem_cons_self))
  have begins := law.inOrder
  simp only [polledRecords, List.map_cons, List.map_nil, raised] at begins
  cases (List.cons_prefix_cons.mp begins).1

/-- Over messages of which some convert, the order holds in every run exactly
when all of them do. -/
theorem every_run_in_order_iff (startup : 0 < settings.startupTimeoutSeconds)
    (limit : 0 ≤ settings.diagnosticRecordLimit) (deliverable : BrokerMessage → Prop)
    (sound : ∀ message, deliverable message → message.error = none)
    (inhabited : ∃ message, deliverable message ∧ Readable runtime message.value) :
    (∀ calls : List Call,
      (∀ call ∈ calls, ∀ message, call.Polls message → deliverable message) →
      ∀ report ∈ runCalls runtime settings topic calls freshProbe,
        ReportLaw runtime settings report) ↔
      ∀ message, deliverable message → Readable runtime message.value := by
  constructor
  · intro laws message delivered
    by_contra unreadable
    obtain ⟨next, nextDelivered, nextReadable⟩ := inhabited
    obtain ⟨fault, raised⟩ := unreadable_raises (sound message delivered) unreadable
    refine lossy_run_out_of_order startup limit raised
      (converts_of_readable (sound next nextDelivered) nextReadable) (laws _ ?_)
    intro call member other polled
    simp only [lossyCalls, List.mem_cons, List.not_mem_nil, or_false] at member
    rcases member with rfl | rfl | rfl
    · exact (assigned_start_polls polled).elim
    · exact wait_polling_polls polled ▸ delivered
    · exact wait_polling_polls polled ▸ nextDelivered
  · intro readable calls polls
    refine run_law calls fresh_ordered ?_
    intro call member message polled
    have delivered := polls call member message polled
    exact converts_of_readable (sound message delivered) (readable message delivered)

end Loss

section Observers

def observerSettings : ProbeSettings := ⟨"order-app-test-probe", 10, 1 / 5, 10⟩

/-- A record without a value. -/
def emptyRecord (offset : Nat) : BrokerMessage where
  error := none
  topic := "orders"
  partition := 1
  offset := offset
  key := none
  value := none
  timestampMs := none
  headers := none

theorem empty_record_readable : Readable referenceRuntime none := by
  have parsed : ∃ message, parseValue referenceRuntime none = .error ⟨jsonDecodeError, message⟩ :=
    ⟨_, rfl⟩
  obtain ⟨message, raised⟩ := parsed
  intro fault other
  rw [raised] at other
  cases other
  rfl

/-- Offset 4 is passed over, an empty poll follows, and offset 5 matches; the
second search ends at its deadline. -/
def twoSearches : List Call :=
  [.waitForEvent (fun record => record.offset == 5) 10 assignedStart
      ⟨0, [⟨0, fun _ => .ok (some (emptyRecord 4))⟩, ⟨1, fun _ => .ok none⟩,
        ⟨2, fun _ => .ok (some (emptyRecord 5))⟩]⟩,
    .waitForEvent (fun _ => false) 10 assignedStart
      ⟨3, [⟨3, fun _ => .ok (some (emptyRecord 6))⟩, ⟨13, fun _ => .ok none⟩]⟩]

theorem two_searches_poll {call : Call} (member : call ∈ twoSearches) {message : BrokerMessage}
    (polled : call.Polls message) : ∃ offset, message = emptyRecord offset := by
  simp only [twoSearches, List.mem_cons, List.not_mem_nil, or_false] at member
  rcases member with rfl | rfl
  · rcases polled with starting | ⟨round, listed, timeout, answered⟩
    · exact (assigned_start_polls starting).elim
    · simp only [List.mem_cons, List.not_mem_nil, or_false] at listed
      rcases listed with rfl | rfl | rfl
      · exact ⟨4, (Option.some.inj (Except.ok.inj answered)).symm⟩
      · cases answered
      · exact ⟨5, (Option.some.inj (Except.ok.inj answered)).symm⟩
  · rcases polled with starting | ⟨round, listed, timeout, answered⟩
    · exact (assigned_start_polls starting).elim
    · simp only [List.mem_cons, List.not_mem_nil, or_false] at listed
      rcases listed with rfl | rfl
      · exact ⟨6, (Option.some.inj (Except.ok.inj answered)).symm⟩
      · cases answered

theorem two_searches_in_order :
    (runCalls referenceRuntime observerSettings "orders" twoSearches freshProbe).length = 2 ∧
      ∀ report ∈ runCalls referenceRuntime observerSettings "orders" twoSearches freshProbe,
        ReportLaw referenceRuntime observerSettings report := by
  refine ⟨by decide +kernel, ?_⟩
  apply probe_examines_in_order
  · intro call member message polled
    obtain ⟨offset, rfl⟩ := two_searches_poll member polled
    rfl
  · intro call member message polled
    obtain ⟨offset, rfl⟩ := two_searches_poll member polled
    exact empty_record_readable

def openBracket : CodePoint := 0x5B
def nestingLimit : Nat := 100000

/-- The reference reader under an interpreter's recursion limit. -/
def limitedRuntime : Runtime :=
  { referenceRuntime with
    loads := fun text =>
      if nestingLimit ≤ (text.takeWhile fun point => decide (point = openBracket)).length then
        .error ⟨recursionError,
          "maximum recursion depth exceeded while decoding a JSON array from a unicode string"⟩
      else referenceRuntime.loads text }

def encodedRecord (text : Str) : BrokerMessage := { emptyRecord 4 with value := encodeUtf8 text }

/-- A record whose value is nothing but opening brackets. -/
def deepRecord : BrokerMessage := encodedRecord (List.replicate nestingLimit openBracket)

theorem brackets_encodable {text : Str} (brackets : ∀ point ∈ text, point = openBracket) :
    Encodable text := by
  intro point member surrogate
  have high : 0xD800 ≤ point.val := surrogate.1
  rw [brackets point member] at high
  exact absurd high (by decide)

theorem limited_loads_deep {text : Str} (brackets : ∀ point ∈ text, point = openBracket)
    (long : nestingLimit ≤ text.length) :
    limitedRuntime.loads text = .error ⟨recursionError,
      "maximum recursion depth exceeded while decoding a JSON array from a unicode string"⟩ := by
  have whole : text.takeWhile (fun point => decide (point = openBracket)) = text := by
    rw [List.takeWhile_eq_self_iff]
    intro point member
    exact decide_eq_true (brackets point member)
  simp only [limitedRuntime, whole, if_pos long]

theorem parse_value_refused {runtime : Runtime} {data : ByteArray} {text : Str} {fault : Exc}
    (decoded : decodeUtf8 data = some text) (refused : runtime.loads text = .error fault) :
    parseValue runtime (some data) = .error fault := by
  simp only [parseValue, Processing.KafkaDelivery.decode, decoded]
  change (runtime.loads text >>= _) = _
  rw [refused]
  rfl

theorem brackets_raise {text : Str} (brackets : ∀ point ∈ text, point = openBracket)
    (long : nestingLimit ≤ text.length) :
    ∃ fault, toRecord limitedRuntime (encodedRecord text) = .error fault := by
  obtain ⟨data, encoded, decoded⟩ :=
    Option.bind_eq_some_iff.mp (decode_utf8_encode (brackets_encodable brackets))
  refine unreadable_raises rfl ?_
  intro readable
  simp only [encodedRecord, encoded] at readable
  have caught := readable _ (parse_value_refused decoded (limited_loads_deep brackets long))
  revert caught
  decide

theorem deep_record_raises : ∃ fault, toRecord limitedRuntime deepRecord = .error fault :=
  brackets_raise (fun _ => List.eq_of_mem_replicate) List.length_replicate.ge

theorem limited_empty_readable : Readable limitedRuntime none := by
  have same : parseValue limitedRuntime none = parseValue referenceRuntime none := rfl
  intro fault raised
  exact empty_record_readable fault (same ▸ raised)

theorem deep_value_loses_a_record :
    deepRecord.error = none ∧ (emptyRecord 5).error = none ∧
    ¬ ∀ report ∈ runCalls limitedRuntime observerSettings "orders"
      (lossyCalls deepRecord (emptyRecord 5)) freshProbe,
        ReportLaw limitedRuntime observerSettings report := by
  obtain ⟨fault, raised⟩ := deep_record_raises
  have startup : 0 < observerSettings.startupTimeoutSeconds := by
    change (0 : ℚ) < 10
    decide
  have limit : 0 ≤ observerSettings.diagnosticRecordLimit := by decide
  exact ⟨rfl, rfl, lossy_run_out_of_order startup limit raised
    (converts_of_readable rfl limited_empty_readable)⟩

end Observers

end OrderMessaging.TestHelpers.ProbeOrder
