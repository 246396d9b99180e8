import Mathlib.Data.List.Sort
import OrderMessaging.Messaging.ClusterGrowth

/-!
What the calls of `KafkaTopicAdmin` may tell their callers, in any interleaving of
administrators over one cluster. Tickets, past topics and failures only grow; a
call speaks of those that it has met, so what it said stays true.
-/

namespace OrderMessaging.Messaging.TopicWaits

open OrderMessaging.PyText OrderMessaging.PyException OrderMessaging.Program
open OrderMessaging.Polling OrderMessaging.Interleaving OrderMessaging.Contracts.WireFormat
open OrderMessaging.Messaging.TopicAdmin OrderMessaging.Messaging.ClusterGrowth

set_option autoImplicit false

section Verdicts

variable (runtime : PublisherRuntime) (cluster : Cluster)

/-- The broker carried this request out at that time. -/
def Acknowledged (request : Request) (since : ℚ) : Prop :=
  ∃ future : Nat, cluster.tickets[future]? = some ⟨request, some (since, .ok ())⟩

/-- Metadata of a topic: some of its partitions, in order. -/
structure Shows (topic : TopicSpec) (metadata : TopicMetadata) : Prop where
  name : metadata.name = topic.name
  ascending : metadata.partitionIds.Pairwise (· < ·)
  within : ∀ id ∈ metadata.partitionIds, id < topic.partitionCount
  replicas : metadata.replicationFactors =
    metadata.partitionIds.map fun _ => topic.replicationFactor

inductive Described (name : Str) (requestedConfig : Option Config) :
    Except Halt TopicMetadata → Prop where
  | shown (metadata : TopicMetadata) (topic : TopicSpec) (member : topic ∈ cluster.past)
      (shows' : Shows topic metadata) (named : metadata.name = name)
      (config : metadata.requestedConfig = requestedConfig.getD []) :
      Described name requestedConfig (.ok metadata)
  | unavailable (detail : Str) :
      Described name requestedConfig (.error (.raised (unavailable runtime name detail)))
  | passed (fault : Exc) (member : fault ∈ cluster.failures) :
      Described name requestedConfig (.error (.raised fault))

inductive Listed : Except Halt (Str → Bool) → Prop where
  | shown (names : Str → Bool)
      (known : ∀ name, names name = true → ∃ topic ∈ cluster.past, topic.name = name) :
      Listed (.ok names)
  | passed (fault : Exc) (member : fault ∈ cluster.failures) : Listed (.error (.raised fault))

/-- How `create_topic` ends. It never ends for want of passes. -/
inductive Created (spec : TopicSpec) (timeoutSeconds : ℚ) : Except Halt TopicMetadata → Prop where
  | shown (metadata : TopicMetadata) (topic : TopicSpec) (since : ℚ)
      (acknowledged : Acknowledged cluster (.create spec) since) (member : topic ∈ cluster.past)
      (shows' : Shows topic metadata) (named : metadata.name = spec.name)
      (config : metadata.requestedConfig = spec.config)
      (complete : metadata.partitionCount = spec.partitionCount) :
      Created spec timeoutSeconds (.ok metadata)
  | refused (cause : Exc) (member : cause ∈ cluster.failures) :
      Created spec timeoutSeconds (.error (.raised (creationFailed runtime spec.name cause)))
  | expired (last : Option Exc) (since : ℚ)
      (acknowledged : Acknowledged cluster (.create spec) since)
      (late : since + timeoutSeconds ≤ cluster.clock) :
      Created spec timeoutSeconds (.error (.raised (notExposed runtime spec timeoutSeconds last)))
  | passed (fault : Exc) (member : fault ∈ cluster.failures) :
      Created spec timeoutSeconds (.error (.raised fault))

/-- How `delete_topic` ends. -/
inductive Deleted (name : Str) (timeoutSeconds : ℚ) : Except Halt Unit → Prop where
  | gone (since : ℚ) (acknowledged : Acknowledged cluster (.delete name) since) :
      Deleted name timeoutSeconds (.ok ())
  | refused (cause : Exc) (member : cause ∈ cluster.failures) :
      Deleted name timeoutSeconds (.error (.raised (deletionFailed runtime name cause)))
  | expired (since : ℚ) (acknowledged : Acknowledged cluster (.delete name) since)
      (late : since + timeoutSeconds ≤ cluster.clock) :
      Deleted name timeoutSeconds (.error (.raised (remainedVisible runtime name timeoutSeconds)))
  | passed (fault : Exc) (member : fault ∈ cluster.failures) :
      Deleted name timeoutSeconds (.error (.raised fault))

end Verdicts

section Stability

variable {runtime : PublisherRuntime} {before after : Cluster}

theorem acknowledged_mono (grown : Grows before after) {request : Request} {since : ℚ}
    (acknowledged : Acknowledged before request since) : Acknowledged after request since := by
  obtain ⟨future, held⟩ := acknowledged
  obtain ⟨later, kept, follows⟩ := grown.tickets future _ held
  have same := follows.2 (by simp)
  subst same
  exact ⟨future, kept⟩

theorem described_mono (grown : Grows before after) {name : Str} {requestedConfig : Option Config}
    {outcome : Except Halt TopicMetadata}
    (described : Described runtime before name requestedConfig outcome) :
    Described runtime after name requestedConfig outcome := by
  cases described with
  | shown metadata topic member shows' named config =>
      exact .shown metadata topic (grown.past member) shows' named config
  | unavailable detail => exact .unavailable detail
  | passed fault member => exact .passed fault (grown.failures member)

theorem listed_mono (grown : Grows before after) {outcome : Except Halt (Str → Bool)}
    (listed : Listed before outcome) : Listed after outcome := by
  cases listed with
  | shown names known =>
      apply Listed.shown names
      intro name named
      obtain ⟨topic, member, same⟩ := known name named
      exact ⟨topic, grown.past member, same⟩
  | passed fault member => exact .passed fault (grown.failures member)

theorem created_mono (grown : Grows before after) {spec : TopicSpec} {timeoutSeconds : ℚ}
    {outcome : Except Halt TopicMetadata}
    (created : Created runtime before spec timeoutSeconds outcome) :
    Created runtime after spec timeoutSeconds outcome := by
  cases created with
  | shown metadata topic since acknowledged member shows' named config complete =>
      exact .shown metadata topic since (acknowledged_mono grown acknowledged)
        (grown.past member) shows' named config complete
  | refused cause member => exact .refused cause (grown.failures member)
  | expired last since acknowledged late =>
      exact .expired last since (acknowledged_mono grown acknowledged) (late.trans grown.clock)
  | passed fault member => exact .passed fault (grown.failures member)

theorem deleted_mono (grown : Grows before after) {name : Str} {timeoutSeconds : ℚ}
    {outcome : Except Halt Unit} (deleted : Deleted runtime before name timeoutSeconds outcome) :
    Deleted runtime after name timeoutSeconds outcome := by
  cases deleted with
  | gone since acknowledged => exact .gone since (acknowledged_mono grown acknowledged)
  | refused cause member => exact .refused cause (grown.failures member)
  | expired since acknowledged late =>
      exact .expired since (acknowledged_mono grown acknowledged) (late.trans grown.clock)
  | passed fault member => exact .passed fault (grown.failures member)

end Stability

section Calls

variable {runtime : PublisherRuntime} {admin : KafkaTopicAdmin}

abbrev Upheld {Value : Type} (post : Except Halt Value → Cluster → Prop)
    (program : Prog Halt Op.Ret Value) (cluster : Cluster) : Prop :=
  Upholds exec (Keeps WellKept Grows) (fun _ _ => True) post program cluster

theorem upheld_call {Value : Type} {op : Op} {post : Except Halt Value → Cluster → Prop}
    {next : op.Ret → Prog Halt Op.Ret Value} {cluster : Cluster}
    (after : ∀ reached choice, Keeps WellKept Grows cluster reached →
      Continues exec (Keeps WellKept Grows) (fun _ _ => True) post next
        (exec op choice reached).1 (exec op choice reached).2) :
    Upheld post ((Prog.perform op).bind next) cluster := by
  rw [Upheld, upholds_bind, upholds_perform]
  intro reached between
  exact ⟨trivial, fun choice => after reached choice between⟩

/-- What a metadata answer shows under a name was a topic of that name. -/
theorem report_shows {cluster : Cluster} {sights : Str → Option Sighting} {name : Str}
    {report : TopicReport} (shown : cluster.report sights name = some report) :
    ∃ topic ∈ cluster.past, topic.name = name ∧ report.partitionIds.Nodup ∧
      (∀ id ∈ report.partitionIds, id < topic.partitionCount) ∧
      report.replicaCount = fun _ => topic.replicationFactor := by
  obtain ⟨sight, seen, same⟩ := Option.bind_eq_some_iff.mp shown
  split at same
  next known =>
    cases same
    refine ⟨sight.topic, known.1, known.2, (List.nodup_dedup _).filter _, ?_, rfl⟩
    intro id member
    exact of_decide_eq_true (List.mem_filter.mp member).2
  next => cases same

theorem sorted_shows {name : Str} {topic : TopicSpec} {report : TopicReport} {config : Config}
    (named : topic.name = name) (distinct : report.partitionIds.Nodup)
    (within : ∀ id ∈ report.partitionIds, id < topic.partitionCount)
    (replicas : report.replicaCount = fun _ => topic.replicationFactor) :
    Shows topic ⟨name, report.partitionIds.insertionSort (· ≤ ·),
      (report.partitionIds.insertionSort (· ≤ ·)).map report.replicaCount, config⟩ where
  name := named.symm
  ascending := by
    have sorted : (report.partitionIds.insertionSort (· ≤ ·)).Pairwise (· ≤ ·) :=
      List.pairwise_insertionSort (· ≤ ·) report.partitionIds
    have once : (report.partitionIds.insertionSort (· ≤ ·)).Nodup :=
      (List.perm_insertionSort _ _).nodup_iff.mpr distinct
    exact (sorted.and once).imp fun both => lt_of_le_of_ne both.1 both.2
  within id member := within id ((List.mem_insertionSort _).mp member)
  replicas := by rw [replicas]

/-- A metadata request, and what the caller makes of its answer. -/
theorem list_upheld {Value : Type} {post : Except Halt Value → Cluster → Prop}
    {next : ClusterMetadata → Prog Halt Op.Ret Value} {cluster : Cluster}
    (passes : ∀ fault reached, Keeps WellKept Grows cluster reached → fault ∈ reached.failures →
      post (.error (.raised fault)) reached)
    (after : ∀ sights reached, Keeps WellKept Grows cluster reached →
      Upheld post (next (reached.report sights)) reached) :
    Upheld post ((Prog.perform Op.listTopics).bind next) cluster := by
  apply upheld_call
  intro reached choice between
  have later := keeps_trans between (call_keeps .listTopics choice reached)
  obtain ⟨meanwhile, fault | sights⟩ := choice
  · exact passes fault _ later List.mem_cons_self
  · exact after sights _ later

theorem describe_upheld (cluster : Cluster) (name : Str) (requestedConfig : Option Config) :
    Upheld
      (fun outcome final => Keeps WellKept Grows cluster final ∧
        Described runtime final name requestedConfig outcome)
      (describeTopic runtime name requestedConfig) cluster := by
  unfold describeTopic
  apply list_upheld
  · intro fault reached later member
    exact ⟨later, .passed fault member⟩
  · intro sights reached later
    cases shown : reached.report sights name with
    | none => exact ⟨later, .unavailable _⟩
    | some report =>
        obtain ⟨topic, member, named, distinct, within, replicas⟩ := report_shows shown
        cases broken : report.error with
        | some error =>
            simp only [broken]
            exact ⟨later, .unavailable error⟩
        | none =>
            simp only [broken]
            have shows' := @sorted_shows name topic report (requestedConfig.getD []) named distinct
              within replicas
            exact ⟨later, .shown _ topic member shows' rfl rfl⟩

theorem list_names_upheld (cluster : Cluster) :
    Upheld (fun outcome final => Keeps WellKept Grows cluster final ∧ Listed final outcome)
      listTopicNames cluster := by
  unfold listTopicNames
  apply list_upheld
  · intro fault reached later member
    exact ⟨later, .passed fault member⟩
  · intro sights reached later
    refine ⟨later, .shown _ ?_⟩
    intro name named
    obtain ⟨report, shown⟩ := Option.isSome_iff_exists.mp named
    obtain ⟨topic, member, same, _⟩ := report_shows shown
    exact ⟨topic, member, same⟩

/-- The broker has been given a request and asked for its answer. -/
theorem result_upheld {cluster : Cluster} {future : Nat} {request : Request}
    (wrap : Exc → Exc)
    (submitted : ∃ answer, cluster.tickets[future]? = some ⟨request, answer⟩) :
    Upheld
      (fun outcome final => Keeps WellKept Grows cluster final ∧
        ((∃ since, outcome = .ok () ∧ Acknowledged final request since) ∨
          ∃ cause ∈ final.failures, outcome = .error (.raised (wrap cause))))
      (Prog.mapFault (Halt.map wrap) (Prog.perform (Op.result future))) cluster := by
  apply (upholds_mapFault _ _ _ _).mpr
  intro reached between
  refine ⟨trivial, ?_⟩
  intro choice
  have later := keeps_trans between (call_keeps (.result future) choice reached)
  refine ⟨later, ?_⟩
  obtain ⟨answer, held⟩ := submitted
  obtain ⟨meanwhile, failure⟩ := choice
  have still := keeps_trans between (elapse_keeps reached meanwhile)
  obtain ⟨ticket, own, follows⟩ := still.1.tickets future _ held
  cases failure with
  | some fault => exact .inr ⟨fault, List.mem_cons_self, rfl⟩
  | none =>
      simp only [exec, Cluster.result, own, Option.bind_some]
      obtain ⟨asked, reply⟩ := ticket
      have same : asked = request := follows.1
      subst same
      rcases reply with _ | ⟨since, fault | _⟩
      · exact .inr ⟨noResult, List.mem_cons_self, rfl⟩
      · exact .inr ⟨fault, List.mem_cons_self, rfl⟩
      · exact .inl ⟨since, rfl, future, own⟩

theorem poll_interval_pos : 0 < pollInterval := by norm_num [pollInterval]

/-- A wait goes on from any state that time and others leave alone, and expires no
earlier than its timeout after it began. -/
theorem await_upheld {State Value : Type} {look : State → Prog Halt Op.Ret (Pass State Value)}
    {expired : State → Exc} {post : Except Halt Value → Cluster → Prop}
    {invariant : State → Cluster → Prop} {state : State} {cluster : Cluster}
    (stable : ∀ state before after, Keeps WellKept Grows before after →
      invariant state before → invariant state after)
    (looks : ∀ state reached, invariant state reached →
      Upheld (Looked post invariant Cluster.clock reached.clock) (look state) reached)
    (expires : ∀ state reached, invariant state reached →
      cluster.clock + admin.timeoutSeconds ≤ reached.clock →
        post (.error (.raised (expired state))) reached)
    (holds : invariant state cluster) :
    Upheld post (admin.await look expired state) cluster := by
  unfold KafkaTopicAdmin.await
  apply upheld_call
  intro before meanwhile between
  have begun := keeps_trans between (elapse_keeps before meanwhile)
  have sound : Sound (pollUntil ((before.elapse meanwhile).clock + admin.timeoutSeconds) look
      expired) exec (Keeps WellKept Grows) (fun _ _ => True) post invariant Cluster.clock
      pollInterval := by
    constructor
    case reads =>
      intro state world holds reached between
      refine ⟨trivial, ?_⟩
      intro choice
      have later := keeps_trans between (elapse_keeps reached choice)
      exact ⟨_, rfl, later.1.clock, le_refl _, stable state _ _ later holds⟩
    case looks => exact looks
    case waits =>
      intro state world holds reached between
      refine ⟨trivial, ?_⟩
      intro choice
      have later := keeps_trans between (elapse_keeps reached choice)
      have slept := keeps_trans later (advance_keeps _ poll_interval_pos.le)
      simp only [exec, if_neg (not_lt.mpr poll_interval_pos.le)]
      exact ⟨rfl, add_le_add_left later.1.clock _, stable state _ _ slept holds⟩
    case expires =>
      intro state world holds late
      apply expires state world holds
      exact (add_le_add_left begun.1.clock _).trans late
  apply upholds_poll poll_interval_pos sound (stable state _ _ begun holds)
  exact (waits_left_le poll_interval_pos (le_refl _)).trans_lt admin.enough

/-- A future of the request, or the client's own refusal. -/
def Submitted (request : Request) : Except Halt Nat → Cluster → Prop
  | .ok future, cluster => ∃ answer, cluster.tickets[future]? = some ⟨request, answer⟩
  | .error halt, cluster => ∃ fault ∈ cluster.failures, halt = .raised fault

theorem submit_submitted (cluster : Cluster) (request : Request) (failure : Option Exc) :
    Submitted request (cluster.submit request failure).1 (cluster.submit request failure).2 := by
  cases failure with
  | some fault => exact ⟨fault, List.mem_cons_self, rfl⟩
  | none => exact ⟨none, List.getElem?_concat_length⟩

/-- What `create_topic` and `delete_topic` do first. -/
theorem carried_out_upheld {Value : Type} {submission : Prog Halt Op.Ret Nat} {request : Request}
    {wrap : Exc → Exc} {post : Except Halt Value → Cluster → Prop}
    {rest : Prog Halt Op.Ret Value} {cluster : Cluster}
    (submits : Upheld (fun outcome final => WellKept final ∧ Submitted request outcome final)
      submission cluster)
    (passes : ∀ fault reached, fault ∈ reached.failures → post (.error (.raised fault)) reached)
    (refuses : ∀ cause reached, cause ∈ reached.failures →
      post (.error (.raised (wrap cause))) reached)
    (after : ∀ since reached, WellKept reached → since ≤ reached.clock →
      Acknowledged reached request since → Upheld post rest reached) :
    Upheld post
      (submission.bind fun future =>
        (Prog.mapFault (Halt.map wrap) (Prog.perform (Op.result future))).bind fun _ => rest)
      cluster := by
  apply (upholds_bind _ _ _ _).mpr
  apply upholds_mono submits
  intro outcome asked submitted
  cases outcome with
  | error halt =>
      obtain ⟨kept, fault, member, same⟩ := submitted
      subst same
      exact passes fault asked member
  | ok future =>
      obtain ⟨kept, pending⟩ := submitted
      apply (upholds_bind _ _ _ _).mpr
      apply upholds_mono (result_upheld wrap pending)
      intro outcome final answered
      obtain ⟨later, ⟨since, same, acknowledged⟩ | ⟨cause, member, same⟩⟩ := answered
      · subst same
        have still := later.2 kept
        obtain ⟨place, held⟩ := acknowledged
        have early := still.timed _ (List.mem_of_getElem? held) since _ rfl
        exact after since final still early ⟨place, held⟩
      · subst same
        exact refuses cause final member

theorem create_upheld {cluster : Cluster} (kept : WellKept cluster) (spec : TopicSpec) :
    Upheld (fun outcome final => Created runtime final spec admin.timeoutSeconds outcome)
      (admin.createTopic runtime spec) cluster := by
  unfold KafkaTopicAdmin.createTopic
  apply carried_out_upheld
  case submits =>
    intro reached between
    refine ⟨trivial, ?_⟩
    intro choice
    have later := keeps_trans between (call_keeps (.createTopics spec) choice reached)
    exact ⟨later.2 kept, submit_submitted _ (.create spec) choice.2⟩
  case passes => exact fun fault reached member => .passed fault member
  case refuses => exact fun cause reached member => .refused cause member
  case after =>
    intro since begun kept early acknowledged
    let invariant : Option Exc → Cluster → Prop := fun _ reached =>
      Acknowledged reached (.create spec) since
    have entry : invariant none begun := acknowledged
    apply await_upheld _ _ _ entry
    · intro state before after between held
      exact acknowledged_mono between.1 held
    · intro last reached held
      unfold lookForPartitions
      apply (upholds_bind _ _ _ _).mpr
      apply (upholds_attempt _ _ _).mpr
      apply upholds_mono (describe_upheld reached spec.name (some spec.config))
      intro outcome final described
      obtain ⟨later, described⟩ := described
      have still : Acknowledged final (.create spec) since := acknowledged_mono later.1 held
      cases described with
      | shown metadata topic member shows' named config =>
          rw [continues_ok]
          by_cases complete : metadata.partitionCount = spec.partitionCount
          · simp only [if_pos complete]
            exact Created.shown metadata topic since still member shows' named config complete
          · simp only [if_neg complete]
            exact ⟨still, later.1.clock⟩
      | unavailable detail => exact ⟨still, later.1.clock⟩
      | passed fault member =>
          rw [continues_ok]
          simp only
          split
          · exact ⟨still, later.1.clock⟩
          · exact Created.passed fault member
    · intro last reached held late
      exact .expired last since held ((add_le_add_left early _).trans late)

theorem delete_upheld {cluster : Cluster} (kept : WellKept cluster) (name : Str) :
    Upheld (fun outcome final => Deleted runtime final name admin.timeoutSeconds outcome)
      (admin.deleteTopic runtime name) cluster := by
  unfold KafkaTopicAdmin.deleteTopic
  apply carried_out_upheld
  case submits =>
    intro reached between
    refine ⟨trivial, ?_⟩
    intro choice
    have later := keeps_trans between (call_keeps (.deleteTopics name) choice reached)
    exact ⟨later.2 kept, submit_submitted _ (.delete name) choice.2⟩
  case passes => exact fun fault reached member => .passed fault member
  case refuses => exact fun cause reached member => .refused cause member
  case after =>
    intro since begun kept early acknowledged
    let invariant : Unit → Cluster → Prop := fun _ reached =>
      Acknowledged reached (.delete name) since
    have entry : invariant () begun := acknowledged
    apply await_upheld _ _ _ entry
    · intro state before after between held
      exact acknowledged_mono between.1 held
    · intro last reached held
      unfold lookForAbsence
      apply (upholds_bind _ _ _ _).mpr
      apply upholds_mono (list_names_upheld reached)
      intro outcome final listed
      obtain ⟨later, listed⟩ := listed
      have still : Acknowledged final (.delete name) since := acknowledged_mono later.1 held
      cases listed with
      | shown names known =>
          rw [continues_ok]
          split
          · exact ⟨still, later.1.clock⟩
          · exact Deleted.gone since still
      | passed fault member => exact Deleted.passed fault member
    · intro last reached held late
      exact .expired since held ((add_le_add_left early _).trans late)

end Calls

section Administrators

inductive AdminCall where
  | createTopic (admin : KafkaTopicAdmin) (spec : TopicSpec)
  | deleteTopic (admin : KafkaTopicAdmin) (name : Str)
  | describeTopic (name : Str) (requestedConfig : Option Config)
  | listTopicNames

/-- A call, and what it returned or raised. -/
inductive Report where
  | created (admin : KafkaTopicAdmin) (spec : TopicSpec) (outcome : Except Halt TopicMetadata)
  | deleted (admin : KafkaTopicAdmin) (name : Str) (outcome : Except Halt Unit)
  | described (name : Str) (requestedConfig : Option Config) (outcome : Except Halt TopicMetadata)
  | listed (outcome : Except Halt (Str → Bool))

variable (runtime : PublisherRuntime)

def AdminCall.program : AdminCall → Prog Halt Op.Ret Report
  | createTopic admin spec =>
      (admin.createTopic runtime spec).attempt.bind fun outcome => pure (.created admin spec outcome)
  | deleteTopic admin name =>
      (admin.deleteTopic runtime name).attempt.bind fun outcome => pure (.deleted admin name outcome)
  | describeTopic name requestedConfig =>
      (TopicAdmin.describeTopic runtime name requestedConfig).attempt.bind fun outcome =>
        pure (.described name requestedConfig outcome)
  | listTopicNames => TopicAdmin.listTopicNames.attempt.bind fun outcome => pure (.listed outcome)

def Report.Holds (cluster : Cluster) : Report → Prop
  | created admin spec outcome => Created runtime cluster spec admin.timeoutSeconds outcome
  | deleted admin name outcome => Deleted runtime cluster name admin.timeoutSeconds outcome
  | described name requestedConfig outcome =>
      Described runtime cluster name requestedConfig outcome
  | listed outcome => Listed cluster outcome

def Ended : Except Halt Report → Cluster → Prop
  | .ok report, cluster => report.Holds runtime cluster
  | .error _, _ => False

def freshCluster : Cluster := ⟨0, fun _ => none, [], [], []⟩

abbrev Administration := System Halt Op.Ret Report Cluster

/-- Any number of calls on one cluster, call by call in any order. -/
def administration (labels : List (Label AdminCall Op.Choice)) : Administration :=
  Interleaving.run exec (AdminCall.program runtime) labels (System.idle freshCluster)

structure Bounded (system : Administration) : Prop where
  ended : ∀ thread outcome, system.threads thread = some (.done outcome) →
    Ended runtime outcome system.world
  /-- Where one specification was used for a name, `create_topic` returns it in full. -/
  whole : ∀ thread admin spec metadata,
    system.threads thread = some (.done (.ok (.created admin spec (.ok metadata)))) →
    (∀ topic ∈ system.world.past, topic.name = spec.name → topic = spec) →
    metadata = ⟨spec.name, List.range spec.partitionCount,
      List.replicate spec.partitionCount spec.replicationFactor, spec.config⟩

variable {runtime}

theorem ended_growth : Growth Grows (Ended runtime) where
  refl := grows_refl
  trans := grows_trans
  stable outcome before after := by
    intro grown ended
    rcases outcome with halt | (_ | _ | _ | _)
    · exact ended
    · exact created_mono grown ended
    · exact deleted_mono grown ended
    · exact described_mono grown ended
    · exact listed_mono grown ended

theorem reported_upheld {Value : Type} {report : Except Halt Value → Report}
    {program : Prog Halt Op.Ret Value} {cluster : Cluster}
    (upheld : Upheld (fun outcome final => (report outcome).Holds runtime final) program cluster) :
    Upheld (Ended runtime) (program.attempt.bind fun outcome => pure (report outcome)) cluster := by
  apply (upholds_bind _ _ _ _).mpr
  apply (upholds_attempt _ _ _).mpr
  apply upholds_mono upheld
  intro outcome final holds
  exact holds

theorem admin_call_upheld (call : AdminCall) {cluster : Cluster} (kept : WellKept cluster) :
    Upheld (Ended runtime) (call.program runtime) cluster := by
  cases call with
  | createTopic admin spec => exact reported_upheld (create_upheld kept spec)
  | deleteTopic admin name => exact reported_upheld (delete_upheld kept name)
  | describeTopic name requestedConfig =>
      apply reported_upheld
      apply upholds_mono (describe_upheld cluster name requestedConfig)
      intro outcome final described
      exact described.2
  | listTopicNames =>
      apply reported_upheld
      apply upholds_mono (list_names_upheld cluster)
      intro outcome final listed
      exact listed.2

theorem range_of_ascending {ids : List Nat} {count : Nat} (ascending : ids.Pairwise (· < ·))
    (within : ∀ id ∈ ids, id < count) (complete : ids.length = count) :
    ids = List.range count := by
  have distinct : ids.Nodup := ascending.imp fun before => before.ne
  have inside : ids ⊆ List.range count := fun id member => List.mem_range.mpr (within id member)
  have same : ids.Perm (List.range count) := by
    apply (List.subperm_of_subset distinct inside).perm_of_length_le
    rw [List.length_range, complete]
  exact same.eq_of_pairwise (fun _ _ _ _ before after => absurd before after.asymm) ascending
    List.pairwise_lt_range

theorem shown_whole {spec : TopicSpec} {metadata : TopicMetadata} (shows' : Shows spec metadata)
    (config : metadata.requestedConfig = spec.config)
    (complete : metadata.partitionCount = spec.partitionCount) :
    metadata = ⟨spec.name, List.range spec.partitionCount,
      List.replicate spec.partitionCount spec.replicationFactor, spec.config⟩ := by
  have ids := range_of_ascending shows'.ascending shows'.within complete
  have replicas := shows'.replicas
  rw [ids, List.map_const', List.length_range] at replicas
  have named := shows'.name
  obtain ⟨name, partitionIds, replicationFactors, requestedConfig⟩ := metadata
  simp only at ids replicas named config
  rw [ids, replicas, named, config]

/-- However administrators, their cluster and its metadata interleave, every call
that ends has an answer it can stand by; none waits beyond its timeout. -/
theorem calls_bounded (runtime : PublisherRuntime) (labels : List (Label AdminCall Op.Choice)) :
    Bounded runtime (administration runtime labels) := by
  have kept : WellKept freshCluster := by
    constructor
    case current =>
      intro name topic held
      cases held
    case timed =>
      intro ticket member
      cases member
  have guarantee (op : Op) (choice : op.Choice) (cluster : Cluster) (_ : WellKept cluster)
      (_ : True) : Keeps WellKept Grows cluster (exec op choice cluster).2 :=
    call_keeps op choice cluster
  have ready (call : AdminCall) (cluster : Cluster) (holds : WellKept cluster) :
      Upheld (Ended runtime) (call.program runtime) cluster := admin_call_upheld call holds
  have safe := run_safe ended_growth guarantee ready labels (safe_idle ended_growth kept)
  have ended : ∀ thread outcome,
      (administration runtime labels).threads thread = some (.done outcome) →
        Ended runtime outcome (administration runtime labels).world := by
    intro thread outcome held
    exact safe.upheld thread _ held
  refine ⟨ended, ?_⟩
  intro thread admin spec metadata held alike
  cases ended thread _ held with
  | shown _ topic since acknowledged member shows' named config complete =>
      have same := alike topic member (shows'.name.symm.trans named)
      subst same
      exact shown_whole shows' config complete

end Administrators

end OrderMessaging.Messaging.TopicWaits
