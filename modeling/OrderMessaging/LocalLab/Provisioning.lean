import OrderMessaging.LocalLab.ResourceSetup
import OrderMessaging.Messaging.TopicWaits

/-!
Any number of `initialize_lab` calls at once, on services that fail as they like.
What exists is left as it is, what is added is what the lab declares, and a call
that returns leaves everything in its place.
-/

namespace OrderMessaging.LocalLab.Provisioning

open OrderMessaging.PyText OrderMessaging.PyException OrderMessaging.Program
open OrderMessaging.Interleaving OrderMessaging.Polling
open OrderMessaging.Messaging.TopicAdmin
  (Cluster TopicSpec Request Meanwhile Halt KafkaTopicAdmin listTopicNames describeTopic
    pollUntil lookForPartitions)
open OrderMessaging.Messaging.TopicWaits (list_names_upheld create_upheld freshCluster)
open OrderMessaging.Contracts.WireFormat (referencePublisherRuntime)
open OrderMessaging.Processing.PostgresOrderStore OrderMessaging.LocalLab.ConsumerControls
open OrderMessaging.LocalLab.ResourceSetup
open OrderMessaging.Messaging.ClusterGrowth
  (WellKept serve_outcome settle_tickets add_topics)

set_option autoImplicit false

section Additions

variable {Key Value : Type} {new : Key → Value → Prop}

/-- A table keeps its entries and gains new ones of one kind only. -/
structure Adds (new : Key → Value → Prop) (before after : Key → Option Value) : Prop where
  kept : ∀ key value, before key = some value → after key = some value
  added : ∀ key value, after key = some value → before key = some value ∨ new key value

theorem adds_refl (table : Key → Option Value) : Adds new table table :=
  ⟨fun _ _ held => held, fun _ _ held => .inl held⟩

theorem adds_trans {first second third : Key → Option Value} (early : Adds new first second)
    (late : Adds new second third) : Adds new first third where
  kept key value held := late.kept key value (early.kept key value held)
  added := by
    intro key value held
    rcases late.added key value held with earlier | fresh
    · exact early.added key value earlier
    · exact .inr fresh

theorem adds_update [DecidableEq Key] {before : Key → Option Value} {key : Key} {value : Value}
    (kept : ∀ held, before key = some held → held = value)
    (fresh : before key = none → new key value) :
    Adds new before (Function.update before key (some value)) where
  kept := by
    intro other held present
    by_cases same : other = key
    · subst same
      rw [Function.update_self, kept held present]
    · rw [Function.update_of_ne same]
      exact present
  added := by
    intro other held present
    by_cases same : other = key
    · subst same
      rw [Function.update_self] at present
      cases present
      cases earlier : before other with
      | none => exact .inr (fresh earlier)
      | some found =>
          rw [kept found earlier]
          exact .inl rfl
    · rw [Function.update_of_ne same] at present
      exact .inl present

end Additions

section Topics

variable (names : List Str)

def LabTopic (name : Str) (topic : TopicSpec) : Prop := name ∈ names ∧ topic = labTopic name

/-- Every topic that metadata can show exists, and all that is asked for are topics
of the lab. -/
structure Lasting (cluster : Cluster) : Prop where
  shown : ∀ topic ∈ cluster.past, cluster.topics topic.name = some topic
  asked : ∀ ticket ∈ cluster.tickets, ticket.answer = none →
    ∃ name ∈ names, ticket.request = .create (labTopic name)

/-- What a lasting cluster becomes: topics of the lab are added, and it still lasts. -/
def Lasts (before after : Cluster) : Prop :=
  Adds (LabTopic names) before.topics after.topics ∧ Lasting names after

/-- The requests of administrators that set up the lab. -/
def AsksFor : Messaging.TopicAdmin.Op → Prop
  | .createTopics topic => ∃ name ∈ names, topic = labTopic name
  | .deleteTopics _ => False
  | _ => True

variable {names} {cluster : Cluster}

theorem lasts_refl (lasting : Lasting names cluster) : Lasts names cluster cluster :=
  ⟨adds_refl _, lasting⟩

theorem lasts_trans {first second third : Cluster} (early : Lasts names first second)
    (late : Lasts names second third) : Lasts names first third :=
  ⟨adds_trans early.1 late.1, late.2⟩

theorem settle_asked {future : Nat} {answer : Except Exc Unit}
    (asked : ∀ ticket ∈ cluster.tickets, ticket.answer = none →
      ∃ name ∈ names, ticket.request = .create (labTopic name)) :
    ∀ ticket ∈ (cluster.settle future answer).tickets, ticket.answer = none →
      ∃ name ∈ names, ticket.request = .create (labTopic name) := by
  intro ticket member waiting
  rcases settle_tickets member with earlier | now
  · exact asked ticket earlier waiting
  · rw [now] at waiting
    cases waiting

theorem serve_lasts (lasting : Lasting names cluster) (future : Nat) (refusal : Option Exc) :
    Lasts names cluster (cluster.serve future refusal) := by
  have outcome := serve_outcome cluster future refusal
  generalize cluster.serve future refusal = reached at outcome ⊢
  cases outcome with
  | closed => exact lasts_refl lasting
  | refused request waiting fault =>
      exact ⟨adds_refl _, lasting.shown, settle_asked lasting.asked⟩
  | deleted name waiting =>
      obtain ⟨own, _, contrary⟩ := lasting.asked _ (List.mem_of_getElem? waiting) rfl
      cases contrary
  | created topic waiting absent =>
      obtain ⟨own, member, same⟩ := lasting.asked _ (List.mem_of_getElem? waiting) rfl
      cases same
      refine ⟨?_, ?_, settle_asked lasting.asked⟩
      · apply adds_update
        · intro held present
          rw [absent] at present
          cases present
        · exact fun _ => ⟨member, rfl⟩
      · intro topic shown
        have asked := add_topics cluster (labTopic own) topic.name
        refine asked.trans ?_
        rcases List.mem_append.mp shown with earlier | fresh
        · have still := lasting.shown topic earlier
          split
          next taken =>
            rw [taken, absent] at still
            cases still
          next => exact still
        · rw [List.mem_singleton.mp fresh, if_pos rfl]

theorem serve_all_lasts (served : List (Nat × Option Exc)) (lasting : Lasting names cluster) :
    Lasts names cluster
      (served.foldl (fun reached each => reached.serve each.1 each.2) cluster) := by
  induction served generalizing cluster with
  | nil => exact lasts_refl lasting
  | cons each rest ih =>
      have first := serve_lasts lasting each.1 each.2
      exact lasts_trans first (ih first.2)

theorem elapse_lasts (lasting : Lasting names cluster) (meanwhile : Meanwhile) :
    Lasts names cluster (cluster.elapse meanwhile) :=
  @serve_all_lasts names { cluster with clock := cluster.clock + meanwhile.time } meanwhile.served
    ⟨lasting.shown, lasting.asked⟩

theorem submit_lasts (lasting : Lasting names cluster) {request : Request} (failure : Option Exc)
    (own : ∃ name ∈ names, request = .create (labTopic name)) :
    Lasts names cluster (cluster.submit request failure).2 := by
  cases failure with
  | some fault => exact ⟨adds_refl _, lasting.shown, lasting.asked⟩
  | none =>
      refine ⟨adds_refl _, lasting.shown, ?_⟩
      intro ticket member waiting
      rcases List.mem_append.mp member with earlier | added
      · exact lasting.asked ticket earlier waiting
      · rw [List.mem_singleton.mp added]
        exact own

theorem result_lasts (lasting : Lasting names cluster) (future : Nat) (failure : Option Exc) :
    Lasts names cluster (cluster.result future failure).2 := by
  cases failure with
  | some fault => exact ⟨adds_refl _, lasting.shown, lasting.asked⟩
  | none =>
      simp only [Cluster.result]
      split
      · exact lasts_refl lasting
      · exact ⟨adds_refl _, lasting.shown, lasting.asked⟩
      · exact ⟨adds_refl _, lasting.shown, lasting.asked⟩

theorem call_lasts (lasting : Lasting names cluster) (op : Messaging.TopicAdmin.Op)
    (choice : op.Choice) (asks : AsksFor names op) :
    Lasts names cluster (Messaging.TopicAdmin.exec op choice cluster).2 := by
  cases op with
  | monotonic => exact elapse_lasts lasting choice
  | sleep seconds =>
      have elapsed := elapse_lasts lasting choice
      simp only [Messaging.TopicAdmin.exec]
      split
      · exact ⟨elapsed.1, elapsed.2.shown, elapsed.2.asked⟩
      · exact ⟨elapsed.1, elapsed.2.shown, elapsed.2.asked⟩
  | createTopics topic =>
      obtain ⟨meanwhile, failure⟩ := choice
      obtain ⟨name, member, same⟩ := asks
      subst same
      have elapsed := elapse_lasts lasting meanwhile
      exact lasts_trans elapsed (submit_lasts elapsed.2 failure ⟨name, member, rfl⟩)
  | deleteTopics name => cases asks
  | result future =>
      obtain ⟨meanwhile, failure⟩ := choice
      have elapsed := elapse_lasts lasting meanwhile
      exact lasts_trans elapsed (result_lasts elapsed.2 future failure)
  | listTopics =>
      obtain ⟨meanwhile, fault | sights⟩ := choice
      · have elapsed := elapse_lasts lasting meanwhile
        exact ⟨elapsed.1, elapsed.2.shown, elapsed.2.asked⟩
      · exact elapse_lasts lasting meanwhile

end Topics

section Growth

variable (runtime : LabRuntime) (settings : LocalLabConfig) (endpoint : Endpoint)

def topicNames : List Str := [settings.kafkaTopic, settings.kafkaDlqTopic]

def schemas : List Str := [settings.kafkaSchema, settings.sqsSchema]

/-- The two queues, as the lab creates them. -/
def Declared (queue : Str × Attributes) : Prop :=
  queue = (settings.sqsDlqName, dlqAttributes) ∨
    ∃ redrive, redrivePolicy runtime (endpoint.arnOf settings.sqsDlqName) = .ok redrive ∧
      queue = (settings.sqsQueueName, queueAttributes redrive)

structure Orderly (lab : Lab) : Prop where
  kept : WellKept lab.kafka
  lasting : Lasting (topicNames settings) lab.kafka

structure Grows (before after : Lab) : Prop where
  kafka : Keeps WellKept Messaging.ClusterGrowth.Grows before.kafka after.kafka
  topics : Adds (LabTopic (topicNames settings)) before.kafka.topics after.kafka.topics
  queues : before.queues <+: after.queues
  newQueues : ∀ queue ∈ after.queues, queue ∈ before.queues ∨
    Declared runtime settings endpoint queue
  stores : Adds (fun schema tables => schema ∈ schemas settings ∧ tables = emptyTables)
    before.stores after.stores
  controls : Adds (fun _ paused => paused = false) before.controls after.controls

def Ready : Op → Lab → Prop
  | .kafka op, _ => AsksFor (topicNames settings) op
  | .createQueue name attributes, _ => Declared runtime settings endpoint (name, attributes)
  | .initializeStore schema, _ => schema ∈ schemas settings
  | _, _ => True

variable {runtime settings endpoint}

theorem grows_refl (lab : Lab) : Grows runtime settings endpoint lab lab where
  kafka := Messaging.ClusterGrowth.keeps_refl lab.kafka
  topics := adds_refl _
  queues := List.prefix_refl _
  newQueues _ member := .inl member
  stores := adds_refl _
  controls := adds_refl _

theorem grows_trans (first second third : Lab) (early : Grows runtime settings endpoint first second)
    (late : Grows runtime settings endpoint second third) :
    Grows runtime settings endpoint first third where
  kafka := Messaging.ClusterGrowth.keeps_trans early.kafka late.kafka
  topics := adds_trans early.topics late.topics
  queues := List.IsPrefix.trans early.queues late.queues
  newQueues := by
    intro queue member
    rcases late.newQueues queue member with earlier | declared
    · exact early.newQueues queue earlier
    · exact .inr declared
  stores := adds_trans early.stores late.stores
  controls := adds_trans early.controls late.controls

/-- A call that the service does, or not, keeps what doing it keeps. -/
theorem fate_keeps {Value : Type} (fate : Fate) {done : Except Exc Value × Lab} {lab : Lab}
    (grown : Grows runtime settings endpoint lab done.2) (same : done.2.kafka = lab.kafka) :
    Keeps (Orderly settings) (Grows runtime settings endpoint) lab (fate.over done lab).2 := by
  have did : Keeps (Orderly settings) (Grows runtime settings endpoint) lab done.2 := by
    refine ⟨grown, ?_⟩
    intro orderly
    obtain ⟨kept, lasting⟩ := orderly
    exact ⟨same ▸ kept, same ▸ lasting⟩
  cases fate with
  | fails fault => exact ⟨grows_refl lab, id⟩
  | lost fault => exact did
  | works => exact did

theorem create_queue_grows (lab : Lab) {name : Str} {attributes : Attributes}
    (declared : Declared runtime settings endpoint (name, attributes)) :
    Grows runtime settings endpoint lab (lab.createQueue endpoint name attributes).2 := by
  unfold Lab.createQueue
  split
  · split <;> exact grows_refl lab
  · have unchanged := @grows_refl runtime settings endpoint lab
    refine ⟨unchanged.kafka, unchanged.topics, List.prefix_append _ _, ?_, unchanged.stores,
      unchanged.controls⟩
    intro queue member
    rcases List.mem_append.mp member with earlier | added
    · exact .inl earlier
    · rw [List.mem_singleton.mp added]
      exact .inr declared

variable (endpoint) in
theorem create_queue_kafka (lab : Lab) (name : Str) (attributes : Attributes) :
    (lab.createQueue endpoint name attributes).2.kafka = lab.kafka := by
  unfold Lab.createQueue
  split
  · split <;> rfl
  · rfl

theorem call_keeps (op : Op) (choice : op.Choice) (lab : Lab) (orderly : Orderly settings lab)
    (ready : Ready runtime settings endpoint op lab) :
    Keeps (Orderly settings) (Grows runtime settings endpoint) lab
      (exec endpoint op choice lab).2 := by
  have unchanged := @grows_refl runtime settings endpoint lab
  cases op with
  | kafka op =>
      have lasts := call_lasts orderly.lasting op choice ready
      have kept := Messaging.ClusterGrowth.call_keeps op choice lab.kafka
      exact ⟨{ unchanged with kafka := kept, topics := lasts.1 },
        fun _ => ⟨kept.2 orderly.kept, lasts.2⟩⟩
  | createQueue name attributes =>
      exact fate_keeps choice (create_queue_grows lab ready) (create_queue_kafka _ lab name _)
  | queueArn url => exact fate_keeps choice unchanged rfl
  | initializeStore schema =>
      have stores : Adds (fun schema tables => schema ∈ schemas settings ∧ tables = emptyTables)
          lab.stores (Function.update lab.stores schema
            (some (Processing.PostgresOrderStore.initializeStore (lab.stores schema)))) := by
        apply adds_update
        · intro held present
          rw [present]
          rfl
        · intro absent
          rw [absent]
          exact ⟨ready, rfl⟩
      exact fate_keeps choice { unchanged with stores := stores } rfl
  | initializeControls =>
      have controls : Adds (fun _ paused => paused = false) lab.controls
          (LocalLab.ConsumerControls.initializeControls lab.controls) := by
        constructor
        case kept => exact fun broker paused held => initialize_keeps held
        case added =>
          intro broker paused held
          cases present : lab.controls broker with
          | some own =>
              rw [initialize_keeps present] at held
              exact .inl held
          | none =>
              simp only [LocalLab.ConsumerControls.initializeControls, present, Option.getD_none,
                Option.some.injEq] at held
              exact .inr held.symm
      exact fate_keeps choice { unchanged with controls := controls } rfl

end Growth

section Threads

variable {runtime : LabRuntime} {settings : LocalLabConfig} {endpoint : Endpoint}

/-- How a part of the setup ends: with a fact established, or an exception. -/
def Sets {Value : Type} (fact : Value → Lab → Prop) : Except Halt Value → Lab → Prop
  | .ok value, lab => fact value lab
  | .error (.raised _), _ => True
  | .error .running, _ => False

abbrev Upheld (runtime : LabRuntime) (settings : LocalLabConfig) (endpoint : Endpoint)
    {Value : Type} (fact : Value → Lab → Prop) (program : Prog Halt Op.Ret Value) (lab : Lab) :
    Prop :=
  Upholds (exec endpoint) (Keeps (Orderly settings) (Grows runtime settings endpoint))
    (Ready runtime settings endpoint) (Sets fact) program lab

theorem steady : Growth (Grows runtime settings endpoint)
    (fun (_ : Except Halt Unit) (_ : Lab) => True) where
  refl := grows_refl
  trans := grows_trans
  stable _ _ _ _ held := held

/-- Parts of the setup in sequence; the lab stays orderly and grows meanwhile. -/
theorem sets_bind {Value Other : Type} {fact : Value → Lab → Prop} {goal : Other → Lab → Prop}
    {program : Prog Halt Op.Ret Value} {next : Value → Prog Halt Op.Ret Other} {lab : Lab}
    (orderly : Orderly settings lab) (first : Upheld runtime settings endpoint fact program lab)
    (rest : ∀ value reached, Orderly settings reached →
      Grows runtime settings endpoint lab reached → fact value reached →
      Upheld runtime settings endpoint goal (next value) reached) :
    Upheld runtime settings endpoint goal (program.bind next) lab := by
  apply (upholds_bind _ _ _ _).mpr
  apply upholds_mono (upholds_grown steady call_keeps orderly first)
  intro outcome final ended
  obtain ⟨set, still, grown⟩ := ended
  rcases outcome with (fault | _) | value
  · trivial
  · exact set
  · exact rest value final still grown set

/-- One call, in whatever orderly lab it is made. -/
theorem sets_perform {op : Op} {fact : op.Ret → Lab → Prop} {lab : Lab}
    (ready : ∀ reached, Ready runtime settings endpoint op reached)
    (sets : ∀ reached choice, Sets fact (exec endpoint op choice reached).1
      (exec endpoint op choice reached).2) :
    Upheld runtime settings endpoint fact (Prog.perform op) lab := by
  intro reached _
  exact ⟨ready reached, sets reached⟩

def HasTopic (name : Str) (lab : Lab) : Prop := ∃ topic, lab.kafka.topics name = some topic

def HasQueue (name : Str) (attributes : Attributes) (lab : Lab) : Prop :=
  ∃ held, lab.queues.lookup name = some held ∧ Carries held attributes

/-- The order queue with its dead-letter queue. -/
def HasQueues (runtime : LabRuntime) (settings : LocalLabConfig) (endpoint : Endpoint)
    (lab : Lab) : Prop :=
  HasQueue settings.sqsDlqName dlqAttributes lab ∧
    ∃ redrive, redrivePolicy runtime (endpoint.arnOf settings.sqsDlqName) = .ok redrive ∧
      HasQueue settings.sqsQueueName (queueAttributes redrive) lab

def HasStore (schema : Str) (lab : Lab) : Prop := ∃ tables, lab.stores schema = some tables

def HasControls (lab : Lab) : Prop := ∀ broker, ∃ paused, lab.controls broker = some paused

theorem has_topic_mono {before after : Lab} (grown : Grows runtime settings endpoint before after)
    {name : Str} (has : HasTopic name before) : HasTopic name after := by
  obtain ⟨topic, held⟩ := has
  exact ⟨topic, grown.topics.kept name topic held⟩

theorem has_queue_mono {before after : Lab} (grown : Grows runtime settings endpoint before after)
    {name : Str} {attributes : Attributes} (has : HasQueue name attributes before) :
    HasQueue name attributes after := by
  obtain ⟨held, found, carries⟩ := has
  obtain ⟨more, same⟩ := grown.queues
  refine ⟨held, ?_, carries⟩
  rw [← same, List.lookup_append, found, Option.some_or]

theorem has_queues_mono {before after : Lab} (grown : Grows runtime settings endpoint before after)
    (has : HasQueues runtime settings endpoint before) :
    HasQueues runtime settings endpoint after := by
  obtain ⟨dead, redrive, dumped, live⟩ := has
  exact ⟨has_queue_mono grown dead, redrive, dumped, has_queue_mono grown live⟩

theorem has_store_mono {before after : Lab} (grown : Grows runtime settings endpoint before after)
    {schema : Str} (has : HasStore schema before) : HasStore schema after := by
  obtain ⟨tables, held⟩ := has
  exact ⟨tables, grown.stores.kept schema tables held⟩

theorem has_controls_mono {before after : Lab}
    (grown : Grows runtime settings endpoint before after) (has : HasControls before) :
    HasControls after := by
  intro broker
  obtain ⟨paused, held⟩ := has broker
  exact ⟨paused, grown.controls.kept broker paused held⟩

/-- In a lasting cluster, `ensure_topic` that returns has made sure of the topic. -/
theorem ensure_upheld {admin : KafkaTopicAdmin} {name : Str} {cluster : Cluster}
    (kept : WellKept cluster) :
    Messaging.TopicWaits.Upheld
      (fun outcome final => outcome ≠ .error .running ∧
        (outcome = .ok () → ∃ topic ∈ final.past, topic.name = name))
      (ensureTopic runtime admin name) cluster := by
  unfold ensureTopic
  apply (upholds_bind _ _ _ _).mpr
  apply upholds_mono (list_names_upheld cluster)
  intro outcome seen listed
  obtain ⟨later, listed⟩ := listed
  cases listed with
  | passed fault member => simp
  | shown names known =>
      rw [continues_ok]
      by_cases present : names name = true
      · rw [if_pos present]
        exact ⟨by simp, fun _ => known name present⟩
      · rw [if_neg present]
        apply (upholds_bind _ _ _ _).mpr
        apply upholds_mono (create_upheld (later.2 kept) (labTopic name))
        intro outcome final created
        cases created with
        | shown metadata topic since _ member shows' named =>
            exact ⟨by simp, fun _ => ⟨topic, member, shows'.name.symm.trans named⟩⟩
        | refused | expired | passed => simp

theorem ensure_makes {admin : KafkaTopicAdmin} {name : Str}
    (own : name ∈ topicNames settings) :
    Makes (AsksFor (topicNames settings)) (ensureTopic runtime admin name) := by
  unfold ensureTopic listTopicNames
  have described : Makes (AsksFor (topicNames settings))
      (describeTopic runtime.toPublisherRuntime name (some (labTopic name).config)) := by
    apply makes_bind (makes_perform trivial)
    intro metadata
    split
    · exact makes_done _
    · split <;> exact makes_done _
  apply makes_bind
  · exact makes_bind (makes_perform trivial) fun _ => makes_done _
  intro names
  split
  · exact makes_done _
  · refine makes_bind ?_ fun _ => makes_done _
    unfold KafkaTopicAdmin.createTopic KafkaTopicAdmin.await
    apply makes_bind (makes_perform ⟨name, own, rfl⟩)
    intro future
    apply makes_bind (makes_mapFault (makes_perform trivial))
    intro _
    apply makes_bind (makes_perform trivial)
    intro started
    refine makes_poll (makes_perform trivial) ?_ (makes_perform trivial) _ _
    intro last
    apply makes_bind (makes_attempt described)
    intro outcome
    split
    · split <;> exact makes_done _
    · split <;> exact makes_done _
    · exact makes_done _

theorem topic_sets {name : Str} (own : name ∈ topicNames settings) {lab : Lab}
    (orderly : Orderly settings lab) :
    Upheld runtime settings endpoint (fun _ final => HasTopic name final)
      ((ensureTopic runtime labAdmin name).rename Op.kafka) lab := by
  apply (upholds_rename _ _ _ _).mpr
  have guarantee (op : Messaging.TopicAdmin.Op) (choice : op.Choice) (reached : Lab)
      (holds : Orderly settings reached)
      (ready : Ready runtime settings endpoint (.kafka op) reached) :
      Keeps (Orderly settings) (Grows runtime settings endpoint) reached
        (exec endpoint (.kafka op) choice reached).2 := call_keeps (.kafka op) choice reached holds ready
  have alone := upholds_allowed (ensure_makes own)
    (@ensure_upheld runtime labAdmin name lab.kafka orderly.kept)
  have there := @upholds_view Halt Messaging.TopicAdmin.Op Messaging.TopicAdmin.Op.Ret
    Messaging.TopicAdmin.Op.Choice Lab Unit (fun op => exec endpoint (.kafka op))
    (Keeps (Orderly settings) (Grows runtime settings endpoint))
    (fun op => Ready runtime settings endpoint (.kafka op)) Cluster Lab.kafka
    Messaging.TopicAdmin.exec _ _ _ (fun _ _ _ => ⟨rfl, rfl⟩)
    (fun _ _ between => between.1.kafka) (fun _ _ ready => ready.2) _ lab alone
  apply upholds_mono (upholds_grown steady guarantee orderly there)
  intro outcome final ended
  obtain ⟨⟨halts, sets⟩, still, _⟩ := ended
  rcases outcome with (fault | _) | _
  · trivial
  · exact absurd rfl halts
  · obtain ⟨topic, member, named⟩ := sets rfl
    have held := still.lasting.shown topic member
    rw [named] at held
    exact ⟨topic, held⟩

theorem create_queue_sets {name : Str} {attributes : Attributes} {lab : Lab}
    (declared : Declared runtime settings endpoint (name, attributes))
    (carries : Carries attributes attributes) :
    Upheld runtime settings endpoint
      (fun url final => url = endpoint.urlOf name ∧ HasQueue name attributes final)
      (Prog.perform (Op.createQueue name attributes)) lab := by
  apply sets_perform
  · exact fun _ => declared
  intro reached fate
  cases fate with
  | fails fault => trivial
  | lost fault => trivial
  | works =>
      simp only [exec, Fate.over, Lab.createQueue]
      split
      next held found =>
        split
        next same => exact ⟨rfl, held, found, same⟩
        next => trivial
      next absent =>
        refine ⟨rfl, attributes, ?_, carries⟩
        rw [List.lookup_append, absent, Option.none_or]
        simp

theorem queue_arn_sets {name : Str} {lab : Lab} :
    Upheld runtime settings endpoint (fun arn _ => arn = endpoint.arnOf name)
      (Prog.perform (Op.queueArn (endpoint.urlOf name))) lab := by
  apply sets_perform
  · exact fun _ => trivial
  intro reached fate
  cases fate with
  | fails fault => trivial
  | lost fault => trivial
  | works =>
      simp only [exec, Fate.over, Lab.queueArn]
      split
      next queue found =>
        have matched := List.find?_some found
        rw [decide_eq_true_eq] at matched
        rw [← endpoint.distinct matched]
        rfl
      next => trivial

theorem carries_self {attributes : Attributes} (distinct : (attributes.map Prod.fst).Nodup) :
    Carries attributes attributes := by
  intro pair member
  induction attributes with
  | nil => cases member
  | cons first rest ih =>
      obtain ⟨name, value⟩ := first
      obtain ⟨fresh, others⟩ := List.nodup_cons.mp distinct
      rcases List.mem_cons.mp member with same | later
      · subst same
        exact List.lookup_cons_self
      · have other : pair.1 ≠ name := by
          intro same
          exact fresh (List.mem_map.mpr ⟨pair, later, same⟩)
        rw [List.lookup_cons, beq_eq_false_iff_ne.mpr other]
        exact ih others later

theorem raising_sets {Value : Type} (result : Except Exc Value) (lab : Lab) :
    Upheld runtime settings endpoint (fun value _ => result = .ok value) (raising result) lab := by
  cases result with
  | error fault => trivial
  | ok value => rfl

theorem queues_sets {lab : Lab} (orderly : Orderly settings lab) :
    Upheld runtime settings endpoint (fun _ final => HasQueues runtime settings endpoint final)
      (ensureSqsQueues runtime settings) lab := by
  unfold ensureSqsQueues
  apply sets_bind orderly (create_queue_sets (.inl rfl) (carries_self (by decide)))
  intro dlqUrl created orderly _ dead
  obtain ⟨rfl, dead⟩ := dead
  apply sets_bind orderly queue_arn_sets
  intro dlqArn read orderly grown same
  subst same
  have dead := has_queue_mono grown dead
  apply sets_bind orderly (raising_sets _ _)
  intro redrive printed orderly grown dumped
  have dead := has_queue_mono grown dead
  have declared : Declared runtime settings endpoint
      (settings.sqsQueueName, queueAttributes redrive) := .inr ⟨redrive, dumped, rfl⟩
  have carries : Carries (queueAttributes redrive) (queueAttributes redrive) :=
    carries_self (by simp only [queueAttributes, List.map_cons, List.map_nil]; decide)
  apply sets_bind orderly (create_queue_sets declared carries)
  intro queueUrl final _ grown live
  exact ⟨has_queue_mono grown dead, redrive, dumped, live.2⟩

theorem schema_sets {schema : Str} (own : schema ∈ schemas settings) {lab : Lab} :
    Upheld runtime settings endpoint (fun _ final => HasStore schema final)
      (initializeSchema runtime schema) lab := by
  unfold initializeSchema
  split
  · apply sets_perform
    · exact fun _ => own
    intro reached fate
    cases fate with
    | fails fault => trivial
    | lost fault => trivial
    | works => exact ⟨_, Function.update_self ..⟩
  · trivial

theorem controls_sets {lab : Lab} :
    Upheld runtime settings endpoint (fun _ final => HasControls final)
      (Prog.perform Op.initializeControls) lab := by
  apply sets_perform
  · exact fun _ => trivial
  intro reached fate
  cases fate with
  | fails fault => trivial
  | lost fault => trivial
  | works => exact fun broker => ⟨_, rfl⟩

/-- Two parts, where what the first establishes lasts. -/
theorem sets_seq {Value Other : Type} {fact : Lab → Prop} {goal : Other → Lab → Prop}
    {program : Prog Halt Op.Ret Value} {next : Value → Prog Halt Op.Ret Other} {lab : Lab}
    (lasts : ∀ before after, Grows runtime settings endpoint before after →
      fact before → fact after)
    (orderly : Orderly settings lab)
    (first : Upheld runtime settings endpoint (fun _ => fact) program lab)
    (rest : ∀ value reached, Orderly settings reached →
      Upheld runtime settings endpoint goal (next value) reached) :
    Upheld runtime settings endpoint (fun value final => fact final ∧ goal value final)
      (program.bind next) lab := by
  apply sets_bind orderly first
  intro value reached still _ holds
  apply upholds_mono (upholds_grown steady call_keeps still (rest value reached still))
  intro outcome final ended
  obtain ⟨set, _, grown⟩ := ended
  rcases outcome with (fault | _) | value
  · trivial
  · exact set
  · exact ⟨lasts reached final grown holds, set⟩

end Threads

section Setup

/-- Every resource of the lab is there. -/
structure Provisioned (runtime : LabRuntime) (settings : LocalLabConfig) (endpoint : Endpoint)
    (lab : Lab) : Prop where
  topics : ∀ name ∈ topicNames settings, HasTopic name lab
  queues : HasQueues runtime settings endpoint lab
  stores : ∀ schema ∈ schemas settings, HasStore schema lab
  controls : HasControls lab

variable {runtime : LabRuntime} {settings : LocalLabConfig} {endpoint : Endpoint}

theorem provisioned_mono {before after : Lab} (grown : Grows runtime settings endpoint before after)
    (provisioned : Provisioned runtime settings endpoint before) :
    Provisioned runtime settings endpoint after where
  topics name own := has_topic_mono grown (provisioned.topics name own)
  queues := has_queues_mono grown provisioned.queues
  stores schema own := has_store_mono grown (provisioned.stores schema own)
  controls := has_controls_mono grown provisioned.controls

theorem initialize_upheld {lab : Lab} (orderly : Orderly settings lab) :
    Upheld runtime settings endpoint (fun _ final => Provisioned runtime settings endpoint final)
      (initializeLab runtime settings) lab := by
  have setup : Upheld runtime settings endpoint
      (fun _ final => HasTopic settings.kafkaTopic final ∧ HasTopic settings.kafkaDlqTopic final ∧
        HasQueues runtime settings endpoint final ∧ HasStore settings.kafkaSchema final ∧
        HasStore settings.sqsSchema final ∧ HasControls final)
      (initializeLab runtime settings) lab := by
    unfold initializeLab
    refine sets_seq (fun _ _ grown => has_topic_mono grown) orderly
      (topic_sets (by simp [topicNames]) orderly) ?_
    intro _ reached orderly
    refine sets_seq (fun _ _ grown => has_topic_mono grown) orderly
      (topic_sets (by simp [topicNames]) orderly) ?_
    intro _ reached orderly
    refine sets_seq (fun _ _ grown => has_queues_mono grown) orderly (queues_sets orderly) ?_
    intro _ reached orderly
    refine sets_seq (fun _ _ grown => has_store_mono grown) orderly
      (schema_sets (by simp [schemas])) ?_
    intro _ reached orderly
    refine sets_seq (fun _ _ grown => has_store_mono grown) orderly
      (schema_sets (by simp [schemas])) ?_
    intro _ reached orderly
    exact controls_sets
  apply upholds_mono setup
  intro outcome final ended
  rcases outcome with (fault | _) | value
  · trivial
  · exact ended
  · obtain ⟨topic, dlqTopic, queues, kafkaStore, sqsStore, controls⟩ := ended
    constructor
    case topics => simp [topicNames, topic, dlqTopic]
    case queues => exact queues
    case stores => simp [schemas, kafkaStore, sqsStore]
    case controls => exact controls

/-- A lab to start from: every topic that metadata shows exists, and no request is open
but for topics of the lab. -/
structure Ground (settings : LocalLabConfig) where
  lab : Lab
  orderly : Orderly settings lab

abbrev Initializers := System Halt Op.Ret Unit Lab

/-- Any number of `initialize_lab` calls, call by call in any order. -/
def initializers (runtime : LabRuntime) (settings : LocalLabConfig) (endpoint : Endpoint)
    (ground : Ground settings) (labels : List (Label Unit Op.Choice)) : Initializers :=
  Interleaving.run (exec endpoint) (fun _ => initializeLab runtime settings) labels
    (System.idle ground.lab)

structure SafelyShared (runtime : LabRuntime) (settings : LocalLabConfig) (endpoint : Endpoint)
    (origin : Lab) (system : Initializers) : Prop where
  grown : Grows runtime settings endpoint origin system.world
  returned : ∀ thread, system.threads thread = some (.done (.ok ())) →
    Provisioned runtime settings endpoint system.world
  halted : ∀ thread, system.threads thread ≠ some (.done (.error .running))

theorem setup_growth : Growth (Grows runtime settings endpoint)
    (Sets fun (_ : Unit) final => Provisioned runtime settings endpoint final) where
  refl := grows_refl
  trans := grows_trans
  stable outcome before after := by
    intro grown ended
    rcases outcome with (fault | _) | value
    · trivial
    · exact ended
    · exact provisioned_mono grown ended

/-- However many set up the lab at once, whatever fails and wherever they are stopped:
nothing that exists is changed, only what the lab declares is added, nobody waits
for ever, and whoever returns leaves the whole lab behind. -/
theorem setup_safely_shared (runtime : LabRuntime) (settings : LocalLabConfig)
    (endpoint : Endpoint) (ground : Ground settings) (labels : List (Label Unit Op.Choice)) :
    SafelyShared runtime settings endpoint ground.lab
      (initializers runtime settings endpoint ground labels) := by
  have ready (_ : Unit) (lab : Lab) (holds : Orderly settings lab) :
      Upheld runtime settings endpoint
        (fun _ final => Provisioned runtime settings endpoint final)
        (initializeLab runtime settings) lab := initialize_upheld holds
  have safe := run_safe setup_growth call_keeps ready labels
    (safe_idle setup_growth ground.orderly)
  constructor
  case grown => exact safe.grown
  case returned =>
    intro thread held
    exact safe.upheld thread _ held
  case halted =>
    intro thread held
    exact safe.upheld thread _ held

end Setup

section Instances

/-- Services with nothing in them. -/
def freshLab : Lab := ⟨freshCluster, [], fun _ => none, fun _ => none⟩

theorem fresh_orderly (settings : LocalLabConfig) : Orderly settings freshLab where
  kept := by
    constructor
    case current =>
      intro name topic held
      cases held
    case timed =>
      intro ticket member
      cases member
  lasting := by
    constructor
    case shown =>
      intro topic member
      cases member
    case asked =>
      intro ticket member
      cases member

def freshGround (settings : LocalLabConfig) : Ground settings := ⟨freshLab, fresh_orderly settings⟩

/-- The names that the settings have by default. -/
def defaultSettings : LocalLabConfig :=
  ⟨"orders.created.local", "orders.created.local.dlq", "orders-created-local",
    "orders-created-local-dlq", "kafka_lab", "sqs_lab"⟩

def queueUrl (name : Str) : Str := "queue/" ++ name

theorem queue_url_distinct : Function.Injective queueUrl := by
  intro left right same
  exact List.append_cancel_left same

def localEndpoint : Endpoint := ⟨queueUrl, fun name => "arn:" ++ name, queue_url_distinct⟩

def labRuntime : LabRuntime :=
  { referencePublisherRuntime with dumpsSpaced := referencePublisherRuntime.dumps }

def atOnce : Meanwhile := ⟨0, le_refl 0, [(0, none), (1, none), (2, none)]⟩

/-- Answers of services in which nothing fails. -/
def promptly : (op : Op) → op.Choice
  | .kafka .monotonic => atOnce
  | .kafka (.sleep _) => atOnce
  | .kafka (.createTopics _) => (atOnce, none)
  | .kafka (.deleteTopics _) => (atOnce, none)
  | .kafka (.result _) => (atOnce, none)
  | .kafka .listTopics => (atOnce, .ok fun name => some ⟨labTopic name, none, [0, 1, 2]⟩)
  | .createQueue _ _ => .works
  | .queueArn _ => .works
  | .initializeStore _ => .works
  | .initializeControls => .works

/-- Whether a call returned, once it is over. -/
def returned (system : Initializers) (thread : Nat) : Option Bool :=
  match system.threads thread with
  | some (.done (.ok ())) => some true
  | some (.done (.error _)) => some false
  | _ => none

theorem returned_iff {system : Initializers} {thread : Nat} :
    returned system thread = some true ↔ system.threads thread = some (.done (.ok ())) := by
  unfold returned
  split
  next ended => simp [ended]
  next fault failed => simp [failed]
  next other _ =>
    constructor
    · intro contrary
      cases contrary
    · intro ended
      exact (other ended).elim

/-- Two setups at once, of which the second asks for a topic that the first has got. -/
def twoSetups : List (Label Unit Op.Choice) :=
  [.start 0 (), .start 1 ()] ++
    (List.replicate 3 [.advance 0 promptly, .advance 1 promptly]).flatten ++
    List.replicate 15 (.advance 0 promptly)

theorem two_setups_provision :
    returned (initializers labRuntime defaultSettings localEndpoint
      (freshGround defaultSettings) twoSetups) 1 = some false ∧
    Provisioned labRuntime defaultSettings localEndpoint
      (initializers labRuntime defaultSettings localEndpoint (freshGround defaultSettings)
        twoSetups).world := by
  refine ⟨by decide +kernel, ?_⟩
  have ended : returned (initializers labRuntime defaultSettings localEndpoint
      (freshGround defaultSettings) twoSetups) 0 = some true := by decide +kernel
  exact (setup_safely_shared labRuntime defaultSettings localEndpoint
    (freshGround defaultSettings) twoSetups).returned 0 (returned_iff.mp ended)

end Instances

end OrderMessaging.LocalLab.Provisioning
