import OrderMessaging.LocalLab.PausedWorkers
import OrderMessaging.LocalLab.WorkerSettlement
import OrderMessaging.Processing.DecodeAgreement
import OrderMessaging.Processing.SqsDelivery

/-!
The two brokers of the local lab behind their pause controls. A worker looks at
its control only before a delivery, and a delivery begins with a poll that returns
whatever is published until it ends: a pause holds back what is published after
it, except while such a poll is under way.
-/

namespace OrderMessaging.LocalLab.PauseGap

open OrderMessaging.PyText OrderMessaging.PyException OrderMessaging.PyValue
open OrderMessaging.Program OrderMessaging.Reception OrderMessaging.Contracts.Models
open OrderMessaging.Processing OrderMessaging.Processing.OrderLedger
open OrderMessaging.Processing.DecodeAgreement
open OrderMessaging.Contracts.Reference OrderMessaging.Processing.PostgresOrderStore
open OrderMessaging.Processing.StoreOperations OrderMessaging.Processing.RetryAndDeadLetter
open OrderMessaging.Processing.KafkaCollaborators OrderMessaging.Processing.KafkaDelivery
open OrderMessaging.LocalLab.ConsumerControls OrderMessaging.LocalLab.PausedWorkers
open OrderMessaging.LocalLab.ConsumerWorker
  (LocalLabConfig Log workerConsumer message committed)
open OrderMessaging.LocalLab.WorkerSettlement (localLab exec_committed)

set_option autoImplicit false

section Kafka

/-- A message that carries an error is no record. -/
def handedRecord : (op : Op) → Except Exc op.Ret → Option Message
  | .poll, .ok (some message) => if message.error.isNone then some message else none
  | _, _ => none

def kafkaWrites : Op → Bool
  | .order _ => true
  | _ => false

def kafkaReturnable (settings : LocalLabConfig) (log : Log) (places : List (Nat × Nat)) :
    (op : Op) → op.Choice → Prop
  | .poll, .ok (some answered) =>
      answered.error ≠ none ∨
        ∃ place ∈ places, answered = message settings log place.1 place.2
  | _, _ => True

/-- The next record of a partition follows those published to it. -/
def placeAfter (places : List (Nat × Nat)) (partition : Nat) : Nat × Nat :=
  (partition, places.countP fun place => decide (place.1 = partition))

/-- Places are partitions with offsets; a record is acknowledged below the committed
offset of its partition. -/
def kafkaFeed (runtime : Runtime) (settings : LocalLabConfig) (log : Log) : Feed where
  broker := .kafka
  Op := Op
  Ret := Op.Ret
  Choice := Op.Choice
  World := World
  Value := ProcessedKafkaRecord
  Item := Message
  Place := Nat × Nat
  Route := Nat
  exec := exec
  processOne polls := processOne runtime (workerConsumer settings) 2 polls
  awaits op := op = .poll
  hands := handedRecord
  placeOf message := (message.partition, message.offset)
  nextPlace := placeAfter
  returnable := kafkaReturnable settings log
  writes := kafkaWrites
  acknowledged world place := place.2 < committed settings world place.1

/-- The calls of a delivery of `message` once it has been received. -/
def Concerns (message : Message) : Op → Prop
  | .poll => False
  | .commit other => other = message
  | _ => True

/-- A commit covers the earlier offsets of its partition. -/
def UpTo (other place : Nat × Nat) : Prop := other.1 = place.1 ∧ other.2 ≤ place.2

end Kafka

section KafkaDeliveries

variable {runtime : Runtime} {consumer : KafkaOrderConsumer} {message : Message}

theorem commit_concerns (eventId : Str) : Makes (Concerns message) (commit message eventId) := by
  have own : Concerns message (.commit message) := rfl
  apply makes_mapFault
  apply makes_bind (makes_perform own)
  intro partitions
  split
  · exact makes_done _
  · exact makes_done _

theorem publish_failure_concerns (topic : Str) (failure : DeadLetterFailure) :
    Makes (Concerns message) (publishFailure runtime topic failure) := by
  apply makes_bind (makes_perform trivial)
  intro deadLetterId
  apply makes_bind (makes_perform trivial)
  intro isoformat
  apply makes_bind (makes_done _)
  intro record
  apply makes_bind (makes_perform trivial)
  intro _
  apply makes_bind (makes_perform trivial)
  intro report
  split_ifs
  · split
    · exact makes_done _
    · exact makes_done _
  · exact makes_done _

theorem dead_letter_concerns (topic : Str) (payload : PyVal) (error : Exc) (attempts : Nat)
    (event : Option OrderCreatedEvent) (duplicate : Bool) :
    Makes (Concerns message)
      (deadLetter runtime consumer topic message payload error attempts event duplicate) := by
  apply makes_bind (publish_failure_concerns topic _)
  intro _
  apply makes_bind (commit_concerns _)
  intro _
  exact makes_done _

theorem give_up_concerns (payload : PyVal) (event : OrderCreatedEvent) (attempts : Nat)
    (initialIsNew : Option Bool) (cause : Exc) :
    Makes (Concerns message)
      (giveUp runtime consumer message payload event attempts initialIsNew cause) := by
  unfold giveUp
  split
  · apply makes_bind (makes_perform trivial)
    intro _
    exact dead_letter_concerns _ _ _ _ _ _
  · exact makes_done _

theorem attempt_once_concerns (event : OrderCreatedEvent) (initialIsNew : Option Bool) :
    Makes (Concerns message) (attemptOnce consumer event initialIsNew) := by
  have mark : Makes (Concerns message)
      (Prog.perform (Op.order (.markCompleted event.eventId)) : Prog Exc Op.Ret Unit) :=
    makes_perform trivial
  apply makes_bind (makes_attempt (makes_perform trivial))
  intro stored
  cases stored with
  | error fault => exact makes_done _
  | ok result =>
      apply makes_bind
      · apply makes_attempt
        unfold effects
        split_ifs
        · exact makes_bind (makes_perform trivial) fun _ => mark
        · exact mark
        · exact makes_done _
      · intro outcome
        exact makes_done _

theorem retry_loop_concerns (payload : PyVal) (event : OrderCreatedEvent) :
    Makes (Concerns message) (retryLoop runtime consumer message payload event 0 none) := by
  let invariant : Nat → Option Bool → Unit → Prop := fun _ _ _ => True
  have entry : invariant 0 none () := trivial
  apply upholds_retry_loop ?_ entry
  intro made initialIsNew _ _
  apply upholds_mono (attempt_once_concerns event initialIsNew)
  intro outcome world _
  rcases outcome with fault | ⟨initialIsNew, cause | _⟩
  · trivial
  · simp only [AttemptEnds]
    split
    · apply (upholds_perform _ _).mpr
      intro waited _
      refine ⟨trivial, ?_⟩
      intro answer
      cases answer <;> trivial
    · exact give_up_concerns payload event _ initialIsNew cause
  · exact makes_bind (commit_concerns _) fun _ => makes_done _

theorem process_concerns : Makes (Concerns message) (process runtime consumer message) := by
  unfold process
  split
  · exact makes_done _
  · split
    · exact retry_loop_concerns _ _
    · split
      · exact dead_letter_concerns _ _ _ _ _ _
      · exact makes_done _

variable (runtime consumer) in
/-- The poll that a delivery is waiting in, by what it answers. -/
theorem process_one_polls (polls : Nat) :
    ∃ next, processOne runtime consumer 2 (polls + 1) = .call .poll next ∧
      (∀ fault, next (.error fault) = .done (.error fault)) ∧
      next (.ok none) = processOne runtime consumer 2 polls ∧
      ∀ message, next (.ok (some message)) = process runtime consumer message := by
  have positive : ¬(2 : ℚ) ≤ 0 := by decide
  simp only [processOne, if_neg positive]
  exact ⟨_, rfl, fun _ => rfl, rfl, fun _ => rfl⟩

variable (runtime consumer) in
theorem process_one_no_polls : ∃ fault, processOne runtime consumer 2 0 = .done (.error fault) := by
  have positive : ¬(2 : ℚ) ≤ 0 := by decide
  simp only [processOne, if_neg positive]
  exact ⟨_, rfl⟩

variable (runtime consumer) in
theorem broker_error_raises (broken : message.error.isNone = false) :
    ∃ fault, process runtime consumer message = .done (.error fault) := by
  unfold process
  cases held : message.error with
  | none =>
      rw [held] at broken
      cases broken
  | some error => exact ⟨_, rfl⟩

theorem process_one_receives (polls : Nat) :
    Receives (fun op => op = Op.poll) handedRecord Concerns
      (processOne runtime consumer 2 polls) := by
  induction polls with
  | zero =>
      obtain ⟨fault, raised⟩ := process_one_no_polls runtime consumer
      rw [raised]
      trivial
  | succ polls ih =>
      obtain ⟨next, own, raises, empty, received⟩ := process_one_polls runtime consumer polls
      rw [own]
      refine ⟨rfl, ?_⟩
      intro result
      rcases result with fault | _ | message
      · simp only [handedRecord, raises]
        trivial
      · simp only [handedRecord, empty]
        exact ih
      · cases sound : message.error.isNone with
        | true =>
            simp only [handedRecord, sound, if_true, received]
            exact process_concerns
        | false =>
            simp only [handedRecord, sound, Bool.false_eq_true, if_false, received]
            obtain ⟨fault, raised⟩ := broker_error_raises runtime consumer sound
            rw [raised]
            trivial

variable (consumer) in
/-- The first call of a delivery whose order can be read. -/
theorem process_stores {payload : PyVal} {event : OrderCreatedEvent} (sound : message.error = none)
    (decoded : decodeValue runtime message.value = .ok (payload, event)) :
    ∃ further, process runtime consumer message = .call (.order (.store event)) further := by
  unfold process
  rw [sound, decoded]
  simp only
  rw [retryLoop]
  exact ⟨_, rfl⟩

end KafkaDeliveries

section KafkaLaws

variable {runtime : Runtime} {settings : LocalLabConfig} {log : Log}

theorem kafka_exclusive : Exclusive (fun op => op = Op.poll) handedRecord Concerns where
  working message op own polls := by
    rw [polls] at own
    exact own
  handed op result message handed := by
    cases op with
    | poll => rfl
    | order _ | notify _ | wait _ | uuid4 | utcNow | produce _ | flush _ | commit _ => cases handed

/-- A partition's places are its offsets below the number published to it. -/
def Contiguous (places : List (Nat × Nat)) : Prop :=
  ∀ place, place ∈ places ↔ place.2 < (placeAfter places place.1).2

theorem contiguous_publish {places : List (Nat × Nat)} (contiguous : Contiguous places)
    (partition : Nat) : Contiguous (places ++ [placeAfter places partition]) := by
  intro place
  obtain ⟨own, offset⟩ := place
  have before := contiguous (own, offset)
  simp only [placeAfter] at before
  simp only [placeAfter, List.mem_append, List.mem_singleton, List.countP_append,
    List.countP_singleton, before]
  by_cases same : partition = own
  · subst same
    simp only [Prod.mk.injEq, true_and, decide_true, if_true]
    omega
  · have other : own ≠ partition := Ne.symm same
    simp [same, other]

theorem contiguous_nil : Contiguous [] := by
  intro place
  simp [placeAfter]

theorem kafka_contiguous {places : List (kafkaFeed runtime settings log).Place}
    (placed : Placed (kafkaFeed runtime settings log) places) : Contiguous places := by
  induction placed with
  | nil => exact contiguous_nil
  | publish places partition placed ih => exact contiguous_publish ih partition

theorem kafka_polled_published {places : List (Nat × Nat)} {op : Op} {choice : op.Choice}
    {world : World} {item : Message} (returnable : kafkaReturnable settings log places op choice)
    (handed : handedRecord op (exec op choice world).1 = some item) :
    (item.partition, item.offset) ∈ places := by
  cases op with
  | order _ | notify _ | wait _ | uuid4 | utcNow | produce _ | flush _ | commit _ => cases handed
  | poll =>
      rcases choice with fault | _ | answered
      · cases handed
      · cases handed
      · simp only [exec, handedRecord] at handed
        split_ifs at handed with sound
        obtain rfl := Option.some.inj handed
        rcases returnable with broken | ⟨place, published, same⟩
        · exact (broken (Option.isNone_iff_eq_none.mp sound)).elim
        · rw [same]
          exact published

/-- Only the commit of the record in hand acknowledges, and it covers what is up to
that record. -/
theorem kafka_acknowledges {op : Op} {choice : op.Choice} {world : World} {place : Nat × Nat}
    (acknowledged : place.2 < committed settings (exec op choice world).2 place.1) :
    place.2 < committed settings world place.1 ∨
      ∃ record, op = .commit record ∧ UpTo place (record.partition, record.offset) := by
  rcases exec_committed op choice world with same | ⟨record, partitions, commits, _, reached⟩
  · rw [committed, same] at acknowledged
    exact Or.inl acknowledged
  · rw [reached] at acknowledged
    by_cases own : (settings.kafkaTopic, place.1) = record.topicPartition
    · simp only [committed, World.commit, own, Function.update_self] at acknowledged
      have partition : place.1 = record.partition := congrArg Prod.snd own
      refine Or.inr ⟨record, congrArg Sigma.fst commits, partition, ?_⟩
      exact Nat.lt_succ_iff.mp acknowledged
    · simp only [committed, World.commit, Function.update_of_ne own] at acknowledged
      exact Or.inl acknowledged

theorem kafka_lawful : Lawful (kafkaFeed runtime settings log) Concerns UpTo where
  exclusive := kafka_exclusive
  receives := process_one_receives
  fresh places partition placed member := by
    have bound := (kafka_contiguous placed _).mp member
    exact lt_irrefl _ bound
  covered places placed place member other upTo := by
    have bound := (kafka_contiguous placed place).mp member
    refine (kafka_contiguous placed other).mpr ?_
    rw [upTo.1]
    exact lt_of_le_of_lt upTo.2 bound
  published places op choice world item returnable handed :=
    kafka_polled_published returnable handed
  silent op polls := by
    subst polls
    rfl
  unacknowledged op choice world place polls acknowledged := by
    rcases kafka_acknowledges acknowledged with before | ⟨record, commits, _⟩
    · exact before
    · rw [polls] at commits
      cases commits
  acknowledges item op choice world place own acknowledged := by
    rcases kafka_acknowledges acknowledged with before | ⟨record, commits, upTo⟩
    · exact Or.inl before
    · subst commits
      obtain rfl : record = item := own
      exact Or.inr upTo

end KafkaLaws

section Sqs

def handedMessage : (op : SqsDelivery.Op) → Except Exc op.Ret → Option SqsDelivery.SqsMessage
  | .receiveMessage, .ok (message :: _) => some message
  | _, _ => none

def sqsWrites : SqsDelivery.Op → Bool
  | .order _ => true
  | _ => false

def sqsReturnable (places : List Nat) : (op : SqsDelivery.Op) → op.Choice → Prop
  | .receiveMessage, .ok (some handle) => handle ∈ places
  | _, _ => True

/-- A place is the number of a message in the order of sending; one long poll is
the whole wait. -/
def sqsFeed (runtime : Runtime) (queue : Nat → Str) : Feed where
  broker := .sqs
  Op := SqsDelivery.Op
  Ret := SqsDelivery.Op.Ret
  Choice := SqsDelivery.Op.Choice
  World := SqsDelivery.World
  Value := Str
  Item := SqsDelivery.SqsMessage
  Place := Nat
  Route := Unit
  exec := SqsDelivery.exec queue
  processOne _ := SqsDelivery.processOne runtime
  awaits op := op = .receiveMessage
  hands := handedMessage
  placeOf message := message.receiptHandle
  nextPlace places _ := places.length
  returnable := sqsReturnable
  writes := sqsWrites
  acknowledged world place := place ∈ world.deleted

/-- The calls of a delivery of `message` once it has been received. -/
def ConcernsMessage (message : SqsDelivery.SqsMessage) : SqsDelivery.Op → Prop
  | .receiveMessage => False
  | .deleteMessage receiptHandle => receiptHandle = message.receiptHandle
  | .order _ => True

variable {runtime : Runtime} {queue : Nat → Str}

theorem sqs_exclusive :
    Exclusive (fun op => op = SqsDelivery.Op.receiveMessage) handedMessage ConcernsMessage where
  working message op own receives := by
    rw [receives] at own
    exact own
  handed op result message handed := by
    cases op with
    | receiveMessage => rfl
    | order _ | deleteMessage _ => cases handed

theorem sqs_receives :
    Receives (fun op => op = SqsDelivery.Op.receiveMessage) handedMessage ConcernsMessage
      (SqsDelivery.processOne runtime) := by
  refine ⟨rfl, ?_⟩
  intro result
  rcases result with fault | _ | ⟨message, others⟩
  · trivial
  · trivial
  · have deletes (event : OrderCreatedEvent) : Makes (ConcernsMessage message)
        ((Prog.perform (SqsDelivery.Op.deleteMessage message.receiptHandle)).bind fun _ =>
          pure event.eventId.str : Prog Exc SqsDelivery.Op.Ret Str) := by
      have own : ConcernsMessage message (.deleteMessage message.receiptHandle) := rfl
      exact makes_bind (makes_perform own) fun _ => makes_done _
    change Makes (ConcernsMessage message)
      ((Prog.done (SqsDelivery.decodeBody runtime message.body)).bind _)
    apply makes_bind (makes_done _)
    intro event
    apply makes_bind (makes_perform trivial)
    intro stored
    split_ifs
    · exact makes_bind (makes_perform trivial) fun _ => deletes event
    · exact deletes event

theorem sqs_placed_below {places : List (sqsFeed runtime queue).Place}
    (placed : Placed (sqsFeed runtime queue) places) :
    ∀ place : Nat, place ∈ (places : List Nat) → place < List.length places := by
  induction placed with
  | nil => exact fun _ member => (List.not_mem_nil member).elim
  | publish places route placed ih =>
      intro place member
      rw [List.length_append, List.length_singleton]
      rcases List.mem_append.mp member with before | new
      · exact Nat.lt_succ_of_lt (ih place before)
      · rw [List.mem_singleton.mp new]
        exact Nat.lt_succ_self _

theorem sqs_polled_published {places : List Nat} {op : SqsDelivery.Op} {choice : op.Choice}
    {world : SqsDelivery.World} {item : SqsDelivery.SqsMessage}
    (returnable : sqsReturnable places op choice)
    (handed : handedMessage op (SqsDelivery.exec queue op choice world).1 = some item) :
    item.receiptHandle ∈ places := by
  cases op with
  | order _ | deleteMessage _ => cases handed
  | receiveMessage =>
      rcases choice with fault | _ | handle
      · cases handed
      · cases handed
      · obtain rfl := Option.some.inj handed
        exact returnable

/-- Only the deletion of the message in hand acknowledges. -/
theorem sqs_acknowledges {op : SqsDelivery.Op} {choice : op.Choice} {world : SqsDelivery.World}
    {place : Nat} (acknowledged : place ∈ (SqsDelivery.exec queue op choice world).2.deleted) :
    place ∈ world.deleted ∨ op = .deleteMessage place := by
  cases op with
  | receiveMessage => exact Or.inl acknowledged
  | order op => exact Or.inl acknowledged
  | deleteMessage handle =>
      cases choice with
      | some fault => exact Or.inl acknowledged
      | none =>
          rcases List.mem_cons.mp acknowledged with same | before
          · exact Or.inr (same ▸ rfl)
          · exact Or.inl before

theorem sqs_lawful : Lawful (sqsFeed runtime queue) ConcernsMessage Eq where
  exclusive := sqs_exclusive
  receives _ := sqs_receives
  fresh places route placed member := lt_irrefl _ (sqs_placed_below placed _ member)
  covered places placed place member other same := same ▸ member
  published places op choice world item returnable handed :=
    sqs_polled_published returnable handed
  silent op receives := by
    subst receives
    rfl
  unacknowledged op choice world place receives acknowledged := by
    rcases sqs_acknowledges acknowledged with before | deletes
    · exact before
    · rw [receives] at deletes
      cases deletes
  acknowledges item op choice world place own acknowledged := by
    rcases sqs_acknowledges acknowledged with before | deletes
    · exact Or.inl before
    · subst deletes
      exact Or.inr own

/-- The calls of a received message whose order can be read. -/
theorem sqs_process_stores {body : Str} {event : OrderCreatedEvent}
    (decoded : SqsDelivery.decodeBody runtime body = .ok event) :
    ∃ next, SqsDelivery.processOne runtime = .call .receiveMessage next ∧
      ∀ handle, ∃ further, next (.ok [⟨handle, body⟩]) =
        .call (.order (.store event)) further := by
  refine ⟨_, rfl, ?_⟩
  intro handle
  have read : (Prog.done (SqsDelivery.decodeBody runtime body) :
      Prog Exc SqsDelivery.Op.Ret OrderCreatedEvent) = .done (.ok event) := by rw [decoded]
  simp only [Prog.bind_eq, Prog.pure_eq, Prog.bind, Prog.perform]
  rw [read]
  exact ⟨_, rfl⟩

end Sqs

section Pausing

variable (runtime : Runtime) (settings : LocalLabConfig) (log : Log) (queue : Nat → Str)

/-- Outside the polls that a pause can land in, every pause of either broker holds
back all that is published under it. -/
theorem pausing_holds_back (controls : Controls) (database : Database) :
    (∀ lab, Reaches runtime Timely
        (opening (kafkaFeed runtime settings log) controls { emptyWorld with database := database })
        lab → HeldBack lab) ∧
      ∀ lab, Reaches runtime Timely (opening (sqsFeed runtime queue) controls ⟨database, []⟩) lab →
        HeldBack lab := by
  constructor
  · intro lab reached
    have untouched : ∀ place, ¬(kafkaFeed runtime settings log).acknowledged
        { emptyWorld with database := database } place := fun place => Nat.not_lt_zero _
    have guarded := reaches_guarded kafka_lawful (opening_guarded controls _ untouched) reached
    exact guarded_held_back kafka_lawful guarded
  · intro lab reached
    have untouched : ∀ place, ¬(sqsFeed runtime queue).acknowledged ⟨database, []⟩ place :=
      fun place => List.not_mem_nil
    have guarded := reaches_guarded sqs_lawful (opening_guarded controls _ untouched) reached
    exact guarded_held_back sqs_lawful guarded

theorem orders_held_back_under_pause :
    (∃ lab, Reaches referenceRuntime Timely
        (opening (kafkaFeed referenceRuntime localLab fun _ _ => ⟨none, encodeUtf8 orderBody⟩)
          (fun _ => none) emptyWorld) lab ∧
      lab.pausing = true ∧ lab.controls .kafka = some true ∧ lab.loop = some ⟨none, none⟩ ∧
      lab.held ≠ [] ∧ HeldBack lab) ∧
    ∃ lab, Reaches referenceRuntime Timely
        (opening (sqsFeed referenceRuntime fun _ => orderBody) (fun _ => none)
          ⟨⟨emptyTables, []⟩, []⟩) lab ∧
      lab.pausing = true ∧ lab.controls .sqs = some true ∧ lab.loop = some ⟨none, none⟩ ∧
      lab.held ≠ [] ∧ HeldBack lab := by
  let log : Log := fun _ _ => ⟨none, encodeUtf8 orderBody⟩
  let queue : Nat → Str := fun _ => orderBody
  let fresh : Database := ⟨emptyTables, []⟩
  have heldBack := pausing_holds_back referenceRuntime localLab log queue (fun _ => none) fresh
  constructor
  · obtain ⟨lab, reached, pausing, paused, up, held⟩ := publication_under_pause
      (kafkaFeed referenceRuntime localLab log) referenceRuntime (0 : Nat)
      { emptyWorld with database := fresh }
    exact ⟨lab, reached, pausing, paused, up, List.ne_nil_of_mem held, heldBack.1 lab reached⟩
  · obtain ⟨lab, reached, pausing, paused, up, held⟩ := publication_under_pause
      (sqsFeed referenceRuntime queue) referenceRuntime () ⟨fresh, []⟩
    exact ⟨lab, reached, pausing, paused, up, List.ne_nil_of_mem held, heldBack.2 lab reached⟩

end Pausing

section Window

variable {runtime : Runtime} {payload : PyVal} {event : OrderCreatedEvent} {row : OrderRow}

/-- The Kafka worker polls, the pause lands, the order is published, and the poll
returns it. -/
theorem kafka_window (settings : LocalLabConfig) {value : Option ByteArray}
    (decoded : decodeValue runtime value = .ok (payload, event)) (fits : orderRow event = .ok row) :
    ∃ lab, Reaches runtime Unrestricted
        (opening (kafkaFeed runtime settings fun _ _ => ⟨none, value⟩) (fun _ => none) emptyWorld)
        lab ∧
      orderOfEvent (lab.world : World).database.tables event.eventId = some row ∧
      ∃ place ∈ lab.held, place ∈ lab.written := by
  let log : Log := fun _ _ => ⟨none, value⟩
  let record := message settings log 0 0
  let feed := kafkaFeed runtime settings log
  obtain ⟨next, polls, _, _, delivers⟩ := process_one_polls runtime (workerConsumer settings) 0
  have begins : feed.processOne 1 = .call .poll next := polls
  have read : decodeValue runtime record.value = .ok (payload, event) := decoded
  have sound : record.error = none := rfl
  obtain ⟨further, stores⟩ := process_stores (workerConsumer settings) sound read
  obtain ⟨tables, ran, _, _, ordered⟩ := first_store fits
  have returnable : kafkaReturnable settings log [(0, 0)] .poll (.ok (some record)) :=
    Or.inr ⟨(0, 0), List.mem_singleton_self _, rfl⟩
  obtain ⟨after, reached, final, held, written⟩ := window_reaches_write runtime begins emptyWorld
    (0 : Nat) (.ok (some record)) returnable rfl rfl ((delivers record).trans stores) rfl none
    fun _ => trivial
  refine ⟨after, reached, ?_, _, held, written⟩
  rw [final]
  simp only [feed, kafkaFeed, exec, emptyWorld, StoreOp.run, ran]
  exact ordered

theorem sqs_window {body : Str} (decoded : SqsDelivery.decodeBody runtime body = .ok event)
    (fits : orderRow event = .ok row) :
    ∃ lab, Reaches runtime Unrestricted
        (opening (sqsFeed runtime fun _ => body) (fun _ => none) ⟨⟨emptyTables, []⟩, []⟩) lab ∧
      orderOfEvent (lab.world : SqsDelivery.World).database.tables event.eventId = some row ∧
      ∃ place ∈ lab.held, place ∈ lab.written := by
  let feed := sqsFeed runtime fun _ => body
  obtain ⟨next, receives, delivers⟩ := sqs_process_stores decoded
  have begins : feed.processOne 1 = .call .receiveMessage next := receives
  obtain ⟨further, stores⟩ := delivers 0
  obtain ⟨tables, ran, _, _, ordered⟩ := first_store fits
  have returnable : sqsReturnable [0] .receiveMessage (.ok (some 0)) := List.mem_singleton_self _
  let queued : SqsDelivery.SqsMessage := ⟨0, body⟩
  let world : SqsDelivery.World := ⟨⟨emptyTables, []⟩, []⟩
  have handed : feed.hands .receiveMessage (.ok [queued]) = some queued := rfl
  obtain ⟨after, reached, final, held, written⟩ := window_reaches_write runtime begins world
    () (.ok (some 0)) returnable handed rfl stores rfl none fun _ => trivial
  refine ⟨after, reached, ?_, _, held, written⟩
  rw [final]
  simp only [feed, sqsFeed, SqsDelivery.exec, StoreOp.run, world, ran]
  exact ordered

/-- For either broker a pause that lands in a poll lets the order published after it
through to the database. -/
theorem pause_in_poll_not_held_back :
    (∃ lab, Reaches referenceRuntime Unrestricted
        (opening (kafkaFeed referenceRuntime localLab fun _ _ => ⟨none, encodeUtf8 orderBody⟩)
          (fun _ => none) emptyWorld) lab ∧
      (orderOfEvent (lab.world : World).database.tables documentedEvent.eventId).isSome ∧
      ¬HeldBack lab) ∧
    ∃ lab, Reaches referenceRuntime Unrestricted
        (opening (sqsFeed referenceRuntime fun _ => orderBody) (fun _ => none)
          ⟨⟨emptyTables, []⟩, []⟩) lab ∧
      (orderOfEvent (lab.world : SqsDelivery.World).database.tables
        documentedEvent.eventId).isSome ∧
      ¬HeldBack lab := by
  obtain ⟨payload, decoded⟩ := order_body_decoded
  obtain ⟨row, fits⟩ := StoreFidelity.documented_row
  constructor
  · obtain ⟨lab, reached, stored, place, held, written⟩ := kafka_window localLab decoded fits
    refine ⟨lab, reached, Option.isSome_of_eq_some stored, ?_⟩
    intro heldBack
    exact (heldBack place held).1 written
  · obtain ⟨lab, reached, stored, place, held, written⟩ := sqs_window order_body_parsed fits
    refine ⟨lab, reached, Option.isSome_of_eq_some stored, ?_⟩
    intro heldBack
    exact (heldBack place held).1 written

end Window

end OrderMessaging.LocalLab.PauseGap
