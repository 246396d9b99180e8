import Mathlib.Data.List.DropRight
import OrderMessaging.Contracts.Validation
import OrderMessaging.Contracts.Reference
import OrderMessaging.Processing.KafkaDelivery

/-!
The Kafka probe of the tests: `start` and `wait_for_event` as loops over what the
clock, the consumer and the assignment answer in each round. A call whose rounds
have run out is still in its loop, so the theorems speak of calls in progress and
of loops that never end. `polled` and `examined` record what `poll` returned and
what the predicates were given; the source keeps neither.
-/

namespace OrderMessaging.TestHelpers.EventProbe

open OrderMessaging.PyText OrderMessaging.PyException OrderMessaging.PyValue
open OrderMessaging.Contracts.Models OrderMessaging.Contracts.Validation
open OrderMessaging.Contracts.Reference OrderMessaging.Processing.KafkaCollaborators
open OrderMessaging.Processing.KafkaDelivery

set_option autoImplicit false

def kafkaProbeError : ExcClass := runtimeError.subclass "KafkaProbeError"
def kafkaProbeTimeout : ExcClass := timeoutError.subclass "KafkaProbeTimeout"

structure ProbeSettings where
  groupId : Str
  startupTimeoutSeconds : ℚ
  pollIntervalSeconds : ℚ
  diagnosticRecordLimit : Int

structure BrokerMessage extends Message where
  timestampMs : Option Int
  headers : Option (List (Str × Option ByteArray))

structure ObservedKafkaRecord where
  topic : Str
  partition : Nat
  offset : Nat
  timestampMs : Option Int
  key : Option ByteArray
  value : Option ByteArray
  headers : List (Str × Option ByteArray)
  event : Option OrderCreatedEvent
  parseError : Option Str

/-- The attributes the exception carries besides its text. -/
structure KafkaProbeTimeout where
  topic : Str
  groupId : Str
  timeoutSeconds : ℚ
  observedCount : Nat
  observedSummaries : List Str

inductive ProbeFault where
  | exception (fault : Exc)
  | timeout (evidence : KafkaProbeTimeout)

/-- How a call stands: inside its loop, returned, or ended by an exception. -/
inductive Progress (Value : Type) where
  | running
  | returned (value : Value)
  | raised (fault : ProbeFault)

def Progress.map {Value Result : Type} (change : Value → Result) : Progress Value → Progress Result
  | .running => .running
  | .returned value => .returned (change value)
  | .raised fault => .raised fault

structure KafkaEventProbe where
  started : Bool
  closed : Bool
  pending : List ObservedKafkaRecord
  polled : List BrokerMessage
  examined : List ObservedKafkaRecord

def freshProbe : KafkaEventProbe := ⟨false, false, [], [], []⟩

abbrev RecordPredicate := ObservedKafkaRecord → Bool

structure StartRound where
  clock : ℚ
  poll : ℚ → Except Exc (Option BrokerMessage)
  assigned : Bool

/-- The clock and the consumer of one pass, used where no record is pending. -/
structure WaitRound where
  clock : ℚ
  poll : ℚ → Except Exc (Option BrokerMessage)

structure Startup where
  clock : ℚ
  rounds : List StartRound

structure Waiting where
  clock : ℚ
  rounds : List WaitRound

section Records

variable (runtime : Runtime)

/-- The body of the `try`. -/
def parseValue (value : Option ByteArray) : Except Exc OrderCreatedEvent := do
  let text ← match value with
    | some data => decode runtime data
    | none => .ok []
  let decoded ← runtime.loads text
  requireObject decoded
  parseOrderCreatedEvent runtime decoded

def parseFailures : List ExcClass :=
  [contractValidationError, unicodeDecodeError, jsonDecodeError, typeError, validationError,
    valueError]

def parseErrorText (fault : Exc) : Str := fault.type.name ++ ": " ++ fault.message

def consumerError (message : Message) (error : Str) : Exc :=
  ⟨kafkaProbeError, "Kafka consumer error at " ++ message.topic ++ "[" ++
    PyVal.decimal message.partition ++ "]: " ++ error⟩

def observed (message : BrokerMessage) (event : Option OrderCreatedEvent)
    (parseError : Option Str) : ObservedKafkaRecord where
  topic := message.topic
  partition := message.partition
  offset := message.offset
  timestampMs := message.timestampMs.filter fun milliseconds => decide (0 ≤ milliseconds)
  key := message.key
  value := message.value
  headers := message.headers.getD []
  event := event
  parseError := parseError

def toRecord (message : BrokerMessage) : Except Exc ObservedKafkaRecord :=
  match message.error with
  | some error => .error (consumerError message.toMessage error)
  | none =>
      match parseValue runtime message.value with
      | .ok event => .ok (observed message (some event) none)
      | .error fault =>
          if fault.isInstance parseFailures then
            .ok (observed message none (some (parseErrorText fault)))
          else .error fault

def ObservedKafkaRecord.keyRepr (record : ObservedKafkaRecord) : Str :=
  match keyText record.key with
  | some text => runtime.repr text
  | none => "None"

def summarize (record : ObservedKafkaRecord) : Str :=
  let location := record.topic ++ "[" ++ PyVal.decimal record.partition ++ "]@" ++
    PyVal.decimal record.offset
  match record.event with
  | some event =>
      location ++ " key=" ++ record.keyRepr runtime ++ " event_id=" ++ event.eventId.str ++
        " correlation_id=" ++ runtime.repr event.correlationId.text
  | none =>
      let text := match record.parseError with
        | some text => if text = [] then ofString "unparseable record" else text
        | none => "unparseable record"
      let detail := replaceText text "\n" " "
      location ++ " key=" ++ record.keyRepr runtime ++ " parse_error=" ++
        runtime.repr (detail.take 160)

def KafkaProbeTimeout.exc (evidence : KafkaProbeTimeout) : Exc :=
  let joined : Str := List.intercalate (ofString "; ") evidence.observedSummaries
  let shown : Str := if joined = [] then "none" else joined
  ⟨kafkaProbeTimeout, "No matching Kafka event appeared on topic " ++
    runtime.repr evidence.topic ++ " within " ++ runtime.twoDecimals evidence.timeoutSeconds ++
    " seconds; group_id=" ++ runtime.repr evidence.groupId ++ ", observed_count=" ++
    PyVal.decimal evidence.observedCount ++ ", observed=[" ++ shown ++ "]"⟩

end Records

section Loops

variable (runtime : Runtime) (settings : ProbeSettings) (topic : Str)

/-- `poll` and the conversion of what it returned; a record that cannot be
converted is gone. -/
def KafkaEventProbe.receive (probe : KafkaEventProbe) (answer : Except Exc (Option BrokerMessage)) :
    Except Exc (Option ObservedKafkaRecord) × KafkaEventProbe :=
  match answer with
  | .error fault => (.error fault, probe)
  | .ok none => (.ok none, probe)
  | .ok (some message) =>
      let probe := { probe with polled := probe.polled ++ [message] }
      match toRecord runtime message with
      | .error fault => (.error fault, probe)
      | .ok record => (.ok (some record), probe)

def notAssigned : Exc :=
  ⟨kafkaProbeError, "Kafka probe did not receive a partition assignment for topic " ++
    runtime.repr topic ++ " within " ++ runtime.twoDecimals settings.startupTimeoutSeconds ++
    " seconds; group_id=" ++ runtime.repr settings.groupId ++ "."⟩

def startLoop (deadline : ℚ) : List StartRound → KafkaEventProbe → Progress Unit × KafkaEventProbe
  | [], probe => (.running, probe)
  | round :: rounds, probe =>
      let remaining := deadline - round.clock
      if remaining ≤ 0 then (.raised (.exception (notAssigned runtime settings topic)), probe)
      else
        match probe.receive runtime (round.poll (min settings.pollIntervalSeconds remaining)) with
        | (.error fault, probe) => (.raised (.exception fault), probe)
        | (.ok record, probe) =>
            let probe := { probe with pending := probe.pending ++ record.toList }
            if round.assigned then (.returned (), { probe with started := true })
            else startLoop deadline rounds probe

def KafkaEventProbe.start (probe : KafkaEventProbe) (startup : Startup) :
    Progress Unit × KafkaEventProbe :=
  if probe.closed then
    (.raised (.exception ⟨kafkaProbeError, "A closed Kafka probe cannot be restarted."⟩), probe)
  else if probe.started then (.returned (), probe)
  else
    startLoop runtime settings topic (startup.clock + settings.startupTimeoutSeconds)
      startup.rounds probe

/-- Where a pass of the wait loop gets to. -/
inductive Pass where
  | expired
  | nothing
  | record (record : ObservedKafkaRecord)

def KafkaEventProbe.next (probe : KafkaEventProbe) (deadline : ℚ) (round : WaitRound) :
    Except Exc Pass × KafkaEventProbe :=
  match probe.pending with
  | record :: pending => (.ok (.record record), { probe with pending := pending })
  | [] =>
      let remaining := deadline - round.clock
      if remaining ≤ 0 then (.ok .expired, probe)
      else
        match probe.receive runtime (round.poll (min settings.pollIntervalSeconds remaining)) with
        | (.error fault, probe) => (.error fault, probe)
        | (.ok none, probe) => (.ok .nothing, probe)
        | (.ok (some record), probe) => (.ok (.record record), probe)

/-- `append` to a deque of that `maxlen`. -/
def pushBounded (limit : Nat) (summaries : List Str) (summary : Str) : List Str :=
  (summaries ++ [summary]).rtake limit

structure Search where
  predicate : RecordPredicate
  timeoutSeconds : ℚ
  deadline : ℚ
  limit : Nat

def waitLoop (search : Search) : List WaitRound → Nat → List Str → KafkaEventProbe →
    Progress ObservedKafkaRecord × KafkaEventProbe
  | [], _, _, probe => (.running, probe)
  | round :: rounds, observedCount, summaries, probe =>
      match probe.next runtime settings search.deadline round with
      | (.error fault, probe) => (.raised (.exception fault), probe)
      | (.ok .expired, probe) =>
          (.raised (.timeout
            ⟨topic, settings.groupId, search.timeoutSeconds, observedCount, summaries⟩), probe)
      | (.ok .nothing, probe) => waitLoop search rounds observedCount summaries probe
      | (.ok (.record record), probe) =>
          let probe := { probe with examined := probe.examined ++ [record] }
          if search.predicate record then (.returned record, probe)
          else
            let summaries := pushBounded search.limit summaries (summarize runtime record)
            waitLoop search rounds (observedCount + 1) summaries probe

/-- `start` has returned, or was not called. -/
def KafkaEventProbe.search (probe : KafkaEventProbe) (predicate : RecordPredicate)
    (timeoutSeconds : ℚ) (waiting : Waiting) : Progress ObservedKafkaRecord × KafkaEventProbe :=
  if settings.diagnosticRecordLimit < 0 then
    (.raised (.exception ⟨valueError, "maxlen must be non-negative"⟩), probe)
  else
    waitLoop runtime settings topic
      ⟨predicate, timeoutSeconds, waiting.clock + timeoutSeconds,
        settings.diagnosticRecordLimit.toNat⟩
      waiting.rounds 0 [] probe

def KafkaEventProbe.waitForEvent (probe : KafkaEventProbe) (predicate : RecordPredicate)
    (timeoutSeconds : ℚ) (startup : Startup) (waiting : Waiting) :
    Progress ObservedKafkaRecord × KafkaEventProbe :=
  if timeoutSeconds ≤ 0 then
    (.raised (.exception ⟨valueError, "timeout_seconds must be greater than zero."⟩), probe)
  else if probe.started then
    probe.search runtime settings topic predicate timeoutSeconds waiting
  else
    match probe.start runtime settings topic startup with
    | (.running, probe) => (.running, probe)
    | (.raised fault, probe) => (.raised fault, probe)
    | (.returned (), probe) =>
        probe.search runtime settings topic predicate timeoutSeconds waiting

def KafkaEventProbe.close (probe : KafkaEventProbe) : KafkaEventProbe :=
  if probe.closed then probe else { probe with closed := true }

end Loops

inductive Call where
  | start (startup : Startup)
  | waitForEvent (predicate : RecordPredicate) (timeoutSeconds : ℚ) (startup : Startup)
      (waiting : Waiting)
  | close

structure Report where
  call : Call
  before : KafkaEventProbe
  outcome : Progress (Option ObservedKafkaRecord)
  after : KafkaEventProbe

section Calls

variable (runtime : Runtime) (settings : ProbeSettings) (topic : Str)

def Call.perform (probe : KafkaEventProbe) :
    Call → Progress (Option ObservedKafkaRecord) × KafkaEventProbe
  | .start startup =>
      let (progress, probe) := probe.start runtime settings topic startup
      (progress.map fun _ => none, probe)
  | .waitForEvent predicate timeoutSeconds startup waiting =>
      let (progress, probe) :=
        probe.waitForEvent runtime settings topic predicate timeoutSeconds startup waiting
      (progress.map some, probe)
  | .close => (.returned none, probe.close)

/-- One call after the other; the one that is still running is the last. -/
def runCalls : List Call → KafkaEventProbe → List Report
  | [], _ => []
  | call :: calls, probe =>
      let (outcome, after) := call.perform runtime settings topic probe
      ⟨call, probe, outcome, after⟩ ::
        match outcome with
        | .running => []
        | _ => runCalls calls after

end Calls

/-- A message that `poll` may return to the call. -/
def Call.Polls (message : BrokerMessage) : Call → Prop
  | .start startup => ∃ round ∈ startup.rounds, ∃ timeout, round.poll timeout = .ok (some message)
  | .waitForEvent _ _ startup waiting =>
      (∃ round ∈ startup.rounds, ∃ timeout, round.poll timeout = .ok (some message)) ∨
        ∃ round ∈ waiting.rounds, ∃ timeout, round.poll timeout = .ok (some message)
  | .close => False

end OrderMessaging.TestHelpers.EventProbe
