import OrderMessaging.Library.Transcript
import OrderMessaging.Contracts.Reference
import OrderMessaging.Processing.KafkaDelivery

/-!
The HTTP adapter that tells the downstream service about an order. Its loop
catches the HTTP library's own errors only. The library encodes header values as
ASCII, and a correlation ID may be any text: that is the one failure which leaves
the loop as something else than `DownstreamNotificationError`.
-/

namespace OrderMessaging.Processing.NotificationClient

open OrderMessaging.PyText OrderMessaging.PyException OrderMessaging.PyValue
open OrderMessaging.Program OrderMessaging.Transcript OrderMessaging.Contracts.Models
open OrderMessaging.Contracts.Reference OrderMessaging.Processing.RetryAndDeadLetter
open OrderMessaging.Processing.KafkaDelivery

set_option autoImplicit false

structure HttpRequest where
  url : Str
  headers : List (Str × Str)
  json : List (PyVal × PyVal)
  timeout : ℚ

structure HttpResponse where
  statusCode : Nat

inductive HttpOp where
  | post (request : HttpRequest)

abbrev HttpOp.Ret : HttpOp → Type
  | post _ => HttpResponse

abbrev Posts := List (Exchange Exc HttpOp.Ret)

def httpError : ExcClass := baseException.subclass "HTTPError"

structure OrderNotificationClient where
  baseUrl : Str
  timeoutSeconds : ℚ
  maxAttempts : Nat
  timeoutSeconds_pos : 0 < timeoutSeconds
  maxAttempts_pos : 0 < maxAttempts

section Notify

variable (raiseForStatus : HttpResponse → Except Exc Unit) (client : OrderNotificationClient)
variable (event : OrderCreatedEvent)

def request : HttpRequest where
  url := client.baseUrl ++ "/order-created"
  headers := [("Content-Type", "application/json"), ("X-Correlation-ID", event.correlationId.text),
    ("X-Event-ID", event.eventId.str)]
  json := [(.str "order_id", .str event.data.orderId.text),
    (.str "customer_id", .str event.data.customerId.text),
    (.str "amount", .float event.data.amount.value), (.str "currency", .str event.data.currency.text)]
  timeout := client.timeoutSeconds

def notificationFailed (lastError : Option Exc) : Exc :=
  ⟨downstreamNotificationError, "Downstream order notification failed after " ++
    PyVal.decimal client.maxAttempts ++ " attempt(s) for event " ++ event.eventId.str ++ ": " ++
    (lastError.map Exc.message).getD "None"⟩

/-- The body of the `try`. -/
def postOnce : Prog Exc HttpOp.Ret Unit := do
  let response ← Prog.perform (HttpOp.post (request client event))
  Prog.done (raiseForStatus response)

/-- The attempts that are left, with the error of the last one made. -/
def postLoop : Nat → Option Exc → Prog Exc HttpOp.Ret Unit
  | 0, lastError => Prog.raise (notificationFailed client event lastError)
  | left + 1, _ => do
      match ← Prog.attempt (postOnce raiseForStatus client event) with
      | .ok () => pure ()
      | .error fault =>
          if fault.isInstance [httpError] then postLoop left (some fault) else Prog.raise fault

def notify : Prog Exc HttpOp.Ret Unit := postLoop raiseForStatus client event client.maxAttempts none

end Notify

def IsAscii (text : Str) : Prop := ∀ point ∈ text, point.val < 0x80

instance (text : Str) : Decidable (IsAscii text) :=
  List.decidableBAll (fun point : CodePoint => point.val < 0x80) text

def IsSuccess (response : HttpResponse) : Prop :=
  200 ≤ response.statusCode ∧ response.statusCode < 300

/-- Every number of a body has a JSON form. -/
def FiniteBody (request : HttpRequest) : Prop :=
  ∀ entry ∈ request.json, ∀ amount, entry.2 = .float amount → ∃ value, amount = .finite value

/-- What the HTTP library answers to one `post`. -/
structure PostAnswers (exchange : Exchange Exc HttpOp.Ret) : Prop where
  header : ∀ request, exchange.op = .post request →
    (∃ entry ∈ request.headers, ¬IsAscii entry.2) →
      ∃ message, exchange.answer = .error ⟨unicodeEncodeError, message⟩
  transport : ∀ request fault, exchange.op = .post request →
    (∀ entry ∈ request.headers, IsAscii entry.2) → FiniteBody request →
      exchange.answer = .error fault → fault.isInstance [httpError] = true

structure StatusRaises (raiseForStatus : HttpResponse → Except Exc Unit) : Prop where
  success : ∀ response, IsSuccess response → raiseForStatus response = .ok ()
  failure : ∀ response, ¬IsSuccess response →
    ∃ fault, raiseForStatus response = .error fault ∧ fault.isInstance [httpError] = true

/-- The exchange got a 2xx answer. -/
def Accepted : Exchange Exc HttpOp.Ret → Prop
  | ⟨.post _, answer⟩ => ∃ response, answer = .ok response ∧ IsSuccess response

section Attempts

variable {raiseForStatus : HttpResponse → Except Exc Unit} {client : OrderNotificationClient}
variable {event : OrderCreatedEvent}

def postOutcome (raiseForStatus : HttpResponse → Except Exc Unit) :
    Except Exc HttpResponse → Except Exc Unit
  | .ok response => raiseForStatus response
  | .error fault => .error fault

theorem post_once_transcribes_iff {posts : Posts} {outcome : Except Exc Unit} :
    Transcribes (postOnce raiseForStatus client event) posts outcome ↔
      ∃ answer, posts = [⟨.post (request client event), answer⟩] ∧
        outcome = postOutcome raiseForStatus answer := by
  unfold postOnce
  refine transcribes_step_iff.trans ?_
  constructor
  · rintro ⟨answer, rest, rfl, resumed⟩
    cases answer with
    | error fault =>
        obtain ⟨rfl, rfl⟩ := resumed
        exact ⟨.error fault, rfl, rfl⟩
    | ok response =>
        obtain ⟨rfl, rfl⟩ := transcribes_done_iff.mp resumed
        exact ⟨.ok response, rfl, rfl⟩
  · rintro ⟨answer, rfl, rfl⟩
    refine ⟨answer, [], rfl, ?_⟩
    cases answer with
    | error fault => exact ⟨rfl, rfl⟩
    | ok response => exact transcribes_done_iff.mpr ⟨rfl, rfl⟩

/-- What the loop sends: it stops at the first post that does not raise an HTTP
error, and gives up after the last. -/
inductive PostsLoop (raiseForStatus : HttpResponse → Except Exc Unit)
    (client : OrderNotificationClient) (event : OrderCreatedEvent) :
    Nat → Option Exc → Posts → Except Exc Unit → Prop where
  | exhausted (lastError : Option Exc) : PostsLoop raiseForStatus client event 0 lastError []
      (.error (notificationFailed client event lastError))
  | accepted (left : Nat) (lastError : Option Exc) (answer : Except Exc HttpResponse)
      (succeeded : postOutcome raiseForStatus answer = .ok ()) :
      PostsLoop raiseForStatus client event (left + 1) lastError
        [⟨.post (request client event), answer⟩] (.ok ())
  | escaped (left : Nat) (lastError : Option Exc) (answer : Except Exc HttpResponse) (fault : Exc)
      (failed : postOutcome raiseForStatus answer = .error fault)
      (uncaught : fault.isInstance [httpError] = false) :
      PostsLoop raiseForStatus client event (left + 1) lastError
        [⟨.post (request client event), answer⟩] (.error fault)
  | again (left : Nat) (lastError : Option Exc) (answer : Except Exc HttpResponse) (fault : Exc)
      (rest : Posts) (outcome : Except Exc Unit)
      (failed : postOutcome raiseForStatus answer = .error fault)
      (caught : fault.isInstance [httpError] = true)
      (further : PostsLoop raiseForStatus client event left (some fault) rest outcome) :
      PostsLoop raiseForStatus client event (left + 1) lastError
        (⟨.post (request client event), answer⟩ :: rest) outcome

theorem posts_of_transcribes {left : Nat} {lastError : Option Exc} {posts : Posts}
    {outcome : Except Exc Unit}
    (transcribed : Transcribes (postLoop raiseForStatus client event left lastError) posts
      outcome) :
    PostsLoop raiseForStatus client event left lastError posts outcome := by
  induction left generalizing lastError posts with
  | zero =>
      obtain ⟨rfl, rfl⟩ := transcribes_raise_iff.mp transcribed
      exact .exhausted lastError
  | succ left ih =>
      unfold postLoop at transcribed
      obtain ⟨first, rest, result, rfl, attempted, resumed⟩ := transcribes_bind_iff.mp transcribed
      obtain ⟨ended, rfl, posted⟩ := transcribes_attempt_iff.mp attempted
      obtain ⟨answer, rfl, same⟩ := post_once_transcribes_iff.mp posted
      cases ended with
      | ok _ =>
          obtain ⟨rfl, rfl⟩ := transcribes_done_iff.mp resumed
          exact .accepted left lastError answer same.symm
      | error fault =>
          simp only [Resumes] at resumed
          by_cases caught : fault.isInstance [httpError] = true
          · rw [if_pos caught] at resumed
            exact .again left lastError answer fault rest outcome same.symm caught (ih resumed)
          · rw [if_neg caught] at resumed
            obtain ⟨rfl, rfl⟩ := transcribes_raise_iff.mp resumed
            exact .escaped left lastError answer fault same.symm (Bool.eq_false_iff.mpr caught)

/-- Never more posts than attempts, whatever the answers are. -/
theorem posts_bounded {left : Nat} {lastError : Option Exc} {posts : Posts}
    {outcome : Except Exc Unit}
    (sent : PostsLoop raiseForStatus client event left lastError posts outcome) :
    posts.length ≤ left := by
  induction sent with
  | exhausted lastError => exact Nat.le_refl 0
  | accepted left lastError answer succeeded => simp
  | escaped left lastError answer fault failed uncaught => simp
  | again left lastError answer fault rest outcome failed caught further ih =>
      rw [List.length_cons]
      omega

end Attempts

section Classification

variable (client : OrderNotificationClient)

/-- What `notify` promises: a return after at most the allowed posts, of which the
last got the only 2xx answer, or its own error after exactly the allowed posts,
which a policy that declares it retries. -/
structure ClassifiedAsPromised (posts : Posts) (outcome : Except Exc Unit) : Prop where
  returned : outcome = .ok () → posts.length ≤ client.maxAttempts ∧
    ∃ early last, posts = early ++ [last] ∧ Accepted last ∧ ∀ exchange ∈ early, ¬Accepted exchange
  raised : ∀ fault, outcome = .error fault →
    fault.type = downstreamNotificationError ∧ posts.length = client.maxAttempts ∧
      ∀ policy : RetryPolicy, downstreamNotificationError ∈ policy.retryableErrors →
        policy.isRetryable fault = true

variable {client} {raiseForStatus : HttpResponse → Except Exc Unit} {event : OrderCreatedEvent}

theorem hex_digit_ascii (nibble : Nat) (bound : nibble < 16) : (hexDigit nibble).val < 0x80 := by
  unfold hexDigit
  split
  · simp only [Fin.ofNat]
    omega
  · simp only [Fin.ofNat]
    omega

theorem ascii_encodable {text : Str} (ascii : IsAscii text) : Encodable text := by
  intro point member surrogate
  have low : point.val < 0x80 := ascii point member
  have high : 0xD800 ≤ point.val := surrogate.1
  omega

theorem uuid_ascii (id : Uuid) : IsAscii id.str := by
  have hex : ∀ point ∈ id.hex, point.val < 0x80 := by
    intro point member
    obtain ⟨index, _, rfl⟩ := List.mem_map.mp member
    exact hex_digit_ascii _ (Nat.mod_lt _ (by decide))
  have dash : IsAscii (ofString "-") := by decide
  intro point member
  simp only [Uuid.str, List.mem_append] at member
  rcases member with ((((((((first | first) | first) | first) | first) | first) | first) | first)
    | first)
  · exact hex point (List.mem_of_mem_take first)
  · exact dash point first
  · exact hex point (List.mem_of_mem_drop (List.mem_of_mem_take first))
  · exact dash point first
  · exact hex point (List.mem_of_mem_drop (List.mem_of_mem_take first))
  · exact dash point first
  · exact hex point (List.mem_of_mem_drop (List.mem_of_mem_take first))
  · exact dash point first
  · exact hex point (List.mem_of_mem_drop first)

theorem headers_ascii_iff :
    (∀ entry ∈ (request client event).headers, IsAscii entry.2) ↔
      IsAscii event.correlationId.text := by
  have contentType : IsAscii (ofString "application/json") := by decide +kernel
  simp only [request, List.mem_cons, List.not_mem_nil, or_false, forall_eq_or_imp, forall_eq]
  constructor
  · rintro ⟨_, correlation, _⟩
    exact correlation
  · intro correlation
    exact ⟨contentType, correlation, uuid_ascii event.eventId⟩

theorem body_finite {value : ℚ} (finite : event.data.amount.value = .finite value) :
    FiniteBody (request client event) := by
  intro entry member amount same
  simp only [request, List.mem_cons, List.not_mem_nil, or_false] at member
  rcases member with rfl | rfl | rfl | rfl
  · cases same
  · cases same
  · cases same
    exact ⟨value, finite⟩
  · cases same

/-- With ASCII headers and a finite body every failed post raises an HTTP error. -/
theorem failed_post_caught (status : StatusRaises raiseForStatus)
    (ascii : IsAscii event.correlationId.text) {value : ℚ}
    (finite : event.data.amount.value = .finite value) {answer : Except Exc HttpResponse}
    (answers : PostAnswers ⟨.post (request client event), answer⟩) {fault : Exc}
    (failed : postOutcome raiseForStatus answer = .error fault) :
    fault.isInstance [httpError] = true := by
  cases answer with
  | error transport =>
      cases failed
      exact answers.transport (request client event) fault rfl (headers_ascii_iff.mpr ascii)
        (body_finite finite) rfl
  | ok response =>
      by_cases success : IsSuccess response
      · rw [postOutcome, status.success response success] at failed
        cases failed
      · obtain ⟨raised, same, caught⟩ := status.failure response success
        rw [postOutcome, same] at failed
        cases failed
        exact caught

theorem accepted_iff (status : StatusRaises raiseForStatus) {answer : Except Exc HttpResponse} :
    Accepted ⟨.post (request client event), answer⟩ ↔ postOutcome raiseForStatus answer = .ok () := by
  cases answer with
  | error fault => simp [Accepted, postOutcome]
  | ok response =>
      by_cases success : IsSuccess response
      · simp [Accepted, postOutcome, status.success response success, success]
      · obtain ⟨fault, raised, _⟩ := status.failure response success
        simp [Accepted, postOutcome, raised, success]

/-- What the loop does when every failure is an HTTP error. -/
theorem posts_classified (status : StatusRaises raiseForStatus)
    (ascii : IsAscii event.correlationId.text) {value : ℚ}
    (finite : event.data.amount.value = .finite value) {left : Nat} {lastError : Option Exc}
    {posts : Posts} {outcome : Except Exc Unit} (answers : ∀ exchange ∈ posts, PostAnswers exchange)
    (sent : PostsLoop raiseForStatus client event left lastError posts outcome) :
    (outcome = .ok () ∧ ∃ early last, posts = early ++ [last] ∧ Accepted last ∧
      ∀ exchange ∈ early, ¬Accepted exchange) ∨
    (posts.length = left ∧ ∃ error, outcome = .error (notificationFailed client event error)) := by
  induction sent with
  | exhausted lastError => exact .inr ⟨rfl, lastError, rfl⟩
  | accepted left lastError answer succeeded =>
      exact .inl ⟨rfl, [], _, rfl, (accepted_iff status).mpr succeeded, by simp⟩
  | escaped left lastError answer fault failed uncaught =>
      have caught := failed_post_caught status ascii finite (answers _ List.mem_cons_self) failed
      rw [uncaught] at caught
      cases caught
  | again left lastError answer fault rest outcome failed caught further ih =>
      have refused : ¬Accepted ⟨.post (request client event), answer⟩ := by
        rw [accepted_iff status, failed]
        simp
      rcases ih fun exchange member => answers exchange (List.mem_cons_of_mem _ member) with
        ⟨rfl, early, last, rfl, accepted, before⟩ | ⟨length, error, rfl⟩
      · refine .inl ⟨rfl, _ :: early, last, rfl, accepted, ?_⟩
        intro exchange member
        rcases List.mem_cons.mp member with rfl | later
        · exact refused
        · exact before exchange later
      · exact .inr ⟨by rw [List.length_cons, length], error, rfl⟩

/-- A header that has no ASCII form ends the loop at its first post. -/
theorem posts_escape (accented : ¬IsAscii event.correlationId.text) {left : Nat}
    {lastError : Option Exc} {posts : Posts} {outcome : Except Exc Unit}
    (answers : ∀ exchange ∈ posts, PostAnswers exchange)
    (sent : PostsLoop raiseForStatus client event (left + 1) lastError posts outcome) :
    ∃ message, outcome = .error ⟨unicodeEncodeError, message⟩ := by
  have unencodable : ∃ entry ∈ (request client event).headers, ¬IsAscii entry.2 := by
    by_contra all
    have ascii : ∀ entry ∈ (request client event).headers, IsAscii entry.2 := by
      intro entry member
      by_contra other
      exact all ⟨entry, member, other⟩
    exact accented (headers_ascii_iff.mp ascii)
  have refused : ∀ answer rest, posts = ⟨.post (request client event), answer⟩ :: rest →
      ∃ message, answer = .error ⟨unicodeEncodeError, message⟩ := by
    intro answer rest same
    subst same
    exact (answers _ List.mem_cons_self).header (request client event) rfl unencodable
  cases sent with
  | accepted _ _ answer succeeded =>
      obtain ⟨message, rfl⟩ := refused answer [] rfl
      cases succeeded
  | escaped _ _ answer fault failed uncaught =>
      obtain ⟨message, rfl⟩ := refused answer [] rfl
      cases failed
      exact ⟨message, rfl⟩
  | again _ _ answer fault rest outcome failed caught further =>
      obtain ⟨message, rfl⟩ := refused answer rest rfl
      cases failed
      cases caught

theorem notification_classified_iff (raiseForStatus : HttpResponse → Except Exc Unit)
    (status : StatusRaises raiseForStatus) (client : OrderNotificationClient)
    (event : OrderCreatedEvent) (value : ℚ) (finite : event.data.amount.value = .finite value)
    (posts : Posts) (outcome : Except Exc Unit)
    (transcribed : Transcribes (notify raiseForStatus client event) posts outcome)
    (answers : ∀ exchange ∈ posts, PostAnswers exchange) :
    ClassifiedAsPromised client posts outcome ↔ IsAscii event.correlationId.text := by
  have sent := posts_of_transcribes transcribed
  constructor
  · intro classified
    by_contra accented
    obtain ⟨left, allowed⟩ := Nat.exists_eq_succ_of_ne_zero client.maxAttempts_pos.ne'
    rw [allowed] at sent
    obtain ⟨message, rfl⟩ := posts_escape accented answers sent
    have own : unicodeEncodeError = downstreamNotificationError := (classified.raised _ rfl).1
    exact absurd own (by decide)
  · intro ascii
    have bounded := posts_bounded sent
    rcases posts_classified status ascii finite answers sent with
      ⟨rfl, ended⟩ | ⟨length, error, rfl⟩
    · refine ⟨fun _ => ⟨bounded, ended⟩, ?_⟩
      intro fault contrary
      cases contrary
    · refine ⟨?_, ?_⟩
      · intro contrary
        cases contrary
      · intro fault same
        cases same
        refine ⟨rfl, length, ?_⟩
        intro policy declared
        have listed : downstreamNotificationError.ancestors.contains
            downstreamNotificationError.name = true := by decide
        exact List.any_eq_true.mpr ⟨downstreamNotificationError, declared, listed⟩

/-- `raise_for_status` in the words of its documentation. -/
def documentedStatus (response : HttpResponse) : Except Exc Unit :=
  if 200 ≤ response.statusCode ∧ response.statusCode < 300 then .ok ()
  else .error ⟨httpError.subclass "HTTPStatusError", "Server error"⟩

theorem documented_status : StatusRaises documentedStatus where
  success response success := if_pos success
  failure response refused := ⟨_, if_neg refused, by decide⟩

def localClient : OrderNotificationClient :=
  ⟨"http://localhost:8080", 2, 3, by norm_num, by decide⟩

theorem accepted_notification_classified :
    ClassifiedAsPromised localClient
      [⟨.post (request localClient documentedEvent), .ok ⟨202⟩⟩] (.ok ()) := by
  have transcribed : Transcribes (notify documentedStatus localClient documentedEvent)
      [⟨.post (request localClient documentedEvent), .ok ⟨202⟩⟩] (.ok ()) := by
    refine transcribes_bind_iff.mpr ⟨_, [], .ok (.ok ()), rfl, transcribes_attempt_iff.mpr
      ⟨.ok (), rfl, post_once_transcribes_iff.mpr ⟨.ok ⟨202⟩, rfl, rfl⟩⟩, ?_⟩
    exact transcribes_done_iff.mpr ⟨rfl, rfl⟩
  have ascii : IsAscii documentedEvent.correlationId.text := by decide +kernel
  refine (notification_classified_iff documentedStatus documented_status localClient documentedEvent
    500 rfl _ _ transcribed ?_).mpr ascii
  intro exchange member
  rw [List.mem_singleton.mp member]
  constructor
  · rintro request same ⟨entry, sent, accented⟩
    cases same
    exact absurd (headers_ascii_iff.mpr ascii entry sent) accented
  · intro request fault _ _ _ contrary
    cases contrary

/-- The documented order with a correlation ID outside ASCII. -/
def accentedEvent : OrderCreatedEvent :=
  { documentedEvent with correlationId := ⟨[0xE9], by decide, by decide⟩ }

/-- The header cannot be encoded, and its exception leaves `notify` after one
post of three. -/
theorem accented_correlation_escapes :
    ∃ posts outcome, StatusRaises documentedStatus ∧
      Transcribes (notify documentedStatus localClient accentedEvent) posts outcome ∧
      (∀ exchange ∈ posts, PostAnswers exchange) ∧
      outcome = .error ⟨unicodeEncodeError, "'ascii' codec can't encode character"⟩ ∧
      ¬ClassifiedAsPromised localClient posts outcome := by
  refine ⟨[⟨.post (request localClient accentedEvent),
    .error ⟨unicodeEncodeError, "'ascii' codec can't encode character"⟩⟩], _, documented_status,
    ?_, ?_, rfl, ?_⟩
  · refine transcribes_bind_iff.mpr ⟨_, [], .ok (.error _), rfl, transcribes_attempt_iff.mpr
      ⟨.error _, rfl, post_once_transcribes_iff.mpr ⟨.error _, rfl, rfl⟩⟩, ?_⟩
    exact transcribes_raise_iff.mpr ⟨rfl, rfl⟩
  · intro exchange member
    rw [List.mem_singleton.mp member]
    constructor
    · intro request same accented
      exact ⟨_, rfl⟩
    · intro sent fault same ascii
      cases same
      have accented : ¬IsAscii accentedEvent.correlationId.text := by decide
      exact absurd (headers_ascii_iff.mp ascii) accented
  · intro classified
    have own := (classified.raised _ rfl).1
    exact absurd own (by decide)

end Classification

end OrderMessaging.Processing.NotificationClient
