import OrderMessaging.Contracts.Models

/-!
The pause controls that the dashboard and the workers share: one row for each
broker, in a table whose check constraint admits no other. A transaction is a
function of the rows; one that raises leaves them as they are.
-/

namespace OrderMessaging.LocalLab.ConsumerControls

open OrderMessaging.PyText OrderMessaging.PyException OrderMessaging.Contracts.Models

set_option autoImplicit false

inductive Broker where
  | kafka
  | sqs
  deriving DecidableEq

def Broker.name : Broker → Str
  | .kafka => "kafka"
  | .sqs => "sqs"

def brokers : List Broker := [.kafka, .sqs]

/-- The `paused` column by broker; `none` where the row is missing. -/
abbrev Controls := Broker → Option Bool

/-- `ConsumerControlStore.initialize`: rows that exist stay as they are. -/
def initializeControls (controls : Controls) : Controls :=
  fun broker => some ((controls broker).getD false)

section Store

variable (runtime : Runtime)

def validateBroker (broker : Str) : Except Exc Broker :=
  match brokers.find? fun known => decide (known.name = broker) with
  | some known => .ok known
  | none => .error
      ⟨valueError, "Unsupported local-lab broker: " ++ runtime.repr broker ++ "."⟩

def controlMissing (broker : Str) : Exc :=
  ⟨runtimeError, "Consumer control is missing for " ++ runtime.repr broker ++ "."⟩

def setPaused (controls : Controls) (broker : Str) (paused : Bool) : Except Exc Controls := do
  let known ← validateBroker runtime broker
  match controls known with
  | some _ => .ok (Function.update controls known (some paused))
  | none => .error (controlMissing runtime broker)

def isPaused (controls : Controls) (broker : Str) : Except Exc Bool := do
  let known ← validateBroker runtime broker
  match controls known with
  | some paused => .ok paused
  | none => .error (controlMissing runtime broker)

/-- How the request handler ends: a 404, its reply, or what `set_paused` raised. -/
inductive ControlReply where
  | notFound (detail : Str)
  | changed (broker : Str) (paused : Bool)
  | raised (fault : Exc)

def changeConsumerState (controls : Controls) (broker action : Str) : ControlReply × Controls :=
  if broker ∉ brokers.map Broker.name ∨ (action ≠ "pause" ∧ action ≠ "resume") then
    (.notFound "Unknown consumer control.", controls)
  else
    let paused := decide (action = "pause")
    match setPaused runtime controls broker paused with
    | .ok controls => (.changed broker paused, controls)
    | .error fault => (.raised fault, controls)

end Store

section Laws

variable {runtime : Runtime} {controls : Controls}

theorem broker_name_injective {first second : Broker} (same : first.name = second.name) :
    first = second := by
  cases first <;> cases second <;> first | rfl | cases same

theorem validate_broker_name (broker : Broker) : validateBroker runtime broker.name = .ok broker := by
  cases broker
  · rfl
  · rfl

theorem is_paused_iff (broker : Broker) (paused : Bool) :
    isPaused runtime controls broker.name = .ok paused ↔ controls broker = some paused := by
  simp only [isPaused, validate_broker_name, bind_ok_iff, Except.ok.injEq, exists_eq_left']
  cases controls broker with
  | none => simp
  | some stored => simp

theorem set_paused_iff (broker : Broker) (paused : Bool) (after : Controls) :
    setPaused runtime controls broker.name paused = .ok after ↔
      controls broker ≠ none ∧ after = Function.update controls broker (some paused) := by
  simp only [setPaused, validate_broker_name, bind_ok_iff, Except.ok.injEq, exists_eq_left']
  cases controls broker with
  | none => simp
  | some stored => simp [eq_comm]

/-- What the last successful `set_paused` wrote is what `is_paused` reads. -/
theorem paused_after_set {broker : Broker} {paused : Bool} {after : Controls}
    (set : setPaused runtime controls broker.name paused = .ok after) :
    isPaused runtime after broker.name = .ok paused := by
  obtain ⟨_, rfl⟩ := (set_paused_iff broker paused after).mp set
  exact (is_paused_iff broker paused).mpr (Function.update_self ..)

theorem set_paused_elsewhere {broker other : Broker} {paused : Bool} {after : Controls}
    (set : setPaused runtime controls other.name paused = .ok after) (differs : broker ≠ other) :
    after broker = controls broker := by
  obtain ⟨_, rfl⟩ := (set_paused_iff other paused after).mp set
  exact Function.update_of_ne differs _ _

theorem initialize_keeps {broker : Broker} {paused : Bool} (held : controls broker = some paused) :
    initializeControls controls broker = some paused := by
  simp [initializeControls, held]

theorem initialize_complete (broker : Broker) : initializeControls controls broker ≠ none := by
  simp [initializeControls]

/-- Everything a request can do to the rows. -/
theorem change_consumer_state_cases (broker action : Str) :
    (∃ known : Broker, ∃ paused after, known.name = broker ∧
      setPaused runtime controls known.name paused = .ok after ∧
      changeConsumerState runtime controls broker action = (.changed known.name paused, after)) ∨
    ((∀ name paused, (changeConsumerState runtime controls broker action).1 ≠
        .changed name paused) ∧
      (changeConsumerState runtime controls broker action).2 = controls) := by
  unfold changeConsumerState
  split_ifs with unknown
  · exact Or.inr ⟨by rintro _ _ ⟨⟩, rfl⟩
  · have listed : broker ∈ brokers.map Broker.name := by
      by_contra missing
      exact unknown (Or.inl missing)
    obtain ⟨known, _, rfl⟩ := List.mem_map.mp listed
    dsimp only
    cases set : setPaused runtime controls known.name (decide (action = ofString "pause")) with
    | ok after => exact Or.inl ⟨known, _, after, rfl, set, rfl⟩
    | error fault => exact Or.inr ⟨by rintro _ _ ⟨⟩, rfl⟩

/-- A pause of a broker whose row exists. -/
theorem pause_accepted {broker : Broker} (present : controls broker ≠ none) :
    changeConsumerState runtime controls broker.name "pause" =
      (.changed broker.name true, Function.update controls broker (some true)) := by
  have known : ¬(broker.name ∉ brokers.map Broker.name ∨
      (ofString "pause" ≠ ofString "pause" ∧ ofString "pause" ≠ ofString "resume")) := by
    cases broker <;> decide
  have set : setPaused runtime controls broker.name (decide (ofString "pause" = ofString "pause")) =
      .ok (Function.update controls broker (some true)) :=
    (set_paused_iff broker _ _).mpr ⟨present, rfl⟩
  rw [changeConsumerState, if_neg known]
  dsimp only
  rw [set]
  rfl

end Laws

end OrderMessaging.LocalLab.ConsumerControls
