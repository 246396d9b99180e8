import Mathlib.Data.List.Nodup
import OrderMessaging.Library.Reception
import OrderMessaging.LocalLab.ConsumerControls

/-!
The dashboard, the publishers and one worker loop of the local lab, interleaved
call by call. The two worker loops differ in their broker only, so a broker is a
parameter: its deliveries, what a poll can return and what it counts as
acknowledged. Every record is published outside a standing pause or under it, and
the two lists say which.
-/

namespace OrderMessaging.LocalLab.PausedWorkers

open OrderMessaging.PyText OrderMessaging.PyException OrderMessaging.Program
open OrderMessaging.Reception OrderMessaging.Contracts.Models
open OrderMessaging.LocalLab.ConsumerControls

set_option autoImplicit false

/-- A broker as its worker loop and its publishers meet it. -/
structure Feed where
  broker : Broker
  Op : Type
  Ret : Op → Type
  Choice : Op → Type
  World : Type
  Value : Type
  Item : Type
  Place : Type
  Route : Type
  exec : Semantics Exc Ret Choice World
  processOne : Nat → Prog Exc Ret Value
  awaits : Op → Prop
  hands : (op : Op) → Except Exc (Ret op) → Option Item
  placeOf : Item → Place
  nextPlace : List Place → Route → Place
  returnable : List Place → (op : Op) → Choice op → Prop
  writes : Op → Bool
  acknowledged : World → Place → Prop

section States

variable (feed : Feed)

/-- The worker process: the `process_one` call it is in, and the record it received. -/
structure Loop where
  running : Option (Prog Exc feed.Ret feed.Value)
  inHand : Option feed.Item

/-- `pausing`: a `set_paused` to true has returned and none to false since. `held`
is what was published meanwhile, `earlier` everything before it. `written` are the
records whose deliveries have called the database to change it. -/
structure Lab where
  controls : Controls
  pausing : Bool
  earlier : List feed.Place
  held : List feed.Place
  loop : Option (Loop feed)
  world : feed.World
  written : List feed.Place

inductive Move where
  | request (broker action : Str)
  | dashboardStart
  | publish (route : feed.Route)
  | start
  | crash
  | check (polls : Nat)
  | advance

end States

section Steps

variable {feed : Feed} (runtime : Runtime)

def Lab.published (lab : Lab feed) : List feed.Place := lab.earlier ++ lab.held

def Lab.noted (lab : Lab feed) : ControlReply → Lab feed
  | .changed broker paused =>
      if broker = feed.broker.name then
        if paused then { lab with pausing := true }
        else { lab with pausing := false, earlier := lab.published, held := [] }
      else lab
  | _ => lab

def Lab.request (lab : Lab feed) (broker action : Str) : Lab feed :=
  let (reply, controls) := changeConsumerState runtime lab.controls broker action
  { lab with controls := controls }.noted reply

def Lab.publish (lab : Lab feed) (route : feed.Route) : Lab feed :=
  let place := feed.nextPlace lab.published route
  if lab.pausing then { lab with held := lab.held ++ [place] }
  else { lab with earlier := lab.published ++ [place], held := [] }

/-- The loop's top. `is_paused` stands outside the loop's `try`. -/
def Lab.check (lab : Lab feed) (polls : Nat) : Lab feed :=
  match isPaused runtime lab.controls feed.broker.name with
  | .error _ => { lab with loop := none }
  | .ok true => lab
  | .ok false => { lab with loop := some ⟨some (feed.processOne polls), none⟩ }

def Lab.called (lab : Lab feed) (loop : Loop feed) (op : feed.Op)
    (next : Except Exc (feed.Ret op) → Prog Exc feed.Ret feed.Value) (choice : feed.Choice op) :
    Lab feed :=
  let (result, reached) := feed.exec op choice lab.world
  { lab with
    loop := some ⟨some (next result), (feed.hands op result).or loop.inHand⟩
    world := reached
    written :=
      if feed.writes op then (loop.inHand.map feed.placeOf).toList ++ lab.written
      else lab.written }

/-- A worker that starts initializes the controls, as a dashboard does. A request
or a check whose connection fails changes nothing or ends the worker. -/
inductive Step (lab : Lab feed) : Move feed → Lab feed → Prop where
  | request (broker action : Str) :
      Step lab (.request broker action) (lab.request runtime broker action)
  | requestFails (broker action : Str) : Step lab (.request broker action) lab
  | dashboardStart :
      Step lab .dashboardStart { lab with controls := initializeControls lab.controls }
  | publish (route : feed.Route) : Step lab (.publish route) (lab.publish route)
  | start (stopped : lab.loop = none) :
      Step lab .start { lab with
        controls := initializeControls lab.controls
        loop := some ⟨none, none⟩ }
  | crash : Step lab .crash { lab with loop := none }
  | check (polls : Nat) (loop : Loop feed) (up : lab.loop = some loop)
      (idle : loop.running = none) : Step lab (.check polls) (lab.check runtime polls)
  | ends (loop : Loop feed) (outcome : Except Exc feed.Value) (up : lab.loop = some loop)
      (running : loop.running = some (.done outcome)) :
      Step lab .advance { lab with loop := some ⟨none, none⟩ }
  | calls (loop : Loop feed) (op : feed.Op)
      (next : Except Exc (feed.Ret op) → Prog Exc feed.Ret feed.Value) (choice : feed.Choice op)
      (up : lab.loop = some loop) (running : loop.running = some (.call op next))
      (returnable : feed.returnable lab.published op choice) :
      Step lab .advance (lab.called loop op next choice)

/-- The states of the runs whose every step is admitted where it is taken. -/
inductive Reaches (admitted : Lab feed → Move feed → Prop) (first : Lab feed) : Lab feed → Prop where
  | refl : Reaches admitted first first
  | step (lab next : Lab feed) (move : Move feed) (reached : Reaches admitted first lab)
      (admits : admitted lab move) (stepped : Step runtime lab move next) :
      Reaches admitted first next

/-- A pause check has read "not paused" and the broker poll after it has not ended. -/
def Lab.Polling (lab : Lab feed) : Prop :=
  ∃ loop op next, lab.loop = some loop ∧ loop.running = some (.call op next) ∧ feed.awaits op

/-- Nothing is published under a pause while the worker polls. -/
def Timely (lab : Lab feed) : Move feed → Prop
  | .publish _ => lab.pausing = true → ¬lab.Polling
  | _ => True

/-- Any step may be taken anywhere. -/
def Unrestricted (_ : Lab feed) (_ : Move feed) : Prop := True

/-- What was published under the standing pause is neither written nor acknowledged. -/
def HeldBack (lab : Lab feed) : Prop :=
  ∀ place ∈ lab.held, place ∉ lab.written ∧ ¬feed.acknowledged lab.world place

/-- No record was published yet and no worker is up. -/
def opening (feed : Feed) (controls : Controls) (world : feed.World) : Lab feed :=
  ⟨controls, false, [], [], none, world, []⟩

end Steps

section Laws

variable (feed : Feed)

/-- The places a history of publications gives out. -/
inductive Placed : List feed.Place → Prop where
  | nil : Placed []
  | publish (places : List feed.Place) (route : feed.Route) (placed : Placed places) :
      Placed (places ++ [feed.nextPlace places route])

/-- What the deliveries of a broker are relied on to do. `upTo other place`: an
acknowledgement of `place` covers `other`. -/
structure Lawful (allowed : feed.Item → feed.Op → Prop) (upTo : feed.Place → feed.Place → Prop) :
    Prop where
  exclusive : Exclusive feed.awaits feed.hands allowed
  receives : ∀ polls, Receives feed.awaits feed.hands allowed (feed.processOne polls)
  fresh : ∀ places route, Placed feed places → feed.nextPlace places route ∉ places
  covered : ∀ places, Placed feed places → ∀ place ∈ places, ∀ other, upTo other place →
    other ∈ places
  published : ∀ places op choice world item, feed.returnable places op choice →
    feed.hands op (feed.exec op choice world).1 = some item → feed.placeOf item ∈ places
  silent : ∀ op, feed.awaits op → feed.writes op = false
  unacknowledged : ∀ op choice world place, feed.awaits op →
    feed.acknowledged (feed.exec op choice world).2 place → feed.acknowledged world place
  acknowledges : ∀ item op choice world place, allowed item op →
    feed.acknowledged (feed.exec op choice world).2 place →
      feed.acknowledged world place ∨ upTo place (feed.placeOf item)

end Laws

section Invariant

variable {feed : Feed} {runtime : Runtime} {allowed : feed.Item → feed.Op → Prop}
variable {upTo : feed.Place → feed.Place → Prop} {lab : Lab feed}

/-- The worker touches records published outside the standing pause only. -/
structure Guarded (allowed : feed.Item → feed.Op → Prop) (lab : Lab feed) : Prop where
  paused : lab.pausing = true → lab.controls feed.broker = some true
  resumed : lab.pausing = false → lab.held = []
  placedEarlier : Placed feed lab.earlier
  placed : Placed feed lab.published
  polling : lab.Polling → lab.held = []
  standing : ∀ loop program, lab.loop = some loop → loop.running = some program →
    Standing feed.awaits feed.hands allowed loop.inHand program
  inHand : ∀ loop item, lab.loop = some loop → loop.inHand = some item →
    feed.placeOf item ∈ lab.earlier
  written : ∀ place ∈ lab.written, place ∈ lab.earlier
  acknowledged : ∀ place, feed.acknowledged lab.world place → place ∈ lab.earlier

theorem placed_nodup (lawful : Lawful feed allowed upTo) {places : List feed.Place}
    (placed : Placed feed places) : places.Nodup := by
  induction placed with
  | nil => exact List.nodup_nil
  | publish places route placed ih =>
      rw [List.nodup_append]
      refine ⟨ih, List.nodup_singleton _, ?_⟩
      intro place member other isNew same
      rw [List.mem_singleton.mp isNew] at same
      exact lawful.fresh places route placed (same ▸ member)

theorem guarded_held_back (lawful : Lawful feed allowed upTo) (guarded : Guarded allowed lab) :
    HeldBack lab := by
  have apart := List.disjoint_of_nodup_append (placed_nodup lawful guarded.placed)
  intro place member
  constructor
  · intro written
    exact apart (guarded.written place written) member
  · intro acknowledged
    exact apart (guarded.acknowledged place acknowledged) member

theorem opening_guarded (controls : Controls) (world : feed.World)
    (untouched : ∀ place, ¬feed.acknowledged world place) :
    Guarded allowed (opening feed controls world) where
  paused := by rintro ⟨⟩
  resumed _ := rfl
  placedEarlier := .nil
  placed := .nil
  polling _ := rfl
  standing := by rintro _ _ ⟨⟩
  inHand := by rintro _ _ ⟨⟩
  written := by simp [opening]
  acknowledged place acknowledged := (untouched place acknowledged).elim

/-- The worker goes to the top of its loop, or down. -/
theorem Guarded.idle (guarded : Guarded allowed lab) (controls : Controls)
    (kept : lab.controls feed.broker = some true → controls feed.broker = some true)
    {loop : Option (Loop feed)} (resting : ∀ own, loop = some own → own = ⟨none, none⟩) :
    Guarded allowed { lab with controls := controls, loop := loop } :=
  { guarded with
    paused := fun pausing => kept (guarded.paused pausing)
    polling := by
      rintro ⟨own, op, next, up, running, _⟩
      rw [resting own up] at running
      cases running
    standing := by
      intro own program up running
      rw [resting own up] at running
      cases running
    inHand := by
      intro own item up inHand
      rw [resting own up] at inHand
      cases inHand }

/-- The rows change, the own one at most to "paused". -/
theorem Guarded.recontrolled (guarded : Guarded allowed lab) (controls : Controls)
    (kept : lab.controls feed.broker = some true → controls feed.broker = some true) :
    Guarded allowed { lab with controls := controls } :=
  { guarded with paused := fun pausing => kept (guarded.paused pausing) }

theorem Guarded.pause (guarded : Guarded allowed lab) (controls : Controls)
    (set : controls feed.broker = some true) :
    Guarded allowed { lab with controls := controls, pausing := true } :=
  { guarded with
    paused := fun _ => set
    resumed := by rintro ⟨⟩ }

theorem earlier_published {place : feed.Place} (member : place ∈ lab.earlier) :
    place ∈ lab.published := List.mem_append_left _ member

/-- What was held becomes earlier. -/
theorem Guarded.resume (guarded : Guarded allowed lab) (controls : Controls) :
    Guarded allowed { lab with
      controls := controls
      pausing := false
      earlier := lab.published
      held := [] } where
  paused := by rintro ⟨⟩
  resumed _ := rfl
  placedEarlier := guarded.placed
  placed := by
    simp only [Lab.published, List.append_nil]
    exact guarded.placed
  polling _ := rfl
  standing := guarded.standing
  inHand loop item up inHand := earlier_published (guarded.inHand loop item up inHand)
  written place member := earlier_published (guarded.written place member)
  acknowledged place acknowledged :=
    earlier_published (guarded.acknowledged place acknowledged)

theorem Guarded.request (guarded : Guarded allowed lab) (broker action : Str) :
    Guarded allowed (lab.request runtime broker action) := by
  unfold Lab.request
  rcases change_consumer_state_cases broker action with
    ⟨known, paused, after, _, set, changed⟩ | ⟨refused, unchanged⟩
  · rw [changed]
    by_cases own : known = feed.broker
    · subst own
      obtain ⟨_, rows⟩ := (set_paused_iff feed.broker paused after).mp set
      cases paused with
      | true =>
          have stored : after feed.broker = some true := by rw [rows, Function.update_self]
          simpa [Lab.noted] using guarded.pause after stored
      | false =>
          simp only [Lab.noted, if_true, Bool.false_eq_true, if_false]
          exact guarded.resume after
    · have elsewhere : after feed.broker = lab.controls feed.broker :=
        set_paused_elsewhere set (Ne.symm own)
      have otherName : known.name ≠ feed.broker.name := fun same => own (broker_name_injective same)
      simp only [Lab.noted, if_neg otherName]
      exact guarded.recontrolled after elsewhere.trans
  · generalize changeConsumerState runtime lab.controls broker action = result at *
    obtain ⟨reply, controls⟩ := result
    have same : controls = lab.controls := unchanged
    subst same
    cases reply with
    | changed name paused => exact (refused name paused rfl).elim
    | notFound detail => exact guarded
    | raised fault => exact guarded

theorem Guarded.publish (guarded : Guarded allowed lab) (route : feed.Route)
    (timely : lab.pausing = true → ¬lab.Polling) : Guarded allowed (lab.publish route) := by
  have placed := guarded.placed.publish lab.published route
  unfold Lab.publish
  split_ifs with pausing
  · refine { guarded with
      resumed := ?_
      placed := ?_
      polling := fun polling => (timely pausing polling).elim }
    · intro resumed
      rw [pausing] at resumed
      cases resumed
    · simpa only [Lab.published, List.append_assoc] using placed
  · have grown {place : feed.Place} (member : place ∈ lab.earlier) :
        place ∈ lab.published ++ [feed.nextPlace lab.published route] :=
      List.mem_append_left _ (earlier_published member)
    exact { guarded with
      resumed := fun _ => rfl
      placedEarlier := placed
      placed := by simpa [Lab.published] using placed
      polling := fun _ => rfl
      inHand := fun loop item up inHand => grown (guarded.inHand loop item up inHand)
      written := fun place member => grown (guarded.written place member)
      acknowledged := fun place acknowledged => grown (guarded.acknowledged place acknowledged) }

/-- A check that reads "not paused" stands outside every pause. -/
theorem Guarded.check (lawful : Lawful feed allowed upTo) (guarded : Guarded allowed lab)
    (polls : Nat) : Guarded allowed (lab.check runtime polls) := by
  unfold Lab.check
  split
  next fault _ => exact guarded.idle lab.controls id (by rintro _ ⟨⟩)
  next _ => exact guarded
  next read =>
    have stored := (is_paused_iff feed.broker false).mp read
    have resumed : lab.pausing = false := by
      cases pausing : lab.pausing with
      | false => rfl
      | true =>
          rw [guarded.paused pausing] at stored
          cases stored
    exact { guarded with
      polling := fun _ => guarded.resumed resumed
      standing := by
        rintro _ _ ⟨⟩ ⟨⟩
        exact lawful.receives polls
      inHand := by rintro _ _ ⟨⟩ ⟨⟩ }

section Deliveries

variable {loop : Loop feed} {op : feed.Op}
variable {next : Except Exc (feed.Ret op) → Prog Exc feed.Ret feed.Value}

theorem Guarded.waiting (guarded : Guarded allowed lab) (up : lab.loop = some loop)
    (running : loop.running = some (.call op next)) (empty : loop.inHand = none) :
    feed.awaits op := by
  have standing := guarded.standing loop _ up running
  rw [empty] at standing
  exact standing.1

theorem Guarded.working (guarded : Guarded allowed lab) (up : lab.loop = some loop)
    (running : loop.running = some (.call op next)) {item : feed.Item}
    (held : loop.inHand = some item) : allowed item op := by
  have standing := guarded.standing loop _ up running
  rw [held] at standing
  exact (makes_call standing).1

/-- A poll hands out an earlier record: while it waits nothing is held. -/
theorem Guarded.handed (lawful : Lawful feed allowed upTo) (guarded : Guarded allowed lab)
    (up : lab.loop = some loop) (running : loop.running = some (.call op next))
    (choice : feed.Choice op) (returnable : feed.returnable lab.published op choice)
    {item : feed.Item}
    (found : (feed.hands op (feed.exec op choice lab.world).1).or loop.inHand = some item) :
    feed.placeOf item ∈ lab.earlier := by
  rcases Option.or_eq_some_iff.mp found with new | ⟨_, old⟩
  · have awaits := lawful.exclusive.handed op _ item new
    have nothingHeld := guarded.polling ⟨loop, op, next, up, running, awaits⟩
    have published := lawful.published _ op choice lab.world item returnable new
    rwa [Lab.published, nothingHeld, List.append_nil] at published
  · exact guarded.inHand loop item up old

theorem Guarded.acknowledges (lawful : Lawful feed allowed upTo) (guarded : Guarded allowed lab)
    (up : lab.loop = some loop) (running : loop.running = some (.call op next))
    (choice : feed.Choice op) {place : feed.Place}
    (acknowledged : feed.acknowledged (feed.exec op choice lab.world).2 place) :
    place ∈ lab.earlier := by
  cases held : loop.inHand with
  | none =>
      have awaits := guarded.waiting up running held
      have before := lawful.unacknowledged op choice lab.world place awaits acknowledged
      exact guarded.acknowledged place before
  | some item =>
      have own := guarded.inHand loop item up held
      have concerns := guarded.working up running held
      rcases lawful.acknowledges item op choice lab.world place concerns acknowledged
        with before | covered
      · exact guarded.acknowledged place before
      · exact lawful.covered lab.earlier guarded.placedEarlier _ own place covered

/-- One call of a delivery: a poll hands out an earlier record, and every other call
is about the record in hand. -/
theorem Guarded.called (lawful : Lawful feed allowed upTo) (guarded : Guarded allowed lab)
    (up : lab.loop = some loop) (running : loop.running = some (.call op next))
    (choice : feed.Choice op) (returnable : feed.returnable lab.published op choice) :
    Guarded allowed (lab.called loop op next choice) := by
  have stepped := standing_step lawful.exclusive (guarded.standing loop _ up running)
    (feed.exec op choice lab.world).1
  refine { guarded with
    polling := ?_
    standing := ?_
    inHand := ?_
    written := ?_
    acknowledged := ?_ }
  · rintro ⟨_, later, further, ⟨⟩, again, awaits⟩
    cases held : loop.inHand with
    | none => exact guarded.polling ⟨loop, op, next, up, running, guarded.waiting up running held⟩
    | some item =>
        rw [held, not_handed lawful.exclusive (guarded.working up running held), Option.none_or,
          Option.some.inj again] at stepped
        exact (lawful.exclusive.working item later (makes_call stepped).1 awaits).elim
  · rintro _ _ ⟨⟩ ⟨⟩
    exact stepped
  · rintro _ item ⟨⟩ found
    exact guarded.handed lawful up running choice returnable found
  · intro place member
    simp only [Lab.called] at member
    split_ifs at member
    · rcases List.mem_append.mp member with own | before
      · obtain ⟨item, held, rfl⟩ := Option.map_eq_some_iff.mp (Option.mem_toList.mp own)
        exact guarded.inHand loop item up held
      · exact guarded.written place before
    · exact guarded.written place member
  · intro place acknowledged
    exact guarded.acknowledges lawful up running choice acknowledged

end Deliveries

theorem step_guarded (lawful : Lawful feed allowed upTo) (guarded : Guarded allowed lab)
    {move : Move feed} {after : Lab feed} (stepped : Step runtime lab move after)
    (timely : Timely lab move) : Guarded allowed after := by
  cases stepped with
  | request broker action => exact guarded.request broker action
  | requestFails broker action => exact guarded
  | dashboardStart => exact guarded.recontrolled _ initialize_keeps
  | publish route => exact guarded.publish route timely
  | start stopped =>
      refine guarded.idle _ initialize_keeps ?_
      rintro _ ⟨⟩
      rfl
  | crash => exact guarded.idle lab.controls id (by rintro _ ⟨⟩)
  | check polls loop up idle => exact guarded.check lawful polls
  | ends loop outcome up running =>
      refine guarded.idle lab.controls id ?_
      rintro _ ⟨⟩
      rfl
  | calls loop op next choice up running returnable =>
      exact guarded.called lawful up running choice returnable

theorem reaches_guarded (lawful : Lawful feed allowed upTo) {first : Lab feed}
    (initial : Guarded allowed first) (reached : Reaches runtime Timely first lab) :
    Guarded allowed lab := by
  induction reached with
  | refl => exact initial
  | step lab next move reached timely stepped ih => exact step_guarded lawful ih stepped timely

end Invariant

section Gap

variable {feed : Feed} {runtime : Runtime} {lab : Lab feed}

theorem reaches_trans {admitted : Lab feed → Move feed → Prop} {first middle last : Lab feed}
    (early : Reaches runtime admitted first middle) (late : Reaches runtime admitted middle last) :
    Reaches runtime admitted first last := by
  induction late with
  | refl => exact early
  | step lab next move reached admits stepped ih => exact .step lab next move ih admits stepped

/-- A record published under a pause while the worker polls: the poll may return
it, and the next call of its delivery writes to the database. -/
theorem untimely_publication_written {loop : Loop feed} {op : feed.Op}
    {next : Except Exc (feed.Ret op) → Prog Exc feed.Ret feed.Value}
    (up : lab.loop = some loop) (running : loop.running = some (.call op next))
    (pausing : lab.pausing = true) (route : feed.Route) (choice : feed.Choice op)
    (returnable : feed.returnable (lab.publish route).published op choice) {item : feed.Item}
    (handed : feed.hands op (feed.exec op choice lab.world).1 = some item)
    (place : feed.placeOf item = feed.nextPlace lab.published route) {write : feed.Op}
    {further : Except Exc (feed.Ret write) → Prog Exc feed.Ret feed.Value}
    (delivery : next (feed.exec op choice lab.world).1 = .call write further)
    (writes : feed.writes write = true) (answer : feed.Choice write)
    (unconditional : ∀ places, feed.returnable places write answer) :
    ∃ after, Reaches runtime Unrestricted lab after ∧
      after.world = (feed.exec write answer (feed.exec op choice lab.world).2).2 ∧
      feed.placeOf item ∈ after.held ∧ feed.placeOf item ∈ after.written := by
  have opened : lab.publish route =
      { lab with held := lab.held ++ [feed.nextPlace lab.published route] } := by
    simp only [Lab.publish, pausing, if_true]
  rw [opened] at returnable
  have published : Reaches runtime Unrestricted lab (lab.publish route) :=
    .step lab _ (.publish route) .refl trivial (.publish route)
  rw [opened] at published
  have received := published.step _ _ .advance trivial
    (.calls loop op next choice up running returnable)
  have written := received.step _ _ .advance trivial
    (.calls _ write further answer rfl (congrArg some delivery) (unconditional _))
  refine ⟨_, written, rfl, ?_, ?_⟩
  · rw [place]
    exact List.mem_append_right _ List.mem_cons_self
  · simp [Lab.called, handed, writes]

theorem reaches_unrestricted {admitted : Lab feed → Move feed → Prop} {first last : Lab feed}
    (reached : Reaches runtime admitted first last) : Reaches runtime Unrestricted first last := by
  induction reached with
  | refl => exact .refl
  | step lab next move reached admits stepped ih => exact .step lab next move ih trivial stepped

theorem pause_requested (lab : Lab feed) (present : lab.controls feed.broker ≠ none) :
    lab.request runtime feed.broker.name "pause" =
      { lab with
        controls := Function.update lab.controls feed.broker (some true)
        pausing := true } := by
  simp only [Lab.request, pause_accepted present, Lab.noted, if_true]

variable (runtime) in
/-- A pause can land while the first poll of a worker is under way. -/
theorem pause_lands_in_poll {polls : Nat} {op : feed.Op}
    {next : Except Exc (feed.Ret op) → Prog Exc feed.Ret feed.Value}
    (begins : feed.processOne polls = .call op next) (world : feed.World) :
    ∃ lab, Reaches runtime Timely (opening feed (fun _ => none) world) lab ∧
      lab.loop = some ⟨some (.call op next), none⟩ ∧ lab.pausing = true ∧
      lab.published = [] ∧ lab.world = world := by
  let first := opening feed (fun _ => none) world
  let started : Lab feed :=
    { first with controls := initializeControls first.controls, loop := some ⟨none, none⟩ }
  have up : Reaches runtime Timely first started :=
    .step _ _ .start .refl trivial (.start rfl)
  have read : isPaused runtime started.controls feed.broker.name = .ok false :=
    (is_paused_iff feed.broker false).mpr rfl
  have checked : started.check runtime polls =
      { started with loop := some ⟨some (.call op next), none⟩ } := by
    unfold Lab.check
    rw [read, begins]
  have polling := up.step _ _ (.check polls) trivial (.check polls ⟨none, none⟩ rfl rfl)
  rw [checked] at polling
  have paused := polling.step _ _ (.request feed.broker.name "pause") trivial (.request _ _)
  rw [pause_requested _ (initialize_complete feed.broker)] at paused
  exact ⟨_, paused, rfl, rfl, rfl, rfl⟩

variable (runtime) in
/-- The window from the opening: check, pause, publish, and the poll returns what was
published. -/
theorem window_reaches_write {polls : Nat} {op : feed.Op}
    {next : Except Exc (feed.Ret op) → Prog Exc feed.Ret feed.Value}
    (begins : feed.processOne polls = .call op next) (world : feed.World) (route : feed.Route)
    (choice : feed.Choice op) (returnable : feed.returnable [feed.nextPlace [] route] op choice)
    {item : feed.Item} (handed : feed.hands op (feed.exec op choice world).1 = some item)
    (place : feed.placeOf item = feed.nextPlace [] route) {write : feed.Op}
    {further : Except Exc (feed.Ret write) → Prog Exc feed.Ret feed.Value}
    (delivery : next (feed.exec op choice world).1 = .call write further)
    (writes : feed.writes write = true) (answer : feed.Choice write)
    (unconditional : ∀ places, feed.returnable places write answer) :
    ∃ after, Reaches runtime Unrestricted (opening feed (fun _ => none) world) after ∧
      after.world = (feed.exec write answer (feed.exec op choice world).2).2 ∧
      feed.placeOf item ∈ after.held ∧ feed.placeOf item ∈ after.written := by
  obtain ⟨lab, reached, up, pausing, unpublished, rfl⟩ := pause_lands_in_poll runtime begins world
  rw [← unpublished] at place
  have published : (lab.publish route).published = [feed.nextPlace [] route] := by
    have parts : lab.earlier = [] ∧ lab.held = [] := List.append_eq_nil_iff.mp unpublished
    simp only [Lab.publish, pausing, if_true, Lab.published, parts.1, parts.2, List.append_nil,
      List.nil_append]
  rw [← published] at returnable
  obtain ⟨after, violated, final, held, written⟩ := untimely_publication_written up rfl pausing
    route choice returnable handed place delivery writes answer unconditional
  exact ⟨after, reaches_trans (reaches_unrestricted reached) violated, final, held, written⟩

variable (feed runtime) in
/-- A pause before the first check, and a publication under it. -/
theorem publication_under_pause (route : feed.Route) (world : feed.World) :
    ∃ lab, Reaches runtime Timely (opening feed (fun _ => none) world) lab ∧
      lab.pausing = true ∧ lab.controls feed.broker = some true ∧
      lab.loop = some ⟨none, none⟩ ∧ feed.nextPlace [] route ∈ lab.held := by
  let first := opening feed (fun _ => none) world
  have up : Reaches runtime Timely first _ := .step _ _ .start .refl trivial (.start rfl)
  have paused := up.step _ _ (.request feed.broker.name "pause") trivial (.request _ _)
  rw [pause_requested _ (initialize_complete feed.broker)] at paused
  have published := paused.step _ _ (.publish route) (by
    rintro _ ⟨loop, op, next, up, running, _⟩
    obtain rfl := Option.some.inj up
    cases running) (.publish route)
  refine ⟨_, published, rfl, ?_, rfl, List.mem_singleton_self _⟩
  exact Function.update_self ..

end Gap

end OrderMessaging.LocalLab.PausedWorkers
