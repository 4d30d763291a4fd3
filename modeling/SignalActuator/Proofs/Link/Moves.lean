/-
  Moves — what may happen to a supervised link, and what the supervisor does then.

  The driver reports when it likes, answers each association as it likes and may
  put events on its stream while it does so; the supervisor moves whenever it can.

  * `Course` is a supervised link with its past, and `Move` what may happen to it;
    `Course.moved` shows that `Course.Moved` lists all of it;
  * `Course.run_settle`: a supervisor that settles takes such a course;
  * `Supervisor.asks` and `Supervisor.handles`: what it comes to that the driver is
    asked to associate and that an event is handled;
  * `Stepped` lists the ways in which a supervisor moves;
  * `Course.count_run`: the driver is asked as often as it answers.
-/
import SignalActuator.Proofs.Link.Turns
import SignalActuator.Proofs.Moves

namespace SignalActuator.Link

variable {δ : Type}

namespace Activity

def visible (acts : List Activity) : List Activity :=
  acts.filter fun | .logged _ => false | _ => true

def answers (acts : List Activity) : List (Except Error Unit) :=
  acts.filterMap fun | .associated r => some r | _ => none

@[simp] theorem visible_append (as bs : List Activity) :
    visible (as ++ bs) = visible as ++ visible bs :=
  List.filter_append ..

@[simp] theorem visible_logged (records : List Log.Record) :
    visible (records.map .logged) = [] := by
  simp [visible]

@[simp] theorem answers_append (as bs : List Activity) :
    answers (as ++ bs) = answers as ++ answers bs :=
  List.filterMap_append ..

theorem answers_visible (acts : List Activity) : answers (visible acts) = answers acts := by
  induction acts with
  | nil => rfl
  | cons act acts ih =>
    cases act with
    | associated r => exact congrArg (r :: ·) ih
    | received | requeued | published | logged => exact ih

/-- The answers of turns are those of their activities. -/
theorem answers_activities (turns : List Turn) :
    answers (turns.flatMap Turn.activities) = Turns.answers turns := by
  induction turns with
  | nil => rfl
  | cons t turns ih =>
    have hfirst : answers t.activities = Turns.answers [t] := by
      rcases t with ⟨_ | _, _, _, _ | _⟩ <;> rfl
    rw [List.flatMap_cons, answers_append, ih, hfirst, ← Turns.answers_append]
    rfl

end Activity

/-! ## Moves -/

/-- What may happen to a supervised link. -/
inductive Move where
  | reports (event : Event)
  | hangsUp
  | steps (now : Nat)

/-- A supervised link and its past. -/
structure Course (δ : Type) where
  supervisor : Supervisor δ
  /-- The stream of the driver: all events that were ever put on it. -/
  offered : List Event
  done : List Activity

namespace Supervisor

/-- The number of the attempt that a supervisor waits to make. -/
def waiting? (s : Supervisor δ) : Option UInt32 :=
  match s.phase with
  | .delaying n _ => some n
  | _ => none

theorem waiting?_ready {s : Supervisor δ} (h : s.phase = .ready) : s.waiting? = none := by
  rw [waiting?]
  simp only [h]

theorem waiting?_delaying {s : Supervisor δ} {n : UInt32} {due : Nat}
    (h : s.phase = .delaying n due) : s.waiting? = some n := by
  rw [waiting?]
  simp only [h]

/-- The events that the driver puts on the stream if activities ask it to
    associate. -/
def emitted (dr : Driver δ) (now : Nat) (s : Supervisor δ) (acts : List Activity) : List Event :=
  if s.closed || (Activity.answers acts).isEmpty then []
  else (dr.associate now s.credentials s.driver).emits

/-- Nothing is left to do, now or later, until the driver reports again. -/
def Rests (dr : Driver δ) (s : Supervisor δ) : Prop :=
  ∀ now, s.step dr now = none

end Supervisor

namespace Course

def start (s : Supervisor δ) : Course δ :=
  ⟨s, s.stream, []⟩

/-- What a move does, or nothing when the supervisor has no move to make. -/
def move (dr : Driver δ) : Move → Course δ → Option (Course δ × List Activity)
  | .reports event, c =>
    some ({ c with supervisor := c.supervisor.send event
                   offered := c.offered ++ if c.supervisor.closed then [] else [event] }, [])
  | .hangsUp, c => some ({ c with supervisor := c.supervisor.close }, [])
  | .steps now, c =>
    (c.supervisor.step dr now).map fun (s, acts) =>
      (⟨s, c.offered ++ c.supervisor.emitted dr now acts, c.done ++ acts⟩, acts)

def run (dr : Driver δ) (c : Course δ) (moves : List Move) : Course δ :=
  (Moves.run (move dr) moves c).1

/-- The moves that can be made, what becomes of the course, and what is done. -/
inductive Moved (dr : Driver δ) (c : Course δ) : Move → Course δ → List Activity → Prop
  | reports (event : Event) :
    Moved dr c (.reports event)
      { c with supervisor := c.supervisor.send event
               offered := c.offered ++ if c.supervisor.closed then [] else [event] } []
  | hangsUp : Moved dr c .hangsUp { c with supervisor := c.supervisor.close } []
  | steps {now : Nat} {s : Supervisor δ} {acts : List Activity}
    (step : c.supervisor.step dr now = some (s, acts)) :
    Moved dr c (.steps now)
      ⟨s, c.offered ++ c.supervisor.emitted dr now acts, c.done ++ acts⟩ acts

/-- There are no other moves. -/
theorem moved {dr : Driver δ} {c c' : Course δ} {m : Move} {acts : List Activity}
    (h : move dr m c = some (c', acts)) : Moved dr c m c' acts := by
  cases m with
  | reports event => cases h; exact .reports event
  | hangsUp => cases h; exact .hangsUp
  | steps now =>
    obtain ⟨⟨s, acts⟩, hs, h⟩ := Option.map_eq_some_iff.1 h
    cases h
    exact .steps hs

/-- What holds of a course at first and is kept by every move holds at any time. -/
theorem run_invariant {dr : Driver δ} {P : Course δ → Prop}
    (step : ∀ {c c' : Course δ} {m : Move} {acts : List Activity},
      P c → Moved dr c m c' acts → P c')
    (moves : List Move) {c : Course δ} (h : P c) : P (c.run dr moves) :=
  Moves.run_invariant (P := fun c _ => P c) (fun h hm => step h (moved hm)) moves [] h

theorem move_idle {dr : Driver δ} {now : Nat} {c : Course δ}
    (h : c.supervisor.step dr now = none) : move dr (.steps now) c = none := by
  rw [move, h, Option.map_none]

theorem move_step {dr : Driver δ} {now : Nat} {c : Course δ} {s : Supervisor δ}
    {acts : List Activity} (h : c.supervisor.step dr now = some (s, acts)) :
    move dr (.steps now) c =
      some (⟨s, c.offered ++ c.supervisor.emitted dr now acts, c.done ++ acts⟩, acts) := by
  rw [move, h, Option.map_some]

theorem run_cons_some {dr : Driver δ} {c c' : Course δ} {m : Move} {acts : List Activity}
    (h : move dr m c = some (c', acts)) (moves : List Move) :
    c.run dr (m :: moves) = c'.run dr moves := by
  rw [run, Moves.run_cons_some h, run]

theorem run_cons_none {dr : Driver δ} {c : Course δ} {m : Move} (h : move dr m c = none)
    (moves : List Move) : c.run dr (m :: moves) = c.run dr moves := by
  rw [run, Moves.run_cons_none h, run]

theorem run_settle (dr : Driver δ) (now fuel : Nat) (c : Course δ) :
    let r := c.supervisor.settle dr now fuel
    let c' := c.run dr (.replicate fuel (.steps now))
    c'.supervisor = r.1 ∧ c'.done = c.done ++ r.2 := by
  induction fuel generalizing c with
  | zero => exact ⟨rfl, (List.append_nil _).symm⟩
  | succ fuel ih =>
    rcases hs : c.supervisor.step dr now with _ | ⟨s, acts⟩
    · rw [Supervisor.settle, Moves.settle_none hs, run, Moves.run_replicate_none (move_idle hs)]
      exact ⟨rfl, (List.append_nil _).symm⟩
    · obtain ⟨hsupervisor, hdone⟩ :=
        ih ⟨s, c.offered ++ c.supervisor.emitted dr now acts, c.done ++ acts⟩
      rw [Supervisor.settle, Moves.settle_some hs, List.replicate_succ,
        run_cons_some (move_step hs)]
      exact ⟨hsupervisor, hdone.trans (List.append_assoc ..)⟩

end Course

/-! ## What a supervisor does -/

namespace Supervisor

variable {dr : Driver δ} {now : Nat} {s : Supervisor δ} {event : Event}

/-- What it comes to that the driver is asked to associate: it is asked once, its
    events join the stream and its failure is put behind what is pending. -/
structure Asks (dr : Driver δ) (now : Nat) (s : Supervisor δ)
    (r : Supervisor δ × List Activity) : Prop where
  driver : r.1.driver = (dr.associate now s.credentials s.driver).driver
  establisher : r.1.establisher = s.establisher
  visible : Activity.visible r.2 =
    [.associated (dr.associate now s.credentials s.driver).result]
  pending : r.1.pending =
    s.pending ++ (lossOf (dr.associate now s.credentials s.driver).result).toList
  stream : r.1.stream = s.stream ++ s.emitted dr now r.2
  phase : r.1.phase = .ready

theorem asks (dr : Driver δ) (now : Nat) (s : Supervisor δ) :
    Asks dr now s (s.associate dr now) := by
  have hvisible : Activity.visible (s.associate dr now).2 =
      [.associated (dr.associate now s.credentials s.driver).result] := by
    simp only [associate]
    cases (dr.associate now s.credentials s.driver).result <;>
      rw [Activity.visible_append, Activity.visible_logged] <;> rfl
  have hanswers : Activity.answers (s.associate dr now).2 =
      [(dr.associate now s.credentials s.driver).result] := by
    rw [← Activity.answers_visible, hvisible]
    rfl
  have hemitted : s.emitted dr now (s.associate dr now).2 =
      if s.closed then [] else (dr.associate now s.credentials s.driver).emits := by
    rw [emitted, hanswers]
    simp
  have hfst : (s.associate dr now).1 = { s with
      driver := (dr.associate now s.credentials s.driver).driver
      stream := if s.closed then s.stream
        else s.stream ++ (dr.associate now s.credentials s.driver).emits
      closed := s.closed || (dr.associate now s.credentials s.driver).closes
      pending :=
        s.pending ++ (lossOf (dr.associate now s.credentials s.driver).result).toList
      phase := .ready } := by
    simp only [associate]
    cases (dr.associate now s.credentials s.driver).result <;> simp [lossOf]
  refine ⟨?_, ?_, hvisible, ?_, ?_, ?_⟩
  · rw [hfst]
  · rw [hfst]
  · rw [hfst]
  · rw [hemitted, hfst]
    split_ifs <;> simp
  · rw [hfst]

/-- What it comes to that an event is handled, if `answer` is what the driver says. -/
structure Handles (dr : Driver δ) (now : Nat) (s : Supervisor δ) (event : Event)
    (answer : Option (Except Error Unit)) (r : Supervisor δ × List Activity) : Prop where
  establisher : r.1.establisher = (s.establisher.react event).next
  visible : Activity.visible r.2 =
    .published r.1.status :: (answer.map Activity.associated).toList
  answered : answer.isSome = true ↔ (s.establisher.react event).action = .associate
  result : ∀ r' ∈ answer, r' = (dr.associate now s.credentials s.driver).result
  waiting : ∀ n, r.1.waiting? = some n ↔ (s.establisher.react event).action = .reassociate n
  pending : r.1.pending = s.pending ++ (answer.bind lossOf).toList
  stream : r.1.stream = s.stream ++ s.emitted dr now r.2
  phase : r.1.phase ≠ .stopped
  driver : r.1.driver =
    if answer.isSome then (dr.associate now s.credentials s.driver).driver else s.driver

/-- An event that calls for no association at once changes the establisher, and the
    phase if it calls for one later. -/
theorem Handles.quiet {r : Supervisor δ × List Activity}
    (rest : r.1 =
      { s with establisher := (s.establisher.react event).next, phase := r.1.phase })
    (visible : Activity.visible r.2 = [.published r.1.status])
    (action : (s.establisher.react event).action ≠ .associate)
    (waiting : ∀ n, r.1.waiting? = some n ↔
      (s.establisher.react event).action = .reassociate n)
    (phase : r.1.phase ≠ .stopped) : Handles dr now s event none r := by
  have hanswers : Activity.answers r.2 = [] := by
    rw [← Activity.answers_visible, visible]
    rfl
  have hemitted : s.emitted dr now r.2 = [] := by
    rw [emitted, hanswers]
    simp
  refine ⟨?_, visible, by simpa using action, by simp, waiting, ?_, ?_, phase, ?_⟩
  · rw [rest]
  · rw [rest]
    exact (List.append_nil _).symm
  · rw [rest, hemitted]
    exact (List.append_nil _).symm
  · rw [rest]
    rfl

theorem handles (dr : Driver δ) (now : Nat) (event : Event) (h : s.phase = .ready) :
    ∃ answer, Handles dr now s event answer (s.handle dr now event) := by
  have hwaiting (e : Establisher) : { s with establisher := e }.waiting? = none :=
    waiting?_ready h
  have hphase : s.phase ≠ .stopped := by
    rw [h]
    exact nofun
  have hseen (record : Log.Record) (records : List Log.Record) (status : Status) :
      Activity.visible (.logged record :: (records.map .logged ++ [.published status])) =
        [.published status] := by
    change Activity.visible (records.map .logged ++ [.published status]) = _
    rw [Activity.visible_append, Activity.visible_logged]
    rfl
  cases ha : (s.establisher.react event).action with
  | associate =>
    have hs := asks dr now { s with establisher := (s.establisher.react event).next }
    refine ⟨some (dr.associate now s.credentials s.driver).result, ?_⟩
    simp only [handle, ha]
    refine ⟨hs.establisher, ?_, ?_, by simp, ?_, hs.pending, ?_, ?_, hs.driver⟩
    · rw [Activity.visible_append, hseen, hs.visible]
      exact congrArg (fun e : Establisher => [Activity.published e.status, .associated _])
        hs.establisher.symm
    · simp [ha]
    · simp [waiting?_ready hs.phase, ha]
    · rw [hs.stream]
      simp [emitted, Activity.answers]
    · rw [hs.phase]
      exact nofun
  | reassociate n =>
    refine ⟨none, ?_⟩
    simp only [handle, ha]
    exact .quiet rfl (hseen ..) (by simp [ha]) (by simp [waiting?, ha]) nofun
  | markConnected =>
    refine ⟨none, ?_⟩
    simp only [handle, ha]
    refine .quiet rfl ?_ (by simp [ha]) (by simp [hwaiting, ha]) hphase
    rw [Activity.visible_append, hseen]
    rfl
  | giveUp | nothing =>
    refine ⟨none, ?_⟩
    simp only [handle, ha]
    exact .quiet rfl (hseen ..) (by simp [ha]) (by simp [hwaiting, ha]) hphase

/-- The ways in which a supervisor moves: what it is afterwards, and what it does. -/
inductive Stepped (dr : Driver δ) (now : Nat) (s : Supervisor δ) :
    Supervisor δ × List Activity → Prop
  | requeues {event : Event} {pending : List Event} (phase : s.phase = .ready)
      (hp : s.pending = event :: pending) :
      Stepped dr now s (let r := { s with pending }.handle dr now event
        (r.1, .requeued event :: r.2))
  /-- It takes an event from the stream, as nothing else is pending. -/
  | receives {event : Event} {stream : List Event} (phase : s.phase = .ready)
      (hp : s.pending = []) (hs : s.stream = event :: stream) :
      Stepped dr now s (let r := { s with stream }.handle dr now event
        (r.1, .received event :: r.2))
  | attempts {n : UInt32} {due : Nat} (phase : s.phase = .delaying n due)
      (record : Log.Record) :
      Stepped dr now s (let r := s.associate dr now
        (r.1, .logged record :: r.2))
  /-- It stops: the stream is closed and nothing is left on it. -/
  | stops (phase : s.phase = .ready) (hp : s.pending = []) (hs : s.stream = [])
      (hc : s.closed = true) (record : Log.Record) :
      Stepped dr now s ({ s with phase := .stopped }, [.logged record])

theorem stepped {r : Supervisor δ × List Activity} (h : s.step dr now = some r) :
    Stepped dr now s r := by
  unfold step at h
  split at h
  case h_1 => cases h
  case h_2 n due phase =>
    split at h
    · cases h
      exact .attempts phase _
    · cases h
  case h_3 phase =>
    split at h
    case h_1 hp =>
      cases h
      exact .requeues phase hp
    case h_2 hp =>
      split at h
      case h_1 hs =>
        cases h
        exact .receives phase hp hs
      case h_2 hs =>
        split at h
        case isTrue hc =>
          cases h
          exact .stops phase hp hs hc _
        case isFalse => cases h

theorem Rests.idle (h : s.Rests dr)
    (hs : s.phase = .stopped → s.pending = [] ∧ s.stream = []) :
    s.pending = [] ∧ s.stream = [] ∧ s.waiting? = none := by
  cases hphase : s.phase with
  | stopped =>
    obtain ⟨hp, hq⟩ := hs hphase
    refine ⟨hp, hq, ?_⟩
    simp [waiting?, hphase]
  | delaying n due =>
    have hstep := h due
    simp [step, hphase] at hstep
  | ready =>
    have hstep := h 0
    simp only [step, hphase] at hstep
    cases hp : s.pending with
    | cons event pending => simp [hp] at hstep
    | nil =>
      cases hq : s.stream with
      | cons event stream => simp [hp, hq] at hstep
      | nil => simp [waiting?, hphase]

end Supervisor

/-! ## Counting associations -/

def Driver.Counts (dr : Driver δ) (count : δ → Nat) : Prop :=
  ∀ now credentials d, count (dr.associate now credentials d).driver = count d + 1

section
variable {dr : Driver δ} {count : δ → Nat} (hc : dr.Counts count)
include hc

theorem Supervisor.count_associate (now : Nat) (s : Supervisor δ) :
    count (s.associate dr now).1.driver =
      count s.driver + (Activity.answers (s.associate dr now).2).length := by
  have hs := asks dr now s
  rw [hs.driver, hc, ← Activity.answers_visible, hs.visible]
  rfl

theorem Supervisor.count_handle (now : Nat) (event : Event) {s : Supervisor δ}
    (phase : s.phase = .ready) :
    count (s.handle dr now event).1.driver =
      count s.driver + (Activity.answers (s.handle dr now event).2).length := by
  obtain ⟨answer, hs⟩ := handles dr now event phase
  rw [hs.driver, ← Activity.answers_visible, hs.visible]
  cases answer with
  | none => rfl
  | some r => exact hc ..

theorem Supervisor.count_step {now : Nat} {s s' : Supervisor δ} {acts : List Activity}
    (h : s.step dr now = some (s', acts)) :
    count s'.driver = count s.driver + (Activity.answers acts).length := by
  cases stepped h with
  | @requeues event pending phase hp =>
    exact count_handle hc now event (s := { s with pending }) phase
  | @receives event stream phase hp hs =>
    exact count_handle hc now event (s := { s with stream }) phase
  | attempts phase record => exact count_associate hc now s
  | stops => rfl

/-- The driver is asked as often as it answers. -/
theorem Course.count_run (c : Course δ) (moves : List Move) :
    count (c.run dr moves).supervisor.driver + (Activity.answers c.done).length =
      count c.supervisor.driver + (Activity.answers (c.run dr moves).done).length := by
  refine run_invariant (P := fun k =>
    count k.supervisor.driver + (Activity.answers c.done).length =
      count c.supervisor.driver + (Activity.answers k.done).length) (fun h hm => ?_) moves rfl
  cases hm with
  | reports event =>
    simp only [Supervisor.send]
    split_ifs <;> exact h
  | hangsUp => exact h
  | steps hs =>
    simp only [Activity.answers_append, List.length_append, Supervisor.count_step hc hs]
    omega

end

end SignalActuator.Link
