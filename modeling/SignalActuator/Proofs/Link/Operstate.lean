/-
  Operational state — what the samples of a state file come to.

  Before the first sample the link counts as down.  A sample leads to an event
  exactly when it shows another level than the one before it, so that the link
  comes up and is lost in turn, however long it stays as it is.  The establisher
  then has never more than one loss to make up for.

  * `Alternating` are events that come up and get lost in turn;
  * `reports_eq`: each sample against the one before it; `alternating_reports`;
  * `losses_of_alternating` and `attempts_of_alternating`: what alternating events
    mean to an establisher.
-/
import SignalActuator.Link.Operstate
import SignalActuator.Proofs.Link.Budget
import Mathlib.Data.List.Chain

namespace SignalActuator.Link

/-- Whether events end with a loss. -/
def endsDown (events : List Event) : Bool :=
  events.getLast?.any Event.isDown

@[simp] theorem endsDown_snoc (events : List Event) (event : Event) :
    endsDown (events ++ [event]) = event.isDown := by
  simp [endsDown]

@[simp] theorem endsDown_started (events : List Event) :
    endsDown (.started :: events) = endsDown events := by
  rcases List.eq_nil_or_concat' events with rfl | ⟨events, event, rfl⟩
  · rfl
  · rw [← List.cons_append, endsDown_snoc, endsDown_snoc]

/-- Events that report another level each than the one before, if the link is down at
    first or not. -/
structure Alternating (down : Bool) (events : List Event) : Prop where
  /-- Each of them reports a level. -/
  levels : ∀ event ∈ events, event ≠ .started
  turns : (down :: events.map Event.isDown).IsChain (· ≠ ·)

namespace Alternating

variable {down : Bool} {event : Event} {events more : List Event}

theorem nil (down : Bool) : Alternating down [] :=
  ⟨by simp, by simp⟩

theorem cons (level : event ≠ .started) (turn : down ≠ event.isDown)
    (h : Alternating event.isDown events) : Alternating down (event :: events) := by
  constructor
  · simpa using ⟨level, h.levels⟩
  · exact List.isChain_cons_cons.2 ⟨turn, h.turns⟩

theorem left (h : Alternating down (events ++ more)) : Alternating down events := by
  constructor
  · intro event hmem
    exact h.levels event (List.mem_append_left _ hmem)
  · have hturns := h.turns
    rw [List.map_append, ← List.cons_append] at hturns
    exact (List.isChain_append.1 hturns).1

/-- The last of alternating events reports a level, and another one than the events
    before it end with. -/
theorem last (h : Alternating true (events ++ [event])) :
    event ≠ .started ∧ (event.isDown = true → endsDown events = false) := by
  refine ⟨h.levels event (by simp), fun hdown => ?_⟩
  have hturns := h.turns
  rw [List.map_append, ← List.cons_append] at hturns
  have hne := (List.isChain_append.1 hturns).2.2
  rcases List.eq_nil_or_concat' events with rfl | ⟨events, before, rfl⟩
  · simp [hdown] at hne
  · simpa [hdown, List.getLast?_cons] using hne

end Alternating

namespace Operstate

/-! ## Samples and levels -/

def level (s : Sample) : Bool :=
  (Observation.ofSample s).up

/-- Only a file that can be read and says `up` shows that the link is up. -/
theorem level_eq_true_iff {s : Sample} :
    level s = true ↔ ∃ contents, s = .ok contents ∧ Text.trim contents = "up" := by
  cases s <;> simp [level, Observation.ofSample]

/-- The event that reports what an observation says. -/
def Observation.event (o : Observation) : Event :=
  if o.up then .up else .down o.detail

@[simp] theorem Observation.isDown_event (o : Observation) : o.event.isDown = !o.up := by
  cases hu : o.up <;> simp [event, hu, Event.isDown]

theorem Observation.event_ne_started (o : Observation) : o.event ≠ .started := by
  cases hu : o.up <;> simp [event, hu]

/-- A sample leads to an event if it shows another level than before, where a link
    that was not looked at is down. -/
theorem transition_eq (previous : Option Bool) (o : Observation) :
    transition previous o = if o.up = previous.getD false then none else some o.event := by
  rcases previous with _ | _ | _ <;> cases hu : o.up <;> simp [transition, Observation.event, hu]

theorem reports_cons (previous : Option Bool) (s : Sample) (samples : List Sample) :
    reports previous (s :: samples) =
      (if level s = previous.getD false then none else some (Observation.ofSample s).event) ::
        reports (some (level s)) samples := by
  rw [reports, transition_eq]
  rfl

/-- **One event per change**: each sample is compared with the one before it. -/
theorem reports_eq (previous : Option Bool) (samples : List Sample) :
    reports previous samples =
      List.zipWith (fun before s =>
          if level s = before then none else some (Observation.ofSample s).event)
        (previous.getD false :: samples.map level) samples := by
  induction samples generalizing previous with
  | nil => rfl
  | cons s samples ih =>
    rw [reports_cons, ih, List.map_cons, List.zipWith_cons_cons]
    rfl

theorem reports_append (previous : Option Bool) (samples more : List Sample) :
    reports previous (samples ++ more) =
      reports previous samples ++
        reports ((samples.getLast?.map level).or previous) more := by
  induction samples generalizing previous with
  | nil => simp [reports]
  | cons s samples ih =>
    have hlast : ((s :: samples).getLast?.map level).or previous =
        (samples.getLast?.map level).or (some (level s)) := by
      rw [List.getLast?_cons]
      cases samples.getLast? <;> rfl
    rw [hlast, List.cons_append, reports_cons, reports_cons, ih, List.cons_append]

/-- **The events of samples alternate**, beginning with a level that is not the one
    before the first sample. -/
theorem alternating_reports (previous : Option Bool) (samples : List Sample) :
    Alternating (!previous.getD false) ((reports previous samples).filterMap id) := by
  induction samples generalizing previous with
  | nil => exact .nil _
  | cons s samples ih =>
    have hrest := ih (some (level s))
    rw [reports_cons]
    by_cases hsame : level s = previous.getD false
    · rw [if_pos hsame, ← hsame]
      exact hrest
    · rw [if_neg hsame]
      refine .cons (Observation.event_ne_started _) ?_ ?_
      · rw [Observation.isDown_event]
        intro heq
        exact hsame (Bool.not_inj heq).symm
      · rw [Observation.isDown_event]
        exact hrest

end Operstate

/-! ## What the establisher makes of alternating events -/

namespace Establisher

variable {events : List Event}

/-- After alternating events at most one loss has to be made up for. -/
theorem losses_of_alternating (h : Alternating true events) :
    losses (.started :: events) = (endsDown events).toNat := by
  induction events using List.reverseRecOn with
  | nil => rfl
  | append_singleton events event ih =>
    obtain ⟨hlevel, hturn⟩ := h.last
    rw [← List.cons_append, endsDown_snoc]
    cases event with
    | started => exact absurd rfl hlevel
    | up => exact losses_up _
    | down reason =>
      rw [losses_down, ih h.left, hturn rfl]
      rfl

/-- Each loss is made up for by the first attempt, unless none may be made. -/
theorem attempts_of_alternating (m : UInt32) (h : Alternating true events) :
    attempts ((new m).actions (.started :: events)) =
      List.replicate (if m = 0 then 0 else events.countP Event.isDown) 1 := by
  induction events using List.reverseRecOn with
  | nil => simp [actions, react, attempts]
  | append_singleton events event ih =>
    obtain ⟨hlevel, hturn⟩ := h.last
    rw [← List.cons_append, actions_append, attempts_append, ih h.left, List.countP_append]
    cases event with
    | started => exact absurd rfl hlevel
    | up => simp [actions, react, onUp, attempts, Event.isDown]
    | down reason =>
      have hlosses : losses (.started :: events) = 0 := by
        rw [losses_of_alternating h.left, hturn rfl]
        rfl
      have hlast : ((new m).run (.started :: events)).actions [.down reason] =
          [.ofLoss m 1] := by
        have hloss := (budget_run m (.started :: events)).down reason
        rw [hlosses] at hloss
        exact congrArg (· :: []) hloss.action
      rw [hlast, attempts_ofLoss]
      by_cases hm : m = 0
      · simp [hm]
      · have hpos : 1 ≤ m.toNat := Nat.one_le_iff_ne_zero.2 fun hz => hm (UInt32.toNat_inj.1 hz)
        simp [hm, hpos, Event.isDown, List.replicate_succ']

end Establisher

end SignalActuator.Link
