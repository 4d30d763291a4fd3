/-
  Supervision — a supervised link under any driver and in any order of moves.

  The supervisor does its work in lawful turns: the establisher sees the stream of
  the driver, event by event, with one loss put in right behind each event whose
  association failed.

  * `Supervised` is what holds between a course and its turns at any time; `take`,
    `attempt` and `move` show that nothing that happens breaks it;
  * `supervision`: the turns of a course, how long their chains are, how many
    associations they make, and how a link ends that is never associated.
-/
import SignalActuator.Proofs.Link.Moves

namespace SignalActuator.Link

variable {δ : Type}

/-- What holds at any time between a course with the maximum `m` and its turns. -/
structure Supervised (m : UInt32) (c : Course δ) (turns : List Turn) : Prop where
  lawful : Turns.Lawful m c.supervisor.waiting? turns
  /-- Nothing else was done. -/
  activities : Activity.visible c.done = turns.flatMap Turn.activities
  /-- The stream was taken in order, and the rest of it waits. -/
  stream : Turns.received turns ++ c.supervisor.stream = c.offered
  /-- What is pending is what the last turn owes. -/
  pending : c.supervisor.pending = (Turns.owed turns).toList
  /-- The establisher has seen the events of the turns. -/
  establisher : c.supervisor.establisher = (Establisher.new m).run (Turns.events turns)
  stopped : c.supervisor.phase = .stopped →
    c.supervisor.pending = [] ∧ c.supervisor.stream = [] ∧ c.supervisor.closed = true

namespace Supervised

variable {dr : Driver δ} {now : Nat} {m : UInt32} {c : Course δ} {turns : List Turn}

theorem take (h : Supervised m c turns) (dr : Driver δ) (now : Nat) (requeued : Bool)
    (event : Event) (s : Supervisor δ) (ready : c.supervisor.phase = .ready)
    (phase : s.phase = .ready) (pending : s.pending = [])
    (establisher : s.establisher = c.supervisor.establisher)
    (source : Turns.owed turns = if requeued then some event else none)
    (stream : Turns.received turns ++ ((if requeued then [] else [event]) ++ s.stream) =
      c.offered) :
    let r := s.handle dr now event
    ∃ t, Supervised m
      ⟨r.1, c.offered ++ s.emitted dr now r.2, c.done ++ .took requeued event :: r.2⟩
      (turns ++ [t]) := by
  intro r
  obtain ⟨answer, hh⟩ := Supervisor.handles dr now event phase
  let t : Turn := ⟨requeued, event, r.1.status, answer⟩
  have hrun : (Establisher.new m).run (Turns.events (turns ++ [t])) =
      (s.establisher.react event).next := by
    rw [Turns.events_append, Establisher.run_append, ← h.establisher, ← establisher]
    rfl
  have hcalled : Turns.calledFor m turns t = (s.establisher.react event).action := by
    rw [Turns.calledFor, ← h.establisher, ← establisher]
  refine ⟨t, ?_, ?_, ?_, ?_, ?_, ?_⟩
  · have hlawful := h.lawful
    rw [Supervisor.waiting?_ready ready] at hlawful
    refine hlawful.snoc source ?_ ?_ ?_
    · rw [hrun, ← hh.establisher]
      rfl
    · intro hnone
      -- An attempt that is called for is waited for, and then nothing is answered yet.
      rw [hcalled, Bool.eq_iff_iff, hh.answered]
      cases ha : (s.establisher.react event).action with
      | reassociate n =>
        have hsome := (hh.waiting n).2 ha
        rw [hnone] at hsome
        cases hsome
      | associate | markConnected | giveUp | nothing => simp [Action.associates]
    · intro n hn
      have ha := (hh.waiting n).1 hn
      refine ⟨Option.not_isSome_iff_eq_none.1 fun hsome => ?_, hcalled.trans ha⟩
      rw [hh.answered.1 hsome] at ha
      cases ha
  · have htook : Activity.visible (.took requeued event :: r.2) = t.activities := by
      rw [Turn.activities, ← hh.visible]
      cases requeued <;> rfl
    rw [Activity.visible_append, h.activities, htook]
    simp
  · have hreceived : Turns.received [t] = if requeued then [] else [event] := by
      cases requeued <;> rfl
    rw [Turns.received_append, hreceived, hh.stream, ← stream]
    simp only [List.append_assoc, r]
  · rw [hh.pending, pending, Turns.owed_snoc]
    rfl
  · rw [hh.establisher, hrun]
  · exact fun hstopped => absurd hstopped hh.phase

theorem attempt (h : Supervised m c turns) {n : UInt32} {due : Nat}
    (phase : c.supervisor.phase = .delaying n due) (record : Log.Record) :
    let r := c.supervisor.associate dr now
    ∃ turns', Supervised m
      ⟨r.1, c.offered ++ c.supervisor.emitted dr now r.2, c.done ++ .logged record :: r.2⟩
      turns' := by
  intro r
  have hs := Supervisor.asks dr now c.supervisor
  have hlawful := h.lawful
  rw [Supervisor.waiting?_delaying phase] at hlawful
  obtain ⟨before, t, rfl, hnone, hlawful⟩ :=
    hlawful.attempt (dr.associate now c.supervisor.credentials c.supervisor.driver).result
  have howed : Turns.owed (before ++ [t]) = none := by
    rw [Turns.owed_snoc, Turn.loss?, hnone]
    rfl
  let answer := (dr.associate now c.supervisor.credentials c.supervisor.driver).result
  refine ⟨before ++ [t.withAnswer answer], ?_, ?_, ?_, ?_, ?_, ?_⟩
  · have hready : r.1.waiting? = none := Supervisor.waiting?_ready hs.phase
    rwa [hready]
  · have hdone : Activity.visible (.logged record :: r.2) = [.associated answer] := hs.visible
    rw [Activity.visible_append, h.activities, hdone]
    simp [Turn.activities_withAnswer hnone]
  · rw [Turns.received_withAnswer, hs.stream, ← h.stream, List.append_assoc]
  · rw [hs.pending, h.pending, howed, Turns.owed_snoc]
    rfl
  · rw [hs.establisher, h.establisher, Turns.events_withAnswer]
  · intro hstopped
    cases hs.phase.symm.trans hstopped

theorem step (h : Supervised m c turns) {s : Supervisor δ} {acts : List Activity}
    (hs : c.supervisor.step dr now = some (s, acts)) :
    ∃ turns', Supervised m
      ⟨s, c.offered ++ c.supervisor.emitted dr now acts, c.done ++ acts⟩ turns' := by
  cases Supervisor.stepped hs with
  | @requeues event pending phase hp =>
    have howed : Turns.owed turns = some event ∧ pending = [] := by
      have hpending := h.pending
      rw [hp] at hpending
      cases ho : Turns.owed turns with
      | none =>
        rw [ho] at hpending
        cases hpending
      | some loss =>
        rw [ho] at hpending
        cases hpending
        exact ⟨rfl, rfl⟩
    obtain ⟨howed, rfl⟩ := howed
    obtain ⟨t, ht⟩ := h.take dr now true event { c.supervisor with pending := [] } phase
      phase rfl rfl howed h.stream
    exact ⟨_, ht⟩
  | @receives event stream phase hp hq =>
    have howed : Turns.owed turns = none := by
      have hpending := h.pending
      rw [hp] at hpending
      exact Option.toList_eq_nil_iff.1 hpending.symm
    have hstream := h.stream
    rw [hq] at hstream
    obtain ⟨t, ht⟩ := h.take dr now false event { c.supervisor with stream } phase
      phase hp rfl howed hstream
    exact ⟨_, ht⟩
  | attempts phase record => exact h.attempt phase record
  | stops phase hp hq hc record =>
    refine ⟨turns, ?_, ?_, ?_, h.pending, h.establisher, fun _ => ⟨hp, hq, hc⟩⟩
    · have hlawful := h.lawful
      rwa [Supervisor.waiting?_ready phase] at hlawful
    · rw [Activity.visible_append, h.activities]
      exact List.append_nil _
    · have hemitted : c.supervisor.emitted dr now [.logged record] = [] := by
        simp [Supervisor.emitted, Activity.answers]
      rw [hemitted, List.append_nil]
      exact h.stream

/-- Nothing that happens breaks the law. -/
theorem move (h : Supervised m c turns) {c' : Course δ} {move : Move} {acts : List Activity}
    (hm : Course.Moved dr c move c' acts) : ∃ turns', Supervised m c' turns' := by
  cases hm with
  | reports event =>
    refine ⟨turns, ?_⟩
    simp only [Supervisor.send]
    split_ifs with hc
    · rw [List.append_nil]
      exact h
    · refine ⟨h.lawful, h.activities, ?_, h.pending, h.establisher, fun hstopped => ?_⟩
      · change Turns.received turns ++ (c.supervisor.stream ++ [event]) = _
        rw [← List.append_assoc, h.stream]
      · exact absurd (h.stopped hstopped).2.2 hc
  | hangsUp =>
    refine ⟨turns, h.lawful, h.activities, h.stream, h.pending, h.establisher, fun hstopped => ?_⟩
    obtain ⟨hp, hq, -⟩ := h.stopped hstopped
    exact ⟨hp, hq, rfl⟩
  | steps hs => exact h.step hs

theorem run (h : Supervised m c turns) (moves : List Move) :
    ∃ turns', Supervised m (c.run dr moves) turns' :=
  Course.run_invariant (P := fun c => ∃ turns, Supervised m c turns)
    (fun ⟨_, h⟩ hm => h.move hm) moves ⟨turns, h⟩

theorem launch {d : δ} {credentials : Credentials} {policy : RetryPolicy} {s : Supervisor δ}
    (launched : (Supervisor.launch dr d credentials policy).1 = .ok s) :
    Supervised policy.maxRetries (Course.start s) [] := by
  simp only [Supervisor.launch] at launched
  split at launched
  · cases launched
  · cases launched
    exact ⟨.nil _, rfl, rfl, rfl, rfl, nofun⟩

end Supervised

end SignalActuator.Link
