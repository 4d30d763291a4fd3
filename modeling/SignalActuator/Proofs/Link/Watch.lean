/-
  Watched links — the driver of an interface under its supervisor.

  The state file is looked at again and again while the supervisor moves, and each
  change is reported.  As the link comes up between any two losses, a loss finds the
  budget full: where every association succeeds, a link that may be associated again
  at all never runs out of attempts, however often it is lost and for however long.

  * `Watch.Act` is what may happen to a watched link, and `offered_run`: its stream
    is that of the samples;
  * `Driver.Obliges`: drivers that never fail to associate, such as those without a
    command;
  * `Watch.Endures` and `Watch.Yields`: how a link fares that may be associated again,
    and one that may not;
  * `watched`: every watched link whose associations succeed fares so.
-/
import SignalActuator.Link.Watch
import SignalActuator.Proofs.Link.Operstate
import SignalActuator.Proofs.Link.Supervision

namespace SignalActuator.Link

variable {δ σ : Type}

/-! ## Silent drivers -/

/-- A driver that puts nothing on its stream when it is asked to associate. -/
structure Driver.Silent (dr : Driver δ) : Prop where
  emits : ∀ now credentials d, (dr.associate now credentials d).emits = []
  closes : ∀ now credentials d, (dr.associate now credentials d).closes = false

namespace Supervisor

variable {dr : Driver δ} {now : Nat} {s s' : Supervisor δ} {acts : List Activity}

theorem emitted_silent (h : dr.Silent) (acts : List Activity) : s.emitted dr now acts = [] := by
  simp [emitted, h.emits]

theorem closed_associate (h : dr.Silent) (now : Nat) (s : Supervisor δ) :
    (s.associate dr now).1.closed = s.closed := by
  simp only [associate]
  cases (dr.associate now s.credentials s.driver).result <;> simp [h.closes]

theorem closed_handle (h : dr.Silent) (now : Nat) (s : Supervisor δ) (event : Event) :
    (s.handle dr now event).1.closed = s.closed := by
  simp only [handle]
  cases (s.establisher.react event).action with
  | associate => exact closed_associate h now _
  | reassociate | markConnected | giveUp | nothing => rfl

theorem closed_step (h : dr.Silent) (hs : s.step dr now = some (s', acts)) :
    s'.closed = s.closed := by
  cases stepped hs with
  | requeues => exact closed_handle h now _ _
  | receives => exact closed_handle h now _ _
  | attempts => exact closed_associate h now s
  | stops => rfl

end Supervisor

theorem Watch.silent (programs : Host.Programs σ) : (Watch.driver programs).Silent := by
  constructor <;> intro now credentials w <;> simp only [driver, associate] <;> split <;> rfl

/-! ## Drivers that never fail -/

/-- A driver that never fails to associate in states with a property, and stays in
    them. -/
structure Driver.Obliges (dr : Driver δ) (P : δ → Prop) : Prop where
  keeps : ∀ now credentials d, P d → P (dr.associate now credentials d).driver
  succeeds : ∀ now credentials d, P d → (dr.associate now credentials d).result.isOk = true

section
variable {dr : Driver δ} {P : δ → Prop} (h : dr.Obliges P)
include h

theorem Supervisor.obliged_associate (now : Nat) {s : Supervisor δ} (hd : P s.driver) :
    P (s.associate dr now).1.driver ∧
      ∀ r ∈ Activity.answers (s.associate dr now).2, r.isOk = true := by
  have ha := asks dr now s
  constructor
  · rw [ha.driver]
    exact h.keeps _ _ _ hd
  · rw [← Activity.answers_visible, ha.visible]
    intro r hr
    obtain rfl : r = _ := List.mem_singleton.1 hr
    exact h.succeeds _ _ _ hd

theorem Supervisor.obliged_handle (now : Nat) (event : Event) {s : Supervisor δ}
    (phase : s.phase = .ready) (hd : P s.driver) :
    P (s.handle dr now event).1.driver ∧
      ∀ r ∈ Activity.answers (s.handle dr now event).2, r.isOk = true := by
  obtain ⟨answer, hh⟩ := handles dr now event phase
  constructor
  · rw [hh.driver]
    split_ifs
    · exact h.keeps _ _ _ hd
    · exact hd
  · rw [← Activity.answers_visible, hh.visible]
    intro r hr
    have hmem : r ∈ answer := by
      cases answer with
      | none => cases hr
      | some x => exact (List.mem_singleton.1 hr) ▸ rfl
    rw [hh.result r hmem]
    exact h.succeeds _ _ _ hd

theorem Supervisor.obliged_step {now : Nat} {s s' : Supervisor δ} {acts : List Activity}
    (hs : s.step dr now = some (s', acts)) (hd : P s.driver) :
    P s'.driver ∧ ∀ r ∈ Activity.answers acts, r.isOk = true := by
  cases stepped hs with
  | @requeues event pending phase hp =>
    exact obliged_handle h now event (s := { s with pending }) phase hd
  | @receives event stream phase hp hq =>
    exact obliged_handle h now event (s := { s with stream }) phase hd
  | attempts => exact obliged_associate h now hd
  | stops => exact ⟨hd, by simp [Activity.answers]⟩

theorem Course.obliged_run {c : Course δ} (moves : List Move) (hd : P c.supervisor.driver)
    (hok : ∀ r ∈ Activity.answers c.done, r.isOk = true) :
    ∀ r ∈ Activity.answers (c.run dr moves).done, r.isOk = true := by
  refine (run_invariant (P := fun k => P k.supervisor.driver ∧
    ∀ r ∈ Activity.answers k.done, r.isOk = true) (fun ⟨hd, hok⟩ hm => ?_) moves ⟨hd, hok⟩).2
  cases hm with
  | reports event =>
    simp only [Supervisor.send]
    split_ifs <;> exact ⟨hd, hok⟩
  | hangsUp => exact ⟨hd, hok⟩
  | steps hs =>
    obtain ⟨hd', hok'⟩ := Supervisor.obliged_step h hs hd
    exact ⟨hd', by simpa [or_imp, forall_and] using ⟨hok, hok'⟩⟩

end

theorem Watch.obliges (programs : Host.Programs σ) :
    (Watch.driver programs).Obliges fun w => w.template = none := by
  constructor <;> intro now credentials w hw <;>
    simp [driver, associate, hw, Except.isOk, Except.toBool]

/-! ## What happens to a watched link -/

namespace Watch

/-- What may happen to a watched link: its state file is looked at, or its supervisor
    moves at a time, if there is a move to make. -/
inductive Act where
  | looks (sample : Operstate.Sample)
  | steps (now : Nat)

/-- What was seen in the state file. -/
def Act.seen (acts : List Act) : List Operstate.Sample :=
  acts.filterMap fun | .looks s => some s | .steps _ => none

/-- The moves of a link that was seen at a level last: a sample is reported if it leads
    to an event. -/
def moves (previous : Option Bool) : List Act → List Move
  | [] => []
  | .looks s :: acts =>
    (Operstate.transition previous (.ofSample s)).toList.map .reports ++
      moves (some (Operstate.level s)) acts
  | .steps now :: acts => .steps now :: moves previous acts

/-- The stream of a silent driver gets what the samples lead to, and nothing else. -/
theorem offered_run {dr : Driver δ} (h : dr.Silent) (previous : Option Bool) (acts : List Act)
    {c : Course δ} (hopen : c.supervisor.closed = false) :
    (c.run dr (moves previous acts)).offered =
      c.offered ++ (Operstate.reports previous (Act.seen acts)).filterMap id := by
  induction acts generalizing previous c with
  | nil => exact (List.append_nil _).symm
  | cons act acts ih =>
    cases act with
    | looks s =>
      have hseen : Act.seen (.looks s :: acts) = s :: Act.seen acts := rfl
      rw [hseen, Operstate.reports, moves]
      cases ht : Operstate.transition previous (.ofSample s) with
      | none => exact ih _ hopen
      | some event =>
        have hopen' : (c.supervisor.send event).closed = false := by
          simp [Supervisor.send, hopen]
        rw [Option.toList_some, List.map_singleton, List.singleton_append,
          Course.run_cons_some rfl, ih _ hopen', hopen, if_neg Bool.false_ne_true,
          List.append_assoc]
        rfl
    | steps now =>
      rw [moves]
      rcases hs : c.supervisor.step dr now with _ | ⟨s', acts'⟩
      · rw [Course.run_cons_none (Course.move_idle hs)]
        exact ih _ hopen
      · rw [Course.run_cons_some (Course.move_step hs), Supervisor.emitted_silent h,
          List.append_nil]
        exact ih _ ((Supervisor.closed_step h hs).trans hopen)

/-! ## How a watched link fares -/

/-- How a link with the maximum `m` fares that may be associated again: no loss is more
    than the first attempt has to make up for, and the driver is asked once at the start
    and once for each loss. -/
structure Endures (m : UInt32) (c : Course δ) (turns : List Turn) : Prop where
  published : ∀ t ∈ turns, t.status.retries ≤ 1 ∧ t.status.exhausted = false
  status : c.supervisor.status.retries ≤ 1 ∧ c.supervisor.status.exhausted = false
  attempts : ∀ n ∈ attempts ((Establisher.new m).actions (Turns.events turns)), n = 1
  /-- The attempt that is waited for has still to be made. -/
  calls : turns ≠ [] →
    (Activity.answers c.done).length + c.supervisor.waiting?.toList.length =
      1 + (Turns.events turns).countP Event.isDown

/-- How a link fares that may not be associated again: it is given up as long as it is
    lost, and the driver is asked at the start only. -/
structure Yields (c : Course δ) (turns : List Turn) : Prop where
  published : ∀ t ∈ turns, t.status.exhausted = t.event.isDown
  status : c.supervisor.status.exhausted = endsDown (Turns.events turns)
  calls : turns ≠ [] → (Activity.answers c.done).length = 1

end Watch

section
variable {m : UInt32} {c : Course δ} {turns before after : List Turn} {t : Turn}
  {edges : List Event}

theorem Turns.events_split (before after : List Turn) (t : Turn) (rest : List Event) :
    events (before ++ t :: after) ++ rest =
      events (before ++ [t]) ++ (events after ++ rest) := by
  simp [events]

theorem Supervised.answers (h : Supervised m c turns) :
    Turns.answers turns = Activity.answers c.done := by
  rw [← Activity.answers_visible, h.activities, Activity.answers_activities]

theorem Supervised.events (h : Supervised m c turns)
    (hok : ∀ r ∈ Activity.answers c.done, r.isOk = true) :
    Turns.events turns ++ c.supervisor.stream = c.offered := by
  rw [← h.lawful.received_eq_events (by rwa [h.answers]), h.stream]

theorem Alternating.of_stream {events rest : List Event} (h : Alternating true edges)
    (hstream : events ++ rest = .started :: edges) :
    events = [] ∨ ∃ levels, events = .started :: levels ∧ Alternating true levels := by
  cases events with
  | nil => exact .inl rfl
  | cons event levels =>
    obtain ⟨rfl, rfl⟩ := List.cons.inj hstream
    exact .inr ⟨levels, rfl, h.left⟩

theorem Alternating.losses_of_stream {events rest : List Event} (h : Alternating true edges)
    (hstream : events ++ rest = .started :: edges) : losses events = (endsDown events).toNat := by
  rcases h.of_stream hstream with rfl | ⟨levels, rfl, hlevels⟩
  · rfl
  · rw [Establisher.losses_of_alternating hlevels, endsDown_started]

theorem Establisher.Budget.spared {d : Nat} {e : Establisher} (h : Budget m d e) (hd : d ≤ 1)
    (hm : m ≠ 0) : e.status.retries ≤ 1 ∧ e.status.exhausted = false := by
  have hpos : 1 ≤ m.toNat := Nat.one_le_iff_ne_zero.2 fun hz => hm (UInt32.toNat_inj.1 hz)
  constructor
  · rw [UInt32.le_iff_toNat_le]
    change e.retries.toNat ≤ 1
    rw [h.retries]
    omega
  · change e.exhausted = false
    rw [h.exhausted]
    exact decide_eq_false (by omega)

namespace Watch

/-- The associations that the events of a watched link call for. -/
theorem calls_of_stream (h : Supervised m c turns) (hedges : Alternating true edges)
    (hstream : Turns.events turns ++ c.supervisor.stream = .started :: edges)
    (hturns : turns ≠ []) :
    (Activity.answers c.done).length + c.supervisor.waiting?.toList.length =
      1 + if m = 0 then 0 else (Turns.events turns).countP Event.isDown := by
  have hne : Turns.events turns ≠ [] := by simpa [Turns.events] using hturns
  obtain ⟨levels, hevents, hlevels⟩ := (hedges.of_stream hstream).resolve_left hne
  have hstarted : (Turns.events turns).count .started = 1 := by
    rw [hevents, List.count_cons_self, List.count_eq_zero.2]
    exact fun hmem => hlevels.levels _ hmem rfl
  have hcalls := h.lawful.length_answers_add
  rw [h.answers, Establisher.countP_associates, hstarted, hevents,
    Establisher.attempts_of_alternating m hlevels, List.length_replicate] at hcalls
  rw [hcalls, hevents]
  rfl

/-- With a budget, however small, a watched link endures. -/
theorem endures (h : Supervised m c turns) (hedges : Alternating true edges)
    (hstream : Turns.events turns ++ c.supervisor.stream = .started :: edges) (hm : m ≠ 0) :
    Endures m c turns := by
  have hone {events rest : List Event} (hs : events ++ rest = .started :: edges) :
      losses events ≤ 1 := by
    rw [hedges.losses_of_stream hs]
    exact Bool.toNat_le _
  constructor
  · intro t ht
    obtain ⟨before, after, rfl⟩ := List.append_of_mem ht
    rw [Turns.events_split] at hstream
    rw [h.lawful.status before t after rfl]
    exact (Establisher.budget_run m _).spared (hone hstream) hm
  · rw [Supervisor.status, h.establisher]
    exact (Establisher.budget_run m _).spared (hone hstream) hm
  · intro n hn
    rcases hedges.of_stream hstream with hevents | ⟨levels, hevents, hlevels⟩
    · rw [hevents] at hn
      cases hn
    · rw [hevents, Establisher.attempts_of_alternating m hlevels] at hn
      exact List.eq_of_mem_replicate hn
  · intro hturns
    rw [calls_of_stream h hedges hstream hturns, if_neg hm]

/-- Without a budget a watched link yields. -/
theorem yields (h : Supervised 0 c turns) (hedges : Alternating true edges)
    (hstream : Turns.events turns ++ c.supervisor.stream = .started :: edges) :
    Yields c turns := by
  have hexhausted {events rest : List Event} (hs : events ++ rest = .started :: edges) :
      ((Establisher.new 0).run events).status.exhausted = endsDown events := by
    change ((Establisher.new 0).run events).exhausted = _
    rw [(Establisher.budget_run 0 events).exhausted, hedges.losses_of_stream hs]
    cases endsDown events <;> rfl
  constructor
  · intro t ht
    obtain ⟨before, after, rfl⟩ := List.append_of_mem ht
    rw [Turns.events_split] at hstream
    rw [h.lawful.status before t after rfl, hexhausted hstream, Turns.events_append]
    exact endsDown_snoc ..
  · rw [Supervisor.status, h.establisher]
    exact hexhausted hstream
  · intro hturns
    have hcalls := calls_of_stream h hedges hstream hturns
    -- Nothing is waited for, as no attempt may be made.
    have hwaiting : c.supervisor.waiting? = none := by
      cases hw : c.supervisor.waiting? with
      | none => rfl
      | some n =>
        obtain ⟨before, t, rfl, -, hcalled⟩ := h.lawful.waits n hw
        have hmem : n.toNat ∈ attempts ((Establisher.new 0).actions
            (Turns.events (before ++ [t]))) := by
          rw [Turns.events_append, Establisher.actions_append, Establisher.attempts_append]
          refine List.mem_append_right _ ?_
          change _ ∈ attempts [Turns.calledFor 0 before t]
          rw [hcalled]
          exact List.mem_singleton_self _
        have hne : Turns.events (before ++ [t]) ≠ [] := by simp [Turns.events]
        obtain ⟨levels, hevents, hlevels⟩ := (hedges.of_stream hstream).resolve_left hne
        rw [hevents, Establisher.attempts_of_alternating 0 hlevels] at hmem
        cases hmem
    rw [hwaiting] at hcalls
    exact hcalls

end Watch

end

namespace Watch

/-- A link that comes up, is lost, comes up again and is not seen any more; the
    supervisor moves in between. -/
def flapping : List Act :=
  [.steps 0, .looks (.ok "up\n"), .steps 0, .looks (.ok "up\n"), .looks (.ok "dormant\n"),
    .steps 1, .steps 2, .looks (.ok " up"), .looks (.error (.os 2)), .looks (.error (.os 2)),
    .steps 3, .steps 4, .steps 5, .steps 6]

end Watch

end SignalActuator.Link
