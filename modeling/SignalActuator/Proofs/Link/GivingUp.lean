/-
  Giving up — what an establisher still does after it has given up.

  Once the budget is spent the counter and the flag stay as they are until the link
  comes up, and losses are ignored.  A driver that starts is associated whatever the
  state, however, so that one that starts anew makes a link that was given up a
  connecting one, which then stays so.

  * `Action.whenSpent` is what an event calls for when the budget is spent;
    `run_exhausted` and `actions_exhausted`: what a run comes to from there on;
  * `exists_giveUp_of_exhausted`: an establisher whose flag is set gave up at some event,
    and the link did not come up since;
  * `Lawful.answers_spent`: after a turn that gives up the driver is asked once for each
    time it starts;
  * `giving_up`: the two together, for any driver;
  * `giving_up_undone`: a link that is associated again after it was given up.
-/
import SignalActuator.Proofs.Link.Supervision

namespace SignalActuator.Link

/-- What an event calls for when the budget is spent. -/
def Action.whenSpent : Event → Action
  | .started => .associate
  | .up => .markConnected
  | .down _ => .nothing

namespace Establisher

variable {m : UInt32} {e : Establisher} {event : Event} {stretch : List Event}

/-- An establisher gives up on a loss that it counted up to the maximum before. -/
theorem of_giveUp (h : (e.react event).action = .giveUp) :
    event.isDown = true ∧ e.exhausted = false ∧ ¬ e.retries < e.maxRetries ∧
      (e.react event).next = { e with connection := .disconnected, exhausted := true } := by
  cases event with
  | started | up => cases h
  | down reason =>
    simp only [react, onDown] at h ⊢
    split_ifs at h ⊢ with hexhausted hlt
    exact ⟨rfl, by simpa using hexhausted, hlt, rfl⟩

theorem exhausted_react (h : (e.react event).next.exhausted = true) :
    (e.react event).action = .giveUp ∨ (e.exhausted = true ∧ event ≠ .up) := by
  cases event with
  | started => exact .inr ⟨h, by simp⟩
  | up => cases h
  | down reason =>
    simp only [react, onDown] at h ⊢
    split_ifs at h ⊢ with hexhausted hlt
    · exact .inr ⟨hexhausted, by simp⟩
    · exact absurd h hexhausted
    · exact .inl rfl

theorem exhausted_of_reassociate {n : UInt32} (h : (e.react event).action = .reassociate n) :
    (e.react event).next.exhausted = false := by
  cases event with
  | started | up => cases h
  | down reason =>
    simp only [react, onDown] at h ⊢
    split_ifs at h ⊢ with hexhausted hlt
    simpa using hexhausted

/-! ## After giving up -/

/-- When the budget is spent, only the connection changes, and only when the driver
    starts anew. -/
theorem run_exhausted (h : e.exhausted = true) (hs : .up ∉ stretch) :
    e.run stretch =
      { e with connection := if .started ∈ stretch then .connecting else e.connection } := by
  induction stretch generalizing e with
  | nil => rfl
  | cons event stretch ih =>
    obtain ⟨hne, hrest⟩ := List.ne_and_not_mem_of_not_mem_cons hs
    cases event with
    | up => exact absurd rfl hne
    | started =>
      refine (ih (e := { e with connection := .connecting }) h hrest).trans ?_
      simp
    | down reason =>
      have hrun : e.run (.down reason :: stretch) = e.run stretch := by
        change (e.onDown reason).next.run stretch = _
        rw [onDown, if_pos h]
      rw [hrun, ih h hrest]
      simp

theorem actions_exhausted (h : e.exhausted = true) (hs : .up ∉ stretch) :
    e.actions stretch = stretch.map Action.whenSpent := by
  induction stretch generalizing e with
  | nil => rfl
  | cons event stretch ih =>
    obtain ⟨hne, hrest⟩ := List.ne_and_not_mem_of_not_mem_cons hs
    rw [actions, List.map_cons]
    cases event with
    | up => exact absurd rfl hne
    | started => exact congrArg (_ :: ·) (ih h hrest)
    | down reason =>
      have hdown : e.react (.down reason) = ⟨e, .nothing, []⟩ := by
        rw [react, onDown, if_pos h]
      rw [hdown]
      exact congrArg (_ :: ·) (ih h hrest)

theorem associates_whenSpent : (Action.whenSpent event).associates = (event == .started) := by
  cases event <;> rfl

theorem countP_whenSpent (stretch : List Event) :
    (stretch.map Action.whenSpent).countP Action.associates = stretch.count .started := by
  rw [List.countP_map, List.count]
  exact List.countP_congr fun event _ => by simp [associates_whenSpent]

/-- A link stays disconnected, and no association is called for, exactly as long as the
    driver does not start. -/
theorem stays_disconnected_iff (h : e.exhausted = true) (hs : .up ∉ stretch)
    (hd : e.connection = .disconnected) :
    ((e.run stretch).connection = .disconnected ∧
      ∀ action ∈ e.actions stretch, action.associates = false) ↔ .started ∉ stretch := by
  rw [run_exhausted h hs, actions_exhausted h hs, List.forall_mem_map]
  constructor
  · rintro ⟨-, hnone⟩ hmem
    cases hnone _ hmem
  · intro hmem
    refine ⟨(if_neg hmem).trans hd, fun event hevent => ?_⟩
    rw [associates_whenSpent, beq_eq_false_iff_ne]
    rintro rfl
    exact hmem hevent

theorem run_giveUp {before : List Event}
    (h : (((new m).run before).react event).action = .giveUp) :
    (new m).run (before ++ [event]) = ⟨.disconnected, m, m, true⟩ := by
  have budget := budget_run m before
  obtain ⟨-, hexhausted, hspent, hnext⟩ := of_giveUp h
  have hretries : ((new m).run before).retries = m := by
    have hd : ¬ losses before < m.toNat := fun hlt => hspent (budget.lt_maxRetries.2 hlt)
    rw [← UInt32.toNat_inj, budget.retries]
    omega
  rw [run_snoc, hnext, hretries, budget.maxRetries]

/-- An establisher whose flag is set gave up, and the link did not come up since. -/
theorem exists_giveUp_of_exhausted {events : List Event}
    (h : ((new m).run events).exhausted = true) :
    ∃ before event stretch, events = before ++ event :: stretch ∧
      (((new m).run before).react event).action = .giveUp ∧ .up ∉ stretch := by
  induction events using List.reverseRecOn with
  | nil => cases h
  | append_singleton events event ih =>
    rw [run_snoc] at h
    rcases exhausted_react h with hgive | ⟨hexhausted, hne⟩
    · exact ⟨events, event, [], rfl, hgive, by simp⟩
    · obtain ⟨before, first, stretch, rfl, hgive, hup⟩ := ih hexhausted
      refine ⟨before, first, stretch ++ [event], by simp, hgive, ?_⟩
      simpa [hup] using hne.symm

end Establisher

namespace Turns

variable {m : UInt32} {w : Option UInt32} {before chain after : List Turn} {t : Turn}

theorem events_snoc (turns : List Turn) (t : Turn) :
    events (turns ++ [t]) = events turns ++ [t.event] :=
  events_append turns [t]

theorem Lawful.waits_nothing {turns : List Turn} (h : Lawful m w turns)
    (hspent : ((Establisher.new m).run (events turns)).exhausted = true) : w = none := by
  cases w with
  | none => rfl
  | some n =>
    obtain ⟨before, t, rfl, -, hcalled⟩ := h.waits n rfl
    rw [events_snoc, Establisher.run_snoc, Establisher.exhausted_of_reassociate hcalled] at hspent
    cases hspent

/-- The driver is not asked in a turn that gives up, and after it once for each time
    that it starts anew, until the link comes up. -/
theorem Lawful.answers_spent (h : Lawful m w (before ++ t :: (chain ++ after)))
    (hgive : calledFor m before t = .giveUp) (hup : .up ∉ events chain) :
    t.answer = none ∧ (answers chain).length = (events chain).count .started := by
  have hspent : ((Establisher.new m).run (events (before ++ [t]))).exhausted = true := by
    rw [events_snoc, Establisher.run_giveUp hgive]
  have hsplit : before ++ t :: (chain ++ after) = (before ++ [t] ++ chain) ++ after := by simp
  rw [hsplit] at h
  have hlast : after ≠ [] ∨ w = none := by
    cases after with
    | cons => exact .inl nofun
    | nil =>
      refine .inr (h.waits_nothing ?_)
      rw [List.append_nil, events_append, Establisher.run_append,
        Establisher.run_exhausted hspent hup]
      exact hspent
  have hlawful : Lawful m none (before ++ [t] ++ chain) := h.take hlast
  constructor
  · have hanswered := hlawful.answered before t chain (by simp) (.inr rfl)
    rw [hgive] at hanswered
    exact Option.not_isSome_iff_eq_none.1 (by simp [hanswered, Action.associates])
  · rw [hlawful.length_answers_after, Establisher.actions_exhausted hspent hup,
      Establisher.countP_whenSpent]

theorem Lawful.head_events (h : Lawful m w (t :: after)) {offered stream : List Event}
    {event : Event} (hstream : received (t :: after) ++ stream = event :: offered) :
    t.event = event := by
  have hsplit : received (t :: after) = t.event :: received after := by
    simp [received, events, h.head_received]
  rw [hsplit] at hstream
  exact (List.cons.inj hstream).1

/-- If the driver starts only once, at the beginning, it does not start after a turn that
    gives up. -/
theorem Lawful.not_started_of_giveUp (h : Lawful m w (before ++ t :: after))
    (hgive : calledFor m before t = .giveUp) {rest stream : List Event}
    (hstream : received (before ++ t :: after) ++ stream = .started :: rest)
    (honce : .started ∉ rest) : .started ∉ events after := by
  have hdown : t.event.isDown = true := (Establisher.of_giveUp hgive).1
  cases before with
  | nil =>
    rw [h.head_events hstream] at hdown
    cases hdown
  | cons first before =>
    have hfirst : first.event = .started := h.head_events hstream
    have hcount : (events (first :: before ++ t :: after)).count .started =
        (received (first :: before ++ t :: after)).count .started := h.count_events rfl
    have hle : (received (first :: before ++ t :: after)).count .started ≤ 1 := by
      have hall := congrArg (List.count Event.started) hstream
      rw [List.count_append, List.count_cons_self, List.count_eq_zero.2 honce] at hall
      omega
    have hevents : events (first :: before ++ t :: after) =
        .started :: (events before ++ t.event :: events after) := by
      simp [events, hfirst]
    rw [hevents, List.count_cons_self, List.count_append, List.count_cons] at hcount
    refine List.count_eq_zero.1 ?_
    omega

end Turns

/-- **What giving up comes to.**  After an establisher has given up, and until the link
    comes up, the counter stays at the maximum and the flag is set, losses are ignored,
    and each start of the driver calls for an association and makes the connection a
    connecting one; so no association is called for and the link stays disconnected
    exactly as long as the driver does not start anew.  Every state with the flag set is
    such a state.  The supervisor asks the driver just as often, once for each such start
    on the stream: not at all, if the driver starts only once, at the beginning. -/
theorem giving_up {δ : Type} (dr : Driver δ) (d : δ) (credentials : Credentials)
    (policy : RetryPolicy) {s : Supervisor δ}
    (launched : (Supervisor.launch dr d credentials policy).1 = .ok s) (moves : List Move) :
    let m := policy.maxRetries
    let c := (Course.start s).run dr moves
    (∀ before event stretch,
      (((Establisher.new m).run before).react event).action = .giveUp → .up ∉ stretch →
      let e := (Establisher.new m).run (before ++ [event])
      e = ⟨.disconnected, m, m, true⟩ ∧
      e.run stretch =
        ⟨if .started ∈ stretch then .connecting else .disconnected, m, m, true⟩ ∧
      e.actions stretch = stretch.map Action.whenSpent ∧
      (((e.run stretch).connection = .disconnected ∧
        ∀ action ∈ e.actions stretch, action.associates = false) ↔ .started ∉ stretch)) ∧
    (∀ events, ((Establisher.new m).run events).exhausted = true →
      ∃ before event stretch, events = before ++ event :: stretch ∧
        (((Establisher.new m).run before).react event).action = .giveUp ∧ .up ∉ stretch) ∧
    ∃ turns, Supervised m c turns ∧
      ∀ before t chain after, turns = before ++ t :: (chain ++ after) →
        Turns.calledFor m before t = .giveUp → .up ∉ Turns.events chain →
        t.answer = none ∧
        (Turns.answers chain).length = (Turns.events chain).count .started ∧
        (∀ u ∈ chain, u.event = .started → u.requeued = false) ∧
        ∀ rest, c.offered = .started :: rest → .started ∉ rest → Turns.answers chain = [] := by
  intro m c
  refine ⟨fun before event stretch hgive hup => ?_, fun events h =>
    Establisher.exists_giveUp_of_exhausted h, ?_⟩
  · intro e
    have he : e = ⟨.disconnected, m, m, true⟩ := Establisher.run_giveUp hgive
    have hexhausted : e.exhausted = true := by rw [he]
    have hrun : e.run stretch =
        ⟨if .started ∈ stretch then .connecting else .disconnected, m, m, true⟩ := by
      rw [Establisher.run_exhausted hexhausted hup, he]
    exact ⟨he, hrun, Establisher.actions_exhausted hexhausted hup,
      Establisher.stays_disconnected_iff hexhausted hup (by rw [he])⟩
  · obtain ⟨turns, h⟩ : ∃ turns, Supervised m c turns := (Supervised.launch launched).run moves
    refine ⟨turns, h, fun before t chain after hsplit hgive hup => ?_⟩
    have hlawful := h.lawful
    have hstream := h.stream
    rw [hsplit] at hlawful hstream
    obtain ⟨hanswer, hlength⟩ := hlawful.answers_spent hgive hup
    refine ⟨hanswer, hlength, fun u hu hstarted => ?_, fun rest hoffered honce => ?_⟩
    · cases hr : u.requeued with
      | false => rfl
      | true =>
        have hdown := hlawful.isDown_of_requeued (t := u) (by simp [hu]) hr
        rw [hstarted] at hdown
        cases hdown
    · have hnot := hlawful.not_started_of_giveUp hgive (hstream.trans hoffered) honce
      rw [Turns.events_append, List.mem_append, not_or] at hnot
      rw [List.count_eq_zero.2 hnot.1] at hlength
      exact List.length_eq_zero_iff.1 hlength

/-- A driver that starts and fails every association. -/
def faltering : Rehearsal :=
  ⟨.ready, [.fails (.associationFailed "no carrier")], []⟩

/-- With a maximum of one, the driver is asked again after the link was given up with the
    second loss, and only then. -/
theorem giving_up_restarted :
    (∃ s, (Supervisor.launch Rehearsal.driver faltering ⟨"net", "key"⟩ ⟨1, 0⟩).1 = .ok s) ∧
      let e := (Establisher.new 1).run ([.started, .down "a"] ++ [.down "b"])
      e = ⟨.disconnected, 1, 1, true⟩ ∧
        e.run [.down "c", .started, .down "d"] = ⟨.connecting, 1, 1, true⟩ ∧
        e.actions [.down "c", .started, .down "d"] = [.nothing, .associate, .nothing] := by
  refine ⟨⟨_, rfl⟩, ?_⟩
  obtain ⟨hstretch, -, -⟩ :=
    giving_up Rehearsal.driver faltering ⟨"net", "key"⟩ ⟨1, 0⟩ rfl []
  obtain ⟨he, hrun, hactions, -⟩ := hstretch [.started, .down "a"] (.down "b")
    [.down "c", .started, .down "d"] (by decide) (by decide)
  exact ⟨he, hrun, hactions⟩

/-- **A link that is given up and associated again.**  The driver starts anew after the
    establisher has given up: it is asked a second time, and the link stays a connecting
    one, as the losses that follow are ignored. -/
theorem giving_up_undone :
    (Establisher.new 0).actions [.started, .down "lost", .started, .down "lost"] =
        [.associate, .giveUp, .associate, .nothing] ∧
      (Establisher.new 0).run [.started, .down "lost", .started, .down "lost"] =
        ⟨.connecting, 0, 0, true⟩ ∧
      ∃ s, (Supervisor.launch Rehearsal.driver faltering ⟨"net", "key"⟩ ⟨0, 0⟩).1 = .ok s ∧
        let early := (Course.start s).run Rehearsal.driver [.steps 0, .steps 0]
        let late := early.run Rehearsal.driver [.reports .started, .steps 0, .steps 0]
        early.supervisor.status = ⟨.disconnected, 0, true⟩ ∧
          early.supervisor.driver.associations.length = 1 ∧
          late.supervisor.status = ⟨.connecting, 0, true⟩ ∧
          late.supervisor.driver.associations.length = 2 ∧ late.supervisor.Rests Rehearsal.driver :=
  ⟨by decide, by decide, _, rfl, by decide +kernel, by decide +kernel, by decide +kernel,
    by decide +kernel, fun _ => rfl⟩

end SignalActuator.Link
