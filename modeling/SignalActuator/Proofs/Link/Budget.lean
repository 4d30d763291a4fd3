/-
  Budget — the retry machine in closed form.

  What the establisher does depends only on the number of losses since the link
  was last up.  The machine keeps a counter that stops at the maximum and a flag
  that is set one loss later; neither is ever out of step with that number, for
  any maximum, zero and the largest one included.

  * `losses` is that number, and `Budget` the state that belongs to it;
  * `Loses` is what one further loss comes to;
  * `length_attempts_le` and `countP_associates`: the attempts and the associations
    of a run, by the times the link came up and the times the driver started;
  * `retry_budget`: state, actions and attempts of a run, in closed form.
-/
import SignalActuator.Link.Establisher
import Mathlib.Data.List.DropRight

namespace SignalActuator.Link

def Event.isDown : Event → Bool
  | .down _ => true
  | _ => false

/-- The losses since the link was last up, or since the beginning. -/
def losses (events : List Event) : Nat :=
  (events.rtakeWhile (· ≠ .up)).countP Event.isDown

/-- What a loss calls for, as the `d`-th since the link was last up. -/
def Action.ofLoss (m : UInt32) (d : Nat) : Action :=
  if d ≤ m.toNat then .reassociate (.ofNat d)
  else if d = m.toNat + 1 then .giveUp
  else .nothing

/-- Whether an action asks for an association. -/
def Action.associates : Action → Bool
  | .associate | .reassociate _ => true
  | _ => false

/-- The numbers of the attempts among actions. -/
def attempts (actions : List Action) : List Nat :=
  actions.filterMap fun | .reassociate n => some n.toNat | _ => none

/-! ## Losses -/

@[simp] theorem losses_started (events : List Event) :
    losses (events ++ [.started]) = losses events := by
  rw [losses, List.rtakeWhile_concat_pos _ _ _ (by simp), List.countP_append]
  rfl

@[simp] theorem losses_up (events : List Event) : losses (events ++ [.up]) = 0 := by
  rw [losses, List.rtakeWhile_concat_neg _ _ _ (by simp)]
  rfl

@[simp] theorem losses_down (events : List Event) (reason : String) :
    losses (events ++ [.down reason]) = losses events + 1 := by
  rw [losses, List.rtakeWhile_concat_pos _ _ _ (by simp), List.countP_append]
  rfl

theorem losses_of_not_mem {events : List Event} (h : .up ∉ events) :
    losses events = events.countP Event.isDown := by
  have hall : events.rtakeWhile (· ≠ .up) = events := by
    refine List.rtakeWhile_eq_self_iff.2 fun event hmem => ?_
    have hne : event ≠ .up := fun he => h (he ▸ hmem)
    simpa using hne
  rw [losses, hall]

namespace Establisher

variable {m : UInt32} {d : Nat} {e : Establisher}

/-- What each event of a list calls for. -/
def actions (e : Establisher) : List Event → List Action
  | [] => []
  | event :: events => (e.react event).action :: (e.react event).next.actions events

theorem run_append (e : Establisher) (events more : List Event) :
    e.run (events ++ more) = (e.run events).run more :=
  List.foldl_append

@[simp] theorem run_snoc (e : Establisher) (events : List Event) (event : Event) :
    e.run (events ++ [event]) = ((e.run events).react event).next :=
  run_append e events [event]

theorem actions_append (e : Establisher) (events more : List Event) :
    e.actions (events ++ more) = e.actions events ++ (e.run events).actions more := by
  induction events generalizing e with
  | nil => rfl
  | cons event events ih => exact congrArg (_ :: ·) (ih _)

/-! ## The state that belongs to a number of losses -/

/-- An establisher with the maximum `m` after `d` losses since the link was up. -/
structure Budget (m : UInt32) (d : Nat) (e : Establisher) : Prop where
  retries : e.retries.toNat = min d m.toNat
  exhausted : e.exhausted = decide (m.toNat < d)
  maxRetries : e.maxRetries = m

/-- What the `d`-th loss since the link was up comes to in the state `e`. -/
structure Loses (m : UInt32) (d : Nat) (e : Establisher) (r : Reaction) : Prop where
  budget : Budget m d r.next
  action : r.action = .ofLoss m d
  connection : r.next.connection =
    if d ≤ m.toNat then .connecting
    else if d = m.toNat + 1 then .disconnected
    else e.connection

theorem Budget.new (m : UInt32) : Budget m 0 (new m) where
  retries := (Nat.zero_min _).symm
  exhausted := by simp [Establisher.new]
  maxRetries := rfl

namespace Budget

theorem started (h : Budget m d e) : Budget m d (e.react .started).next :=
  ⟨h.retries, h.exhausted, h.maxRetries⟩

theorem up (h : Budget m d e) : Budget m 0 (e.react .up).next where
  retries := (Nat.zero_min _).symm
  exhausted := by simp [react, onUp]
  maxRetries := h.maxRetries

theorem lt_maxRetries (h : Budget m d e) : e.retries < e.maxRetries ↔ d < m.toNat := by
  rw [h.maxRetries, UInt32.lt_iff_toNat_lt, h.retries]
  omega

/-- A loss within the budget is counted and answered by another attempt. -/
theorem down_within (h : Budget m d e) (reason : String) (hd : d < m.toNat) :
    (e.onDown reason).next = { e with connection := .connecting, retries := e.retries + 1 } ∧
      (e.onDown reason).action = .reassociate (e.retries + 1) := by
  have he : e.exhausted = false := by
    rw [h.exhausted]
    exact decide_eq_false (by omega)
  simp [onDown, he, h.lt_maxRetries.2 hd]

theorem down_last (h : Budget m d e) (reason : String) (hd : d = m.toNat) :
    (e.onDown reason).next = { e with connection := .disconnected, exhausted := true } ∧
      (e.onDown reason).action = .giveUp := by
  have he : e.exhausted = false := by
    rw [h.exhausted]
    exact decide_eq_false (by omega)
  have hr : ¬ e.retries < e.maxRetries := by
    rw [h.lt_maxRetries]
    omega
  simp [onDown, he, hr]

theorem down_spent (h : Budget m d e) (reason : String) (hd : m.toNat < d) :
    e.onDown reason = ⟨e, .nothing, []⟩ := by
  have he : e.exhausted = true := by
    rw [h.exhausted]
    exact decide_eq_true hd
  simp [onDown, he]

/-- Below the maximum the counter is the number of losses, and does not wrap. -/
theorem retries_add_one (h : Budget m d e) (hd : d < m.toNat) :
    (e.retries + 1).toNat = d + 1 := by
  have hm := m.toNat_lt
  rw [UInt32.toNat_add, h.retries, Nat.min_eq_left (Nat.le_of_lt hd)]
  exact Nat.mod_eq_of_lt (by change d + 1 < 2 ^ 32; omega)

theorem down (h : Budget m d e) (reason : String) : Loses m (d + 1) e (e.onDown reason) := by
  -- Another attempt, the loss that is one too many, or a loss after that.
  rcases Nat.lt_trichotomy d m.toNat with hd | hd | hd
  · obtain ⟨hnext, haction⟩ := h.down_within reason hd
    have hr := h.retries_add_one hd
    have hle : d + 1 ≤ m.toNat := hd
    refine ⟨?_, ?_, ?_⟩
    · rw [hnext]
      refine ⟨?_, ?_, h.maxRetries⟩
      · change (e.retries + 1).toNat = _
        omega
      · change e.exhausted = _
        rw [h.exhausted]
        exact decide_eq_decide.2 (by omega)
    · rw [haction, Action.ofLoss, if_pos hle, ← hr, UInt32.ofNat_toNat]
    · rw [hnext, if_pos hle]
  · obtain ⟨hnext, haction⟩ := h.down_last reason hd
    refine ⟨?_, ?_, ?_⟩
    · rw [hnext]
      refine ⟨?_, ?_, h.maxRetries⟩
      · change e.retries.toNat = _
        rw [h.retries]
        omega
      · exact (decide_eq_true (by omega)).symm
    · rw [haction, Action.ofLoss, if_neg (by omega), if_pos (by omega)]
    · rw [hnext, if_neg (by omega), if_pos (by omega)]
  · rw [h.down_spent reason hd]
    refine ⟨⟨?_, ?_, h.maxRetries⟩, ?_, ?_⟩
    · rw [h.retries]
      omega
    · rw [h.exhausted]
      exact decide_eq_decide.2 (by omega)
    · rw [Action.ofLoss, if_neg (by omega), if_neg (by omega)]
    · rw [if_neg (by omega), if_neg (by omega)]

end Budget

theorem budget_run (m : UInt32) (events : List Event) :
    Budget m (losses events) ((new m).run events) := by
  induction events using List.reverseRecOn with
  | nil => exact .new m
  | append_singleton events event ih =>
    rw [run_snoc]
    cases event with
    | started => rw [losses_started]; exact ih.started
    | up => rw [losses_up]; exact ih.up
    | down reason => rw [losses_down]; exact (ih.down reason).budget

/-! ## Attempts -/

@[simp] theorem attempts_append (as bs : List Action) :
    attempts (as ++ bs) = attempts as ++ attempts bs :=
  List.filterMap_append ..

theorem attempts_ofLoss (m : UInt32) (d : Nat) :
    attempts [.ofLoss m d] = if d ≤ m.toNat then [d] else [] := by
  have hm := m.toNat_lt
  unfold Action.ofLoss
  split_ifs with h h'
  · change [(UInt32.ofNat d).toNat] = [d]
    rw [UInt32.toNat_ofNat_of_lt' (by change d < 2 ^ 32; omega)]
  · rfl
  · rfl

/-- As long as the link does not come up, each attempt is numbered one higher than
    the one before, up to the maximum. -/
theorem Budget.attempts_stretch (h : Budget m d e) {stretch : List Event}
    (hs : .up ∉ stretch) :
    attempts (e.actions stretch) =
      List.range' (min d m.toNat + 1)
        (min (d + stretch.countP Event.isDown) m.toNat - min d m.toNat) := by
  induction stretch generalizing d e with
  | nil => simp [actions, attempts]
  | cons event stretch ih =>
    obtain ⟨hne, hrest⟩ := List.ne_and_not_mem_of_not_mem_cons hs
    cases event with
    | up => exact absurd rfl hne
    | started => exact ih h.started hrest
    | down reason =>
      have l := h.down reason
      have hsplit : attempts (e.actions (.down reason :: stretch)) =
          attempts [.ofLoss m (d + 1)] ++
            attempts ((e.onDown reason).next.actions stretch) := by
        rw [← attempts_append, ← l.action]
        rfl
      rw [hsplit, attempts_ofLoss, ih l.budget hrest, List.countP_cons_of_pos rfl]
      split_ifs with hd
      · rw [show min (d + 1) m.toNat = min d m.toNat + 1 by omega,
          show min (d + (stretch.countP Event.isDown + 1)) m.toNat - min d m.toNat =
            min (d + 1 + stretch.countP Event.isDown) m.toNat - (min d m.toNat + 1) + 1 by omega,
          List.range'_succ, show min d m.toNat = d by omega]
        rfl
      · rw [show min (d + 1) m.toNat = min d m.toNat by omega,
          show d + 1 + stretch.countP Event.isDown = d + (stretch.countP Event.isDown + 1) by omega]
        rfl

/-- As long as the link does not come up, the establisher gives up once, with the
    loss that is one too many. -/
theorem Budget.count_giveUp (h : Budget m d e) {stretch : List Event} (hs : .up ∉ stretch) :
    (e.actions stretch).count .giveUp =
      if d ≤ m.toNat ∧ m.toNat < d + stretch.countP Event.isDown then 1 else 0 := by
  induction stretch generalizing d e with
  | nil =>
    rw [if_neg (by simp)]
    rfl
  | cons event stretch ih =>
    obtain ⟨hne, hrest⟩ := List.ne_and_not_mem_of_not_mem_cons hs
    cases event with
    | up => exact absurd rfl hne
    | started => exact ih h.started hrest
    | down reason =>
      have l := h.down reason
      have hsplit : (e.actions (.down reason :: stretch)).count .giveUp =
          ((e.onDown reason).next.actions stretch).count .giveUp +
            if Action.ofLoss m (d + 1) = .giveUp then 1 else 0 := by
        rw [← l.action, actions, List.count_cons]
        simp only [react, beq_iff_eq]
      have hgive : Action.ofLoss m (d + 1) = .giveUp ↔ d = m.toNat := by
        unfold Action.ofLoss
        split_ifs <;> simp <;> omega
      rw [hsplit, ih l.budget hrest, List.countP_cons_of_pos rfl]
      simp only [hgive]
      split_ifs <;> omega

/-- The attempts of a run: a whole budget for each time the link came up, and the
    losses since then. -/
theorem length_attempts_le (m : UInt32) (events : List Event) :
    (attempts ((new m).actions events)).length ≤
      m.toNat * events.count .up + min (losses events) m.toNat := by
  induction events using List.reverseRecOn with
  | nil => simp [actions, attempts]
  | append_singleton events event ih =>
    have h := budget_run m events
    rw [actions_append, attempts_append, List.length_append, List.count_append]
    cases event with
    | started =>
      rw [losses_started]
      simpa [actions, react, attempts] using ih
    | up =>
      have hlast : attempts (((new m).run events).actions [.up]) = [] := rfl
      rw [hlast, losses_up, List.count_singleton_self, Nat.mul_add, List.length_nil]
      omega
    | down reason =>
      have l := h.down reason
      have hlast : attempts (((new m).run events).actions [.down reason]) =
          attempts [.ofLoss m (losses events + 1)] := by
        rw [← l.action]
        rfl
      have hup : [Event.down reason].count .up = 0 := by simp
      rw [hlast, attempts_ofLoss, losses_down, hup, Nat.mul_add, Nat.mul_zero]
      split_ifs with hd
      · rw [List.length_singleton, Nat.min_eq_left hd]
        omega
      · rw [List.length_nil, Nat.min_eq_right (by omega)]
        omega

theorem onDown_action (e : Establisher) (reason : String) :
    (e.onDown reason).action = .reassociate (e.retries + 1) ∨
      (e.onDown reason).action = .giveUp ∨ (e.onDown reason).action = .nothing := by
  unfold onDown
  split_ifs <;> simp

/-- The associations that events call for: one when the driver starts, and the
    attempts. -/
theorem countP_associates (e : Establisher) (events : List Event) :
    (e.actions events).countP Action.associates =
      events.count .started + (attempts (e.actions events)).length := by
  induction events generalizing e with
  | nil => rfl
  | cons event events ih =>
    have hattempts : attempts (e.actions (event :: events)) =
        attempts [(e.react event).action] ++ attempts ((e.react event).next.actions events) := by
      rw [← attempts_append]
      rfl
    have hfirst : (if (e.react event).action.associates = true then 1 else 0) =
        [event].count .started + (attempts [(e.react event).action]).length := by
      cases event with
      | started | up => rfl
      | down reason =>
        rw [react]
        rcases e.onDown_action reason with h | h | h <;> rw [h] <;> rfl
    have hcount : (event :: events).count .started =
        [event].count .started + events.count .started := by
      rw [← List.count_append]
      rfl
    rw [hattempts, List.length_append, actions, List.countP_cons, ih, hcount, hfirst]
    omega

/-- As long as only losses follow, the link is disconnected once the budget is
    spent. -/
theorem Budget.disconnected (h : Budget m d e) (hc : m.toNat < d → e.connection = .disconnected)
    {downs : List Event} (hdowns : ∀ event ∈ downs, event.isDown = true)
    (hd : m.toNat < d + downs.length) : (e.run downs).connection = .disconnected := by
  induction downs generalizing d e with
  | nil => exact hc hd
  | cons event downs ih =>
    obtain ⟨hdown, hrest⟩ := List.forall_mem_cons.1 hdowns
    cases event with
    | started | up => exact absurd hdown (by decide)
    | down reason =>
      have l := h.down reason
      refine ih l.budget (fun hlt => ?_) hrest (by rw [List.length_cons] at hd; omega)
      change (e.onDown reason).next.connection = _
      rw [l.connection, if_neg (by omega)]
      split_ifs with hlast
      · rfl
      · exact hc (by omega)

/-- **The retry budget.**  After any events, with `d` losses since the link was last
    up: the counter is `d` but stops at the maximum, the flag says whether `d` is
    above it, and the maximum is as it was; each event calls for what its kind and
    its place say; and in a stretch in which the link does not come up the attempts
    are numbered on from there, one by one, up to the maximum, and the establisher
    gives up at most once. -/
theorem retry_budget (m : UInt32) (events : List Event) :
    let e := (new m).run events
    let d := losses events
    (e.retries.toNat = min d m.toNat ∧ (e.exhausted = true ↔ m.toNat < d) ∧
      e.maxRetries = m) ∧
    (∀ event, (e.react event).action =
      match event with
      | .started => .associate
      | .up => .markConnected
      | .down _ =>
        if d + 1 ≤ m.toNat then .reassociate (.ofNat (d + 1))
        else if d + 1 = m.toNat + 1 then .giveUp
        else .nothing) ∧
    (∀ event, ((new m).run (events ++ [event])).connection =
      match event with
      | .started => .connecting
      | .up => .connected
      | .down _ =>
        if d + 1 ≤ m.toNat then .connecting
        else if d + 1 = m.toNat + 1 then .disconnected
        else e.connection) ∧
    ((new m).run []).connection = .disconnected ∧
    ∀ stretch, .up ∉ stretch →
      let n := stretch.countP Event.isDown
      attempts (e.actions stretch) =
        List.range' (min d m.toNat + 1) (min (d + n) m.toNat - min d m.toNat) ∧
      (attempts (e.actions stretch)).length ≤ m.toNat ∧
      (e.actions stretch).count .giveUp ≤ 1 := by
  intro e d
  have h : Budget m d e := budget_run m events
  refine ⟨⟨h.retries, ?_, h.maxRetries⟩, fun event => ?_, fun event => ?_, rfl,
    fun stretch hs => ⟨h.attempts_stretch hs, ?_, ?_⟩⟩
  · rw [h.exhausted, decide_eq_true_eq]
  · cases event with
    | started | up => rfl
    | down reason => exact (h.down reason).action
  · rw [run_snoc]
    cases event with
    | started | up => rfl
    | down reason => exact (h.down reason).connection
  · rw [h.attempts_stretch hs, List.length_range']
    omega
  · rw [h.count_giveUp hs]
    split_ifs <;> omega

/-- With a maximum of two, a driver that starts and then only loses the link is
    associated again as the attempts 1 and 2. -/
theorem retry_budget_two :
    attempts (((new 2).run [.started]).actions
      [.down "a", .down "b", .started, .down "c", .down "d"]) = [1, 2] :=
  ((retry_budget 2 [.started]).2.2.2.2
    [.down "a", .down "b", .started, .down "c", .down "d"] (by decide)).1

end Establisher

end SignalActuator.Link
