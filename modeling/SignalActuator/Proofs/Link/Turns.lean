/-
  Turns — a supervised link as a list of turns.

  In a turn the supervisor takes one event, publishes what the establisher makes
  of it and associates if that is called for.  An association that fails owes the
  next turn a loss.  What is owed is taken before anything that waits on the
  stream, so that losses come in chains; each link of a chain costs an attempt,
  and the budget bounds the chain.

  * `Turn` and `owed`; `Lawful` is the law that each turn obeys, given the turns
    before it;
  * `chain_le`: a chain of owed losses is at most one longer than the budget;
  * `answers_le`: the associations, by the times the driver started and the link
    came up;
  * `failing`: how a link ends that starts once and is never associated.
-/
import SignalActuator.Link.Supervisor
import SignalActuator.Proofs.Link.Budget
import Mathlib.Data.List.Basic

namespace SignalActuator.Link

/-- An event that was handled. -/
structure Turn where
  /-- Whether it is the loss that stands for a failed association. -/
  requeued : Bool
  event : Event
  status : Status
  answer : Option (Except Error Unit)

/-- The loss that stands for an answer, if it is a failure. -/
def lossOf : Except Error Unit → Option Event
  | .ok _ => none
  | .error e => some (.down e.message)

def Activity.took (requeued : Bool) (event : Event) : Activity :=
  if requeued then .requeued event else .received event

namespace Turn

def withAnswer (t : Turn) (r : Except Error Unit) : Turn :=
  { t with answer := some r }

/-- The loss that a turn owes. -/
def loss? (t : Turn) : Option Event :=
  t.answer.bind lossOf

/-- The activities of a turn, log records aside. -/
def activities (t : Turn) : List Activity :=
  .took t.requeued t.event :: .published t.status ::
    (t.answer.map Activity.associated).toList

theorem activities_withAnswer {t : Turn} (h : t.answer = none) (r : Except Error Unit) :
    (t.withAnswer r).activities = t.activities ++ [.associated r] := by
  rw [activities, activities, h]
  rfl

end Turn

namespace Turns

def events (turns : List Turn) : List Event :=
  turns.map (·.event)

def received (turns : List Turn) : List Event :=
  events (turns.filter (!·.requeued))

def answers (turns : List Turn) : List (Except Error Unit) :=
  turns.filterMap (·.answer)

/-- The loss that the next turn has to take. -/
def owed (turns : List Turn) : Option Event :=
  turns.getLast?.bind Turn.loss?

/-- What an establisher with the maximum `m` calls for in a turn. -/
def calledFor (m : UInt32) (before : List Turn) (t : Turn) : Action :=
  (((Establisher.new m).run (events before)).react t.event).action

/-- The law of the turns of a link with the maximum `m`; `waiting` is the number of
    the attempt that the last turn has still to make. -/
structure Lawful (m : UInt32) (waiting : Option UInt32) (turns : List Turn) : Prop where
  /-- What is owed is taken, and the stream only if nothing is. -/
  source : ∀ before t after, turns = before ++ t :: after →
    owed before = if t.requeued then some t.event else none
  /-- The establisher is published as it is after the event. -/
  status : ∀ before t after, turns = before ++ t :: after →
    t.status = ((Establisher.new m).run (events (before ++ [t]))).status
  /-- The driver is asked once if an association is called for, and else not at all. -/
  answered : ∀ before t after, turns = before ++ t :: after → after ≠ [] ∨ waiting = none →
    t.answer.isSome = (calledFor m before t).associates
  waits : ∀ n, waiting = some n →
    ∃ before t, turns = before ++ [t] ∧ t.answer = none ∧ calledFor m before t = .reassociate n

variable {m : UInt32} {w : Option UInt32} {turns before after : List Turn} {t : Turn}

@[simp] theorem events_append (ts us : List Turn) : events (ts ++ us) = events ts ++ events us :=
  List.map_append

@[simp] theorem received_append (ts us : List Turn) :
    received (ts ++ us) = received ts ++ received us := by
  simp [received]

@[simp] theorem answers_append (ts us : List Turn) :
    answers (ts ++ us) = answers ts ++ answers us :=
  List.filterMap_append ..

@[simp] theorem owed_snoc (ts : List Turn) (t : Turn) : owed (ts ++ [t]) = t.loss? := by
  simp [owed]

@[simp] theorem events_withAnswer (ts : List Turn) (t : Turn) (r : Except Error Unit) :
    events (ts ++ [t.withAnswer r]) = events (ts ++ [t]) := by
  simp [events, Turn.withAnswer]

@[simp] theorem received_withAnswer (ts : List Turn) (t : Turn) (r : Except Error Unit) :
    received (ts ++ [t.withAnswer r]) = received (ts ++ [t]) := by
  rw [received_append, received_append]
  cases hr : t.requeued <;> simp [received, events, Turn.withAnswer, hr]

/-- A split of a list with one more element splits the list or splits that element off. -/
theorem snoc_eq_split {α : Type} {xs ys zs : List α} {x y : α}
    (h : xs ++ [x] = ys ++ y :: zs) :
    (ys = xs ∧ y = x ∧ zs = []) ∨ ∃ zs', zs = zs' ++ [x] ∧ xs = ys ++ y :: zs' := by
  rcases List.eq_nil_or_concat' zs with rfl | ⟨zs', z, rfl⟩
  · obtain ⟨rfl, rfl⟩ := List.append_singleton_inj.1 h
    exact .inl ⟨rfl, rfl, rfl⟩
  · rw [← List.cons_append, ← List.append_assoc] at h
    obtain ⟨rfl, rfl⟩ := List.append_singleton_inj.1 h
    exact .inr ⟨zs', rfl, rfl⟩

namespace Lawful

theorem nil (m : UInt32) : Lawful m none [] := by
  refine ⟨?_, ?_, ?_, ?_⟩ <;> simp

theorem snoc (h : Lawful m none turns)
    (source : owed turns = if t.requeued then some t.event else none)
    (status : t.status = ((Establisher.new m).run (events (turns ++ [t]))).status)
    (answered : w = none → t.answer.isSome = (calledFor m turns t).associates)
    (waits : ∀ n, w = some n → t.answer = none ∧ calledFor m turns t = .reassociate n) :
    Lawful m w (turns ++ [t]) where
  source := by
    intro before u after hsplit
    rcases snoc_eq_split hsplit with ⟨rfl, rfl, -⟩ | ⟨after', -, rfl⟩
    · exact source
    · exact h.source before u after' rfl
  status := by
    intro before u after hsplit
    rcases snoc_eq_split hsplit with ⟨rfl, rfl, -⟩ | ⟨after', -, rfl⟩
    · exact status
    · exact h.status before u after' rfl
  answered := by
    intro before u after hsplit hlast
    rcases snoc_eq_split hsplit with ⟨rfl, rfl, rfl⟩ | ⟨after', -, rfl⟩
    · exact answered (hlast.resolve_left (· rfl))
    · exact h.answered before u after' rfl (.inr rfl)
  waits := fun n hn => ⟨turns, t, rfl, waits n hn⟩

theorem init (h : Lawful m w (turns ++ [t])) : Lawful m none turns where
  source := fun before u after hsplit => h.source before u (after ++ [t]) (by simp [hsplit])
  status := fun before u after hsplit => h.status before u (after ++ [t]) (by simp [hsplit])
  answered := fun before u after hsplit _ =>
    h.answered before u (after ++ [t]) (by simp [hsplit]) (.inl (by simp))
  waits := fun _ hn => nomatch hn

theorem take (h : Lawful m w (turns ++ after)) (hw : after ≠ [] ∨ w = none) :
    Lawful m none turns := by
  induction after using List.reverseRecOn generalizing w with
  | nil => simpa [hw.resolve_left (· rfl)] using h
  | append_singleton after t ih =>
    rw [← List.append_assoc] at h
    exact ih h.init (.inr rfl)

theorem attempt {n : UInt32} (h : Lawful m (some n) turns) (r : Except Error Unit) :
    ∃ before t, turns = before ++ [t] ∧ t.answer = none ∧
      Lawful m none (before ++ [t.withAnswer r]) := by
  obtain ⟨before, t, rfl, hnone, hcalled⟩ := h.waits n rfl
  have hcalled' : calledFor m before (t.withAnswer r) = .reassociate n := hcalled
  refine ⟨before, t, rfl, hnone, h.init.snoc (h.source before t [] rfl) ?_ ?_ ?_⟩
  · rw [events_withAnswer]
    exact h.status before t [] rfl
  · intro _
    rw [hcalled']
    rfl
  · exact fun _ hn => nomatch hn

/-! ## Losses that are owed -/

theorem isDown_of_owed {event : Event} (h : owed turns = some event) : event.isDown = true := by
  obtain ⟨t, -, ht⟩ := Option.bind_eq_some_iff.1 h
  obtain ⟨r, -, hr⟩ := Option.bind_eq_some_iff.1 ht
  cases r with
  | ok => cases hr
  | error e =>
    cases hr
    rfl

theorem isDown_of_requeued (h : Lawful m w turns) (ht : t ∈ turns) (hr : t.requeued = true) :
    t.event.isDown = true := by
  obtain ⟨before, after, rfl⟩ := List.append_of_mem ht
  have hs := h.source before t after rfl
  rw [if_pos hr] at hs
  exact isDown_of_owed hs

theorem requeued_eq_false (h : Lawful m w turns) (hok : ∀ r ∈ answers turns, r.isOk = true)
    (ht : t ∈ turns) : t.requeued = false := by
  obtain ⟨before, after, rfl⟩ := List.append_of_mem ht
  have hs := h.source before t after rfl
  cases hr : t.requeued with
  | false => rfl
  | true =>
    rw [hr, if_pos rfl] at hs
    obtain ⟨u, hu, hloss⟩ := Option.bind_eq_some_iff.1 hs
    obtain ⟨r, hanswer, hfail⟩ := Option.bind_eq_some_iff.1 hloss
    have hmem : r ∈ answers (before ++ t :: after) :=
      List.mem_filterMap.2 ⟨u, List.mem_append_left _ (List.mem_of_getLast? hu), hanswer⟩
    cases r with
    | ok => cases hfail
    | error e => cases hok _ hmem

theorem received_eq_events (h : Lawful m w turns) (hok : ∀ r ∈ answers turns, r.isOk = true) :
    received turns = events turns := by
  have hall : turns.filter (!·.requeued) = turns := by
    refine List.filter_eq_self.2 fun t ht => ?_
    rw [h.requeued_eq_false hok ht]
    rfl
  rw [received, hall]

theorem answered_of_requeued {u : Turn} (h : Lawful m w (before ++ t :: u :: after))
    (hu : u.requeued = true) : t.answer.isSome = true := by
  have hs := h.source (before ++ [t]) u after (by simp)
  rw [if_pos hu, owed_snoc] at hs
  obtain ⟨r, hr, -⟩ := Option.bind_eq_some_iff.1 hs
  rw [hr]
  rfl

/-! ## Answers -/

theorem length_answers (h : Lawful m none turns) :
    (answers turns).length =
      ((Establisher.new m).actions (events turns)).countP Action.associates := by
  induction turns using List.reverseRecOn with
  | nil => rfl
  | append_singleton turns t ih =>
    have ha := h.answered turns t [] rfl (.inr rfl)
    have hlast : (answers [t]).length = if t.answer.isSome then 1 else 0 := by
      rcases t with ⟨_, _, _, _ | r⟩ <;> rfl
    have hactions : ((Establisher.new m).run (events turns)).actions (events [t]) =
        [calledFor m turns t] := rfl
    rw [answers_append, events_append, Establisher.actions_append, List.length_append,
      List.countP_append, ih h.init, hlast, hactions, List.countP_singleton, ha]

/-- Turns that wait have one answer less, the one that they wait for. -/
theorem length_answers_add (h : Lawful m w turns) :
    (answers turns).length + w.toList.length =
      ((Establisher.new m).actions (events turns)).countP Action.associates := by
  cases w with
  | none => exact h.length_answers
  | some n =>
    obtain ⟨before, t, rfl, hnone, hcalled⟩ := h.waits n rfl
    have hlast : answers [t] = [] := by simp [answers, hnone]
    have hactions : ((Establisher.new m).run (events before)).actions (events [t]) =
        [.reassociate n] := congrArg (· :: []) hcalled
    rw [answers_append, hlast, List.append_nil, h.init.length_answers, events_append,
      Establisher.actions_append, List.countP_append, hactions]
    rfl

/-- Turns that wait have no more answers than that. -/
theorem length_answers_le (h : Lawful m w turns) :
    (answers turns).length ≤
      ((Establisher.new m).actions (events turns)).countP Action.associates :=
  h.length_answers_add ▸ Nat.le_add_right ..

theorem length_answers_after (h : Lawful m none (before ++ after)) :
    (answers after).length =
      (((Establisher.new m).run (events before)).actions (events after)).countP
        Action.associates := by
  have hall := h.length_answers
  have hbefore := (h.take (.inr rfl)).length_answers
  rw [answers_append, List.length_append, events_append, Establisher.actions_append,
    List.countP_append] at hall
  omega

theorem count_events (h : Lawful m w turns) {event : Event} (he : event.isDown = false) :
    (events turns).count event = (received turns).count event := by
  have hdown : ∀ t ∈ turns, t.requeued = true → t.event.isDown = true :=
    fun t ht hr => h.isDown_of_requeued ht hr
  clear h
  induction turns with
  | nil => rfl
  | cons t turns ih =>
    obtain ⟨ht, hturns⟩ := List.forall_mem_cons.1 hdown
    have hevents : events (t :: turns) = t.event :: events turns := rfl
    rw [hevents, List.count_cons, ih hturns]
    cases hr : t.requeued with
    | false => simp [received, events, hr, List.count_cons]
    | true =>
      have hne : t.event ≠ event := by
        rintro rfl
        exact absurd (ht hr) (by rw [he]; decide)
      simp [received, events, hr, hne]

/-- The associations are bounded by the times the driver started and the link came
    up. -/
theorem answers_le (h : Lawful m w turns) :
    (answers turns).length ≤
      (received turns).count .started + m.toNat * ((received turns).count .up + 1) := by
  have hle := h.length_answers_le
  have hattempts := Establisher.length_attempts_le m (events turns)
  rw [Establisher.countP_associates, h.count_events rfl] at hle
  rw [h.count_events rfl] at hattempts
  rw [Nat.mul_add, Nat.mul_one]
  omega

/-- Every turn took an event from the stream or a loss that an answer stands for; a
    loss that is still owed is one to come. -/
theorem length_add_owed_le (h : Lawful m w turns) :
    turns.length + (owed turns).toList.length ≤
      (received turns).length + (answers turns).length := by
  induction turns using List.reverseRecOn generalizing w with
  | nil => exact Nat.le_refl _
  | append_singleton turns t ih =>
    have hle := ih h.init
    have hs := h.source turns t [] rfl
    have hreceived : (received [t]).length = if t.requeued then 0 else 1 := by
      rcases t with ⟨_ | _, _, _, _⟩ <;> rfl
    have howed : t.loss?.toList.length ≤ (answers [t]).length := by
      rcases t with ⟨_, _, _, _ | _ | _⟩ <;> simp [Turn.loss?, answers, lossOf]
    rw [received_append, answers_append, owed_snoc, List.length_append, List.length_append,
      List.length_append, List.length_singleton, hreceived]
    cases hr : t.requeued with
    | true =>
      rw [hr, if_pos rfl] at hs
      rw [hs, Option.toList_some, List.length_singleton] at hle
      simp only [if_true]
      omega
    | false =>
      simp only [Bool.false_eq_true, if_false]
      omega

/-! ## Chains -/

/-- A chain of losses that are owed is at most one longer than the budget: all but the
    last one of them cost an attempt. -/
theorem chain_le {chain : List Turn} (h : Lawful m w (before ++ chain ++ after))
    (hchain : ∀ t ∈ chain, t.requeued = true) : chain.length ≤ m.toNat + 1 := by
  rcases List.eq_nil_or_concat' chain with rfl | ⟨spent, last, rfl⟩
  · exact Nat.zero_le _
  -- With the last loss of the chain the establisher may give up; the others are made up for.
  have hspent : Lawful m none (before ++ spent) := by
    have hsplit : before ++ (spent ++ [last]) ++ after = (before ++ spent) ++ last :: after := by
      simp
    rw [hsplit] at h
    exact h.take (.inl (by simp))
  have hanswered : ∀ t ∈ spent, t.answer.isSome = true := by
    intro t ht
    obtain ⟨xs, ys, rfl⟩ := List.append_of_mem ht
    -- The turn after `t` is in the chain, so that it takes what `t` owes.
    obtain ⟨u, zs, hzs⟩ := List.exists_cons_of_ne_nil (List.concat_ne_nil last ys)
    have hu : u ∈ ys ++ [last] := by simp [hzs]
    have hsplit : before ++ (xs ++ t :: ys ++ [last]) ++ after =
        (before ++ xs) ++ t :: u :: (zs ++ after) := by
      rw [← List.cons_append, ← hzs]
      simp
    rw [hsplit] at h
    refine h.answered_of_requeued (hchain u ?_)
    rw [List.append_assoc, List.cons_append]
    exact List.mem_append_right _ (.tail _ hu)
  have hdown : ∀ t ∈ spent, t.event.isDown = true := fun t ht =>
    h.isDown_of_requeued (by simp [ht]) (hchain t (by simp [ht]))
  have hstarted : (events spent).count .started = 0 := by
    refine List.count_eq_zero.2 fun hmem => ?_
    obtain ⟨t, ht, he⟩ := List.mem_map.1 hmem
    exact absurd (hdown t ht) (by rw [he]; decide)
  have hup : .up ∉ events spent := by
    intro hmem
    obtain ⟨t, ht, he⟩ := List.mem_map.1 hmem
    exact absurd (hdown t ht) (by rw [he]; decide)
  have hlength : (answers spent).length = spent.length := by
    rw [answers, List.length_filterMap_eq_countP, List.countP_eq_length]
    exact hanswered
  have hattempts := (Establisher.budget_run m (events before)).attempts_stretch hup
  have hcount := hspent.length_answers_after
  rw [Establisher.countP_associates, hstarted, hlength, hattempts, List.length_range'] at hcount
  rw [List.length_append, List.length_singleton]
  omega

/-! ## Links that are never associated -/

/-- As long as the budget lasts, every event but a success calls for an association. -/
theorem associates_of_losses_le (m : UInt32) (turns : List Turn) (t : Turn) (ht : t.event ≠ .up)
    (hl : losses (events (turns ++ [t])) ≤ m.toNat) :
    (calledFor m turns t).associates = true := by
  rw [calledFor]
  cases he : t.event with
  | up => exact absurd he ht
  | started => rfl
  | down reason =>
    have hevents : events (turns ++ [t]) = events turns ++ [.down reason] := by
      simp [events, he]
    rw [hevents, losses_down] at hl
    rw [Establisher.react, ((Establisher.budget_run m (events turns)).down reason).action,
      Action.ofLoss, if_pos hl]
    rfl

theorem head_received (h : Lawful m w (t :: turns)) : t.requeued = false := by
  have hs := h.source [] t turns rfl
  cases hr : t.requeued with
  | false => rfl
  | true =>
    rw [hr] at hs
    cases hs

/-- If only losses follow the start of the driver, then only losses, owed or not,
    follow it in the turns. -/
theorem events_of_received (h : Lawful m w turns) {downs : List Event}
    (hdowns : ∀ event ∈ downs, event.isDown = true)
    (hreceived : received turns = .started :: downs) :
    ∃ rest, events turns = .started :: rest ∧ ∀ event ∈ rest, event.isDown = true := by
  cases turns with
  | nil => cases hreceived
  | cons t turns =>
    have hsplit : received (t :: turns) = t.event :: received turns := by
      simp [received, events, h.head_received]
    obtain ⟨hfirst, hrest⟩ := List.cons.inj (hsplit.symm.trans hreceived)
    refine ⟨events turns, congrArg (· :: _) hfirst, fun event hmem => ?_⟩
    obtain ⟨u, hu, rfl⟩ := List.mem_map.1 hmem
    cases hur : u.requeued with
    | true => exact h.isDown_of_requeued (List.mem_cons_of_mem _ hu) hur
    | false =>
      refine hdowns _ (hrest ▸ ?_)
      exact List.mem_map.2 ⟨u, List.mem_filter.2 ⟨hu, by simp [hur]⟩, rfl⟩

/-- If nothing is owed although every association fails, the last turn asked for none. -/
theorem not_associates_of_failing (h : Lawful m none (turns ++ [t]))
    (howed : owed (turns ++ [t]) = none) (hfail : ∀ r ∈ answers (turns ++ [t]), r.isOk = false) :
    (calledFor m turns t).associates = false := by
  rw [← h.answered turns t [] rfl (.inr rfl)]
  rw [owed_snoc, Turn.loss?] at howed
  cases hr : t.answer with
  | none => rfl
  | some r =>
    have hmem : r ∈ answers (turns ++ [t]) := by simp [answers, hr]
    cases r with
    | ok => exact absurd (hfail _ hmem) (by simp [Except.isOk, Except.toBool])
    | error e =>
      rw [hr] at howed
      cases howed

/-- If the driver starts once, the link never comes up and every association fails,
    then the whole budget is spent, and the establisher has given up when nothing is
    left to do. -/
theorem failing (h : Lawful m none turns) (howed : owed turns = none)
    (hfail : ∀ r ∈ answers turns, r.isOk = false) {downs : List Event}
    (hdowns : ∀ event ∈ downs, event.isDown = true)
    (hreceived : received turns = .started :: downs) :
    (answers turns).length = m.toNat + 1 ∧
      ((Establisher.new m).run (events turns)).status = ⟨.disconnected, m, true⟩ := by
  obtain ⟨rest, hevents, hrest⟩ := h.events_of_received hdowns hreceived
  have hup : .up ∉ events turns := by
    rw [hevents]
    rintro (_ | ⟨_, hmem⟩)
    exact absurd (hrest _ hmem) (by decide)
  have hcount : (events turns).countP Event.isDown = rest.length := by
    rw [hevents, List.countP_cons_of_neg (by decide), List.countP_eq_length]
    exact hrest
  have hlosses : losses (events turns) = rest.length := by
    rw [losses_of_not_mem hup, hcount]
  have hspent : m.toNat < rest.length := by
    rcases List.eq_nil_or_concat' turns with rfl | ⟨before, t, rfl⟩
    · cases hreceived
    -- Otherwise the last turn calls for an association, and its failure is still owed.
    by_contra hle
    have hne : t.event ≠ .up := fun he => hup (by simp [events, he])
    have hcalled := associates_of_losses_le m before t hne (by omega)
    rw [h.not_associates_of_failing howed hfail] at hcalled
    cases hcalled
  have budget := Establisher.budget_run m (events turns)
  rw [hlosses] at budget
  constructor
  · have hstarted : (events turns).count .started = 1 := by
      rw [hevents, List.count_cons_self, List.count_eq_zero.2]
      exact fun hmem => absurd (hrest _ hmem) (by decide)
    rw [h.length_answers, Establisher.countP_associates, hstarted,
      (Establisher.Budget.new m).attempts_stretch hup, hcount, List.length_range']
    omega
  · have hconnection : ((Establisher.new m).run (events turns)).connection = .disconnected := by
      rw [hevents]
      refine (Establisher.Budget.new m).started.disconnected (fun hlt => ?_) hrest (by omega)
      exact absurd hlt (Nat.not_lt_zero _)
    have hretries : ((Establisher.new m).run (events turns)).retries = m := by
      rw [← UInt32.toNat_inj, budget.retries]
      omega
    have hexhausted : ((Establisher.new m).run (events turns)).exhausted = true := by
      rw [budget.exhausted]
      exact decide_eq_true hspent
    rw [Establisher.status, hconnection, hretries, hexhausted]

end Lawful

end Turns

end SignalActuator.Link
