/-
  Moves — what the parties of a session may do, and what becomes of the session.

  * `Moved` lists the moves that can be made in a session: what each needs, what it
    leaves and what can be seen of it; `moved` shows that there are no others, and
    `Moved.made` that all of them can be made;
  * `moves_invariant`: what holds at first and is kept by every move holds at any
    time; `moves_invariant_of` says the same of moves of one kind.
-/
import SignalActuator.Bus.Traffic
import SignalActuator.Proofs.Moves
import Mathlib.Data.List.Basic

namespace SignalActuator.Bus

/-- The events that say nothing to a session. -/
def Event.isIdle : Event → Bool
  | .connectAck | .publish _ | .disconnect => false
  | .subscribeAck .. | .upkeep _ | .outgoing => true

/-- What a session says when it refuses a request because its loop has stopped. -/
def Waiter.refusal : Waiter → List Occurrence
  | .declaration k _ =>
    [.failed (.subscriptionFailed k "Failed to send mqtt requests to eventloop")]
  | .publication .. => [.failed (.publishFailed "Failed to send mqtt requests to eventloop")]
  | .farewell => []

/-- What a session says when it takes the request of a waiter. -/
def Waiter.acceptance : Waiter → List Occurrence
  | .declaration k inbox => [.handed (.subscribe k), .declared inbox]
  | w => [.handed w.request]

/-- The subscriptions after the request of a waiter was refused. -/
def Waiter.withdraw : Waiter → Subscriptions → Subscriptions
  | .declaration k _, t => t.erase k
  | _, t => t

/-! ## Taking one out of a list -/

section

variable {α β : Type} (f : α → Option β) {l : List α} {i : Nat} {x : α}

/-- What a list yields, with one element of it set apart. -/
theorem filterMap_split (h : l[i]? = some x) :
    l.filterMap f =
      (l.take i).filterMap f ++ ((f x).toList ++ (l.drop (i + 1)).filterMap f) := by
  obtain ⟨hi, hx⟩ := List.getElem?_eq_some_iff.1 h
  have hcons : (x :: l.drop (i + 1)).filterMap f =
      (f x).toList ++ (l.drop (i + 1)).filterMap f := by
    cases hf : f x <;> simp [hf]
  rw [← hcons, ← List.filterMap_append, ← hx, List.getElem_cons_drop, List.take_append_drop]

theorem filterMap_eraseIdx (l : List α) (i : Nat) :
    (l.eraseIdx i).filterMap f =
      (l.take i).filterMap f ++ (l.drop (i + 1)).filterMap f := by
  rw [List.eraseIdx_eq_take_drop_succ, List.filterMap_append]

end

namespace Session

/-! ## Single moves -/

/-- The moves that can be made in a session, what becomes of it, and what can be
    seen of them. -/
inductive Moved (s : Session) : Move → Session → List Occurrence → Prop
  | breaks {reason : String} (polling : s.loop = .polling) :
    Moved s (.yield (.error reason))
      { s with state := .disconnected reason, loop := .pausing, live := false, subscribed := [] }
      [.yielded (.error reason)]
  | acknowledges (polling : s.loop = .polling) :
    Moved s (.yield (.ok .connectAck))
      { s with state := .connected, loop := .acknowledged, live := true, subscribed := []
               old := s.requests.length }
      [.yielded (.ok .connectAck)]
  | receives {p : Publish} (polling : s.loop = .polling) :
    Moved s (.yield (.ok (.publish p))) { s with loop := .addressing p.inbound }
      [.yielded (.ok (.publish p))]
  | parts (polling : s.loop = .polling) :
    Moved s (.yield (.ok .disconnect))
      { s with state := .disconnected brokerReason, live := false, subscribed := [] }
      [.yielded (.ok .disconnect)]
  | idles {event : Event} (polling : s.loop = .polling) (idle : event.isIdle = true) :
    Moved s (.yield (.ok event)) s [.yielded (.ok event)]
  | subscribes {k : String} {rs : List Request} (polling : s.loop = .polling)
    (live : s.live = true) (first : s.requests = .subscribe k :: rs) :
    Moved s .serve
      { s with requests := rs, old := s.old - 1, subscribed := s.subscribed ++ [k] } []
  | publishes {p : Publication} {rs : List Request} (polling : s.loop = .polling)
    (live : s.live = true) (first : s.requests = .publish p :: rs) :
    Moved s .serve { s with requests := rs, old := s.old - 1 } []
  | disconnects {rs : List Request} (polling : s.loop = .polling)
    (live : s.live = true) (first : s.requests = .disconnect :: rs) :
    Moved s .serve
      { s with requests := rs, old := s.old - 1, live := false, subscribed := [] } []
  | forgets {i : Nat} (free : s.live = true → i < s.old) :
    Moved s (.forget i) (s.forget i) []
  | surveys (acknowledged : s.loop = .acknowledged) :
    Moved s .survey { s with loop := .resubscribing s.subscriptions.keys } []
  | resubscribes {k : String} {ks : List String} (left : s.loop = .resubscribing (k :: ks))
    (room : s.hasRoom = true) :
    Moved s .resubscribe
      { s with loop := .resubscribing ks, requests := s.requests ++ [.subscribe k] }
      [.handed (.subscribe k)]
  | completes (none_left : s.loop = .resubscribing []) :
    Moved s .resubscribe { s with loop := .polling } []
  | addresses {m : Inbound} {i : Nat} (hand : s.loop = .addressing m)
    (found : s.subscriptions.get? m.keyExpr = some i) :
    Moved s .address { s with loop := .forwarding m i } [.addressed m]
  | returns {m : Inbound} (hand : s.loop = .addressing m)
    (missing : s.subscriptions.get? m.keyExpr = none) :
    Moved s .address { s with loop := .polling } [.addressed m, .discarded m]
  | delivers {m : Inbound} {i : Nat} {box : Inbox} (hand : s.loop = .forwarding m i)
    (found : s.inboxes[i]? = some box) (kept : box.open_ = true)
    (room : box.messages.length < s.inboxRoom) :
    Moved s .forward
      { s with
        loop := .polling
        inboxes := s.inboxes.modify i fun b => { b with messages := b.messages ++ [m] } }
      [.delivered i m]
  /-- The subscriber of a message has gone. -/
  | drops {m : Inbound} {i : Nat} (hand : s.loop = .forwarding m i)
    (gone : ∀ box, s.inboxes[i]? = some box → box.open_ = false) :
    Moved s .forward { s with loop := .polling } [.discarded m]
  | resumes (pausing : s.loop = .pausing) : Moved s .resume { s with loop := .polling } []
  | stops (stopping : s.stopping = true) (idle : s.loop = .polling ∨ s.loop = .pausing) :
    Moved s .heed { s with loop := .stopped, live := false, subscribed := [] } []
  | declares {k : String} (valid : KeyExpr.validate k = .ok ()) :
    Moved s (.declare k)
      { s with
        inboxes := s.inboxes ++ [{ keyExpr := k }]
        subscriptions := s.subscriptions.insert k s.inboxes.length
        waiting := s.waiting ++ [.declaration k s.inboxes.length] }
      [.entered k s.inboxes.length]
  | rejects {k : String} {e : KeyExpr.Error} (invalid : KeyExpr.validate k = .error e) :
    Moved s (.declare k) s [.failed (.invalidKeyExpr e)]
  | puts {k : String} {m : Outbound} {sent : Timestamp} {inbox : Option Nat} {p : Publication}
    (free : inbox.any s.consumerWaits = false)
    (accepted : publication s.state k m sent = .ok p) :
    Moved s (.put k m sent inbox) { s with waiting := s.waiting ++ [.publication p inbox] } []
  | refuses {k : String} {m : Outbound} {sent : Timestamp} {inbox : Option Nat} {e : Error}
    (free : inbox.any s.consumerWaits = false)
    (refused : publication s.state k m sent = .error e) :
    Moved s (.put k m sent inbox) s [.failed e]
  | brings {i : Nat} {w : Waiter} (found : s.waiting[i]? = some w) (running : s.loop ≠ .stopped)
    (room : s.hasRoom = true) :
    Moved s (.bring i)
      { s with waiting := s.waiting.eraseIdx i, requests := s.requests ++ [w.request] }
      w.acceptance
  | returnsEmpty {i : Nat} {w : Waiter} (found : s.waiting[i]? = some w)
    (stopped : s.loop = .stopped) :
    Moved s (.bring i)
      { s with waiting := s.waiting.eraseIdx i, subscriptions := w.withdraw s.subscriptions }
      w.refusal
  | takes {i : Nat} {box : Inbox} {m : Inbound} (free : s.consumerWaits i = false)
    (found : s.inboxes[i]? = some box) (first : box.messages.head? = some m) :
    Moved s (.take i)
      { s with
        inboxes := s.inboxes.modify i fun b =>
          { b with messages := b.messages.tail, taken := b.taken ++ [m] } } []
  | leaves {i : Nat} :
    Moved s (.leave i)
      { s with inboxes := s.inboxes.modify i fun b => { b with open_ := false, messages := [] } }
      []
  | stopLoop : Moved s .stopLoop { s with stopping := true } []
  | sayFarewell : Moved s .sayFarewell { s with waiting := s.waiting ++ [.farewell] } []
  | markClosed : Moved s .markClosed { s with state := .closed } []
  | clear : Moved s .clear { s with subscriptions := [] } [.cleared]

/-- There are no other moves. -/
theorem moved {s s' : Session} {m : Move} {os : List Occurrence}
    (h : s.move m = some (s', os)) : Moved s m s' os := by
  cases m with
  | yield polled =>
    simp only [move, Option.ite_none_right_eq_some, Option.some.injEq, Prod.mk.injEq] at h
    obtain ⟨polling, rfl, rfl⟩ := h
    rcases polled with reason | event
    · exact .breaks polling
    · cases event with
      | connectAck => exact .acknowledges polling
      | publish p => exact .receives polling
      | disconnect => exact .parts polling
      | subscribeAck | upkeep | outgoing => exact .idles polling rfl
  | serve =>
    simp only [move, Option.ite_none_right_eq_some] at h
    obtain ⟨⟨polling, live⟩, h⟩ := h
    rcases hr : s.requests with _ | ⟨r, rs⟩
    · simp [serve, hr] at h
    · cases r with
      | subscribe k =>
        simp only [serve, hr, Option.map_some, Option.some.injEq, Prod.mk.injEq] at h
        obtain ⟨rfl, rfl⟩ := h
        exact .subscribes polling live hr
      | publish p =>
        simp only [serve, hr, Option.map_some, Option.some.injEq, Prod.mk.injEq] at h
        obtain ⟨rfl, rfl⟩ := h
        exact .publishes polling live hr
      | disconnect =>
        simp only [serve, hr, Option.map_some, Option.some.injEq, Prod.mk.injEq] at h
        obtain ⟨rfl, rfl⟩ := h
        exact .disconnects polling live hr
  | forget i =>
    simp only [move, Option.ite_none_left_eq_some, Option.some.injEq, Prod.mk.injEq] at h
    obtain ⟨free, rfl, rfl⟩ := h
    exact .forgets fun live => Nat.lt_of_not_le fun hi => free ⟨live, hi⟩
  | survey =>
    simp only [move, Option.ite_none_right_eq_some, Option.some.injEq, Prod.mk.injEq] at h
    obtain ⟨acknowledged, rfl, rfl⟩ := h
    exact .surveys acknowledged
  | resubscribe =>
    simp only [move] at h
    split at h
    next hl =>
      cases h
      exact .completes hl
    next k ks hl =>
      simp only [Option.ite_none_right_eq_some, Option.some.injEq, Prod.mk.injEq] at h
      obtain ⟨room, rfl, rfl⟩ := h
      exact .resubscribes hl room
    next => cases h
  | address =>
    simp only [move] at h
    split at h
    next m hl =>
      simp only [address, Option.some.injEq] at h
      split at h
      next i found =>
        cases h
        exact .addresses hl found
      next missing =>
        cases h
        exact .returns hl missing
    next => cases h
  | forward =>
    simp only [move] at h
    split at h
    next m i hl =>
      simp only [forward] at h
      split at h
      next missing =>
        cases h
        exact .drops hl fun box found => by rw [missing] at found; cases found
      next box found =>
        split at h
        next closed =>
          cases h
          refine .drops hl fun box' found' => ?_
          rw [found] at found'
          cases found'
          simpa using closed
        next kept =>
          simp only [Option.ite_none_right_eq_some, Option.some.injEq, Prod.mk.injEq] at h
          obtain ⟨room, rfl, rfl⟩ := h
          exact .delivers hl found (by simpa using kept) room
    next => cases h
  | resume =>
    simp only [move, Option.ite_none_right_eq_some, Option.some.injEq, Prod.mk.injEq] at h
    obtain ⟨pausing, rfl, rfl⟩ := h
    exact .resumes pausing
  | heed =>
    simp only [move, Option.ite_none_right_eq_some, Option.some.injEq, Prod.mk.injEq] at h
    obtain ⟨⟨stopping, idle⟩, rfl, rfl⟩ := h
    exact .stops stopping idle
  | declare k =>
    simp only [move, declare, Option.some.injEq] at h
    split at h
    next e invalid =>
      cases h
      exact .rejects invalid
    next valid =>
      cases h
      exact .declares valid
  | put k m sent inbox =>
    simp only [move, Option.ite_none_left_eq_some, Option.some.injEq] at h
    obtain ⟨free, h⟩ := h
    split at h
    next e refused =>
      cases h
      exact .refuses (by simpa using free) refused
    next p accepted =>
      cases h
      exact .puts (by simpa using free) accepted
  | bring i =>
    simp only [move, bring] at h
    split at h
    next => cases h
    next w found =>
      split at h
      next stopped =>
        cases w <;> cases h <;> exact .returnsEmpty found stopped
      next running =>
        simp only [Option.ite_none_right_eq_some] at h
        obtain ⟨room, h⟩ := h
        cases w <;> cases h <;> exact .brings found running room
  | take i =>
    simp only [move, Option.ite_none_left_eq_some] at h
    obtain ⟨free, h⟩ := h
    split at h
    next => cases h
    next m first =>
      obtain ⟨box, found, first⟩ := Option.bind_eq_some_iff.1 first
      cases h
      exact .takes (by simpa using free) found first
  | leave i => cases h; exact .leaves
  | stopLoop => cases h; exact .stopLoop
  | sayFarewell => cases h; exact .sayFarewell
  | markClosed => cases h; exact .markClosed
  | clear => cases h; exact .clear

/-- All of them can be made. -/
theorem Moved.made {s s' : Session} {m : Move} {os : List Occurrence} (h : Moved s m s' os) :
    s.move m = some (s', os) := by
  cases h with
  | breaks polling | acknowledges polling | receives polling | parts polling =>
    exact if_pos polling
  | @idles event polling idle =>
    cases event with
    | connectAck | publish | disconnect => cases idle
    | subscribeAck | upkeep | outgoing => exact if_pos polling
  | subscribes polling live first | publishes polling live first | disconnects polling live first =>
    simp [move, serve, polling, live, first]
  | @forgets i free =>
    have hfree : ¬ (s.live = true ∧ s.old ≤ i) := fun h => Nat.not_lt_of_le h.2 (free h.1)
    exact if_neg hfree
  | surveys hl | resumes hl => exact if_pos hl
  | resubscribes hl room => simp [move, hl, room]
  | completes hl => simp [move, hl]
  | addresses hl found => simp [move, hl, address, found]
  | returns hl missing => simp [move, hl, address, missing]
  | delivers hl found kept room => simp [move, hl, forward, found, kept, room, updateInbox]
  | @drops m i hl gone =>
    rcases hbox : s.inboxes[i]? with _ | box
    · simp [move, hl, forward, hbox]
    · simp [move, hl, forward, hbox, gone box hbox]
  | stops stopping idle => exact if_pos ⟨stopping, idle⟩
  | declares valid => simp [move, declare, valid]
  | rejects invalid => simp [move, declare, invalid]
  | puts free accepted => simp [move, free, accepted]
  | refuses free refused => simp [move, free, refused]
  | @brings i w found running room =>
    cases w <;> simp only [move, bring, found, running, room, if_true, if_false] <;> rfl
  | @returnsEmpty i w found stopped =>
    cases w <;> simp only [move, bring, found, stopped, if_true] <;> rfl
  | takes free found first => simp [move, free, found, first, updateInbox]
  | leaves | stopLoop | sayFarewell | markClosed | clear => rfl

/-! ## Lists of moves -/

/-- What holds at first and is kept by every move of a kind holds after moves of that
    kind. -/
theorem moves_invariant_of {P : Session → List Occurrence → Prop} {Q : Move → Prop}
    (step : ∀ {s : Session} {past : List Occurrence} {m : Move} {s' : Session}
      {os : List Occurrence}, P s past → Q m → Moved s m s' os → P s' (past ++ os))
    (ms : List Move) (hms : ∀ m ∈ ms, Q m) {s : Session} (past : List Occurrence)
    (h : P s past) : P (moves ms s).1 (past ++ (moves ms s).2) :=
  Moves.run_invariant_of (fun h hq hm => step h hq (moved hm)) ms hms past h

/-- What holds at first and is kept by every move holds at any time. -/
theorem moves_invariant {P : Session → List Occurrence → Prop}
    (step : ∀ {s : Session} {past : List Occurrence} {m : Move} {s' : Session}
      {os : List Occurrence}, P s past → Moved s m s' os → P s' (past ++ os))
    (ms : List Move) {s : Session} (past : List Occurrence) (h : P s past) :
    P (moves ms s).1 (past ++ (moves ms s).2) :=
  Moves.run_invariant (fun h hm => step h (moved hm)) ms past h

theorem moves_cons_some {s s' : Session} {m : Move} {os : List Occurrence}
    (h : s.move m = some (s', os)) (ms : List Move) :
    moves (m :: ms) s = ((moves ms s').1, os ++ (moves ms s').2) :=
  Moves.run_cons_some h ms

theorem moves_cons_none {s : Session} {m : Move} (h : s.move m = none) (ms : List Move) :
    moves (m :: ms) s = moves ms s :=
  Moves.run_cons_none h ms

theorem moves_append (ms ns : List Move) (s : Session) :
    moves (ms ++ ns) s =
      ((moves ns (moves ms s).1).1, (moves ms s).2 ++ (moves ns (moves ms s).1).2) :=
  Moves.run_append ..

end Session

end SignalActuator.Bus
