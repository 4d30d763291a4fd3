/-
  Closing — how long a closed session stays closed.

  Closing a session marks it as closed while its loop may still be polling, and
  nothing puts the stop before what the connection yields.  An acknowledgement, a
  farewell of the broker or a failure that the loop takes after the mark is a verdict
  on the session like any other, and the mark is gone.

  * `verdict?` is what the connection says about a session, and `state_moves`: the
    state of a session is the last verdict since it was marked or began;
  * `stopped_moves`: a loop that has stopped takes nothing any more;
  * `closed_iff`: a session stays closed exactly as long as no verdict comes;
  * `closed_overwritten`: an acknowledgement that comes late makes a closed session
    a connected one.
-/
import SignalActuator.Proofs.Bus.Moves
import Mathlib.Data.List.Induction

namespace SignalActuator.Bus

/-! ## Verdicts -/

/-- The state that something the connection yields puts a session in, if it does. -/
def verdict? : Polled → Option SessionState
  | .error reason => some (.disconnected reason)
  | .ok .connectAck => some .connected
  | .ok .disconnect => some (.disconnected brokerReason)
  | .ok (.publish _) | .ok (.subscribeAck ..) | .ok (.upkeep _) | .ok .outgoing => none

/-- What the connection has yielded. -/
def Occurrence.polls (h : List Occurrence) : List Polled :=
  h.filterMap fun | .yielded p => some p | _ => none

@[simp] theorem Occurrence.polls_append (h more : List Occurrence) :
    polls (h ++ more) = polls h ++ polls more :=
  List.filterMap_append ..

theorem verdict?_ne_closed (p : Polled) : verdict? p ≠ some .closed := by
  rcases p with reason | event
  · simp [verdict?]
  · cases event <;> simp [verdict?]

namespace SessionState

theorem after_eq (s : SessionState) (p : Polled) : s.after p = (verdict? p).getD s := by
  rcases p with reason | event
  · rfl
  · cases event <;> rfl

/-- Of several verdicts the last one counts. -/
theorem foldl_after (s : SessionState) (ps : List Polled) :
    ps.foldl after s = (ps.filterMap verdict?).getLast?.getD s := by
  induction ps using List.reverseRecOn with
  | nil => rfl
  | append_singleton ps p ih =>
    rw [List.foldl_append, List.foldl_cons, List.foldl_nil, after_eq, ih, List.filterMap_append]
    cases hp : verdict? p <;> simp [hp]

/-- A session is closed after what the connection has yielded only if it was closed
    before and there was no verdict. -/
theorem foldl_after_closed {s : SessionState} {ps : List Polled} :
    ps.foldl after s = .closed ↔ s = .closed ∧ ∀ p ∈ ps, verdict? p = none := by
  rw [foldl_after]
  rcases List.eq_nil_or_concat' (ps.filterMap verdict?) with hnil | ⟨vs, v, hconcat⟩
  · rw [hnil]
    simpa using fun _ => List.filterMap_eq_nil_iff.1 hnil
  · have hv : v ∈ ps.filterMap verdict? := by simp [hconcat]
    obtain ⟨p, hp, hpv⟩ := List.mem_filterMap.1 hv
    rw [hconcat, List.getLast?_concat, Option.getD_some]
    constructor
    · rintro rfl
      exact absurd hpv (verdict?_ne_closed p)
    · rintro ⟨-, hnone⟩
      rw [hnone p hp] at hpv
      cases hpv

end SessionState

namespace Session

variable {s s' : Session} {m : Move} {os : List Occurrence}

theorem state_step (hm : m ≠ .markClosed) (h : Moved s m s' os) :
    s'.state = (Occurrence.polls os).foldl SessionState.after s.state := by
  cases h with
  | @idles event polling idle =>
    cases event with
    | connectAck | publish | disconnect => cases idle
    | subscribeAck | upkeep | outgoing => rfl
  | @brings i w => cases w <;> rfl
  | @returnsEmpty i w => cases w <;> rfl
  | markClosed => exact absurd rfl hm
  | breaks | acknowledges | receives | parts | subscribes | publishes | disconnects | forgets
  | surveys | resubscribes | completes | addresses | returns | delivers | drops | resumes | stops
  | declares | rejects | puts | refuses | takes | leaves | stopLoop | sayFarewell | clear => rfl

/-- **The state of a session** that is not marked is decided by what its connection has
    yielded. -/
theorem state_moves {ms : List Move} (hms : .markClosed ∉ ms) (s : Session) :
    (moves ms s).1.state = (Occurrence.polls (moves ms s).2).foldl SessionState.after s.state := by
  have kind : ∀ m ∈ ms, m ≠ .markClosed := by
    rintro m hm rfl
    exact hms hm
  refine moves_invariant_of (Q := (· ≠ .markClosed))
    (P := fun s' past => s'.state = (Occurrence.polls past).foldl SessionState.after s.state)
    (fun h hm hstep => ?_) ms kind [] rfl
  rw [Occurrence.polls_append, List.foldl_append, ← h]
  exact state_step hm hstep

/-! ## Loops that have stopped -/

theorem stopped_step (h : Moved s m s' os) (hs : s.loop = .stopped) :
    s'.loop = .stopped ∧ Occurrence.polls os = [] := by
  cases h with
  | breaks hl | acknowledges hl | receives hl | parts hl | idles hl | subscribes hl | publishes hl
  | disconnects hl | surveys hl | resubscribes hl | completes hl | addresses hl | returns hl
  | delivers hl | drops hl | resumes hl =>
    rw [hs] at hl
    cases hl
  | stops => exact ⟨rfl, rfl⟩
  | @brings i w found running => exact absurd hs running
  | @returnsEmpty i w => cases w <;> exact ⟨hs, rfl⟩
  | forgets | declares | rejects | puts | refuses | takes | leaves | stopLoop | sayFarewell
  | markClosed | clear => exact ⟨hs, rfl⟩

theorem stopped_moves (hs : s.loop = .stopped) (ms : List Move) :
    (moves ms s).1.loop = .stopped ∧ Occurrence.polls (moves ms s).2 = [] := by
  refine moves_invariant (P := fun s' past => s'.loop = .stopped ∧ Occurrence.polls past = [])
    (fun h hstep => ?_) ms [] ⟨hs, rfl⟩
  obtain ⟨hloop, hpast⟩ := h
  obtain ⟨hloop', hos⟩ := stopped_step hstep hloop
  exact ⟨hloop', by rw [Occurrence.polls_append, hpast, hos]; rfl⟩

/-! ## What a closed session refuses -/

theorem put_closed (hs : s.state = .closed) (k : String) (m : Outbound) (sent : Timestamp) :
    s.move (.put k m sent none) = some (s, [.failed (.notConnected "closed")]) := by
  have refused : publication s.state k m sent = .error (.notConnected "closed") := by
    rw [hs]
    rfl
  exact (Moved.refuses rfl refused).made

theorem declarePublisher_closed {k : String} (valid : KeyExpr.validate k = .ok ()) :
    declarePublisher .closed k =
      .error (.publisherDeclarationFailed k "session is closed") := by
  simp [declarePublisher, valid]
  rfl

/-- **How long closed is closed.**  After a session was marked as closed its state is
    the last verdict of its connection since then, and closed if there was none: the
    session is closed exactly as long as its loop takes no acknowledgement, no farewell
    of the broker and no failure.  A session whose loop had stopped when it was marked
    stays closed, and from the time when the loop stops the state does not change.  While
    a session is closed it puts nothing and declares no publisher. -/
theorem closed_iff (room : Nat) (before after : List Move) (unmarked : .markClosed ∉ after) :
    let s := (moves (before ++ [.markClosed]) { inboxRoom := room }).1
    let r := moves after s
    r.1.state = ((Occurrence.polls r.2).filterMap verdict?).getLast?.getD .closed ∧
    (r.1.state = .closed ↔ ∀ p ∈ Occurrence.polls r.2, verdict? p = none) ∧
    (s.loop = .stopped → r.1.state = .closed) ∧
    (∀ later, .markClosed ∉ later → r.1.loop = .stopped → (moves later r.1).1.state = r.1.state) ∧
    (r.1.state = .closed →
      (∀ k m sent, r.1.move (.put k m sent none) =
        some (r.1, [.failed (.notConnected "closed")])) ∧
      ∀ k, KeyExpr.validate k = .ok () → declarePublisher r.1.state k =
        .error (.publisherDeclarationFailed k "session is closed")) := by
  intro s r
  have hmarked : s.state = .closed := by
    simp only [s, moves_append]
    rfl
  have hstate : r.1.state = (Occurrence.polls r.2).foldl SessionState.after .closed := by
    rw [← hmarked]
    exact state_moves unmarked s
  refine ⟨?_, ?_, ?_, ?_, ?_⟩
  · rw [hstate, SessionState.foldl_after]
  · rw [hstate, SessionState.foldl_after_closed]
    simp
  · intro hs
    rw [hstate, (stopped_moves hs after).2]
    rfl
  · intro later hlater hr
    rw [state_moves hlater, (stopped_moves hr later).2]
    rfl
  · intro hr
    refine ⟨put_closed hr, fun k valid => ?_⟩
    rw [hr]
    exact declarePublisher_closed valid

/-! ## Runs that close a session -/

def opening : List Move :=
  [.yield (.ok .connectAck), .survey, .resubscribe, .yield (.error "connection reset"), .resume]

/-- The session is closed, step by step. -/
def closing : List Move :=
  [.stopLoop, .sayFarewell, .bring 0, .markClosed, .clear]

/-- The loop heeds the stop, and the session stays closed. -/
theorem closed_iff_heeded :
    .markClosed ∉ [Move.clear, .heed] ∧
      (moves [.clear, .heed] (moves (opening ++ [.stopLoop, .sayFarewell, .bring 0] ++
        [.markClosed]) { inboxRoom := 1 }).1).1.state = .closed := by
  have unmarked : .markClosed ∉ [Move.clear, .heed] := by simp
  have h := closed_iff 1 (opening ++ [.stopLoop, .sayFarewell, .bring 0]) [.clear, .heed] unmarked
  exact ⟨unmarked, h.2.1.2 (by decide +kernel)⟩

/-- **A closed session that is connected.**  The session is closed in all its steps while
    its loop waits for a new connection; the loop takes the acknowledgement before it
    heeds the stop.  The session is connected from then on, though its loop has stopped:
    it declares publishers, and takes messages that nobody sends. -/
theorem closed_overwritten :
    (moves (opening ++ closing) { inboxRoom := 1 }).1.state = .closed ∧
    let s := (moves (opening ++ closing ++
      [.yield (.ok .connectAck), .survey, .resubscribe, .heed]) { inboxRoom := 1 }).1
    s.loop = .stopped ∧ s.state = .connected ∧ declarePublisher s.state "a" = .ok () ∧
      ∀ m sent, ∃ p, publication s.state "a" m sent = .ok p := by
  have hclosed : (moves (opening ++ closing) { inboxRoom := 1 }).1.state = .closed := by
    decide +kernel
  refine ⟨hclosed, ?_⟩
  intro s
  have hloop : s.loop = .stopped := by decide +kernel
  have hstate : s.state = .connected := by decide +kernel
  refine ⟨hloop, hstate, ?_, fun m sent => ?_⟩
  · rw [hstate]
    decide +kernel
  · rw [hstate]
    exact ⟨_, rfl⟩

end Session

end SignalActuator.Bus
