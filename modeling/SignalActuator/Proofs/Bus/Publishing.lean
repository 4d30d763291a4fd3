/-
  Publishing — which messages a session hands to its connection, and when.

  A message is put while the session is connected, or it is refused: nobody keeps it for
  later.  One that was put waits for room in the queue of requests, and leaves this wait
  once, for the queue.

  * `accepted`: what a move puts into a connected session, and `trail`: the moves of a run
    that were made, each with the session it was made in;
  * `Session.hands`: what one move hands over, out of those who wait;
  * `Session.conserves`: what was handed over and what waits is what was accepted, each
    message once, and in the order in which they were put if nobody is passed over;
  * `publishing`: the state of a session before it is closed, and what becomes of the
    messages that are put.
-/
import SignalActuator.Proofs.Bus.Closing
import Mathlib.Data.List.Perm.Basic

namespace SignalActuator.Bus

/-- A step of closing a session. -/
def Move.closes : Move → Bool
  | .stopLoop | .sayFarewell | .markClosed | .clear => true
  | _ => false

/-- The publication of a message on a key-expression: its payload and properties, at least
    once, and not kept by the broker. -/
def publicationOf (keyExpr : String) (m : Outbound) (sent : Timestamp) : Publication where
  packet :=
    { topic := Utf8.encode keyExpr, payload := m.payload, properties := some (.ofOutbound m sent) }
  qos := 1
  retain := false

theorem publication_eq (state : SessionState) (k : String) (m : Outbound) (sent : Timestamp) :
    publication state k m sent =
      if state = .connected then .ok (publicationOf k m sent)
      else .error (.notConnected state.describe) :=
  rfl

/-- A verdict is an acknowledgement, a farewell of the broker or a failure. -/
theorem verdict?_eq_none_iff {p : Polled} :
    verdict? p = none ↔ ∃ event, p = .ok event ∧ event ≠ .connectAck ∧ event ≠ .disconnect := by
  rcases p with reason | event
  · simp [verdict?]
  · cases event <;> simp [verdict?]

/-! ## Who waits to publish -/

namespace Waiter

/-- The publication that a waiter brings, if it brings one. -/
def publication? : Waiter → Option Publication
  | .publication p _ => some p
  | .declaration .. | .farewell => none

def publications (ws : List Waiter) : List Publication :=
  ws.filterMap publication?

@[simp] theorem publications_append (ws vs : List Waiter) :
    publications (ws ++ vs) = publications ws ++ publications vs :=
  List.filterMap_append ..

end Waiter

/-- The publications that were handed to the connection. -/
def Occurrence.handedOver (h : List Occurrence) : List Publication :=
  h.filterMap fun | .handed (.publish p) => some p | _ => none

@[simp] theorem Occurrence.handedOver_append (h more : List Occurrence) :
    handedOver (h ++ more) = handedOver h ++ handedOver more :=
  List.filterMap_append ..

theorem Occurrence.handedOver_acceptance (w : Waiter) :
    handedOver w.acceptance = w.publication?.toList := by
  cases w <;> rfl

namespace Session

/-! ## Single moves -/

/-- What a move puts into a session, if the session is connected. -/
def accepted : Session × Move → Option Publication
  | (s, .put k m sent _) => if s.state = .connected then some (publicationOf k m sent) else none
  | _ => none

/-- A move passes over nobody who waits to publish. -/
def InTurn (s : Session) : Move → Prop
  | .bring i => Waiter.publications (s.waiting.take i) = []
  | _ => True

instance (s : Session) (m : Move) : Decidable (s.InTurn m) :=
  match m with
  | .bring i => inferInstanceAs (Decidable (Waiter.publications (s.waiting.take i) = []))
  | .yield _ | .serve | .forget _ | .survey | .resubscribe | .address | .forward | .resume | .heed
  | .declare _ | .put .. | .take _ | .leave _ | .stopLoop | .sayFarewell | .markClosed
  | .clear => .isTrue trivial

variable {s s' : Session} {m : Move} {os : List Occurrence}

/-- What a move hands over stood among those who waited, or else the move adds what it puts
    to them; whom it passed over waits on. -/
theorem hands (h : Moved s m s' os) (running : s.loop ≠ .stopped) :
    ∃ passed later, Waiter.publications s.waiting ++ (accepted (s, m)).toList =
        passed ++ (Occurrence.handedOver os ++ later) ∧
      Waiter.publications s'.waiting = passed ++ later ∧ (s.InTurn m → passed = []) := by
  -- Only a waiter that brings its request is handed over, and passes over those before it.
  cases h with
  | puts free taken =>
    rw [publication_eq] at taken
    split at taken
    next connected =>
      cases taken
      refine ⟨[], _, rfl, ?_, fun _ => rfl⟩
      rw [Waiter.publications_append]
      simp only [accepted, if_pos connected]
      rfl
    next => cases taken
  | refuses free refused =>
    rw [publication_eq] at refused
    split at refused
    next => cases refused
    next lost =>
      refine ⟨[], _, rfl, ?_, fun _ => rfl⟩
      simp [accepted, lost]
  | @brings i w found =>
    refine ⟨Waiter.publications (s.waiting.take i),
      Waiter.publications (s.waiting.drop (i + 1)), ?_, ?_, id⟩
    · rw [Occurrence.handedOver_acceptance]
      exact (List.append_nil _).trans (filterMap_split Waiter.publication? found)
    · exact filterMap_eraseIdx Waiter.publication? ..
  | returnsEmpty found stopped => exact absurd stopped running
  | declares | sayFarewell =>
    refine ⟨[], _, rfl, ?_, fun _ => rfl⟩
    rw [Waiter.publications_append]
    rfl
  | breaks | acknowledges | receives | parts | idles | subscribes | publishes | disconnects
  | forgets | surveys | resubscribes | completes | addresses | returns | delivers | drops
  | resumes | stops | rejects | takes | leaves | stopLoop | markClosed | clear =>
    exact ⟨[], _, rfl, (List.append_nil _).symm, fun _ => rfl⟩

/-- Before a session is closed its loop does not stop. -/
theorem runs_step (h : Moved s m s' os) (hopen : m.closes = false)
    (hs : s.stopping = false ∧ s.loop ≠ .stopped) :
    s'.stopping = false ∧ s'.loop ≠ .stopped := by
  obtain ⟨hstopping, hloop⟩ := hs
  cases h with
  | stops stopping =>
    rw [hstopping] at stopping
    cases stopping
  | stopLoop | sayFarewell | markClosed | clear => cases hopen
  | breaks | acknowledges | receives | surveys | resubscribes | completes | addresses | returns
  | delivers | drops | resumes => exact ⟨hstopping, nofun⟩
  | parts | idles | subscribes | publishes | disconnects | forgets | declares | rejects | puts
  | refuses | brings | returnsEmpty | takes | leaves => exact ⟨hstopping, hloop⟩

/-! ## Runs -/

theorem runs_moves (ms : List Move) (hopen : ∀ m ∈ ms, m.closes = false)
    (hs : s.stopping = false ∧ s.loop ≠ .stopped) :
    (moves ms s).1.stopping = false ∧ (moves ms s).1.loop ≠ .stopped :=
  moves_invariant_of (Q := fun m => m.closes = false)
    (P := fun s _ => s.stopping = false ∧ s.loop ≠ .stopped)
    (fun h hm hmoved => runs_step hmoved hm h) ms hopen [] hs

/-- The moves that can be made, each with the session it is made in. -/
def trail : List Move → Session → List (Session × Move)
  | [], _ => []
  | m :: ms, s =>
    match s.move m with
    | none => trail ms s
    | some (s', _) => (s, m) :: trail ms s'

/-- **Messages are neither lost nor sent twice.**  What a session has handed over and what
    waits is what waited before and was accepted since; it is in the same order if nobody
    was passed over. -/
theorem conserves (ms : List Move) (hopen : ∀ m ∈ ms, m.closes = false)
    (hs : s.stopping = false ∧ s.loop ≠ .stopped) :
    let out := Occurrence.handedOver (moves ms s).2 ++ Waiter.publications (moves ms s).1.waiting
    let into := Waiter.publications s.waiting ++ (trail ms s).filterMap accepted
    out.Perm into ∧ ((∀ x ∈ trail ms s, x.1.InTurn x.2) → out = into) := by
  induction ms generalizing s with
  | nil => simp [moves, Moves.run, trail, Occurrence.handedOver]
  | cons m ms ih =>
    obtain ⟨hm, hms⟩ := List.forall_mem_cons.1 hopen
    rw [trail]
    rcases hmove : s.move m with _ | ⟨s', os⟩
    · rw [moves_cons_none hmove]
      exact ih hms hs
    · rw [moves_cons_some hmove]
      have hmoved := moved hmove
      obtain ⟨hperm, heq⟩ := ih hms (runs_step hmoved hm hs)
      obtain ⟨passed, later, hinto, hwait, hturn⟩ := hands hmoved hs.2
      have hfirst : ((s, m) :: trail ms s').filterMap accepted =
          (accepted (s, m)).toList ++ (trail ms s').filterMap accepted := by
        cases ha : accepted (s, m) <;> simp [ha]
      simp only [Occurrence.handedOver_append, hfirst, List.append_assoc]
      rw [← List.append_assoc (Waiter.publications s.waiting), hinto]
      rw [hwait] at hperm heq
      constructor
      · -- What is handed over now changes places with those that were passed over.
        refine (hperm.append_left _).trans ?_
        simp only [List.append_assoc]
        exact List.perm_append_comm_assoc ..
      · intro horder
        obtain ⟨hinturn, horder⟩ := List.forall_mem_cons.1 horder
        rw [heq horder, hturn hinturn]
        simp

theorem move_put {k : String} {sent : Timestamp} {msg : Outbound} {inbox : Option ℕ}
    (free : inbox.any s.consumerWaits = false) :
    s.move (.put k msg sent inbox) =
      if s.state = .connected then
        some ({ s with
          waiting := s.waiting ++ [.publication (publicationOf k msg sent) inbox] }, [])
      else some (s, [.failed (.notConnected s.state.describe)]) := by
  split_ifs with connected
  · exact (Moved.puts free (by rw [publication_eq, if_pos connected])).made
  · exact (Moved.refuses free (by rw [publication_eq, if_neg connected])).made

/-- A message that is put while the queue has room is handed over, and nothing else
    happens. -/
theorem moves_put {k : String} {sent : Timestamp} {msg : Outbound} {inbox : Option ℕ}
    (free : inbox.any s.consumerWaits = false) (connected : s.state = .connected)
    (running : s.loop ≠ .stopped) (room : s.hasRoom = true) :
    moves [.put k msg sent inbox, .bring s.waiting.length] s =
      ({ s with requests := s.requests ++ [.publish (publicationOf k msg sent)] },
        [.handed (.publish (publicationOf k msg sent))]) := by
  set s' : Session :=
    { s with waiting := s.waiting ++ [.publication (publicationOf k msg sent) inbox] } with hs'
  have hput : s.move (.put k msg sent inbox) = some (s', []) := by
    rw [move_put free, if_pos connected]
  have hfound : s'.waiting[s.waiting.length]? =
      some (.publication (publicationOf k msg sent) inbox) := by
    simp [hs']
  have hbring := (Moved.brings hfound running room).made
  rw [moves_cons_some hput, moves_cons_some hbring]
  simp [moves, Moves.run, hs', Waiter.acceptance, Waiter.request, List.eraseIdx_append_of_length_le]

end Session

/-- **Publishing.**  Before a session is closed its state is the last verdict of its
    connection, and that it is connecting as long as there was none; a verdict is an
    acknowledgement, a farewell of the broker or a failure, and nothing else.  A message
    that is put while the session is connected waits for room in the queue of requests,
    and is handed over as one publication at once if there is room; at any other time it
    is refused with the state in words, and nothing changes.  So what was handed over and
    what waits are the messages that were put while the session was connected, each of
    them once; they are in the order in which they were put, if the queue takes those who
    wait for it in turn. -/
theorem publishing (room : ℕ) (ms : List Move) (hopen : ∀ m ∈ ms, m.closes = false) :
    let r := Session.moves ms { inboxRoom := room }
    let made := Session.trail ms { inboxRoom := room }
    r.1.state = ((Occurrence.polls r.2).filterMap verdict?).getLast?.getD .connecting ∧
    (∀ p, verdict? p = none ↔
      ∃ event, p = .ok event ∧ event ≠ .connectAck ∧ event ≠ .disconnect) ∧
    (∀ k msg sent inbox, inbox.any r.1.consumerWaits = false → r.1.state = .connected →
      r.1.move (.put k msg sent inbox) =
        some ({ r.1 with
          waiting := r.1.waiting ++ [.publication (publicationOf k msg sent) inbox] }, []) ∧
      (r.1.hasRoom = true → Session.moves [.put k msg sent inbox, .bring r.1.waiting.length] r.1 =
        ({ r.1 with requests := r.1.requests ++ [.publish (publicationOf k msg sent)] },
          [.handed (.publish (publicationOf k msg sent))]))) ∧
    (∀ k msg sent inbox, inbox.any r.1.consumerWaits = false → r.1.state ≠ .connected →
      r.1.move (.put k msg sent inbox) =
        some (r.1, [.failed (.notConnected r.1.state.describe)])) ∧
    (Occurrence.handedOver r.2 ++ Waiter.publications r.1.waiting).Perm
      (made.filterMap Session.accepted) ∧
    ((∀ x ∈ made, x.1.InTurn x.2) →
      Occurrence.handedOver r.2 ++ Waiter.publications r.1.waiting =
        made.filterMap Session.accepted) := by
  intro r made
  have hstart : ({ inboxRoom := room } : Session).stopping = false ∧
      ({ inboxRoom := room } : Session).loop ≠ .stopped := ⟨rfl, nofun⟩
  have hunmarked : .markClosed ∉ ms := fun h => nomatch hopen _ h
  have hrunning : r.1.loop ≠ .stopped := (Session.runs_moves ms hopen hstart).2
  obtain ⟨hperm, hordered⟩ := Session.conserves ms hopen hstart
  refine ⟨?_, fun _ => verdict?_eq_none_iff, fun k msg sent inbox free connected => ⟨?_, ?_⟩,
    fun k msg sent inbox free lost => ?_, hperm, hordered⟩
  · rw [← SessionState.foldl_after]
    exact Session.state_moves hunmarked _
  · rw [Session.move_put free, if_pos connected]
  · exact Session.moves_put free connected hrunning
  · rw [Session.move_put free, if_neg lost]

/-! ## A run of puts -/

def sentAt : Timestamp :=
  ⟨⟨2024, 5, 17, by decide, by decide⟩,
    ⟨12, 30, 15, 500000000, by decide, by decide, by decide, by decide⟩⟩

/-- A message is put before the connection is acknowledged, one while the session is
    connected, one after the connection was lost and two after it came back. -/
def patchy : List Move :=
  [.put "a" (.currentValue true) sentAt none, .yield (.ok .connectAck), .survey, .resubscribe,
    .put "a" (.currentValue false) sentAt none, .bring 0, .yield (.error "connection reset"),
    .put "a" (.targetValue true) sentAt none, .resume, .yield (.ok .connectAck), .survey,
    .resubscribe, .put "a" (.currentValue true) sentAt none,
    .put "a" (.currentValue true) sentAt none, .bring 0]

theorem publishing_patchy :
    (∀ m ∈ patchy, m.closes = false) ∧
      let s := (Session.moves patchy { inboxRoom := 1 }).1
      s.state = .connected ∧ Waiter.publications s.waiting =
        [publicationOf "a" (.currentValue true) sentAt] ∧
      Occurrence.handedOver (Session.moves patchy { inboxRoom := 1 }).2 =
        [publicationOf "a" (.currentValue false) sentAt,
          publicationOf "a" (.currentValue true) sentAt] := by
  have hopen : ∀ m ∈ patchy, m.closes = false := by decide +kernel
  have hwaits : Waiter.publications (Session.moves patchy { inboxRoom := 1 }).1.waiting =
      [publicationOf "a" (.currentValue true) sentAt] := by decide +kernel
  have hturn : ∀ x ∈ Session.trail patchy { inboxRoom := 1 }, x.1.InTurn x.2 := by
    decide +kernel
  have haccepted : (Session.trail patchy { inboxRoom := 1 }).filterMap Session.accepted =
      [publicationOf "a" (.currentValue false) sentAt,
        publicationOf "a" (.currentValue true) sentAt] ++
        [publicationOf "a" (.currentValue true) sentAt] := by decide +kernel
  obtain ⟨hstate, -, -, -, -, hordered⟩ := publishing 1 patchy hopen
  refine ⟨hopen, hstate.trans (by decide +kernel), hwaits, ?_⟩
  have hall := hordered hturn
  rw [haccepted, hwaits] at hall
  exact List.append_cancel_right hall

end SignalActuator.Bus
