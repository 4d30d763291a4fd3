/-
  Standstill — where the loop of a session waits for good.

  The queue of requests is emptied only while the loop polls.  A loop that waits for
  room in it therefore waits for itself, and one that waits for a consumer who waits
  for room in it does so too.  These are the only places where a loop waits for good,
  as long as no request is forgotten and no subscriber goes away.

  * `Reaches` is what the parties can make of a session without giving anything up;
  * `AsksInVain` and `ForwardsInVain` are the two standstills, and `AsksInVain.reaches`
    and `Blocks.reaches` show that nobody gets out of them;
  * `Fits` is what holds of inboxes and waiters at any time, and `Fits.proceeds`: in
    any other place the loop goes on;
  * `Renews.reaches`: a loop that asks for more than the queue has room for never
    polls again.
-/
import SignalActuator.Proofs.Bus.Closing
import Mathlib.Data.List.Perm.Basic

namespace SignalActuator.Bus

/-- Whether a move gives something up: the connection a request, or a subscriber its
    inbox. -/
def Move.givesUp : Move → Bool
  | .forget _ | .leave _ => true
  | _ => false

/-- Whether somebody waits to put a message for the subscriber with an inbox. -/
def Waiter.isOf (inbox : Nat) : Waiter → Bool
  | .publication _ i => i == some inbox
  | _ => false

namespace Session

variable {s s' s'' : Session} {m : Move} {os : List Occurrence}

theorem consumerWaits_eq (s : Session) (i : Nat) :
    s.consumerWaits i = s.waiting.any (Waiter.isOf i) := by
  rw [consumerWaits]
  congr 1

/-! ## What the parties can make of a session -/

/-- What a session may become, if nobody gives anything up. -/
def Reaches (s s' : Session) : Prop :=
  ∃ ms, (∀ m ∈ ms, m.givesUp = false) ∧ (moves ms s).1 = s'

namespace Reaches

theorem refl (s : Session) : Reaches s s :=
  ⟨[], by simp, rfl⟩

theorem trans (h : Reaches s s') (h' : Reaches s' s'') : Reaches s s'' := by
  obtain ⟨ms, hms, rfl⟩ := h
  obtain ⟨ns, hns, rfl⟩ := h'
  refine ⟨ms ++ ns, ?_, by rw [moves_append]⟩
  intro m hm
  rcases List.mem_append.1 hm with hm | hm
  · exact hms m hm
  · exact hns m hm

theorem head (hm : m.givesUp = false) (hmove : Moved s m s' os)
    (h : Reaches s' s'') : Reaches s s'' := by
  obtain ⟨ms, hms, rfl⟩ := h
  exact ⟨m :: ms, by simpa using ⟨hm, hms⟩, by rw [moves_cons_some hmove.made]⟩

theorem move (hm : m.givesUp = false) (hmove : Moved s m s' os) : Reaches s s' :=
  (refl s').head hm hmove

/-- What every move keeps by which nothing is given up. -/
theorem keeps {P : Session → Prop} (step : ∀ {s : Session} {m : Move} {s' : Session}
      {os : List Occurrence}, P s → m.givesUp = false → Moved s m s' os → P s')
    (h : Reaches s s') (hs : P s) : P s' := by
  obtain ⟨ms, hms, rfl⟩ := h
  exact moves_invariant_of (P := fun s _ => P s) (Q := fun m => m.givesUp = false)
    (fun h hm hstep => step h hm hstep) ms hms [] hs

theorem inboxRoom (h : Reaches s s') : s'.inboxRoom = s.inboxRoom := by
  refine h.keeps (P := (·.inboxRoom = s.inboxRoom)) (fun h _ hstep => ?_) rfl
  cases hstep <;> exact h

end Reaches

/-! ## Inboxes -/

theorem modify_eq_set {i : Nat} {box : Inbox} (found : s.inboxes[i]? = some box)
    (f : Inbox → Inbox) : s.inboxes.modify i f = s.inboxes.set i (f box) := by
  rw [List.modify_eq_set_getElem?, found]
  rfl

theorem takes_first {i : Nat} {box : Inbox} {first : Inbound} {rest : List Inbound}
    (free : s.consumerWaits i = false) (found : s.inboxes[i]? = some box)
    (hmessages : box.messages = first :: rest) :
    Moved s (.take i)
      { s with
        inboxes := s.inboxes.set i { box with messages := rest, taken := box.taken ++ [first] } }
      [] := by
  have take : Moved s (.take i) _ [] := .takes free found (by rw [hmessages]; rfl)
  rwa [modify_eq_set found, hmessages] at take

/-! ## The two standstills -/

/-- The loop waits for room in the queue of requests. -/
structure AsksInVain (s : Session) : Prop where
  asks : ∃ k ks, s.loop = .resubscribing (k :: ks)
  full : s.hasRoom = false

/-- The loop waits for room in an inbox, and its consumer for room in the queue. -/
structure Blocks (s : Session) (message : Inbound) (i : Nat) : Prop where
  hand : s.loop = .forwarding message i
  inbox : ∃ box, s.inboxes[i]? = some box ∧ box.open_ = true ∧ s.inboxRoom ≤ box.messages.length
  consumer : s.consumerWaits i = true
  full : s.hasRoom = false

/-- The loop waits for a consumer who waits for the loop. -/
def ForwardsInVain (s : Session) : Prop :=
  ∃ message i, s.Blocks message i

/-- What may happen while a loop asks for subscriptions: it is done, it asks for the next
    one, or somebody else moves, and puts a request into the queue at most. -/
theorem resubscribing_step {ks : List String} (hk : s.loop = .resubscribing ks)
    (hm : m.givesUp = false) (hstep : Moved s m s' os) :
    ks = [] ∨
      (∃ k rest, ks = k :: rest ∧ s'.loop = .resubscribing rest ∧ s.hasRoom = true ∧
        s'.requests.length = s.requests.length + 1) ∨
      s'.loop = s.loop ∧ (s'.requests = s.requests ∨
        s.hasRoom = true ∧ s'.requests.length = s.requests.length + 1) := by
  cases hstep with
  | breaks hl | acknowledges hl | receives hl | parts hl | idles hl | subscribes hl | publishes hl
  | disconnects hl | surveys hl | addresses hl | returns hl | delivers hl | drops hl | resumes hl =>
    rw [hk] at hl
    cases hl
  | stops _ idle =>
    rw [hk] at idle
    rcases idle with hl | hl <;> cases hl
  | returnsEmpty _ hl =>
    rw [hk] at hl
    cases hl
  | @resubscribes k rest hl room =>
    rw [hk] at hl
    cases hl
    exact .inr (.inl ⟨k, rest, rfl, rfl, room, List.length_append⟩)
  | completes hl =>
    rw [hk] at hl
    cases hl
    exact .inl rfl
  | brings _ _ room => exact .inr (.inr ⟨rfl, .inr ⟨room, List.length_append⟩⟩)
  | forgets => cases hm
  | leaves => cases hm
  | declares | rejects | puts | refuses | takes | stopLoop | sayFarewell | markClosed | clear =>
    exact .inr (.inr ⟨rfl, .inl rfl⟩)

theorem AsksInVain.step (h : s.AsksInVain) (hm : m.givesUp = false) (hstep : Moved s m s' os) :
    s'.AsksInVain ∧ s'.loop = s.loop := by
  obtain ⟨⟨k, ks, hk⟩, full⟩ := h
  rcases resubscribing_step hk hm hstep with
    hnil | ⟨_, _, _, _, room, _⟩ | ⟨hloop, hrequests | ⟨room, _⟩⟩
  · cases hnil
  · rw [full] at room
    cases room
  · exact ⟨⟨⟨k, ks, hloop.trans hk⟩, by rw [hasRoom, hrequests]; exact full⟩, hloop⟩
  · rw [full] at room
    cases room

/-- **Nobody gets a loop out that asks in vain.** -/
theorem AsksInVain.reaches (h : s.AsksInVain) (hs : Reaches s s') :
    s'.AsksInVain ∧ s'.loop = s.loop := by
  refine hs.keeps (P := fun s' => s'.AsksInVain ∧ s'.loop = s.loop) (fun h hm hstep => ?_) ⟨h, rfl⟩
  obtain ⟨hasks, hloop⟩ := h
  obtain ⟨hasks', hloop'⟩ := hasks.step hm hstep
  exact ⟨hasks', hloop'.trans hloop⟩

namespace Blocks

variable {message : Inbound} {i : Nat}

theorem frame (h : s.Blocks message i) (loop : s'.loop = s.loop)
    (inbox : s'.inboxes[i]? = s.inboxes[i]?) (room : s'.inboxRoom = s.inboxRoom)
    (requests : s'.requests = s.requests) (waiting : ∀ w ∈ s.waiting, w ∈ s'.waiting) :
    s'.Blocks message i := by
  obtain ⟨hand, hbox, consumer, full⟩ := h
  refine ⟨loop.trans hand, ?_, ?_, ?_⟩
  · rw [inbox, room]
    exact hbox
  · rw [consumerWaits_eq, List.any_eq_true] at consumer ⊢
    obtain ⟨w, hw, hof⟩ := consumer
    exact ⟨w, waiting w hw, hof⟩
  · rw [hasRoom, requests]
    exact full

theorem step (h : s.Blocks message i) (hm : m.givesUp = false) (hstep : Moved s m s' os) :
    s'.Blocks message i := by
  have hand := h.hand
  obtain ⟨box, hbox, kept, crowded⟩ := h.inbox
  -- The loop is forwarding, which rules out most of its moves at once.
  cases hstep with
  | breaks hl | acknowledges hl | receives hl | parts hl | idles hl | subscribes hl | publishes hl
  | disconnects hl | surveys hl | resubscribes hl | completes hl | addresses hl | returns hl
  | resumes hl =>
    rw [hand] at hl
    cases hl
  | stops _ idle =>
    rw [hand] at idle
    rcases idle with hl | hl <;> cases hl
  | returnsEmpty _ hl =>
    rw [hand] at hl
    cases hl
  | delivers hl found _ room =>
    rw [hand] at hl
    cases hl
    rw [hbox] at found
    cases found
    exact absurd room (Nat.not_lt_of_le crowded)
  | drops hl gone =>
    rw [hand] at hl
    cases hl
    have hgone := gone box hbox
    rw [kept] at hgone
    cases hgone
  | brings _ _ room =>
    rw [h.full] at room
    cases room
  | forgets => cases hm
  | leaves => cases hm
  | @takes j _ _ free =>
    -- The consumer of this inbox waits: it is another one that takes a message.
    have hne : j ≠ i := by
      rintro rfl
      rw [h.consumer] at free
      cases free
    exact h.frame rfl (List.getElem?_modify_ne _ _ hne) rfl rfl (fun _ hw => hw)
  | declares =>
    have hlt : i < s.inboxes.length := (List.getElem?_eq_some_iff.1 hbox).1
    exact h.frame rfl (List.getElem?_append_left hlt) rfl rfl
      (fun _ hw => List.mem_append_left _ hw)
  | puts | sayFarewell => exact h.frame rfl rfl rfl rfl (fun _ hw => List.mem_append_left _ hw)
  | rejects | refuses | stopLoop | markClosed | clear =>
    exact h.frame rfl rfl rfl rfl (fun _ hw => hw)

/-- **Nobody gets a loop out that waits for a consumer who waits for it.** -/
theorem reaches (h : s.Blocks message i) (hs : Reaches s s') : s'.Blocks message i :=
  hs.keeps (P := (·.Blocks message i)) (fun h hm hstep => h.step hm hstep) h

end Blocks

/-! ## More to ask for than there is room -/

/-- The loop has more key-expressions to ask for than the queue has room for. -/
structure Renews (s : Session) : Prop where
  room : s.requests.length ≤ requestRoom
  excess : ∃ ks, s.loop = .resubscribing ks ∧ requestRoom < s.requests.length + ks.length

theorem hasRoom_eq_true_iff : s.hasRoom = true ↔ s.requests.length < requestRoom := by
  rw [hasRoom, decide_eq_true_iff]

theorem Renews.step (h : s.Renews) (hm : m.givesUp = false) (hstep : Moved s m s' os) :
    s'.Renews := by
  obtain ⟨fits, ks, hk, excess⟩ := h
  rcases resubscribing_step hk hm hstep with
    rfl | ⟨k, rest, rfl, hloop, room, hlength⟩ | ⟨hloop, hrequests | ⟨room, hlength⟩⟩
  · exact absurd fits (Nat.not_le_of_lt excess)
  · rw [hasRoom_eq_true_iff] at room
    rw [List.length_cons] at excess
    exact ⟨by omega, rest, hloop, by omega⟩
  · rw [← hrequests] at fits excess
    exact ⟨fits, ks, hloop.trans hk, excess⟩
  · rw [hasRoom_eq_true_iff] at room
    exact ⟨by omega, ks, hloop.trans hk, by omega⟩

/-- **A loop that has more to ask for than there is room never polls again.** -/
theorem Renews.reaches (h : s.Renews) (hs : Reaches s s') : s'.Renews :=
  hs.keeps (P := Renews) (fun h hm hstep => h.step hm hstep) h

theorem Renews.not_polling (h : s.Renews) : s.loop ≠ .polling := by
  obtain ⟨-, ks, hk, -⟩ := h
  simp [hk]

/-! ## What holds at any time -/

/-- The inboxes hold no more than they have room for, the queue neither, and no consumer
    waits twice. -/
structure Fits (room : Nat) (s : Session) : Prop where
  inboxRoom : s.inboxRoom = room
  inboxes : ∀ (i : Nat) box, s.inboxes[i]? = some box → box.messages.length ≤ room
  requests : s.requests.length ≤ requestRoom
  waiting : ∀ i, s.waiting.countP (Waiter.isOf i) ≤ 1

namespace Fits

variable {room : Nat}

theorem init (room : Nat) : Fits room { inboxRoom := room } :=
  ⟨rfl, by simp, by simp, by simp⟩

/-- A change of one inbox that puts no more into it than it has room for. -/
theorem modify (h : s.Fits room) (i : Nat) (f : Inbox → Inbox)
    (hf : ∀ box, s.inboxes[i]? = some box → (f box).messages.length ≤ room)
    (inboxRoom : s'.inboxRoom = s.inboxRoom) (inboxes : s'.inboxes = s.inboxes.modify i f)
    (requests : s'.requests = s.requests) (waiting : s'.waiting = s.waiting) :
    s'.Fits room := by
  refine ⟨inboxRoom.trans h.inboxRoom, ?_, requests ▸ h.requests, waiting ▸ h.waiting⟩
  intro j box hbox
  rw [inboxes] at hbox
  by_cases hij : i = j
  · subst hij
    rw [List.getElem?_modify_eq] at hbox
    obtain ⟨old, hold, rfl⟩ := Option.map_eq_some_iff.1 hbox
    exact hf old hold
  · rw [List.getElem?_modify_ne _ _ hij] at hbox
    exact h.inboxes j box hbox

theorem frame (h : s.Fits room) (inboxRoom : s'.inboxRoom = s.inboxRoom)
    (inboxes : s'.inboxes = s.inboxes) (requests : s'.requests.length ≤ requestRoom)
    (waiting : ∀ i, s'.waiting.countP (Waiter.isOf i) ≤ 1) : s'.Fits room :=
  ⟨inboxRoom.trans h.inboxRoom, inboxes ▸ h.inboxes, requests, waiting⟩

theorem joins (h : s.Fits room) {w : Waiter}
    (hw : ∀ i, w.isOf i = true → s.consumerWaits i = false) (i : Nat) :
    (s.waiting ++ [w]).countP (Waiter.isOf i) ≤ 1 := by
  rw [List.countP_append, List.countP_singleton]
  split
  next hof =>
    have hnone := hw i hof
    rw [consumerWaits_eq, List.any_eq_false] at hnone
    have hzero := List.countP_eq_zero.2 hnone
    omega
  next => exact h.waiting i

theorem step (h : s.Fits room) (hstep : Moved s m s' os) : s'.Fits room := by
  have leaves (i j : Nat) : (s.waiting.eraseIdx j).countP (Waiter.isOf i) ≤ 1 :=
    Nat.le_trans (List.eraseIdx_sublist s.waiting j).countP_le (h.waiting i)
  cases hstep with
  | breaks | acknowledges | receives | parts | idles | surveys | completes | addresses | returns
  | drops | resumes | stops | rejects | refuses | stopLoop | markClosed | clear =>
    exact h.frame rfl rfl h.requests h.waiting
  | subscribes _ _ first | publishes _ _ first | disconnects _ _ first =>
    have hlen := h.requests
    rw [first, List.length_cons] at hlen
    exact h.frame rfl rfl (Nat.le_of_succ_le hlen) h.waiting
  | @forgets i =>
    exact h.frame rfl rfl (Nat.le_trans (List.length_eraseIdx_le ..) h.requests) h.waiting
  | resubscribes _ free =>
    refine h.frame rfl rfl ?_ h.waiting
    rw [List.length_append]
    exact hasRoom_eq_true_iff.1 free
  | @delivers m i box _ found _ free =>
    refine h.modify i _ ?_ rfl rfl rfl rfl
    intro box' hbox'
    rw [found] at hbox'
    cases hbox'
    rw [List.length_append, ← h.inboxRoom]
    exact free
  | @declares k =>
    refine ⟨h.inboxRoom, ?_, h.requests, h.joins nofun⟩
    intro i box hbox
    rcases List.mem_append.1 (List.mem_of_getElem? hbox) with hold | hnew
    · obtain ⟨j, hj⟩ := List.mem_iff_getElem?.1 hold
      exact h.inboxes j box hj
    · rw [List.mem_singleton.1 hnew]
      exact Nat.zero_le room
  | @puts k m sent inbox p free =>
    refine h.frame rfl rfl h.requests (h.joins ?_)
    intro i hof
    rw [Waiter.isOf, beq_iff_eq] at hof
    rw [hof] at free
    exact free
  | @brings i _ _ _ free =>
    refine h.frame rfl rfl ?_ fun j => leaves j i
    rw [List.length_append]
    exact hasRoom_eq_true_iff.1 free
  | @returnsEmpty i => exact h.frame rfl rfl h.requests fun j => leaves j i
  | @takes i box =>
    refine h.modify i _ ?_ rfl rfl rfl rfl
    intro box' hbox'
    rw [List.length_tail]
    exact Nat.le_trans (Nat.sub_le ..) (h.inboxes i box' hbox')
  | @leaves i => exact h.modify i _ (fun _ _ => Nat.zero_le _) rfl rfl rfl rfl
  | sayFarewell => exact h.frame rfl rfl h.requests (h.joins nofun)

theorem run (ms : List Move) (h : s.Fits room) : (moves ms s).1.Fits room :=
  moves_invariant (P := fun s _ => s.Fits room) (fun h hstep => h.step hstep) ms [] h

/-- If nobody else waits for it, a consumer is free as soon as its request is in the queue. -/
theorem free_of_brought (h : s.Fits room) {i j : Nat} {w : Waiter} (found : s.waiting[j]? = some w)
    (hof : w.isOf i = true) :
    { s with waiting := s.waiting.eraseIdx j }.consumerWaits i = false := by
  obtain ⟨hj, hw⟩ := List.getElem?_eq_some_iff.1 found
  have hperm := (List.getElem_cons_eraseIdx_perm hj).countP_eq (Waiter.isOf i)
  rw [hw, List.countP_cons_of_pos hof] at hperm
  have hone := h.waiting i
  rw [← hperm, Nat.succ_le_succ_iff, Nat.le_zero, List.countP_eq_zero] at hone
  rw [consumerWaits_eq]
  exact List.any_eq_false.2 hone

/-- A consumer that does not wait makes room in a full inbox, and the message goes in. -/
theorem polls_again (h : s.Fits room) (hroom : 0 < room) {message : Inbound} {i : Nat}
    {box : Inbox} (hand : s.loop = .forwarding message i) (found : s.inboxes[i]? = some box)
    (kept : box.open_ = true) (full : s.inboxRoom ≤ box.messages.length)
    (free : s.consumerWaits i = false) : ∃ s', Reaches s s' ∧ s'.loop = .polling := by
  have hlen := h.inboxes i box found
  rw [h.inboxRoom] at full
  obtain ⟨first, rest, hmessages⟩ :=
    List.exists_cons_of_length_pos (Nat.lt_of_lt_of_le hroom full)
  rw [hmessages, List.length_cons, ← h.inboxRoom] at hlen
  have hi : i < s.inboxes.length := (List.getElem?_eq_some_iff.1 found).1
  exact ⟨_, .head rfl (takes_first free found hmessages)
    (.move rfl (.delivers hand (List.getElem?_set_self hi) kept hlen)), rfl⟩

/-- A loop that has a message at hand gets rid of it, unless it does so in vain. -/
theorem forwards_proceeds (h : s.Fits room) (hroom : 0 < room) {message : Inbound} {i : Nat}
    (hand : s.loop = .forwarding message i) (hs : ¬ s.Blocks message i) :
    ∃ s', Reaches s s' ∧ s'.loop = .polling := by
  rcases found : s.inboxes[i]? with _ | box
  · have gone (box : Inbox) (hbox : s.inboxes[i]? = some box) : box.open_ = false := by
      rw [found] at hbox
      cases hbox
    exact ⟨_, .move rfl (.drops hand gone), rfl⟩
  · cases kept : box.open_ with
    | false =>
      have gone (box' : Inbox) (hbox : s.inboxes[i]? = some box') : box'.open_ = false := by
        rw [found] at hbox
        cases hbox
        exact kept
      exact ⟨_, .move rfl (.drops hand gone), rfl⟩
    | true =>
      rcases Nat.lt_or_ge box.messages.length s.inboxRoom with room | crowded
      · exact ⟨_, .move rfl (.delivers hand found kept room), rfl⟩
      · cases waits : s.consumerWaits i with
        | false => exact h.polls_again hroom hand found kept crowded waits
        | true =>
          cases free : s.hasRoom with
          | false => exact absurd ⟨hand, ⟨box, found, kept, crowded⟩, waits, free⟩ hs
          | true =>
            -- the consumer brings its request, and is free to take a message
            rw [consumerWaits_eq, List.any_eq_true] at waits
            obtain ⟨w, hw, hof⟩ := waits
            obtain ⟨j, hj⟩ := List.mem_iff_getElem?.1 hw
            have bring := Moved.brings hj (by simp [hand]) free
            obtain ⟨s', hs', hl'⟩ := (h.step bring).polls_again hroom hand found kept crowded
              (h.free_of_brought hj hof)
            exact ⟨s', hs'.head rfl bring, hl'⟩

/-- **A loop goes on** that has not stopped and is not in one of the standstills. -/
theorem proceeds (h : s.Fits room) (hroom : 0 < room) (running : s.loop ≠ .stopped)
    (asks : ¬ s.AsksInVain) (forwards : ¬ s.ForwardsInVain) :
    ∃ s', Reaches s s' ∧ s'.loop ≠ s.loop := by
  cases hl : s.loop with
  | polling => exact ⟨_, .move rfl (.acknowledges hl), nofun⟩
  | acknowledged => exact ⟨_, .move rfl (.surveys hl), nofun⟩
  | resubscribing ks =>
    cases ks with
    | nil => exact ⟨_, .move rfl (.completes hl), nofun⟩
    | cons k ks =>
      cases free : s.hasRoom with
      | false => exact absurd ⟨⟨k, ks, hl⟩, free⟩ asks
      | true => exact ⟨_, .move rfl (.resubscribes hl free), by simp⟩
  | addressing message =>
    cases hi : s.subscriptions.get? message.keyExpr with
    | none => exact ⟨_, .move rfl (.returns hl hi), nofun⟩
    | some i => exact ⟨_, .move rfl (.addresses hl hi), nofun⟩
  | forwarding message i =>
    have hs : ¬ s.Blocks message i := fun hs => forwards ⟨message, i, hs⟩
    obtain ⟨s', hs', hl'⟩ := h.forwards_proceeds hroom hl hs
    exact ⟨s', hs', by simp [hl']⟩
  | pausing => exact ⟨_, .move rfl (.resumes hl), nofun⟩
  | stopped => exact absurd hl running

/-- **Where a loop waits for good.** -/
theorem waits_iff (h : s.Fits room) (hroom : 0 < room) :
    (∀ s', Reaches s s' → s'.loop = s.loop) ↔
      s.loop = .stopped ∨ s.AsksInVain ∨ s.ForwardsInVain := by
  constructor
  · intro hs
    by_contra hnot
    obtain ⟨running, hnot⟩ := not_or.1 hnot
    obtain ⟨asks, forwards⟩ := not_or.1 hnot
    obtain ⟨s', hs', hl⟩ := h.proceeds hroom running asks forwards
    exact hl (hs s' hs')
  · rintro (stopped | asks | ⟨message, i, blocks⟩) s' hs'
    · rw [stopped]
      exact hs'.keeps (P := (·.loop = .stopped)) (fun hs _ hstep => (stopped_step hstep hs).1)
        stopped
    · exact (asks.reaches hs').2
    · rw [(blocks.reaches hs').hand, blocks.hand]

end Fits

end Session

end SignalActuator.Bus
