/-
  Crowding — both standstills come about, whatever room an inbox has.

  * `settles`: a session with any key-expressions, connected and at rest;
  * `Renews.fills`: when a connection is renewed and there are more key-expressions
    than the queue has room for, the loop ends asking in vain;
  * `Loaded.fills` and `Loaded.crowds`: messages that are answered fill the queue, and
    messages that nobody takes an inbox, so that the next message stays with the loop;
  * `standstill`: a loop waits for good in these two places, and can be brought there.
-/
import SignalActuator.Proofs.Bus.Standstill
import SignalActuator.Proofs.Bus.Wire

namespace SignalActuator.Bus

theorem Subscriptions.keys_insert {s : Subscriptions} {k : String} (h : k ∉ s.keys) (i : Nat) :
    (s.insert k i).keys = s.keys ++ [k] := by
  have hs : s.erase k = s := by
    refine List.filter_eq_self.2 fun e he => ?_
    rw [bne_iff_ne]
    rintro rfl
    exact h (List.mem_map_of_mem he)
  rw [insert, hs, keys, List.map_append]
  rfl

namespace Session

variable {s s' : Session} {room : Nat} {ks : List String}

/-! ## Sessions at rest -/

/-- The session is connected, and everything that was asked for is done: each of the
    key-expressions leads to an inbox that is empty. -/
structure Settled (ks : List String) (s : Session) : Prop where
  polling : s.loop = .polling
  connected : s.state = .connected
  live : s.live = true
  requests : s.requests = []
  waiting : s.waiting = []
  keys : s.subscriptions.keys = ks
  served : ∀ k ∈ ks, ∃ i, s.subscriptions.get? k = some i ∧ s.inboxes[i]? = some { keyExpr := k }

theorem Settled.init (room : Nat) : ∃ s, Reaches { inboxRoom := room } s ∧ s.Settled [] := by
  have connect : Reaches { inboxRoom := room } _ :=
    .head rfl (.acknowledges rfl) (.head rfl (.surveys rfl) (.move rfl (.completes rfl)))
  exact ⟨_, connect, rfl, rfl, rfl, rfl, rfl, rfl, nofun⟩

theorem Settled.declare (h : s.Settled ks) {k : String} (valid : KeyExpr.validate k = .ok ())
    (fresh : k ∉ ks) : ∃ s', Reaches s s' ∧ s'.Settled (ks ++ [k]) := by
  obtain ⟨polling, connected, live, requests, waiting, keys, served⟩ := h
  have first : (s.waiting ++ [.declaration k s.inboxes.length])[0]? =
      some (.declaration k s.inboxes.length) := by rw [waiting]; rfl
  have asked : s.requests ++ [.subscribe k] = [.subscribe k] := by rw [requests]; rfl
  have running : s.loop ≠ .stopped := by simp [polling]
  have free : s.hasRoom = true := by simp [hasRoom, requests, requestRoom]
  have declared : Reaches s _ :=
    .head rfl (.declares valid)
      (.head (m := .bring 0) rfl (.brings first running free)
        (.move rfl (.subscribes polling live asked)))
  refine ⟨_, declared, polling, connected, live, rfl, by simp [waiting], ?_, ?_⟩
  · rw [Subscriptions.keys_insert (keys ▸ fresh), keys]
  · intro x hx
    rw [Subscriptions.get?_insert]
    rcases List.mem_append.1 hx with hold | hnew
    · have hne : x ≠ k := by
        rintro rfl
        exact fresh hold
      obtain ⟨i, hi, hbox⟩ := served x hold
      have hlt : i < s.inboxes.length := (List.getElem?_eq_some_iff.1 hbox).1
      exact ⟨i, by rw [if_neg hne, hi], by rw [List.getElem?_append_left hlt, hbox]⟩
    · rw [List.mem_singleton.1 hnew]
      exact ⟨s.inboxes.length, if_pos rfl, by simp⟩

theorem settles (room : Nat) (nodup : ks.Nodup) (valid : ∀ k ∈ ks, KeyExpr.validate k = .ok ()) :
    ∃ s, Reaches { inboxRoom := room } s ∧ s.Settled ks := by
  induction ks using List.reverseRecOn with
  | nil => exact Settled.init room
  | append_singleton ks k ih =>
    obtain ⟨hks, -, hdisjoint⟩ := List.nodup_append.1 nodup
    have fresh : k ∉ ks := fun hk => hdisjoint k hk k (List.mem_singleton_self k) rfl
    obtain ⟨s, hs, hsettled⟩ := ih hks fun x hx => valid x (List.mem_append_left _ hx)
    obtain ⟨s', hs', hsettled'⟩ := hsettled.declare (valid k (by simp)) fresh
    exact ⟨s', hs.trans hs', hsettled'⟩

/-! ## Connections that are renewed -/

/-- A loop with too much to ask for asks until there is no room left. -/
theorem Renews.fills (h : s.Renews) :
    ∃ s', Reaches s s' ∧ s'.AsksInVain ∧ s'.subscriptions = s.subscriptions := by
  obtain ⟨ks, hk, -⟩ := h.excess
  induction ks generalizing s with
  | nil =>
    obtain ⟨fits, ks, hks, excess⟩ := h
    rw [hk] at hks
    cases hks
    exact absurd fits (Nat.not_le_of_lt excess)
  | cons k ks ih =>
    cases free : s.hasRoom with
    | false => exact ⟨s, .refl s, ⟨⟨k, ks, hk⟩, free⟩, rfl⟩
    | true =>
      have ask := Moved.resubscribes hk free
      obtain ⟨s', hs', asks, hsubscriptions⟩ := ih (h.step rfl ask) rfl
      exact ⟨s', hs'.head rfl ask, asks, hsubscriptions⟩

/-- A session at rest loses its connection and gets a new one. -/
theorem Settled.renews (h : s.Settled ks) (excess : requestRoom < ks.length) :
    ∃ s', Reaches s s' ∧ s'.Renews ∧ s'.subscriptions = s.subscriptions := by
  obtain ⟨polling, -, -, requests, -, keys, -⟩ := h
  have renewed : Reaches s _ :=
    .head (m := .yield (.error "connection reset")) rfl (.breaks polling)
      (.head rfl (.resumes rfl)
        (.head rfl (.acknowledges rfl) (.move rfl (.surveys rfl))))
  have excess : requestRoom < s.requests.length + s.subscriptions.keys.length := by
    simpa [requests, keys]
  exact ⟨_, renewed, ⟨by simp [requests], s.subscriptions.keys, rfl, excess⟩, rfl⟩

/-! ## Consumers that answer -/

def epoch : Timestamp :=
  ⟨⟨1970, 1, 1, by decide, by decide⟩, ⟨0, 0, 0, 0, by decide, by decide, by decide, by decide⟩⟩

/-- A request to the actuator of a key-expression. -/
def command (k : String) : Publish :=
  .ofOutbound k (.targetValue true) epoch

theorem keyExpr_command (k : String) : (command k).inbound.keyExpr = k :=
  Utf8.decodeLossy_encode k

/-- A session that is connected and polls.  So many messages are held in one of its
    inboxes, and so many requests in the queue. -/
structure Loaded (t : Subscriptions) (i held queued : Nat) (s : Session) : Prop where
  polling : s.loop = .polling
  connected : s.state = .connected
  subscriptions : s.subscriptions = t
  inbox : ∃ box, s.inboxes[i]? = some box ∧ box.open_ = true ∧ box.messages.length = held
  queued : s.requests.length = queued

namespace Loaded

variable {t : Subscriptions} {i held queued : Nat}

theorem receives {k : String} (addressed : t.get? k = some i) (h : s.Loaded t i held queued)
    (free : held < s.inboxRoom) :
    ∃ s', Reaches s s' ∧ s'.Loaded t i (held + 1) queued ∧ s'.waiting = s.waiting := by
  obtain ⟨polling, connected, rfl, ⟨box, found, kept, rfl⟩, rfl⟩ := h
  rw [← keyExpr_command k] at addressed
  have received : Reaches s _ :=
    .head rfl (.receives polling) (.head rfl (.addresses rfl addressed)
      (.move rfl (.delivers rfl found kept free)))
  let box' := { box with messages := box.messages ++ [(command k).inbound] }
  refine ⟨_, received, ⟨rfl, connected, rfl, ⟨box', ?_, kept, ?_⟩, rfl⟩, rfl⟩
  · rw [List.getElem?_modify_eq, found]
    rfl
  · rw [List.length_append]
    rfl

theorem answers {k : String} (h : s.Loaded t i (held + 1) queued)
    (free : s.consumerWaits i = false) :
    ∃ s', Reaches s s' ∧ s'.Loaded t i held queued ∧
      ∃ p, s'.waiting = s.waiting ++ [.publication p (some i)] := by
  obtain ⟨polling, connected, rfl, ⟨box, found, kept, hheld⟩, rfl⟩ := h
  obtain ⟨first, rest, hmessages⟩ := List.exists_cons_of_length_eq_add_one hheld
  have answered : Reaches s _ :=
    .head rfl (takes_first free found hmessages)
      (.move (m := .put k (.currentValue true) epoch (some i)) rfl (.puts free (if_pos connected)))
  have hi : i < s.inboxes.length := (List.getElem?_eq_some_iff.1 found).1
  have hrest : rest.length = held := by
    rw [hmessages] at hheld
    exact Nat.succ.inj hheld
  refine ⟨_, answered, ⟨polling, connected, rfl, ?_, rfl⟩, _, rfl⟩
  exact ⟨_, List.getElem?_set_self hi, kept, hrest⟩

theorem brings (h : s.Loaded t i held queued) {w : Waiter} (waiting : s.waiting = [w])
    (free : queued < requestRoom) :
    ∃ s', Reaches s s' ∧ s'.Loaded t i held (queued + 1) ∧ s'.waiting = [] := by
  obtain ⟨polling, connected, rfl, inbox, rfl⟩ := h
  have found : s.waiting[0]? = some w := by rw [waiting]; rfl
  have brought : Reaches s _ :=
    .move rfl (.brings found (by simp [polling]) (hasRoom_eq_true_iff.2 free))
  refine ⟨_, brought, ⟨polling, connected, rfl, inbox, ?_⟩, ?_⟩
  · rw [List.length_append]
    rfl
  · rw [waiting]
    rfl

theorem awaits {k : String} (addressed : t.get? k = some i) (h : s.Loaded t i 0 queued)
    (room : 0 < s.inboxRoom) (waiting : s.waiting = []) :
    ∃ s', Reaches s s' ∧ s'.Loaded t i 0 queued ∧ ∃ p, s'.waiting = [.publication p (some i)] := by
  obtain ⟨s₁, hs₁, h₁, waiting₁⟩ := h.receives addressed room
  rw [waiting] at waiting₁
  have free : s₁.consumerWaits i = false := by simp [consumerWaits, waiting₁]
  obtain ⟨s₂, hs₂, h₂, p, waiting₂⟩ := h₁.answers (k := k) free
  rw [waiting₁] at waiting₂
  exact ⟨s₂, hs₁.trans hs₂, h₂, p, waiting₂⟩

/-- Messages that are answered fill the queue. -/
theorem fills {k : String} (addressed : t.get? k = some i) (h : s.Loaded t i 0 0)
    (room : 0 < s.inboxRoom) (waiting : s.waiting = []) {n : Nat} (hn : n ≤ requestRoom) :
    ∃ s', Reaches s s' ∧ s'.Loaded t i 0 n ∧ s'.waiting = [] := by
  induction n with
  | zero => exact ⟨s, .refl s, h, waiting⟩
  | succ n ih =>
    obtain ⟨s₁, hs₁, h₁, waiting₁⟩ := ih (Nat.le_of_succ_le hn)
    obtain ⟨s₂, hs₂, h₂, p, waiting₂⟩ := h₁.awaits addressed (hs₁.inboxRoom ▸ room) waiting₁
    obtain ⟨s₃, hs₃, h₃, waiting₃⟩ := h₂.brings waiting₂ hn
    exact ⟨s₃, hs₁.trans (hs₂.trans hs₃), h₃, waiting₃⟩

/-- Messages that nobody takes fill an inbox. -/
theorem crowds {k : String} (addressed : t.get? k = some i) (h : s.Loaded t i 0 queued) {n : Nat}
    (hn : n ≤ s.inboxRoom) :
    ∃ s', Reaches s s' ∧ s'.Loaded t i n queued ∧ s'.waiting = s.waiting := by
  induction n with
  | zero => exact ⟨s, .refl s, h, rfl⟩
  | succ n ih =>
    obtain ⟨s₁, hs₁, h₁, waiting₁⟩ := ih (Nat.le_of_succ_le hn)
    obtain ⟨s₂, hs₂, h₂, waiting₂⟩ := h₁.receives addressed (hs₁.inboxRoom ▸ hn)
    exact ⟨s₂, hs₁.trans hs₂, h₂, waiting₂.trans waiting₁⟩

/-- If both are full and the consumer waits, the next message stays with the loop. -/
theorem blocks {k : String} (addressed : t.get? k = some i)
    (h : s.Loaded t i s.inboxRoom requestRoom) (waits : s.consumerWaits i = true) :
    ∃ s', Reaches s s' ∧ s'.ForwardsInVain ∧ s'.subscriptions = t := by
  obtain ⟨polling, connected, rfl, ⟨box, found, kept, hheld⟩, queued⟩ := h
  rw [← keyExpr_command k] at addressed
  have hands : Reaches s _ :=
    .head rfl (.receives polling) (.move rfl (.addresses rfl addressed))
  have crowded : s.inboxRoom ≤ box.messages.length := Nat.le_of_eq hheld.symm
  have full : s.hasRoom = false := by simp [hasRoom, queued]
  exact ⟨_, hands, ⟨_, i, rfl, ⟨box, found, kept, crowded⟩, waits, full⟩, rfl⟩

end Loaded

/-- A session at rest is flooded with messages for one of its key-expressions. -/
theorem Settled.floods (h : s.Settled ks) {k : String} (hk : k ∈ ks) (room : 0 < s.inboxRoom) :
    ∃ s', Reaches s s' ∧ s'.ForwardsInVain ∧ s'.subscriptions = s.subscriptions := by
  obtain ⟨i, addressed, found⟩ := h.served k hk
  have rest : s.Loaded s.subscriptions i 0 0 :=
    ⟨h.polling, h.connected, rfl, ⟨_, found, rfl, rfl⟩, by rw [h.requests]; rfl⟩
  obtain ⟨s₁, hs₁, h₁, waiting₁⟩ := rest.fills addressed room h.waiting (Nat.le_refl _)
  -- one more message is answered, and the answer finds no room
  obtain ⟨s₂, hs₂, h₂, p, waiting₂⟩ := h₁.awaits addressed (hs₁.inboxRoom ▸ room) waiting₁
  obtain ⟨s₃, hs₃, h₃, waiting₃⟩ := h₂.crowds addressed (Nat.le_refl _)
  rw [← hs₃.inboxRoom] at h₃
  have waits : s₃.consumerWaits i = true := by simp [consumerWaits, waiting₃, waiting₂]
  obtain ⟨s₄, hs₄, h₄, hsubscriptions⟩ := h₃.blocks addressed waits
  exact ⟨s₄, hs₁.trans (hs₂.trans (hs₃.trans hs₄)), h₄, hsubscriptions⟩

/-- **Where a loop waits for good.**  As long as no request is forgotten and no subscriber
    goes away, a loop goes on at any time, unless it has stopped, waits for room in the
    queue that only it empties, or waits for a consumer who waits for that.  A loop that
    has more key-expressions to ask for than there is room left never polls again.

    Whatever room an inbox has, both come about: the first when the connection of a
    session with more than ten key-expressions is renewed, the second in a session with
    any key-expressions when there are too many messages for one of them. -/
theorem standstill (room : Nat) :
    (∀ ms, let s := (moves ms { inboxRoom := room + 1 }).1
      ((∀ s', Reaches s s' → s'.loop = s.loop) ↔
        s.loop = .stopped ∨ s.AsksInVain ∨ s.ForwardsInVain) ∧
      ∀ ks, s.loop = .resubscribing ks → requestRoom < s.requests.length + ks.length →
        ∀ s', Reaches s s' → s'.loop ≠ .polling) ∧
    ∀ ks : List String, ks.Nodup → (∀ k ∈ ks, KeyExpr.validate k = .ok ()) →
      (requestRoom < ks.length → ∃ s, Reaches { inboxRoom := room + 1 } s ∧
        s.subscriptions.keys = ks ∧ s.AsksInVain) ∧
      (ks ≠ [] → ∃ s, Reaches { inboxRoom := room + 1 } s ∧
        s.subscriptions.keys = ks ∧ s.ForwardsInVain) := by
  constructor
  · intro ms s
    have fits : s.Fits (room + 1) := (Fits.init (room + 1)).run ms
    refine ⟨fits.waits_iff (Nat.succ_pos room), fun ks hks excess s' hs' => ?_⟩
    have renews : s.Renews := ⟨fits.requests, ks, hks, excess⟩
    exact (renews.reaches hs').not_polling
  · intro ks nodup valid
    obtain ⟨s, hs, settled⟩ := settles (room + 1) nodup valid
    constructor
    · intro excess
      obtain ⟨s₁, hs₁, renews, hsubscriptions₁⟩ := settled.renews excess
      obtain ⟨s₂, hs₂, asks, hsubscriptions₂⟩ := renews.fills
      refine ⟨s₂, hs.trans (hs₁.trans hs₂), ?_, asks⟩
      rw [hsubscriptions₂, hsubscriptions₁, settled.keys]
    · intro hne
      obtain ⟨k, hk⟩ := List.exists_mem_of_ne_nil ks hne
      have hroom : 0 < s.inboxRoom := by
        rw [hs.inboxRoom]
        exact Nat.succ_pos room
      obtain ⟨s', hs', forwards, hsubscriptions⟩ := settled.floods hk hroom
      refine ⟨s', hs.trans hs', ?_, forwards⟩
      rw [hsubscriptions, settled.keys]

/-! ## Runs that end in a standstill -/

def connecting : List Move :=
  [.yield (.ok .connectAck), .survey, .resubscribe]

def declaring (k : String) : List Move :=
  [.declare k, .bring 0, .serve]

def reconnecting : List Move :=
  [.yield (.error "connection reset"), .resume, .yield (.ok .connectAck), .survey]

/-- A message gets to the loop, which finds its inbox. -/
def arriving : List Move :=
  [.yield (.ok (.publish (command "a"))), .address]

/-- It is delivered, taken and answered. -/
def answering : List Move :=
  [.forward, .take 0, .put "a" (.currentValue true) epoch (some 0), .bring 0]

/-- Eleven subscribers are declared, and the connection is lost and renewed. -/
def renewing : List Move :=
  connecting ++ ["a", "b", "c", "d", "e", "f", "g", "h", "i", "j", "k"].flatMap declaring ++
    reconnecting ++ List.replicate 10 .resubscribe

/-- A subscriber answers eleven messages before the connection sends one of the answers,
    and then there are two more. -/
def flooding : List Move :=
  connecting ++ declaring "a" ++ (List.replicate 11 (arriving ++ answering)).flatten ++
    arriving ++ [.forward] ++ arriving

/-- **Two loops that wait for good**, with room for one message in an inbox. -/
theorem standstill_reached :
    (let s := (moves renewing { inboxRoom := 1 }).1;
      s.AsksInVain ∧ ∀ s', Reaches s s' → s'.loop = .resubscribing ["k"]) ∧
    let s := (moves flooding { inboxRoom := 1 }).1
    s.ForwardsInVain ∧ ∀ s', Reaches s s' → s'.loop = .forwarding (command "a").inbound 0 := by
  constructor
  · intro s
    have hloop : s.loop = .resubscribing ["k"] := by decide +kernel
    have asks : s.AsksInVain := ⟨⟨"k", [], hloop⟩, by decide +kernel⟩
    exact ⟨asks, fun s' hs' => (asks.reaches hs').2.trans hloop⟩
  · intro s
    have hloop : s.loop = .forwarding (command "a").inbound 0 := by decide +kernel
    have found : s.inboxes[0]? =
        some ⟨"a", [(command "a").inbound], List.replicate 11 (command "a").inbound, true⟩ := by
      decide +kernel
    have blocks : s.Blocks (command "a").inbound 0 :=
      ⟨hloop, ⟨_, found, rfl, by decide⟩, by decide +kernel, by decide +kernel⟩
    exact ⟨⟨_, _, blocks⟩, fun s' hs' => (blocks.reaches hs').hand⟩

end Session

end SignalActuator.Bus
