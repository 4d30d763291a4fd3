/-
  Resubscription — no declared key-expression is lost when a connection is lost.

  A new connection begins without subscriptions.  The loop looks up the declared
  key-expressions after the acknowledgement and asks for each of them; a
  declaration enters its key-expression first and asks for it then.  Whichever of
  the two is first, one of them still asks.

  * `Kept` are the ways in which a key-expression is kept on a connection;
    `Kept.frame` says what a move may do without breaking any of them;
  * `Renewed.step`: every move keeps all declared key-expressions;
  * `subscriptions_kept`: so it is at any time, and a session at rest is subscribed
    to all of them.
-/
import SignalActuator.Proofs.Bus.Moves

namespace SignalActuator.Bus

/-- The loop is at work on the subscriptions of a new connection. -/
def Loop.renews : Loop → Bool
  | .acknowledged | .resubscribing _ => true
  | _ => false

namespace Session

/-- The ways in which a key-expression is kept on the present connection. -/
inductive Kept (s : Session) (k : String) : Prop
  | subscribed (h : k ∈ s.subscribed)
  /-- It is asked for, by a request that nobody may forget. -/
  | queued (h : .subscribe k ∈ s.requests.drop s.old)
  /-- Its declaration has still to ask. -/
  | declaring {inbox : Nat} (h : .declaration k inbox ∈ s.waiting)
  | surveying (h : s.loop = .acknowledged)
  | resubscribing {ks : List String} (h : s.loop = .resubscribing ks) (mem : k ∈ ks)

/-- A key-expression is kept by a move that takes nothing from the subscriptions, the
    queue and those who wait, and lets the loop go on renewing if it did. -/
theorem Kept.frame {s s' : Session} {k : String} (h : Kept s k)
    (subscribed : k ∈ s.subscribed → k ∈ s'.subscribed)
    (queued : .subscribe k ∈ s.requests.drop s.old → .subscribe k ∈ s'.requests.drop s'.old)
    (waiting : ∀ i, .declaration k i ∈ s.waiting → .declaration k i ∈ s'.waiting)
    (loop : s.loop.renews = true → s'.loop = s.loop) : Kept s' k := by
  cases h with
  | subscribed h => exact .subscribed (subscribed h)
  | queued h => exact .queued (queued h)
  | declaring h => exact .declaring (waiting _ h)
  | surveying h => exact .surveying ((loop (by rw [h]; rfl)).trans h)
  | resubscribing h mem => exact .resubscribing ((loop (by rw [h]; rfl)).trans h) mem

/-- What holds of the subscriptions of a session at any time. -/
structure Renewed (s : Session) : Prop where
  kept : s.live = true → ∀ k ∈ s.subscriptions.keys, Kept s k
  old_le : s.old ≤ s.requests.length
  stopped : s.loop = .stopped → s.live = false

namespace Renewed

variable {s s' : Session}

theorem idle (live : s.live = false) (old_le : s.old ≤ s.requests.length) : Renewed s where
  kept h := absurd h (by rw [live]; exact Bool.false_ne_true)
  old_le := old_le
  stopped _ := live

/-- A move that leaves the connection, the key-expressions, the queue and the loop
    as they are, and takes nobody from those who wait. -/
theorem frame (h : Renewed s) (live : s'.live = s.live)
    (keys : s'.subscriptions.keys = s.subscriptions.keys)
    (subscribed : s'.subscribed = s.subscribed) (requests : s'.requests = s.requests)
    (old : s'.old = s.old) (waiting : ∀ w ∈ s.waiting, w ∈ s'.waiting)
    (loop : s.loop.renews = true → s'.loop = s.loop)
    (stopped : s'.loop = .stopped → s.loop = .stopped) : Renewed s' where
  kept hl k hk := by
    rw [live] at hl
    rw [keys] at hk
    refine (h.kept hl k hk).frame ?_ ?_ (fun _ hw => waiting _ hw) loop
    · rw [subscribed]; exact id
    · rw [requests, old]; exact id
  old_le := by rw [requests, old]; exact h.old_le
  stopped hs := by rw [live]; exact h.stopped (stopped hs)

theorem serve (h : Renewed s) {r : Request} {rs : List Request} (polling : s.loop = .polling)
    (first : s.requests = r :: rs) (requests : s'.requests = rs) (old : s'.old = s.old - 1)
    (keys : s'.subscriptions.keys = s.subscriptions.keys) (live : s'.live = s.live)
    (waiting : s'.waiting = s.waiting) (loop : s'.loop = s.loop)
    (subscribed : ∀ k, k ∈ s.subscribed ∨ r = .subscribe k → k ∈ s'.subscribed) :
    Renewed s' where
  kept hl k hk := by
    rw [live] at hl
    rw [keys] at hk
    -- The first request may be one that counts, if there are no old ones before it.
    have hdrop : .subscribe k ∈ s.requests.drop s.old →
        r = .subscribe k ∨ .subscribe k ∈ s'.requests.drop s'.old := by
      rw [first, requests, old]
      cases s.old with
      | zero =>
        intro hm
        rcases List.mem_cons.1 hm with hm | hm
        · exact .inl hm.symm
        · exact .inr hm
      | succ n => exact .inr
    rcases h.kept hl k hk with hs | hq | hw | hl | ⟨hl, -⟩
    · exact .subscribed (subscribed k (.inl hs))
    · rcases hdrop hq with hr | hq
      · exact .subscribed (subscribed k (.inr hr))
      · exact .queued hq
    · exact .declaring (by rw [waiting]; exact hw)
    · rw [polling] at hl; cases hl
    · rw [polling] at hl; cases hl
  old_le := by
    have := h.old_le
    rw [first, List.length_cons] at this
    rw [requests, old]
    omega
  stopped hs := by rw [loop, polling] at hs; cases hs

theorem drop_eraseIdx {α : Type} (l : List α) {i n : Nat} (h : i < n) :
    (l.eraseIdx i).drop (n - 1) = l.drop n := by
  induction l generalizing i n with
  | nil => simp
  | cons x l ih =>
    obtain ⟨n, rfl⟩ : ∃ m, n = m + 1 := ⟨n - 1, by omega⟩
    cases i with
    | zero => rfl
    | succ i =>
      have hi : i < n := Nat.lt_of_succ_lt_succ h
      obtain ⟨n, rfl⟩ : ∃ m, n = m + 1 := ⟨n - 1, by omega⟩
      exact ih hi

theorem forget (h : Renewed s) {i : Nat} (free : s.live = true → i < s.old) :
    Renewed (s.forget i) where
  kept hl k hk := by
    have hi := free hl
    refine (h.kept hl k hk).frame id ?_ (fun _ hw => hw) fun _ => rfl
    simp only [Session.forget, if_pos hi, drop_eraseIdx _ hi]
    exact id
  old_le := by
    have := h.old_le
    simp only [Session.forget, List.length_eraseIdx]
    split <;> split <;> omega
  stopped := h.stopped

theorem mem_drop_snoc (h : Renewed s) (r x : Request) :
    x ∈ (s.requests ++ [r]).drop s.old ↔ x ∈ s.requests.drop s.old ∨ x = r := by
  rw [List.drop_append_of_le_length h.old_le, List.mem_append, List.mem_singleton]

theorem resubscribe (h : Renewed s) {k : String} {ks : List String}
    (left : s.loop = .resubscribing (k :: ks)) :
    Renewed { s with loop := .resubscribing ks, requests := s.requests ++ [.subscribe k] } where
  kept hl x hx := by
    rcases h.kept hl x hx with hs | hq | hw | hl | ⟨hl, mem⟩
    · exact .subscribed hs
    · exact .queued ((h.mem_drop_snoc ..).2 (.inl hq))
    · exact .declaring hw
    · rw [left] at hl
      cases hl
    · rw [left] at hl
      cases hl
      rcases List.mem_cons.1 mem with rfl | mem
      · exact .queued ((h.mem_drop_snoc ..).2 (.inr rfl))
      · exact .resubscribing rfl mem
  old_le := Nat.le_trans h.old_le (by simp)
  stopped := nofun

theorem complete (h : Renewed s) (left : s.loop = .resubscribing []) :
    Renewed { s with loop := .polling } where
  kept hl x hx := by
    rcases h.kept hl x hx with hs | hq | hw | hl | ⟨hl, mem⟩
    · exact .subscribed hs
    · exact .queued hq
    · exact .declaring hw
    · rw [left] at hl
      cases hl
    · rw [left] at hl
      cases hl
      cases mem
  old_le := h.old_le
  stopped := nofun

theorem declare (h : Renewed s) (k : String) (inbox : Nat) (inboxes : List Inbox) :
    Renewed { s with inboxes, subscriptions := s.subscriptions.insert k inbox
                     waiting := s.waiting ++ [.declaration k inbox] } where
  kept hl x hx := by
    rcases Subscriptions.mem_keys_insert.1 hx with rfl | hx
    · exact .declaring (List.mem_append_right _ (List.mem_singleton_self _))
    · exact (h.kept hl x hx).frame id id (fun _ hw => List.mem_append_left _ hw) fun _ => rfl
  old_le := h.old_le
  stopped := h.stopped

theorem bring (h : Renewed s) {i : Nat} {w : Waiter} (found : s.waiting[i]? = some w) :
    Renewed { s with waiting := s.waiting.eraseIdx i
                     requests := s.requests ++ [w.request] } where
  kept hl x hx := by
    rcases h.kept hl x hx with hs | hq | @⟨inbox, hw⟩ | hl | ⟨hl, mem⟩
    · exact .subscribed hs
    · exact .queued ((h.mem_drop_snoc ..).2 (.inl hq))
    · obtain ⟨j, hj⟩ := List.mem_iff_getElem?.1 hw
      by_cases hij : j = i
      · -- It is this declaration that asks.
        rw [hij, found] at hj
        cases hj
        exact .queued ((h.mem_drop_snoc ..).2 (.inr rfl))
      · exact .declaring (List.mem_eraseIdx_iff_getElem?.2 ⟨j, hij, hj⟩)
    · exact .surveying hl
    · exact .resubscribing hl mem
  old_le := Nat.le_trans h.old_le (by simp)
  stopped := h.stopped

/-- **No move loses a key-expression.** -/
theorem step (h : Renewed s) {m : Move} {os : List Occurrence} (hm : Moved s m s' os) :
    Renewed s' := by
  cases hm with
  | breaks | parts | stops => exact .idle rfl h.old_le
  | disconnects polling live first =>
    have hlength := h.old_le
    rw [first, List.length_cons] at hlength
    exact .idle rfl (Nat.sub_le_of_le_add hlength)
  | acknowledges => exact ⟨fun _ _ _ => .surveying rfl, Nat.le_refl _, nofun⟩
  | receives polling =>
    exact h.frame rfl rfl rfl rfl rfl (fun _ hw => hw) (by simp [polling, Loop.renews]) nofun
  | idles | rejects | refuses => exact h
  | subscribes polling live first =>
    refine h.serve polling first rfl rfl rfl rfl rfl rfl fun k hk => ?_
    rcases hk with hk | hk
    · exact List.mem_append_left _ hk
    · cases hk
      exact List.mem_append_right _ (List.mem_singleton_self _)
  | publishes polling live first =>
    exact h.serve polling first rfl rfl rfl rfl rfl rfl fun k hk => hk.resolve_right nofun
  | forgets free => exact h.forget free
  | surveys => exact ⟨fun _ _ hk => .resubscribing rfl hk, h.old_le, nofun⟩
  | resubscribes left => exact h.resubscribe left
  | completes none_left => exact h.complete none_left
  | addresses hand | returns hand | delivers hand | drops hand =>
    exact h.frame rfl rfl rfl rfl rfl (fun _ hw => hw) (by simp [hand, Loop.renews]) nofun
  | resumes pausing =>
    exact h.frame rfl rfl rfl rfl rfl (fun _ hw => hw) (by simp [pausing, Loop.renews]) nofun
  | declares => exact h.declare ..
  | puts | sayFarewell =>
    exact h.frame rfl rfl rfl rfl rfl (fun _ hw => List.mem_append_left _ hw) (fun _ => rfl) id
  | brings found => exact h.bring found
  | returnsEmpty found stopped => exact .idle (h.stopped stopped) h.old_le
  | takes | leaves | stopLoop | markClosed =>
    exact h.frame rfl rfl rfl rfl rfl (fun _ hw => hw) (fun _ => rfl) id
  | clear => exact ⟨fun _ _ hk => absurd hk List.not_mem_nil, h.old_le, h.stopped⟩

theorem run (room : Nat) (ms : List Move) : Renewed (moves ms { inboxRoom := room }).1 := by
  have fresh : Renewed { inboxRoom := room } := .idle rfl (Nat.zero_le _)
  exact moves_invariant (P := fun s _ => Renewed s) (fun h hm => h.step hm) ms [] fresh

end Renewed

/-- **No subscription is lost.**  Whatever the parties of a session do, as long as there
    is a connection every declared key-expression is kept on it: it is subscribed, or is
    asked for by a request that nobody may forget, or somebody has still to ask for it.
    A session whose loop polls, with no request queued and no declaration on the way, is
    subscribed to all of them. -/
theorem subscriptions_kept (room : Nat) (ms : List Move) :
    let s := (moves ms { inboxRoom := room }).1
    s.live = true → ∀ k ∈ s.subscriptions.keys, Kept s k ∧
      (s.loop = .polling → s.requests = [] → (∀ i, .declaration k i ∉ s.waiting) →
        k ∈ s.subscribed) := by
  intro s live k hk
  have h : Kept s k := (Renewed.run room ms).kept live k hk
  refine ⟨h, fun polling empty undeclared => ?_⟩
  rcases h with hs | hq | hw | hl | ⟨hl, -⟩
  · exact hs
  · rw [empty, List.drop_nil] at hq
    cases hq
  · exact absurd hw (undeclared _)
  · rw [polling] at hl
    cases hl
  · rw [polling] at hl
    cases hl

/-- A run that loses its connection while a second subscriber is being declared.  The
    request of the declaration is forgotten, and the loop is about to ask again. -/
def reconnection : List Move :=
  [.declare "a", .yield (.ok .connectAck), .survey, .bring 0, .resubscribe, .resubscribe,
    .serve, .serve, .yield (.error "connection reset"), .declare "b", .bring 0, .forget 0,
    .resume, .yield (.ok .connectAck), .survey, .resubscribe]

theorem subscriptions_kept_reconnection :
    let s := (moves reconnection { inboxRoom := 1 }).1
    s.live = true ∧ s.subscriptions.keys = ["a", "b"] ∧ s.subscribed = [] ∧
      s.loop = .resubscribing ["b"] ∧ Kept s "a" ∧ Kept s "b" := by
  have live : (moves reconnection { inboxRoom := 1 }).1.live = true := by decide +kernel
  have keys : (moves reconnection { inboxRoom := 1 }).1.subscriptions.keys = ["a", "b"] := by
    decide +kernel
  exact ⟨live, keys, by decide +kernel, by decide +kernel,
    (subscriptions_kept 1 reconnection live "a" (by simp [keys])).1,
    (subscriptions_kept 1 reconnection live "b" (by simp [keys])).1⟩

end Session

end SignalActuator.Bus
