/-
  Declaring — where key-expressions lead to when a declaration fails.

  A declaration enters its key-expression before it asks for it.  When the request is
  refused, because the loop has stopped, it takes the key-expression out again, whatever
  it led to before: a subscriber that was declared earlier on the same key-expression is
  not put back.

  * `Declaring` is how far a declaration has come and where key-expressions lead to
    then; `Declaring.step`: nobody else changes that;
  * `failed_declaration`: a declaration that fails leaves all other key-expressions as they
    were, and its own leading nowhere;
  * `failed_declaration_withdraws`: a subscriber that is lost so.
-/
import SignalActuator.Proofs.Bus.Closing

namespace SignalActuator.Bus

/-! ## Taking a key-expression out again -/

namespace Subscriptions

theorem get?_erase_insert (t : Subscriptions) (k x : String) (i : Nat) :
    ((t.insert k i).erase k).get? x = if x = k then none else t.get? x := by
  rw [get?_erase, get?_insert]
  split_ifs <;> rfl

/-- All lead where they led before only if the key-expression led nowhere. -/
theorem erase_insert_same_iff (t : Subscriptions) (k : String) (i : Nat) :
    (∀ x, ((t.insert k i).erase k).get? x = t.get? x) ↔ t.get? k = none := by
  simp only [get?_erase_insert]
  constructor
  · intro hsame
    rw [← hsame k, if_pos rfl]
  · intro hnone x
    split_ifs with hx
    · rw [hx, hnone]
    · rfl

end Subscriptions

/-! ## Who declares -/

namespace Waiter

/-- The key-expression that a waiter declares, with its inbox, if it declares one. -/
def declaration? : Waiter → Option (String × Nat)
  | .declaration k i => some (k, i)
  | .publication .. | .farewell => none

/-- The declarations among those who wait. -/
def declarations (ws : List Waiter) : List (String × Nat) :=
  ws.filterMap declaration?

@[simp] theorem declarations_append (ws vs : List Waiter) :
    declarations (ws ++ vs) = declarations ws ++ declarations vs :=
  List.filterMap_append ..

theorem declarations_eraseIdx {ws : List Waiter} {n : Nat} {w : Waiter} (found : ws[n]? = some w)
    (h : w.declaration? = none) : declarations (ws.eraseIdx n) = declarations ws := by
  rw [declarations, declarations, filterMap_eraseIdx, filterMap_split declaration? found, h]
  rfl

theorem declarations_eraseIdx_of_singleton {ws : List Waiter} {n : Nat} {w : Waiter}
    {d d' : String × Nat} (found : ws[n]? = some w) (h : w.declaration? = some d)
    (alone : declarations ws = [d']) : d = d' ∧ declarations (ws.eraseIdx n) = [] := by
  rw [declarations, filterMap_split declaration? found, h] at alone
  rw [declarations, filterMap_eraseIdx]
  rcases List.append_eq_singleton_iff.1 alone with ⟨hbefore, hrest⟩ | ⟨-, hrest⟩
  · obtain ⟨rfl, hafter⟩ := List.cons.inj hrest
    have hafter : (ws.drop (n + 1)).filterMap declaration? = [] := hafter
    exact ⟨rfl, by rw [hbefore, hafter]; rfl⟩
  · cases hrest

end Waiter

/-- What those who declare are told: the inbox, or why there is none. -/
def Occurrence.declarations (h : List Occurrence) : List (Except Error Nat) :=
  h.filterMap fun
    | .declared i => some (.ok i)
    | .failed (.subscriptionFailed k cause) => some (.error (.subscriptionFailed k cause))
    | _ => none

@[simp] theorem Occurrence.declarations_append (h more : List Occurrence) :
    declarations (h ++ more) = declarations h ++ declarations more :=
  List.filterMap_append ..

/-- A move that can be made while somebody declares a subscriber: nobody else declares
    one, and the subscriptions are not cleared. -/
def Move.isForeign : Move → Bool
  | .declare _ | .clear => false
  | _ => true

namespace Session

variable {s s' : Session} {m : Move} {os : List Occurrence} {k : String} {i : Nat}
  {table : Subscriptions} {past : List Occurrence}

/-- How far the declaration of a key-expression with an inbox has come, and where
    key-expressions lead to, if they led where `table` says before. -/
inductive Declaring (k : String) (i : Nat) (table : Subscriptions) (s : Session)
    (past : List Occurrence) : Prop
  | waits (waiting : Waiter.declarations s.waiting = [(k, i)])
    (entered : s.subscriptions = table.insert k i) (told : Occurrence.declarations past = [])
  | accepted (waiting : Waiter.declarations s.waiting = [])
    (entered : s.subscriptions = table.insert k i)
    (told : Occurrence.declarations past = [.ok i])
  /-- The loop has stopped, and the key-expression was taken out again. -/
  | refused (waiting : Waiter.declarations s.waiting = []) (stopped : s.loop = .stopped)
    (withdrawn : s.subscriptions = (table.insert k i).erase k)
    (told : ∃ cause, Occurrence.declarations past = [.error (.subscriptionFailed k cause)])

namespace Declaring

theorem frame (h : Declaring k i table s past)
    (waiting : Waiter.declarations s'.waiting = Waiter.declarations s.waiting)
    (subscriptions : s'.subscriptions = s.subscriptions)
    (stopped : s.loop = .stopped → s'.loop = .stopped)
    (silent : Occurrence.declarations os = []) : Declaring k i table s' (past ++ os) := by
  have told : Occurrence.declarations (past ++ os) = Occurrence.declarations past := by
    rw [Occurrence.declarations_append, silent, List.append_nil]
  cases h with
  | waits alone entered said =>
    exact .waits (waiting.trans alone) (subscriptions.trans entered) (told.trans said)
  | accepted none entered said =>
    exact .accepted (waiting.trans none) (subscriptions.trans entered) (told.trans said)
  | refused none hs withdrawn said =>
    exact .refused (waiting.trans none) (stopped hs) (subscriptions.trans withdrawn) (told ▸ said)

theorem passes (h : Declaring k i table s past) {n : Nat} {w : Waiter}
    (found : s.waiting[n]? = some w) (other : w.declaration? = none)
    (waiting : s'.waiting = s.waiting.eraseIdx n)
    (subscriptions : s'.subscriptions = s.subscriptions) (loop : s'.loop = s.loop)
    (silent : Occurrence.declarations os = []) : Declaring k i table s' (past ++ os) := by
  refine h.frame ?_ subscriptions loop.trans silent
  rw [waiting, Waiter.declarations_eraseIdx found other]

/-- Only the one declaration can be served or refused. -/
theorem own (h : Declaring k i table s past) {n j : Nat} {x : String}
    (found : s.waiting[n]? = some (.declaration x j)) :
    x = k ∧ j = i ∧ Waiter.declarations (s.waiting.eraseIdx n) = [] ∧
      s.subscriptions = table.insert k i ∧ Occurrence.declarations past = [] := by
  have hmem : (x, j) ∈ Waiter.declarations s.waiting :=
    List.mem_filterMap.2 ⟨_, List.mem_of_getElem? found, rfl⟩
  cases h with
  | waits alone entered told =>
    obtain ⟨heq, hnone⟩ := Waiter.declarations_eraseIdx_of_singleton found rfl alone
    cases heq
    exact ⟨rfl, rfl, hnone, entered, told⟩
  | accepted none => simp [none] at hmem
  | refused none => simp [none] at hmem

/-- **Nobody else changes where key-expressions lead to.** -/
theorem step (h : Declaring k i table s past) (foreign : m.isForeign = true)
    (hm : Moved s m s' os) : Declaring k i table s' (past ++ os) := by
  cases hm with
  | declares | rejects | clear => cases foreign
  | @brings n w found running room =>
    cases w with
    | publication | farewell => exact h.passes found rfl rfl rfl rfl rfl
    | declaration x j =>
      -- Nobody else declares, so that this is the declaration itself.
      obtain ⟨rfl, rfl, hnone, entered, told⟩ := h.own found
      refine .accepted hnone entered ?_
      rw [Occurrence.declarations_append, told]
      rfl
  | @returnsEmpty n w found stopped =>
    cases w with
    | publication | farewell => exact h.passes found rfl rfl rfl rfl rfl
    | declaration x j =>
      obtain ⟨rfl, rfl, hnone, entered, told⟩ := h.own found
      refine .refused hnone stopped (congrArg (Subscriptions.erase · _) entered)
        ⟨"Failed to send mqtt requests to eventloop", ?_⟩
      rw [Occurrence.declarations_append, told]
      rfl
  | puts | sayFarewell =>
    refine h.frame ?_ rfl id rfl
    rw [Waiter.declarations_append]
    exact List.append_nil _
  | @refuses _ _ _ _ e free refused =>
    refine h.frame rfl rfl id ?_
    rw [publication] at refused
    split at refused <;> cases refused
    rfl
  | breaks hl | acknowledges hl | receives hl | surveys hl | resubscribes hl | completes hl
  | addresses hl | returns hl | delivers hl | drops hl | resumes hl =>
    exact h.frame rfl rfl (fun hs => by rw [hs] at hl; cases hl) rfl
  | stops => exact h.frame rfl rfl (fun _ => rfl) rfl
  | parts | idles | subscribes | publishes | disconnects | forgets | takes | leaves | stopLoop
  | markClosed => exact h.frame rfl rfl id rfl

theorem begins (alone : Waiter.declarations s.waiting = []) (k : String) :
    Declaring k s.inboxes.length s.subscriptions
      { s with
        inboxes := s.inboxes ++ [{ keyExpr := k }]
        subscriptions := s.subscriptions.insert k s.inboxes.length
        waiting := s.waiting ++ [.declaration k s.inboxes.length] }
      [.entered k s.inboxes.length] :=
  .waits (by rw [Waiter.declarations_append, alone]; rfl) rfl rfl

/-- A declaration and what is made of it while others move. -/
theorem run (alone : Waiter.declarations s.waiting = []) (valid : KeyExpr.validate k = .ok ())
    (ms : List Move) (foreign : ∀ m ∈ ms, m.isForeign = true) :
    let r := moves (.declare k :: ms) s
    Declaring k s.inboxes.length s.subscriptions r.1 r.2 := by
  have hdeclare := (Moved.declares (s := s) valid).made
  rw [moves_cons_some hdeclare]
  exact moves_invariant_of (Q := fun m => m.isForeign = true)
    (P := fun s' past => Declaring k s.inboxes.length s.subscriptions s' past)
    (fun h hm hstep => h.step hm hstep) ms foreign _ (begins alone k)

end Declaring

/-- **What a declaration leaves that fails.**  A text that is no key-expression is refused
    without a change.  While a subscriber is declared, whatever others do, it is told its
    inbox, or that its declaration failed, or nothing yet.  A declaration that fails, which
    it does only when the loop has stopped, leaves every other key-expression leading where
    it led before, and its own leading nowhere: everything is as it was exactly if the
    key-expression led nowhere before.  One that does not fail leaves its key-expression
    leading to its inbox. -/
theorem failed_declaration (s : Session) (alone : Waiter.declarations s.waiting = []) (k : String)
    (ms : List Move) (foreign : ∀ m ∈ ms, m.isForeign = true) :
    let i := s.inboxes.length
    let r := moves (.declare k :: ms) s
    let told := Occurrence.declarations r.2
    (∀ e, KeyExpr.validate k = .error e →
      s.move (.declare k) = some (s, [.failed (.invalidKeyExpr e)])) ∧
    (KeyExpr.validate k = .ok () →
      (told = [] ∨ told = [.ok i] ∨ ∃ cause, told = [.error (.subscriptionFailed k cause)]) ∧
      ((∃ cause, told = [.error (.subscriptionFailed k cause)]) →
        r.1.loop = .stopped ∧
        (∀ x, r.1.subscriptions.get? x = if x = k then none else s.subscriptions.get? x) ∧
        ((∀ x, r.1.subscriptions.get? x = s.subscriptions.get? x) ↔
          s.subscriptions.get? k = none)) ∧
      (told = [] ∨ told = [.ok i] →
        ∀ x, r.1.subscriptions.get? x = if x = k then some i else s.subscriptions.get? x)) := by
  intro i r told
  refine ⟨fun e invalid => (Moved.rejects invalid).made, fun valid => ?_⟩
  have h : Declaring k i s.subscriptions r.1 r.2 := .run alone valid ms foreign
  have entered (hs : r.1.subscriptions = s.subscriptions.insert k i) (x : String) :
      r.1.subscriptions.get? x = if x = k then some i else s.subscriptions.get? x := by
    rw [hs, Subscriptions.get?_insert]
  cases h with
  | waits alone hs htold =>
    refine ⟨.inl htold, ?_, fun _ => entered hs⟩
    rintro ⟨cause, hfailed⟩
    cases hfailed.symm.trans htold
  | accepted none hs htold =>
    refine ⟨.inr (.inl htold), ?_, fun _ => entered hs⟩
    rintro ⟨cause, hfailed⟩
    cases hfailed.symm.trans htold
  | refused none stopped hs htold =>
    refine ⟨.inr (.inr htold), fun _ => ⟨stopped, ?_, ?_⟩, ?_⟩
    · intro x
      rw [hs, Subscriptions.get?_erase_insert]
    · rw [hs]
      exact Subscriptions.erase_insert_same_iff ..
    · obtain ⟨cause, htold⟩ := htold
      rintro (hother | hother) <;> cases hother.symm.trans htold

/-! ## Declarations on a session that was closed -/

def onA : Publish :=
  { topic := Utf8.encode "a", payload := Utf8.encode "1" }

/-- The loop has more messages for a subscriber than there is room for when the session is
    closed, and another subscriber is declared.  Then the first takes a message, and the
    loop notices that it was told to stop. -/
def lateDeclaration : List Move :=
  [.yield (.ok .connectAck), .survey, .resubscribe, .declare "a", .bring 0, .serve,
    .yield (.ok (.publish onA)), .address, .forward, .yield (.ok (.publish onA)), .address,
    .stopLoop, .sayFarewell, .bring 0, .markClosed, .clear,
    .declare "b", .bring 0, .take 0, .forward, .heed]

/-- A third subscriber is refused, and the second one stays. -/
theorem failed_declaration_late :
    let s := (moves lateDeclaration { inboxRoom := 1 }).1
    Waiter.declarations s.waiting = [] ∧ (∀ m ∈ [Move.bring 0], m.isForeign = true) ∧
      let r := moves [.declare "c", .bring 0] s
      s.subscriptions.get? "b" = some 1 ∧ r.1.loop = .stopped ∧
        ∀ x, r.1.subscriptions.get? x = s.subscriptions.get? x := by
  intro s
  have alone : Waiter.declarations s.waiting = [] := by decide +kernel
  have foreign : ∀ m ∈ [Move.bring 0], m.isForeign = true := by simp [Move.isForeign]
  obtain ⟨-, hvalid⟩ := failed_declaration s alone "c" [.bring 0] foreign
  obtain ⟨-, hfailed, -⟩ := hvalid (by decide +kernel)
  obtain ⟨stopped, -, hsame⟩ := hfailed ⟨"Failed to send mqtt requests to eventloop", rfl⟩
  exact ⟨alone, foreign, by decide +kernel, stopped, hsame.2 (by decide +kernel)⟩

/-- **A subscriber that is lost.**  The second subscriber is declared once more: the
    declaration is refused, and the key-expression leads nowhere, though it led to an inbox
    before. -/
theorem failed_declaration_withdraws :
    let s := (moves lateDeclaration { inboxRoom := 1 }).1
    let r := moves [.declare "b", .bring 0] s
    s.subscriptions.get? "b" = some 1 ∧
      Occurrence.declarations r.2 = [.error (.subscriptionFailed "b"
        "Failed to send mqtt requests to eventloop")] ∧
      r.1.subscriptions.get? "b" = none := by
  refine ⟨by decide +kernel, rfl, by decide +kernel⟩

end Session

end SignalActuator.Bus
