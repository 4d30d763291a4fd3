/-
  Lifetime — the life of a provider, from its start to the end of its consumer.

  Messages are delivered at any time: before the start, during it, while the
  consumer is at work and after the session was closed.  A provider that is shut
  down closes its session and waits until the consumer has come to the end of the
  channel; if that takes too long, the consumer is stopped.

  * `Life` says how a provider may stand, and what it has done so far; `life_step`
    shows that every move keeps to it;
  * `Orders`: messages are processed in the order in which they entered the channel;
  * `conserves_moves`: every message that is delivered is accepted or refused once, or
    waits for room;
  * `Closing`: after the session was closed nothing new is accepted;
  * `settles`: a consumer at work that is left to itself handles what is in the channel;
  * `lifetime` puts them together.
-/
import SignalActuator.Actuation.Bench
import SignalActuator.Proofs.Provider.Moves
import Mathlib.Data.List.Perm.Basic

namespace SignalActuator.Provider

open Actuation

/-! ## What has happened -/

namespace Occurrence

def admissions (os : List Occurrence) : List Inbound :=
  os.filterMap fun | .accepted m => some m | _ => none

def refusals (os : List Occurrence) : List Inbound :=
  os.filterMap fun | .refused m => some m | _ => none

def results (os : List Occurrence) : List (Inbound × Outcome) :=
  os.filterMap fun | .processed m o => some (m, o) | _ => none

/-- Whether the provider has done something, or has done with a message. -/
def isWork : Occurrence → Bool
  | .did e => e.isCall
  | .processed .. => true
  | .accepted _ | .refused _ => false

def work (os : List Occurrence) : List Occurrence :=
  os.filter isWork

variable (os os' : List Occurrence) (es : List Effect)

@[simp] theorem admissions_append : admissions (os ++ os') = admissions os ++ admissions os' :=
  List.filterMap_append ..

@[simp] theorem refusals_append : refusals (os ++ os') = refusals os ++ refusals os' :=
  List.filterMap_append ..

@[simp] theorem results_append : results (os ++ os') = results os ++ results os' :=
  List.filterMap_append ..

@[simp] theorem work_append : work (os ++ os') = work os ++ work os' :=
  List.filter_append ..

@[simp] theorem admissions_did : admissions (es.map .did) = [] := by
  simp [admissions]

@[simp] theorem refusals_did : refusals (es.map .did) = [] := by
  simp [refusals]

@[simp] theorem results_did : results (es.map .did) = [] := by
  simp [results]

@[simp] theorem work_did : work (es.map .did) = (Effect.calls es).map .did := by
  rw [work, List.filter_map]
  rfl

end Occurrence

open Occurrence

/-! ## Lives -/

/-- A consumer of `k` has handled these messages and has done this for them: what is
    done for one message is done before the next one is looked at. -/
inductive Worked (k : String) : List (Inbound × Outcome) → List Occurrence → Prop
  | nil : Worked k [] []
  | snoc {handled : List (Inbound × Outcome)} {done : List Occurrence} {m : Inbound}
    {o : Outcome} {es : List Effect} (before : Worked k handled done) (now : Handled k m o es) :
    Worked k (handled ++ [(m, o)]) (done ++ (es.map .did ++ [.processed m o]))

/-- The context of a provider whose start has succeeded. -/
def Stage.context? : Stage → Option Context
  | .running c _ | .finished c | .aborted c => some c
  | _ => none

/-- How a provider of `k` may stand that began with its devices in the state `d`, with
    the messages that it has handled and all that it has done. -/
inductive Life {σ : Type} (dev : Devices σ) (terms : Terms) (k : String) (d : σ) :
    Stage → σ → List (Inbound × Outcome) → List Occurrence → Prop
  | fresh : Life dev terms k d .fresh d [] []
  | subscribed (heard : terms.subscription = none) : Life dev terms k d .subscribed d [] []
  | announced (heard : terms.subscription = none) (told : terms.publication = none) :
    Life dev terms k d .announced d [] []
  | unheard {e : Bus.Error} (refusal : terms.subscription = some e) :
    Life dev terms k d (.failed (.transport e)) d [] []
  | unannounced {e : Bus.Error} (heard : terms.subscription = none)
    (refusal : terms.publication = some e) :
    Life dev terms k d (.failed (.transport e)) d [] []
  | stuck {e : Output.Error} {d' : σ} (heard : terms.subscription = none)
    (told : terms.publication = none) (refusal : (dev.drive false d).result = .error e) :
    Life dev terms k d (.failed (.output e)) d' [] [.did (.drove false (some e))]
  /-- The line was driven low once, and then messages were handled. -/
  | started {stage : Stage} {c : Context} {d' : σ} {handled : List (Inbound × Outcome)}
    {done : List Occurrence} (heard : terms.subscription = none) (told : terms.publication = none)
    (low : (dev.drive false d).result = .ok ()) (context : stage.context? = some c)
    (keyExpr : c.keyExpr = k) (worked : Worked k handled done) :
    Life dev terms k d stage d' handled (.did (.drove false none) :: done)

/-- A consumer that has begun, ended or was stopped has the same life behind it. -/
theorem Life.turn {σ : Type} {dev : Devices σ} {terms : Terms} {k : String} {d d' : σ}
    {stage stage' : Stage} {c : Context} {handled : List (Inbound × Outcome)}
    {done : List Occurrence} (life : Life dev terms k d stage d' handled done)
    (context : stage.context? = some c) (context' : stage'.context? = some c) :
    Life dev terms k d stage' d' handled done := by
  cases life with
  | fresh | subscribed | announced | unheard | unannounced | stuck => cases context
  | started heard told low before keyExpr worked =>
    cases before.symm.trans context
    exact .started heard told low context' keyExpr worked

def startMoves : List Move :=
  [.subscribe, .announce, .energise]

/-- What a start fails for, if it fails: the first refusal. -/
def startFailure? {σ : Type} (dev : Devices σ) (terms : Terms) (d : σ) : Option Failure :=
  match terms.subscription, terms.publication with
  | some e, _ => some (.transport e)
  | none, some e => some (.transport e)
  | none, none => (refusal? (dev.drive false d).result).map .output

/-- The moves of the start that are left. -/
def Stage.left : Stage → List Move
  | .fresh => startMoves
  | .subscribed => [.announce, .energise]
  | .announced => [.energise]
  | _ => []

namespace System

variable {σ : Type} {dev : Devices σ} {terms : Terms} {k : String} {d : σ}
  {s s' : System σ} {m : Move} {past os : List Occurrence}

/-- **Every move takes a provider on in its life.** -/
theorem life_step {handled : List (Inbound × Outcome)} {done : List Occurrence}
    (keyExpr : s.keyExpr = k) (life : Life dev terms k d s.stage s.devices handled done)
    (hm : Moved dev terms s m s' os) :
    Life dev terms k d s'.stage s'.devices (handled ++ results os) (done ++ work os) := by
  -- A stage of the start has no context, so that no life behind it is a started one.
  cases hm with
  | subscribes fresh heard =>
    rw [fresh] at life
    cases life with
    | fresh => exact .subscribed heard
    | started _ _ _ context => cases context
  | unheard fresh refusal =>
    rw [fresh] at life
    cases life with
    | fresh => exact .unheard refusal
    | started _ _ _ context => cases context
  | announces subscribed told =>
    rw [subscribed] at life
    cases life with
    | subscribed heard => exact .announced heard told
    | started _ _ _ context => cases context
  | unannounced subscribed refusal =>
    rw [subscribed] at life
    cases life with
    | subscribed heard => exact .unannounced heard refusal
    | started _ _ _ context => cases context
  | energises announced low record =>
    rw [announced] at life
    cases life with
    | announced heard told => exact .started heard told low rfl keyExpr .nil
    | started _ _ _ context => cases context
  | stuck announced refusal =>
    rw [announced] at life
    cases life with
    | announced heard told => exact .stuck heard told refusal
    | started _ _ _ context => cases context
  | offers | refuses | enters | bounces | closes | unregisters =>
    simpa [results, work, isWork] using life
  | begins running | ends running | aborts running =>
    simpa [results, work, isWork, Effect.isCall] using life.turn (by rw [running]; rfl) rfl
  | @handles c m queue running first r processes =>
    rw [running] at life
    cases life with
    | started heard told low context keyExpr worked =>
      cases context
      have now := processes.handled
      rw [keyExpr] at now
      have hresults : results (r.effects.map .did ++ [.processed m r.value.1]) =
          [(m, r.value.1)] := by
        rw [results_append, results_did]
        rfl
      have hwork : work (r.effects.map .did ++ [.processed m r.value.1]) =
          (Effect.calls r.effects).map .did ++ [.processed m r.value.1] := by
        rw [work_append, work_did]
        rfl
      rw [hresults, hwork]
      exact .started heard told low rfl (processes.keyExpr.trans keyExpr) (worked.snoc now)

/-- A provider of `k` that goes through its life. -/
structure Lives (dev : Devices σ) (terms : Terms) (k : String) (d : σ) (s : System σ)
    (past : List Occurrence) : Prop where
  keyExpr : s.keyExpr = k
  life : Life dev terms k d s.stage s.devices (results past) (work past)

theorem Lives.step (h : Lives dev terms k d s past) (hm : Moved dev terms s m s' os) :
    Lives dev terms k d s' (past ++ os) where
  keyExpr := by
    have same : s'.keyExpr = s.keyExpr := by cases hm <;> rfl
    exact same.trans h.keyExpr
  life := by
    rw [results_append, work_append]
    exact life_step h.keyExpr h.life hm

theorem lives_moves (dev : Devices σ) (terms : Terms) (k : String) (d : σ) (ms : List Move) :
    let r := moves dev.observed terms ms { keyExpr := k, devices := d }
    Lives dev terms k d r.1 r.2 :=
  moves_invariant (P := Lives dev terms k d) (fun h hm => h.step hm) ms [] ⟨rfl, .fresh⟩

/-! ## The start -/

/-- A start that is over has failed for the first refusal, if there was one. -/
theorem life_started {stage : Stage} {d' : σ} {handled : List (Inbound × Outcome)}
    {done : List Occurrence} (life : Life dev terms k d stage d' handled done)
    (none_left : stage.left = []) :
    match startFailure? dev terms d with
    | some f => stage = .failed f
    | none => ∃ c, stage.context? = some c := by
  cases life with
  | fresh | subscribed | announced => cases none_left
  | unheard refusal => simp [startFailure?, refusal]
  | unannounced heard refusal => simp [startFailure?, heard, refusal]
  | stuck heard told refusal => simp [startFailure?, heard, told, refusal, refusal?]
  | started heard told low context => simp [startFailure?, heard, told, low, refusal?, context]

theorem left_of_ne {stage : Stage} {m : Move} {ms : List Move}
    (h : stage.left.Sublist (m :: ms)) (hm : stage.left.head? ≠ some m) :
    stage.left.Sublist ms := by
  rcases List.sublist_cons_iff.1 h with h | ⟨r, hr, -⟩
  · exact h
  · rw [hr] at hm
    exact absurd rfl hm

theorem left_step (hm : Moved dev terms s m s' os) {ms : List Move}
    (h : s.stage.left.Sublist (m :: ms)) : s'.stage.left.Sublist ms := by
  cases hm with
  | subscribes before | announces before =>
    rw [before] at h
    exact List.cons_sublist_cons.1 h
  | unheard | unannounced | energises | stuck | begins | handles | ends | aborts =>
    exact List.nil_sublist _
  | offers | refuses | enters | bounces | closes | unregisters =>
    refine left_of_ne h ?_
    cases s.stage <;> simp [Stage.left, startMoves]

theorem left_of_none (hm : s.move dev terms m = none) {ms : List Move}
    (h : s.stage.left.Sublist (m :: ms)) : s.stage.left.Sublist ms := by
  refine left_of_ne h fun hhead => ?_
  cases hs : s.stage with
  | fresh =>
    rw [hs] at hhead
    cases hhead
    cases ht : terms.subscription <;> simp [move, hs, ht] at hm
  | subscribed =>
    rw [hs] at hhead
    cases hhead
    cases ht : terms.publication <;> simp [move, hs, ht] at hm
  | announced =>
    rw [hs] at hhead
    cases hhead
    simp [move, hs] at hm
  | failed | running | finished | aborted =>
    rw [hs] at hhead
    cases hhead

/-- A start whose moves are made is over, whatever is done in between. -/
theorem left_moves (ms : List Move) (h : s.stage.left.Sublist ms) :
    (s.moves dev.observed terms ms).1.stage.left = [] := by
  induction ms generalizing s with
  | nil => exact List.eq_nil_of_sublist_nil h
  | cons m ms ih =>
    rcases hm : s.move dev.observed terms m with _ | ⟨s', os⟩
    · rw [moves_cons_none hm]
      exact ih (left_of_none hm h)
    · rw [moves_cons_some hm]
      exact ih (left_step (moved hm) h)

/-! ## The order of messages -/

/-- Messages are processed in the order in which they entered the channel. -/
structure Orders (s : System σ) (past : List Occurrence) : Prop where
  /-- As long as the consumer was not stopped, what was not processed is in the channel. -/
  kept : (∀ c, s.stage ≠ .aborted c) → (results past).map (·.1) ++ s.queue = admissions past
  begins : (results past).map (·.1) <+: admissions past
  /-- The channel comes to its end when nobody can send any more. -/
  ended : ∀ c, s.stage = .finished c → s.queue = [] ∧ s.waiting = [] ∧ s.registered = false

namespace Orders

/-- Neither the channel nor the messages that wait change, and the consumer neither stops
    nor goes on. -/
theorem frame (h : Orders s past) (none_processed : results os = [])
    (none_accepted : admissions os = []) (queue : s'.queue = s.queue)
    (aborted : ∀ c, s.stage = .aborted c → s'.stage = .aborted c)
    (finished : ∀ c, s'.stage = .finished c →
      s.stage = .finished c ∧ s'.waiting = s.waiting ∧
        (s.registered = false → s'.registered = false)) :
    Orders s' (past ++ os) where
  kept hs := by
    rw [results_append, none_processed, admissions_append, none_accepted, List.append_nil,
      List.append_nil, queue]
    exact h.kept fun c hc => hs c (aborted c hc)
  begins := by
    rw [results_append, none_processed, admissions_append, none_accepted, List.append_nil,
      List.append_nil]
    exact h.begins
  ended c hc := by
    obtain ⟨hs, waiting, registered⟩ := finished c hc
    obtain ⟨hqueue, hwaiting, hregistered⟩ := h.ended c hs
    exact ⟨queue.trans hqueue, waiting.trans hwaiting, registered hregistered⟩

theorem of_kept (kept : (results past).map (·.1) ++ s.queue = admissions past)
    (ended : ∀ c, s.stage = .finished c →
      s.queue = [] ∧ s.waiting = [] ∧ s.registered = false) : Orders s past :=
  ⟨fun _ => kept, ⟨s.queue, kept⟩, ended⟩

theorem step (h : Orders s past) (hm : Moved dev terms s m s' os) : Orders s' (past ++ os) := by
  cases hm with
  | subscribes before | unheard before | announces before | unannounced before | energises before
    | stuck before | begins before =>
    exact h.frame rfl rfl rfl (by simp [before]) nofun
  | refuses | closes => exact h.frame rfl rfl rfl (fun _ => id) fun _ hc => ⟨hc, rfl, id⟩
  | unregisters => exact h.frame rfl rfl rfl (fun _ => id) fun _ hc => ⟨hc, rfl, fun _ => rfl⟩
  | offers registered =>
    refine h.frame rfl rfl rfl (fun _ => id) fun c hc => ?_
    have := (h.ended c hc).2.2
    rw [registered] at this
    cases this
  | @bounces i _ found =>
    refine h.frame rfl rfl rfl (fun _ => id) fun c hc => ?_
    rw [(h.ended c hc).2.1] at found
    cases found
  | enters found receives =>
    have kept := h.kept (fun c hc => by rw [hc] at receives; cases receives)
    refine .of_kept ?_ fun c (hc : s.stage = .finished c) => ?_
    · rw [results_append, admissions_append, ← kept]
      simp [results, admissions]
    · rw [hc] at receives
      cases receives
  | handles running first =>
    have kept := h.kept (by simp [running])
    refine .of_kept ?_ nofun
    rw [results_append, admissions_append, ← kept, first]
    simp only [results_append, results_did, admissions_append, admissions_did]
    simp [results, admissions]
  | ends running empty unregistered nobody =>
    have kept := h.kept (by simp [running])
    refine .of_kept ?_ fun _ _ => ⟨empty, nobody, unregistered⟩
    simpa [results, admissions] using kept
  | aborts =>
    rw [List.append_nil]
    exact ⟨fun hs => absurd rfl (hs _), h.begins, nofun⟩

end Orders

theorem orders_moves (dev : Devices σ) (terms : Terms) (k : String) (d : σ) (ms : List Move) :
    let r := moves dev.observed terms ms { keyExpr := k, devices := d }
    Orders r.1 r.2 :=
  moves_invariant (P := Orders) (fun h hm => h.step hm) ms []
    (.of_kept rfl nofun)

/-! ## Where messages go -/

def offered (ms : List Move) : List Inbound :=
  ms.filterMap fun | .offer m => some m | _ => none

theorem perm_eraseIdx {α : Type} {l : List α} {i : Nat} {x : α} (h : l[i]? = some x) :
    l.Perm (x :: l.eraseIdx i) := by
  obtain ⟨hi, rfl⟩ := List.getElem?_eq_some_iff.1 h
  exact (List.getElem_cons_eraseIdx_perm hi).symm

/-- A message that is delivered or waits is accepted or refused by a move, or waits
    after it. -/
theorem conserves_step (hm : Moved dev terms s m s' os) :
    (offered [m] ++ s.waiting).Perm (admissions os ++ refusals os ++ s'.waiting) := by
  cases hm with
  | offers => exact List.perm_append_comm
  | enters found | bounces found => exact perm_eraseIdx found
  | handles => simp [offered, admissions, refusals]
  | subscribes | unheard | announces | unannounced | energises | stuck | refuses | begins | ends
    | closes | unregisters | aborts => exact .refl _

theorem offered_cons (m : Move) (ms : List Move) : offered (m :: ms) = offered [m] ++ offered ms :=
  List.filterMap_append (l := [m]) ..

/-- Every message that is delivered is accepted or refused, once, or waits. -/
theorem conserves_moves (ms : List Move) :
    let r := s.moves dev.observed terms ms
    (offered ms ++ s.waiting).Perm (admissions r.2 ++ refusals r.2 ++ r.1.waiting) := by
  induction ms generalizing s with
  | nil => exact .refl _
  | cons m ms ih =>
    rw [offered_cons]
    rcases hm : s.move dev.observed terms m with _ | ⟨s', os⟩
    · have hnone : offered [m] = [] := by
        cases m with
        | offer x =>
          simp only [move] at hm
          split at hm <;> cases hm
        | subscribe | announce | energise | enter | consume | close | unregister | abort => rfl
      rw [moves_cons_none hm, hnone]
      exact ih
    · rw [moves_cons_some hm]
      refine List.perm_iff_count.2 fun x => ?_
      have now := (conserves_step (moved hm)).count_eq x
      have later := (ih (s := s')).count_eq x
      simp only [List.count_append, admissions_append, refusals_append] at now later ⊢
      omega

/-! ## Closing -/

/-- What holds after the session was closed, when the messages of `w` waited for room. -/
structure Closing (w : List Inbound) (t : System σ) (past : List Occurrence) : Prop where
  registered : t.registered = false
  begun : t.stage ≠ .fresh
  /-- As long as the channel is received from, only those that waited are accepted. -/
  left : t.stage.receives = true → w.Perm (admissions past ++ t.waiting)
  ended : ∀ c, t.stage = .finished c → t.waiting = [] ∧ w.Perm (admissions past)

theorem Closing.step {w : List Inbound} (h : Closing w s past) (hm : Moved dev terms s m s' os) :
    Closing w s' (past ++ os) := by
  obtain ⟨registered, begun, left, ended⟩ := h
  cases hm with
  | subscribes fresh | unheard fresh => exact absurd fresh begun
  | announces before | energises before | begins before =>
    have hleft := left (by rw [before]; rfl)
    exact ⟨registered, nofun, fun _ => by simpa [admissions] using hleft, nofun⟩
  | handles running =>
    have hleft := left (by rw [running]; rfl)
    exact ⟨registered, nofun, fun _ => by simpa [admissions] using hleft, nofun⟩
  | unannounced | stuck | aborts => exact ⟨registered, nofun, nofun, nofun⟩
  | offers hr =>
    rw [registered] at hr
    cases hr
  | refuses | closes =>
    exact ⟨registered, begun, by simpa [admissions] using left, by simpa [admissions] using ended⟩
  | unregisters =>
    exact ⟨rfl, begun, by simpa [admissions] using left, by simpa [admissions] using ended⟩
  | enters found receives =>
    refine ⟨registered, begun, fun _ => ?_, fun c (hc : s.stage = .finished c) => ?_⟩
    · have hleft := (left receives).trans ((perm_eraseIdx found).append_left _)
      simpa [admissions] using hleft
    · rw [hc] at receives
      cases receives
  | bounces found gone =>
    refine ⟨registered, begun, fun receives => ?_, fun c hc => ?_⟩
    · rw [gone] at receives
      cases receives
    · rw [(ended c hc).1] at found
      cases found
  | ends running empty unregistered nobody =>
    have hleft := left (by rw [running]; rfl)
    rw [nobody, List.append_nil] at hleft
    exact ⟨registered, nofun, nofun, fun _ _ => ⟨nobody, by simpa [admissions] using hleft⟩⟩

theorem aborted_moves {c : Context} (ms : List Move) (h : s.stage = .aborted c) :
    (s.moves dev.observed terms ms).1.stage = .aborted c := by
  refine moves_invariant (P := fun s _ => s.stage = .aborted c) (fun h hm => ?_) ms [] h
  cases hm with
  | offers | refuses | enters | bounces | closes | unregisters => exact h
  | subscribes before | unheard before | announces before | unannounced before | energises before
    | stuck before | begins before | handles before | ends before | aborts before =>
    rw [h] at before
    cases before

/-! ## Progress -/

/-- What it comes to that a consumer is left to itself until it waits: it has handled what
    was in the channel, in order, and waits for more or, if nobody can send any more, has
    come to its end. -/
structure Settles (s : System σ) (r : System σ × List Occurrence) : Prop where
  handled : (results r.2).map (·.1) = s.queue
  empty : r.1.queue = []
  waits : s.registered = true ∨ s.waiting ≠ [] → ∃ c, r.1.stage = .running c true
  ends : s.registered = false → s.waiting = [] → ∃ c, r.1.stage = .finished c

theorem consume_first (dev : Devices σ) {c : Context} {m : Inbound} {queue : List Inbound}
    (running : s.stage = .running c true) (first : s.queue = m :: queue) :
    let r := c.process dev m s.devices
    s.consume dev = some ({ s with stage := .running r.value.2 true, queue, devices := r.state },
      r.effects.map .did ++ [.processed m r.value.1]) := by
  simp only [consume, running, first]

/-- At the end of its channel it ends, or waits if somebody can still send. -/
theorem consume_empty (dev : Devices σ) {c : Context} (running : s.stage = .running c true)
    (empty : s.queue = []) :
    s.consume dev =
      if s.registered = true ∨ s.waiting ≠ [] then none
      else some ({ s with stage := .finished c }, [.did (.logged (Context.stoppedRecord c))]) := by
  simp only [consume, running, empty]

theorem settles_begun (dev : Devices σ) {n : Nat} {c : Context}
    (running : s.stage = .running c true) (enough : s.queue.length < n) :
    Settles s (Moves.settle (consume dev) n s) := by
  -- Each message takes one of the `n` moves, and the end of the channel one more.
  induction n generalizing s c with
  | zero => cases enough
  | succ n ih =>
    cases hq : s.queue with
    | nil =>
      have last := consume_empty dev running hq
      by_cases sends : s.registered = true ∨ s.waiting ≠ []
      · rw [if_pos sends] at last
        rw [Moves.settle_none last]
        refine ⟨hq.symm, hq, fun _ => ⟨c, running⟩, fun registered nobody => ?_⟩
        rw [registered, nobody] at sends
        exact absurd sends (by decide)
      · rw [if_neg sends] at last
        rw [Moves.settle_some last, Moves.settle_none rfl]
        exact ⟨hq.symm, hq, fun h => absurd h sends, fun _ _ => ⟨c, rfl⟩⟩
    | cons m queue =>
      rw [hq, List.length_cons, Nat.succ_lt_succ_iff] at enough
      obtain ⟨handled, empty, waits, ends⟩ := ih (s := { s with
        stage := .running (c.process dev m s.devices).value.2 true
        queue
        devices := (c.process dev m s.devices).state }) rfl enough
      rw [Moves.settle_some (consume_first dev running hq)]
      refine ⟨?_, empty, waits, ends⟩
      rw [results_append, results_append, results_did, List.map_append, handled, hq]
      rfl

/-- **A consumer at work handles what is in its channel.** -/
theorem settles (dev : Devices σ) {n : Nat} {c : Context} {begun : Bool}
    (running : s.stage = .running c begun) (enough : s.queue.length + 2 ≤ n) :
    Settles s (Moves.settle (consume dev) n s) := by
  cases begun with
  | true => exact settles_begun dev running (by omega)
  | false =>
    obtain ⟨n, rfl⟩ := Nat.exists_eq_add_of_le' (Nat.one_le_of_lt enough)
    have first : s.consume dev = some ({ s with stage := .running c true },
        [.did (.logged (Context.startedRecord s.keyExpr))]) := by
      simp only [consume, running]
    obtain ⟨handled, empty, waits, ends⟩ := settles_begun dev
      (s := { s with stage := .running c true }) rfl (Nat.le_of_succ_le_succ enough)
    rw [Moves.settle_some first]
    exact ⟨handled, empty, waits, ends⟩

theorem moves_replicate_consume (dev : Devices σ) (terms : Terms) (n : Nat) (s : System σ) :
    s.moves dev terms (.replicate n .consume) = Moves.settle (consume dev) n s :=
  (Moves.settle_eq_run (move dev terms) .consume n s).symm

/-! ## Lifetimes -/

/-- **The life of a provider.**  Whatever the parties around it do, and in whatever order:

    * its start fails for the first refusal, and then it has done nothing but have the
      line refuse to be driven low; or the start succeeds, and then it has driven the
      line low once and has handled messages, one by one;
    * every message that is delivered is accepted or refused, once, or waits for room;
    * messages are processed once, in the order in which they entered the channel; unless
      the consumer was stopped, those that were not processed are in the channel, and
      when it has come to its end all of them were processed;
    * a consumer at work that is left to itself handles what is in the channel, and then
      comes to its end if nobody can send any more;
    * after the session was closed, every message that is delivered is refused, without
      effect, and a consumer that comes to its end has processed those that were in the
      channel and those that waited for room. -/
theorem lifetime (dev : Devices σ) (terms : Terms) (k : String) (d : σ) (ms : List Move) :
    let r := moves dev.observed terms ms { keyExpr := k, devices := d }
    r.1 = (moves dev terms ms { keyExpr := k, devices := d }).1 ∧
    Life dev terms k d r.1.stage r.1.devices (results r.2) (work r.2) ∧
    (List.Sublist startMoves ms →
      match startFailure? dev terms d with
      | some f => r.1.stage = .failed f
      | none => ∃ c, r.1.stage.context? = some c) ∧
    (offered ms).Perm (admissions r.2 ++ refusals r.2 ++ r.1.waiting) ∧
    (results r.2).map (·.1) <+: admissions r.2 ∧
    ((∀ c, r.1.stage ≠ .aborted c) → (results r.2).map (·.1) ++ r.1.queue = admissions r.2) ∧
    (∀ c, r.1.stage = .finished c →
      (results r.2).map (·.1) = admissions r.2 ∧ r.1.waiting = []) ∧
    (∀ c begun, r.1.stage = .running c begun → Settles r.1 (r.1.settle dev.observed terms)) ∧
    (r.1.registered = false → r.1.stage ≠ .fresh → ∀ after,
      let t := r.1.moves dev.observed terms after
      (∀ m, t.1.move dev.observed terms (.offer m) = some (t.1, [.refused m])) ∧
      ∀ c, t.1.stage = .finished c →
        (results (r.2 ++ t.2)).map (·.1) =
          (results r.2).map (·.1) ++ r.1.queue ++ admissions t.2 ∧
        (admissions t.2).Perm r.1.waiting) := by
  intro r
  have life := (lives_moves dev terms k d ms).life
  have orders := orders_moves dev terms k d ms
  have processed (c : Context) (hc : r.1.stage = .finished c) :
      (results r.2).map (·.1) = admissions r.2 := by
    have kept := orders.kept (fun _ hs => by cases hc.symm.trans hs)
    rwa [(orders.ended c hc).1, List.append_nil] at kept
  refine ⟨(moves_observed ..).1, life, fun hstart => life_started life (left_moves ms hstart), ?_,
    orders.begins, orders.kept, fun c hc => ⟨processed c hc, (orders.ended c hc).2.1⟩,
    fun c begun running => settles dev.observed running (Nat.le_refl _),
    fun registered begun after => ?_⟩
  · simpa using conserves_moves (s := { keyExpr := k, devices := d }) ms
  · intro t
    have closing : Closing r.1.waiting t.1 t.2 :=
      moves_invariant (P := Closing r.1.waiting) (fun h hm => h.step hm) after []
        ⟨registered, begun, fun _ => .refl _,
          fun c hc => ⟨(orders.ended c hc).2.1, by rw [(orders.ended c hc).2.1]; exact .refl _⟩⟩
    refine ⟨fun m => by simp [move, closing.registered], fun c hc => ⟨?_, ?_⟩⟩
    · -- The whole run, and the run up to the closing.
      have whole : Orders t.1 (r.2 ++ t.2) := by
        have h := orders_moves dev terms k d (ms ++ after)
        rwa [moves_append] at h
      have kept := whole.kept (fun _ hs => by cases hc.symm.trans hs)
      have kept' := orders.kept fun _ hs => by cases hc.symm.trans (aborted_moves after hs)
      rw [(whole.ended c hc).1, List.append_nil, admissions_append, ← kept'] at kept
      exact kept
    · exact (closing.ended c hc).2.symm

/-- The session is closed while one message is in the channel and another one waits for
    room: nothing more is accepted, and the consumer handles both and comes to its end. -/
theorem lifetime_closed :
    let request (v : Bool) : Inbound :=
      ⟨"k", Signal.payload v, none, some (Utf8.encode "targetValue"), none⟩
    let dev := (Bench.devices none).observed
    let r := moves dev {}
      [.subscribe, .offer (request true), .announce, .enter 0, .energise, .offer (request false),
        .close, .unregister, .enter 0]
      { keyExpr := "k", devices := ({} : Bench) }
    let t := r.1.settle dev {}
    (∀ m, r.1.move dev {} (.offer m) = some (r.1, [.refused m])) ∧
      (results t.2).map (·.1) = [request true, request false] ∧ ∃ c, t.1.stage = .finished c := by
  intro request dev r t
  obtain ⟨-, -, -, -, -, -, -, settled, closed⟩ := lifetime (Bench.devices none) {} "k" {}
    [.subscribe, .offer (request true), .announce, .enter 0, .energise, .offer (request false),
      .close, .unregister, .enter 0]
  obtain ⟨refused, -⟩ := closed (by decide +kernel) (by decide +kernel) []
  have running : r.1.stage = .running ⟨"k", ⟨false, "k"⟩, 0⟩ false := by decide +kernel
  obtain ⟨handled, -, -, ends⟩ := settled _ _ running
  exact ⟨refused, handled.trans (by decide +kernel), ends (by decide +kernel) (by decide +kernel)⟩

end System

end SignalActuator.Provider
