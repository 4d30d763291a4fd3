/-
  Moves — what the parties around a provider may do, and what becomes of it.

  The devices of the provider are observed, so that every call to them is seen.

  * `System.Moved` lists the moves that can be made: what each needs, what it leaves
    and what can be seen of it; `System.moved` shows that there are no others;
  * `System.moves_invariant`: what holds at first and is kept by every move holds at
    any time;
  * `System.moves_observed`: observing the devices does not change what becomes of a
    provider and its messages.
-/
import SignalActuator.Proofs.Actuation.Service
import SignalActuator.Proofs.Moves
import SignalActuator.Provider.Lifecycle

namespace SignalActuator.Provider

open Actuation

namespace Occurrence

/-- What becomes of messages: all that can be seen but the effects. -/
def fates (os : List Occurrence) : List Occurrence :=
  os.filter fun | .did _ => false | _ => true

@[simp] theorem fates_append (os os' : List Occurrence) :
    fates (os ++ os') = fates os ++ fates os' :=
  List.filter_append ..

@[simp] theorem fates_map_did {α : Type} (f : α → Effect) (l : List α) :
    fates (l.map fun a => .did (f a)) = [] := by
  simp [fates, List.filter_eq_nil_iff]

@[simp] theorem fates_did (es : List Effect) : fates (es.map .did) = [] :=
  fates_map_did id es

/-- What is read off the fates of messages is the same in runs with the same fates. -/
theorem filterMap_congr_fates {α : Type} {f : Occurrence → Option α}
    (silent : ∀ e, f (.did e) = none) {os os' : List Occurrence} (h : fates os = fates os') :
    os.filterMap f = os'.filterMap f := by
  have read (os : List Occurrence) : (fates os).filterMap f = os.filterMap f := by
    rw [fates, List.filterMap_filter]
    congr
    funext o
    cases o with
    | did e => exact (silent e).symm
    | accepted | refused | processed => rfl
  rw [← read os, h, read os']

end Occurrence

namespace System

variable {σ : Type}

/-! ## Single moves -/

/-- The moves that can be made, what becomes of the provider, and what can be seen of
    them. -/
inductive Moved (dev : Devices σ) (terms : Terms) (s : System σ) :
    Move → System σ → List Occurrence → Prop
  | subscribes (fresh : s.stage = .fresh) (accepted : terms.subscription = none) :
    Moved dev terms s .subscribe { s with stage := .subscribed, registered := true } []
  | unheard {e : Bus.Error} (fresh : s.stage = .fresh) (refusal : terms.subscription = some e) :
    Moved dev terms s .subscribe { s with stage := .failed (.transport e) } []
  | announces (subscribed : s.stage = .subscribed) (accepted : terms.publication = none) :
    Moved dev terms s .announce { s with stage := .announced } []
  | unannounced {e : Bus.Error} (subscribed : s.stage = .subscribed)
    (refusal : terms.publication = some e) :
    Moved dev terms s .announce { s with stage := .failed (.transport e) } []
  | energises (announced : s.stage = .announced)
    (low : (dev.drive false s.devices).result = .ok ()) (record : Log.Record) :
    Moved dev terms s .energise
      { s with
        stage := .running { keyExpr := s.keyExpr, engine := ⟨false, s.keyExpr⟩ } false
        devices := (dev.drive false s.devices).state }
      [.did (.drove false none), .did (.logged record)]
  | stuck {e : Output.Error} (announced : s.stage = .announced)
    (refusal : (dev.drive false s.devices).result = .error e) :
    Moved dev terms s .energise
      { s with stage := .failed (.output e), devices := (dev.drive false s.devices).state }
      [.did (.drove false (some e))]
  | offers {m : Inbound} (registered : s.registered = true) (topic : m.keyExpr = s.keyExpr) :
    Moved dev terms s (.offer m) { s with waiting := s.waiting ++ [m] } []
  | refuses {m : Inbound} (missing : ¬ (s.registered = true ∧ m.keyExpr = s.keyExpr)) :
    Moved dev terms s (.offer m) s [.refused m]
  | enters {i : Nat} {m : Inbound} (found : s.waiting[i]? = some m)
    (receives : s.stage.receives = true) (room : s.queue.length < capacity) :
    Moved dev terms s (.enter i)
      { s with waiting := s.waiting.eraseIdx i, queue := s.queue ++ [m] } [.accepted m]
  /-- The receiving end of the channel has gone. -/
  | bounces {i : Nat} {m : Inbound} (found : s.waiting[i]? = some m)
    (gone : s.stage.receives = false) :
    Moved dev terms s (.enter i) { s with waiting := s.waiting.eraseIdx i } [.refused m]
  | begins {c : Context} (running : s.stage = .running c false) (record : Log.Record) :
    Moved dev terms s .consume { s with stage := .running c true } [.did (.logged record)]
  | handles {c : Context} {m : Inbound} {queue : List Inbound} (running : s.stage = .running c true)
    (first : s.queue = m :: queue) (r : Run σ (Outcome × Context))
    (processes : c.Processes m s.devices r) :
    Moved dev terms s .consume
      { s with stage := .running r.value.2 true, queue, devices := r.state }
      (r.effects.map .did ++ [.processed m r.value.1])
  | ends {c : Context} (running : s.stage = .running c true) (empty : s.queue = [])
    (unregistered : s.registered = false) (nobody : s.waiting = []) (record : Log.Record) :
    Moved dev terms s .consume { s with stage := .finished c } [.did (.logged record)]
  | closes : Moved dev terms s .close { s with closed := true } []
  | unregisters : Moved dev terms s .unregister { s with registered := false } []
  | aborts {c : Context} {begun : Bool} (running : s.stage = .running c begun) :
    Moved dev terms s .abort { s with stage := .aborted c, queue := [] } []

variable {dev : Devices σ} {terms : Terms} {s s' : System σ}

/-- There are no other moves. -/
theorem moved {m : Move} {os : List Occurrence} (h : s.move dev.observed terms m = some (s', os)) :
    Moved dev terms s m s' os := by
  cases m with
  | subscribe =>
    simp only [move, ne_eq, ite_not, Option.ite_none_right_eq_some] at h
    obtain ⟨fresh, h⟩ := h
    cases ht : terms.subscription with
    | none =>
      rw [ht] at h
      cases h
      exact .subscribes fresh ht
    | some e =>
      rw [ht] at h
      cases h
      exact .unheard fresh ht
  | announce =>
    simp only [move, ne_eq, ite_not, Option.ite_none_right_eq_some] at h
    obtain ⟨subscribed, h⟩ := h
    cases ht : terms.publication with
    | none =>
      rw [ht] at h
      cases h
      exact .announces subscribed ht
    | some e =>
      rw [ht] at h
      cases h
      exact .unannounced subscribed ht
  | energise =>
    simp only [move, Option.ite_none_right_eq_some, Option.some.injEq] at h
    obtain ⟨announced, h⟩ := h
    rcases hd : (dev.drive false s.devices).result with e | ⟨⟩
    · simp only [energise, Engine.create, Devices.observed, hd] at h
      cases h
      exact .stuck announced hd
    · simp only [energise, Engine.create, Devices.observed, hd] at h
      cases h
      exact .energises announced hd _
  | offer m =>
    simp only [move] at h
    split at h
    next found =>
      cases h
      exact .offers found.1 found.2
    next missing =>
      cases h
      exact .refuses missing
  | enter i =>
    simp only [move] at h
    split at h
    next => cases h
    next m found =>
      split at h
      next gone =>
        cases h
        exact .bounces found (by simpa using gone)
      next receives =>
        simp only [Option.ite_none_right_eq_some, Option.some.injEq] at h
        obtain ⟨room, h⟩ := h
        cases h
        exact .enters found (by simpa using receives) room
  | consume =>
    simp only [move, consume] at h
    split at h
    next c running =>
      cases h
      exact .begins running _
    next c running =>
      split at h
      next m queue first =>
        cases h
        exact .handles running first _ (Context.processes_process dev c m s.devices)
      next empty =>
        simp only [Option.ite_none_left_eq_some, Option.some.injEq, not_or] at h
        obtain ⟨⟨unregistered, nobody⟩, h⟩ := h
        cases h
        exact .ends running empty (by simpa using unregistered) (by simpa using nobody) _
    next => cases h
  | close => cases h; exact .closes
  | unregister => cases h; exact .unregisters
  | abort =>
    simp only [move] at h
    split at h
    next running =>
      cases h
      exact .aborts running
    next => cases h

/-! ## Lists of moves -/

/-- What holds at first and is kept by every move holds at any time. -/
theorem moves_invariant {P : System σ → List Occurrence → Prop}
    (step : ∀ {s : System σ} {past : List Occurrence} {m : Move} {s' : System σ}
      {os : List Occurrence}, P s past → Moved dev terms s m s' os → P s' (past ++ os))
    (ms : List Move) (past : List Occurrence) (h : P s past) :
    P (s.moves dev.observed terms ms).1 (past ++ (s.moves dev.observed terms ms).2) :=
  Moves.run_invariant (fun h hm => step h (moved hm)) ms past h

theorem moves_cons_some {m : Move} {os : List Occurrence}
    (h : s.move dev terms m = some (s', os)) (ms : List Move) :
    s.moves dev terms (m :: ms) =
      ((s'.moves dev terms ms).1, os ++ (s'.moves dev terms ms).2) :=
  Moves.run_cons_some h ms

theorem moves_cons_none {m : Move} (h : s.move dev terms m = none) (ms : List Move) :
    s.moves dev terms (m :: ms) = s.moves dev terms ms :=
  Moves.run_cons_none h ms

theorem moves_append (ms ns : List Move) (s : System σ) :
    s.moves dev terms (ms ++ ns) =
      let r := s.moves dev terms ms
      let rest := r.1.moves dev terms ns
      (rest.1, r.2 ++ rest.2) :=
  Moves.run_append ..

/-! ## Observed devices -/

theorem move_observed (dev : Devices σ) (terms : Terms) (m : Move) (s : System σ) :
    (s.move dev.observed terms m).map (Prod.map id Occurrence.fates) =
      (s.move dev terms m).map (Prod.map id Occurrence.fates) := by
  cases m with
  | energise =>
    obtain ⟨ends, -, -⟩ := Engine.create_observed dev s.keyExpr s.devices
    simp only [Run.ends, Prod.mk.injEq] at ends
    simp only [move, energise, ends.1, ends.2]
    split
    · cases (Engine.create dev s.keyExpr s.devices).value <;>
        simp
    · rfl
  | consume =>
    simp only [move, consume]
    split
    next => rfl
    next c _ =>
      split
      next m queue _ =>
        have ends := Context.process_observed dev c m s.devices
        simp only [Run.ends, Prod.mk.injEq] at ends
        simp [ends.1, ends.2]
      next => rfl
    next => rfl
  | subscribe | announce | offer | enter | close | unregister | abort => rfl

/-- Observing the devices changes neither what becomes of a provider nor what becomes of
    its messages. -/
theorem moves_observed (dev : Devices σ) (terms : Terms) (ms : List Move) (s : System σ) :
    let r := s.moves dev.observed terms ms
    let r' := s.moves dev terms ms
    r.1 = r'.1 ∧ Occurrence.fates r.2 = Occurrence.fates r'.2 := by
  refine Moves.run_alike (R := fun r r' =>
    r.1 = r'.1 ∧ Occurrence.fates r.2 = Occurrence.fates r'.2) ?_ ms [] [] ⟨rfl, rfl⟩
  rintro s past - past' m ⟨rfl, before⟩
  have now := move_observed dev terms m s
  rcases hm : s.move dev.observed terms m with _ | r <;>
    rcases hm' : s.move dev terms m with _ | r' <;>
    simp only [hm, hm', Option.map_none, Option.map_some, reduceCtorEq, Option.some.injEq] at now
  · rw [Moves.make_none hm, Moves.make_none hm']
    simpa using before
  · rw [Moves.make_some hm, Moves.make_some hm']
    simp only [Prod.map, id, Prod.mk.injEq] at now
    simp [before, now]

end System

end SignalActuator.Provider
