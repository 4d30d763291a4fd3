/-
  Handling — what one message makes a provider do.

  Log records only report; what a run does to the world are the calls to its
  devices.  Observed devices leave each call in the trace, with its answer, and
  nothing else.

  * `Demands` says which messages ask a provider for a value, and `Handled` in
    which ways a message may be dealt with: the outcome of the first test that
    stops it, with the calls made for it;
  * `processes_process`: a context deals with every message in one of these
    ways, and its level is the last one that the line took;
  * `process_congr`: how a message is dealt with does not depend on the number
    of messages before it.
-/
import SignalActuator.Actuation.Context

namespace SignalActuator

/-! ## Requests -/

namespace Signal

theorem command?_eq_some {bytes : List UInt8} {v : Bool} :
    command? bytes = some v ↔ bytes = payload v := by
  have hne : payload true ≠ payload false := by decide
  unfold command?
  split
  · cases v <;> simp_all
  · split <;> cases v <;> simp_all

theorem command?_eq_none {bytes : List UInt8} :
    command? bytes = none ↔ ∀ v, bytes ≠ payload v := by
  rw [Option.eq_none_iff_forall_ne_some]
  exact forall_congr' fun v => not_congr command?_eq_some

theorem classify_eq_targetValue {a : Option (List UInt8)} :
    Kind.classify a = .targetValue ↔ a = some (Utf8.encode targetValueTag) := by
  have hne : Utf8.encode currentValueTag ≠ Utf8.encode targetValueTag := by decide
  rcases a with _ | tag
  · simp [Kind.classify]
  · simp only [Kind.classify]
    split <;> simp_all

theorem classify_eq_currentValue {a : Option (List UInt8)} :
    Kind.classify a = .currentValue ↔ a = some (Utf8.encode currentValueTag) := by
  rcases a with _ | tag
  · simp [Kind.classify]
  · simp only [Kind.classify, Option.some.injEq]
    split
    · simp_all
    · split <;> simp_all

end Signal

namespace Actuation

variable {σ : Type}

/-- The message asks a provider of `k` for the value `v`: it comes on `k`, is
    tagged as a request and its payload is the text of `v`. -/
structure Demands (k : String) (m : Inbound) (v : Bool) : Prop where
  onTopic : m.keyExpr = k
  tagged : m.attachment = some (Utf8.encode "targetValue")
  payload : m.payload = Utf8.encode (Signal.valueText v)

instance (k : String) (m : Inbound) (v : Bool) : Decidable (Demands k m v) :=
  decidable_of_iff (m.keyExpr = k ∧ m.attachment = some (Utf8.encode "targetValue") ∧
      m.payload = Utf8.encode (Signal.valueText v))
    ⟨fun h => ⟨h.1, h.2.1, h.2.2⟩, fun h => ⟨h.onTopic, h.tagged, h.payload⟩⟩

/-- The ways in which a provider of `k` may deal with a message: the outcome of
    the first test that stops it, and the calls that are made for it. -/
inductive Handled (k : String) (m : Inbound) : Outcome → List Effect → Prop where
  | offTopic (topic : m.keyExpr ≠ k) : Handled k m .offTopic []
  | echo (topic : m.keyExpr = k) (tag : m.attachment = some (Utf8.encode "currentValue")) :
    Handled k m (.ignored .currentValue) []
  | untagged (topic : m.keyExpr = k) (report : m.attachment ≠ some (Utf8.encode "currentValue"))
    (request : m.attachment ≠ some (Utf8.encode "targetValue")) :
    Handled k m (.ignored .unknown) []
  | rejected (topic : m.keyExpr = k) (tag : m.attachment = some (Utf8.encode "targetValue"))
    (value : ∀ v, m.payload ≠ Utf8.encode (Signal.valueText v)) : Handled k m .rejected []
  /-- The line refused the level, and nothing is reported. -/
  | refused {v : Bool} (demand : Demands k m v) (e : Output.Error) :
    Handled k m .outputFailed [.drove v (some e)]
  /-- The line took the level, and one report of it follows. -/
  | obeyed {v : Bool} (demand : Demands k m v) (refusal : Option Bus.Error) :
    Handled k m (.actuated v refusal.isNone)
      [.drove v none,
       .put ⟨Utf8.encode (Signal.valueText v), "currentValue", "text/plain;charset=utf-8"⟩ refusal]

/-! ## Calls -/

/-- Whether an effect is more than a report about the run. -/
def Effect.isCall : Effect → Bool
  | .logged _ => false
  | _ => true

def Effect.calls (es : List Effect) : List Effect :=
  es.filter Effect.isCall

namespace Effect

@[simp] theorem calls_nil : calls [] = [] := rfl

@[simp] theorem calls_append (es fs : List Effect) : calls (es ++ fs) = calls es ++ calls fs :=
  List.filter_append ..

@[simp] theorem calls_logged (r : Log.Record) (es : List Effect) :
    calls (.logged r :: es) = calls es := rfl

theorem calls_cons (e : Effect) (es : List Effect) :
    calls (e :: es) = if e.isCall then e :: calls es else calls es :=
  List.filter_cons

@[simp] theorem within_logged (sp : Log.Span) (r : Log.Record) :
    within sp (.logged r) = .logged (r.within sp) := rfl

/-- A span shows on log records only. -/
@[simp] theorem calls_within (sp : Log.Span) (es : List Effect) :
    calls (es.map (within sp)) = calls es := by
  induction es with
  | nil => rfl
  | cons e es ih => cases e <;> simp [calls_cons, within, isCall, ih]

@[simp] theorem levels_append (es fs : List Effect) :
    levels (es ++ fs) = levels es ++ levels fs :=
  List.filterMap_append ..

@[simp] theorem levels_drove (l : Bool) (refusal : Option Output.Error) (es : List Effect) :
    levels (.drove l refusal :: es) = if refusal.isNone then l :: levels es else levels es := by
  cases refusal <;> rfl

theorem levels_calls (es : List Effect) : levels (calls es) = levels es := by
  induction es with
  | nil => rfl
  | cons e es ih =>
    cases e with
    | drove l refusal => simp [calls_cons, isCall, ih]
    | wrote | put | logged => exact ih

end Effect

/-! ## Observed devices -/

/-- The same devices, with every call itself as its only effect. -/
def Devices.observed (dev : Devices σ) : Devices σ where
  drive level s :=
    let a := dev.drive level s
    ⟨a.state, a.result, [.drove level (refusal? a.result)]⟩
  put m s :=
    let a := dev.put m s
    ⟨a.state, a.result, [.put m (refusal? a.result)]⟩

/-- What a run comes to, apart from its trace. -/
def Run.ends {α : Type} (r : Run σ α) : α × σ :=
  (r.value, r.state)

namespace Engine

theorem confirm_observed (dev : Devices σ) (e : Engine) (v : Bool) (s : σ) :
    (e.confirm dev.observed v s).ends = (e.confirm dev v s).ends := by
  simp only [confirm, Devices.observed, Run.ends]
  split <;> rfl

theorem command_observed (dev : Devices σ) (e : Engine) (payload : List UInt8) (s : σ) :
    (e.command dev.observed payload s).ends = (e.command dev payload s).ends := by
  unfold command
  split
  · rfl
  next v _ =>
    simp only [Devices.observed, Run.ends]
    split
    · rfl
    · have h := confirm_observed dev { e with level := v } v (dev.drive v s).state
      simp only [Run.ends, Prod.mk.injEq, Devices.observed] at h ⊢
      simp [h.1, h.2]

theorem handle_observed (dev : Devices σ) (e : Engine) (m : Inbound) (s : σ) :
    (e.handle dev.observed m s).ends = (e.handle dev m s).ends := by
  unfold handle
  split
  · exact command_observed dev e m.payload s
  · rfl
  · rfl

end Engine

/-- Observing devices does not change what becomes of a message. -/
theorem Context.process_observed (dev : Devices σ) (c : Context) (m : Inbound) (s : σ) :
    (c.process dev.observed m s).ends = (c.process dev m s).ends := by
  have h := Engine.handle_observed dev c.engine m s
  simp only [Run.ends, Prod.mk.injEq] at h
  simp only [Context.process]
  split
  · simp only [Run.ends, h.1, h.2]
  · rfl

/-! ## Handling one message -/

/-- What a run of the engine `e` on a message comes to, begun with the devices
    in the state `s`. -/
structure Engine.Acts (k : String) (m : Inbound) (e : Engine) (s : σ)
    (r : Run σ (Outcome × Engine)) : Prop where
  handled : Handled k m r.value.1 (Effect.calls r.effects)
  level : (Effect.levels r.effects).getLast?.getD e.level = r.value.2.level
  reportsOn : r.value.2.reportsOn = e.reportsOn
  /-- Only a request for a value changes anything. -/
  idle : (∀ v, ¬ Demands k m v) → r.state = s ∧ r.value.2 = e

namespace Engine

theorem acts_command (dev : Devices σ) (e : Engine) {k : String} {m : Inbound}
    (topic : m.keyExpr = k) (tag : m.attachment = some (Utf8.encode "targetValue")) (s : σ) :
    Acts k m e s (e.command dev.observed m.payload s) := by
  rcases hv : Signal.command? m.payload with _ | v
  · have value := Signal.command?_eq_none.1 hv
    simp only [command, hv]
    exact ⟨.rejected topic tag value, rfl, rfl, fun _ => ⟨rfl, rfl⟩⟩
  · have demand : Demands k m v := ⟨topic, tag, Signal.command?_eq_some.1 hv⟩
    have idle : ¬ ∀ v, ¬ Demands k m v := fun h => h v demand
    rcases hd : (dev.drive v s).result with err | ⟨⟩
    · simp only [command, hv, Devices.observed, hd]
      exact ⟨.refused demand err, rfl, rfl, fun h => absurd h idle⟩
    · rcases hp : (dev.put (.currentValue v) (dev.drive v s).state).result with err | ⟨⟩
      · simp only [command, hv, Devices.observed, hd, confirm, hp]
        exact ⟨.obeyed demand (some err), rfl, rfl, fun h => absurd h idle⟩
      · simp only [command, hv, Devices.observed, hd, confirm, hp]
        exact ⟨.obeyed demand none, rfl, rfl, fun h => absurd h idle⟩

theorem acts_handle (dev : Devices σ) (e : Engine) {k : String} {m : Inbound}
    (topic : m.keyExpr = k) (s : σ) : Acts k m e s (e.handle dev.observed m s) := by
  rcases hk : m.kind with _ | _ | _
  · simp only [handle, hk]
    exact ⟨.echo topic (Signal.classify_eq_currentValue.1 hk), rfl, rfl, fun _ => ⟨rfl, rfl⟩⟩
  · simp only [handle, hk]
    exact acts_command dev e topic (Signal.classify_eq_targetValue.1 hk) s
  · have report : m.attachment ≠ some (Utf8.encode "currentValue") := fun h => by
      have := Signal.classify_eq_currentValue.2 h
      simp [Inbound.kind, this] at hk
    have request : m.attachment ≠ some (Utf8.encode "targetValue") := fun h => by
      have := Signal.classify_eq_targetValue.2 h
      simp [Inbound.kind, this] at hk
    simp only [handle, hk]
    exact ⟨.untagged topic report request, rfl, rfl, fun _ => ⟨rfl, rfl⟩⟩

end Engine

/-- What a run of the context `c` on a message comes to, begun with the devices
    in the state `s`. -/
structure Context.Processes (c : Context) (m : Inbound) (s : σ) (r : Run σ (Outcome × Context)) :
    Prop where
  handled : Handled c.keyExpr m r.value.1 (Effect.calls r.effects)
  /-- The message is looked at before all else. -/
  arrival : r.effects.head? =
    some (.logged ((receivedRecord m).within (actuationSpan m (c.handled + 1))))
  level : (Effect.levels r.effects).getLast?.getD c.engine.level = r.value.2.engine.level
  reportsOn : r.value.2.engine.reportsOn = c.engine.reportsOn
  keyExpr : r.value.2.keyExpr = c.keyExpr
  count : r.value.2.handled = c.handled + 1
  /-- Only a request for a value changes anything but the count. -/
  idle : (∀ v, ¬ Demands c.keyExpr m v) → r.state = s ∧ r.value.2.engine = c.engine

namespace Context

theorem covers_iff {c : Context} {m : Inbound} :
    KeyExpr.covers c.keyExpr m.keyExpr = true ↔ m.keyExpr = c.keyExpr := by
  rw [KeyExpr.covers, beq_iff_eq, eq_comm]

theorem process_onTopic (dev : Devices σ) {c : Context} {m : Inbound}
    (topic : m.keyExpr = c.keyExpr) (s : σ) :
    let r := c.engine.handle dev m s
    let p := c.process dev m s
    p.value = (r.value.1, ⟨c.keyExpr, r.value.2, c.handled + 1⟩) ∧ p.state = r.state ∧
      Effect.calls p.effects = Effect.calls r.effects := by
  have hc := covers_iff.2 topic
  simp only [process, hc, if_true]
  exact ⟨trivial, trivial, by simp⟩

theorem process_offTopic (dev : Devices σ) {c : Context} {m : Inbound}
    (topic : m.keyExpr ≠ c.keyExpr) (s : σ) :
    let p := c.process dev m s
    p.value = (.offTopic, { c with handled := c.handled + 1 }) ∧ p.state = s ∧
      Effect.calls p.effects = [] := by
  have hc := mt covers_iff.1 topic
  simp only [process, hc]
  exact ⟨rfl, rfl, rfl⟩

theorem head?_process (dev : Devices σ) (c : Context) (m : Inbound) (s : σ) :
    (c.process dev m s).effects.head? =
      some (.logged ((receivedRecord m).within (actuationSpan m (c.handled + 1)))) := by
  simp only [process]
  split <;> rfl

/-- **What becomes of a message.** -/
theorem processes_process (dev : Devices σ) (c : Context) (m : Inbound) (s : σ) :
    Processes c m s (c.process dev.observed m s) := by
  have arrival := head?_process dev.observed c m s
  by_cases topic : m.keyExpr = c.keyExpr
  · have h := Engine.acts_handle dev c.engine topic s
    obtain ⟨hv, hs, hc⟩ := process_onTopic dev.observed topic s
    refine ⟨?_, arrival, ?_, ?_, ?_, ?_, ?_⟩
    · rw [hv, hc]; exact h.handled
    · rw [hv, ← Effect.levels_calls, hc, Effect.levels_calls]; exact h.level
    · rw [hv]; exact h.reportsOn
    · rw [hv]
    · rw [hv]
    · rw [hv, hs]; exact h.idle
  · obtain ⟨hv, hs, hc⟩ := process_offTopic dev.observed topic s
    refine ⟨?_, arrival, ?_, ?_, ?_, ?_, ?_⟩
    · rw [hv, hc]; exact .offTopic topic
    · rw [hv, ← Effect.levels_calls, hc]; rfl
    · rw [hv]
    · rw [hv]
    · rw [hv]
    · rw [hv, hs]; exact fun _ => ⟨rfl, rfl⟩

/-- Contexts that differ in their counts deal alike with a message. -/
theorem process_congr (dev : Devices σ) {c d : Context} (hk : c.keyExpr = d.keyExpr)
    (he : c.engine = d.engine) (m : Inbound) (s : σ) :
    let p := c.process dev m s
    let q := d.process dev m s
    p.value.1 = q.value.1 ∧ p.value.2.engine = q.value.2.engine ∧ p.state = q.state ∧
      Effect.calls p.effects = Effect.calls q.effects := by
  by_cases topic : m.keyExpr = c.keyExpr
  · obtain ⟨hv, hs, hc⟩ := process_onTopic dev topic s
    obtain ⟨hv', hs', hc'⟩ := process_onTopic dev (hk ▸ topic) s
    simp only [hv, hv', hs, hs', hc, hc', he, and_self]
  · obtain ⟨hv, hs, hc⟩ := process_offTopic dev topic s
    obtain ⟨hv', hs', hc'⟩ := process_offTopic dev (hk ▸ topic) s
    simp only [hv, hv', hs, hs', hc, hc', he, and_self]

end Context

end Actuation

end SignalActuator
