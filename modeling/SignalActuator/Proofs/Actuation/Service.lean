/-
  Service — the life of a context, from the creation of its engine through any
  list of messages.

  * `Served` puts the ways of dealing with single messages together: what is done
    for one message is done before the next one is looked at;
  * `serves_processAll`: a context serves every list of messages in this way;
  * `context_life`: the line is driven low once, then each request for a value
    sets the line and is reported, in order, and nothing else is done; at any
    time the level of the context is the last one that the line took.
-/
import SignalActuator.Proofs.Actuation.Handling

namespace SignalActuator.Actuation

variable {σ : Type}

/-- A provider of `k` that was given `n` messages before serves a list of messages,
    with these outcomes and this trace. -/
inductive Served (k : String) : UInt64 → List Inbound → List Outcome → List Effect → Prop where
  | nil (n : UInt64) : Served k n [] [] []
  | cons {n : UInt64} {m : Inbound} {ms : List Inbound} {o : Outcome} {os : List Outcome}
    {now later : List Effect}
    (arrival : now.head? = some (.logged ((receivedRecord m).within (actuationSpan m (n + 1)))))
    (handled : Handled k m o (Effect.calls now)) (rest : Served k (n + 1) ms os later) :
    Served k n (m :: ms) (o :: os) (now ++ later)

namespace Context

/-- What a run of the context `c` on a list of messages comes to. -/
structure Serves (c : Context) (ms : List Inbound) (r : Run σ (List Outcome × Context)) :
    Prop where
  served : Served c.keyExpr c.handled ms r.value.1 r.effects
  level : (Effect.levels r.effects).getLast?.getD c.engine.level = r.value.2.engine.level
  count : r.value.2.handled = c.handled + UInt64.ofNat ms.length

theorem getLast?_getD_append (xs ys : List Bool) (b : Bool) :
    (xs ++ ys).getLast?.getD b = ys.getLast?.getD (xs.getLast?.getD b) := by
  rw [List.getLast?_append]
  cases ys.getLast? <;> rfl

theorem serves_processAll (dev : Devices σ) (c : Context) (ms : List Inbound) (s : σ) :
    Serves c ms (c.processAll dev.observed ms s) := by
  induction ms generalizing c s with
  | nil => exact ⟨.nil _, rfl, (UInt64.add_zero _).symm⟩
  | cons m ms ih =>
    have h := processes_process dev c m s
    have t := ih (c.process dev.observed m s).value.2 (c.process dev.observed m s).state
    rw [processAll]
    refine ⟨.cons h.arrival h.handled ?_, ?_, ?_⟩
    · have := t.served
      rwa [h.keyExpr, h.count] at this
    · rw [Effect.levels_append, getLast?_getD_append, h.level]
      exact t.level
    · rw [t.count, h.count, List.length_cons, UInt64.ofNat_add, UInt64.add_assoc,
        UInt64.add_comm 1]
      rfl

theorem processAll_append (dev : Devices σ) (c : Context) (ms ns : List Inbound) (s : σ) :
    c.processAll dev (ms ++ ns) s =
      let r := c.processAll dev ms s
      let rest := r.value.2.processAll dev ns r.state
      ⟨(r.value.1 ++ rest.value.1, rest.value.2), rest.state, r.effects ++ rest.effects⟩ := by
  induction ms generalizing c s with
  | nil => rfl
  | cons m ms ih =>
    simp only [List.cons_append, processAll, ih, List.append_assoc]

/-- Observing devices does not change what becomes of a list of messages. -/
theorem processAll_observed (dev : Devices σ) (c : Context) (ms : List Inbound) (s : σ) :
    (c.processAll dev.observed ms s).ends = (c.processAll dev ms s).ends := by
  induction ms generalizing c s with
  | nil => rfl
  | cons m ms ih =>
    have h := process_observed dev c m s
    simp only [Run.ends, Prod.mk.injEq] at h ih ⊢
    simp only [processAll, h.1, h.2, ih, and_self]

end Context

/-- Creating an engine takes one call: the line is driven low. -/
theorem Engine.create_observed (dev : Devices σ) (reportsOn : String) (s : σ) :
    let made := Engine.create dev.observed reportsOn s
    made.ends = (Engine.create dev reportsOn s).ends ∧
      made.effects = [.drove false (refusal? (dev.drive false s).result)] ∧
      made.value = (dev.drive false s).result.map fun _ => ⟨false, reportsOn⟩ := by
  rcases h : (dev.drive false s).result with e | ⟨⟩
  · simp [create, Devices.observed, h, Run.ends, refusal?, Except.map]
  · simp [create, Devices.observed, h, Run.ends, refusal?, Except.map]

end SignalActuator.Actuation
