/-
  Tracing — the whole trace of a run beside what is observed of it.

  Devices may leave effects of their own besides the calls to them, such as the files
  that a line writes.  What relates the two for every single call relates them for
  every run.

  * `Devices.Keeps`: a relation of the state of devices, what they have done and what
    was observed of them, that every call to them keeps;
  * `keeps_create`, `keeps_process`: the creation of an engine and the handling of a
    message keep it, too.
-/
import SignalActuator.Proofs.Actuation.Handling

namespace SignalActuator.Actuation

open Effect (calls)

variable {σ : Type}

/-- Every call to the devices keeps a relation of their state, what they have done and
    what was observed of them. -/
structure Devices.Keeps (dev : Devices σ) (R : σ → List Effect → List Effect → Prop) : Prop where
  drive {s : σ} {done seen : List Effect} (level : Bool) (h : R s done seen) :
    let a := dev.drive level s
    R a.state (done ++ calls a.effects) (seen ++ [.drove level (refusal? a.result)])
  put {s : σ} {done seen : List Effect} (m : Outbound) (h : R s done seen) :
    let a := dev.put m s
    R a.state (done ++ calls a.effects) (seen ++ [.put m (refusal? a.result)])

variable {dev : Devices σ} {R : σ → List Effect → List Effect → Prop} {s : σ}
  {done seen : List Effect}

namespace Engine

theorem keeps_create (keeps : dev.Keeps R) (k : String) (h : R s done seen) :
    let r := create dev k s
    R r.state (done ++ calls r.effects) (seen ++ calls (create dev.observed k s).effects) := by
  have driven := keeps.drive false h
  rcases hd : (dev.drive false s).result with e | ⟨⟩
  · simpa [create, Devices.observed, hd, Effect.calls_cons, Effect.isCall] using driven
  · simpa [create, Devices.observed, hd, Effect.calls_cons, Effect.isCall] using driven

theorem keeps_confirm (keeps : dev.Keeps R) (e : Engine) (v : Bool) (h : R s done seen) :
    let r := e.confirm dev v s
    R r.state (done ++ calls r.effects) (seen ++ calls (e.confirm dev.observed v s).effects) := by
  have put := keeps.put (.currentValue v) h
  rcases hp : (dev.put (.currentValue v) s).result with err | ⟨⟩
  · simpa [confirm, Devices.observed, hp, Effect.calls_cons, Effect.isCall] using put
  · simpa [confirm, Devices.observed, hp, Effect.calls_cons, Effect.isCall] using put

theorem keeps_command (keeps : dev.Keeps R) (e : Engine) (payload : List UInt8)
    (h : R s done seen) :
    let r := e.command dev payload s
    R r.state (done ++ calls r.effects)
      (seen ++ calls (e.command dev.observed payload s).effects) := by
  rcases hv : Signal.command? payload with _ | v
  · simpa [command, hv] using h
  · have driven := keeps.drive v h
    rcases hd : (dev.drive v s).result with err | ⟨⟩
    · simpa [command, hv, Devices.observed, hd, Effect.calls_cons, Effect.isCall] using driven
    · have confirmed := keeps_confirm keeps { e with level := v } v driven
      simpa [command, hv, Devices.observed, hd, Effect.calls_cons, Effect.isCall] using confirmed

theorem keeps_handle (keeps : dev.Keeps R) (e : Engine) (m : Inbound) (h : R s done seen) :
    let r := e.handle dev m s
    R r.state (done ++ calls r.effects) (seen ++ calls (e.handle dev.observed m s).effects) := by
  cases hk : m.kind with
  | targetValue =>
    simp only [handle, hk]
    exact keeps_command keeps e m.payload h
  | currentValue | unknown => simpa [handle, hk] using h

end Engine

theorem Context.keeps_process (keeps : dev.Keeps R) (c : Context) (m : Inbound)
    (h : R s done seen) :
    let r := c.process dev m s
    R r.state (done ++ calls r.effects) (seen ++ calls (c.process dev.observed m s).effects) := by
  by_cases topic : m.keyExpr = c.keyExpr
  · obtain ⟨-, state, effects⟩ := process_onTopic dev topic s
    obtain ⟨-, -, observed⟩ := process_onTopic dev.observed topic s
    simp only [state, effects, observed]
    exact Engine.keeps_handle keeps c.engine m h
  · obtain ⟨-, state, effects⟩ := process_offTopic dev topic s
    obtain ⟨-, -, observed⟩ := process_offTopic dev.observed topic s
    simpa only [state, effects, observed, List.append_nil] using h

end SignalActuator.Actuation
