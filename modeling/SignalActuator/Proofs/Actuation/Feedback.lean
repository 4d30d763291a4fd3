/-
  Feedback — a provider that hears its own reports.

  A provider subscribes to the key-expression that it reports on, so that the
  bus brings every report back to it: any number of times, as late as it likes
  and in between the publications of others.  The broker keeps the payload and
  the user properties of a report and may add further ones behind them.

  * `Loop.deliver` handles one delivery, and `Loop.run` a list of them;
  * `Loop.echo_idle`: a report that comes back makes no call and changes nothing;
  * `feedback_safe`: a run makes the same calls as without the reports that come
    back, and puts one message for each request of others that was obeyed.
-/
import SignalActuator.Bus.Packet
import SignalActuator.Proofs.Actuation.Handling

namespace SignalActuator.Actuation

variable {σ : Type}

/-! ## Deliveries -/

/-- What the bus brings to a provider. -/
inductive Delivery where
  /-- A publication of somebody else, of any contents. -/
  | external (publication : Bus.Publish)
  /-- The message that was put as number `index`, with user properties added. -/
  | echo (index : Nat) (added : List (String × String))

def Delivery.isExternal : Delivery → Bool
  | .external _ => true
  | .echo .. => false

/-- A delivery that was handled. -/
structure Handling where
  delivery : Delivery
  outcome : Outcome
  effects : List Effect

def Effect.puts (es : List Effect) : List Outbound :=
  es.filterMap fun | .put m _ => some m | _ => none

/-- A provider whose reports come back, and what it has done since. -/
structure Loop (σ : Type) where
  context : Context
  devices : σ
  history : List Handling := []

namespace Loop

def effects (l : Loop σ) : List Effect :=
  l.history.flatMap (·.effects)

def returned (keyExpr : String) (m : Outbound) (sent : Timestamp)
    (added : List (String × String)) : Bus.Publish :=
  let p := Bus.Publish.ofOutbound keyExpr m sent
  { p with properties := p.properties.map fun q => { q with user := q.user ++ added } }

/-- The publication that a delivery brings; a message that has not been put yet
    cannot come back.  `sent` tells when each message is put. -/
def publication? (sent : Nat → Timestamp) (l : Loop σ) : Delivery → Option Bus.Publish
  | .external p => some p
  | .echo index added =>
    (Effect.puts l.effects)[index]?.map fun m =>
      returned l.context.engine.reportsOn m (sent index) added

/-- Handles a delivery, if there is a publication to it. -/
def deliver (dev : Devices σ) (sent : Nat → Timestamp) (l : Loop σ) (d : Delivery) : Loop σ :=
  match l.publication? sent d with
  | none => l
  | some p =>
    let r := l.context.process dev p.inbound l.devices
    ⟨r.value.2, r.state, l.history ++ [⟨d, r.value.1, r.effects⟩]⟩

def run (dev : Devices σ) (sent : Nat → Timestamp) (l : Loop σ) (ds : List Delivery) : Loop σ :=
  ds.foldl (deliver dev sent) l

end Loop

/-- Whether a handling obeyed a request of somebody else: it is on topic and asks
    for a value, and the line took that value. -/
def Handling.obeyed (k : String) (h : Handling) : Bool :=
  match h.delivery with
  | .external p => (Effect.levels h.effects).any fun v => Demands k p.inbound v
  | .echo .. => false

/-! ## Reports -/

namespace Effect

@[simp] theorem puts_append (es fs : List Effect) : puts (es ++ fs) = puts es ++ puts fs :=
  List.filterMap_append ..

/-- The messages that were handed to the bus are seen from the calls. -/
theorem puts_calls (es : List Effect) : puts (calls es) = puts es := by
  induction es with
  | nil => rfl
  | cons e es ih =>
    cases e with
    | put m refusal => exact congrArg (m :: ·) ih
    | wrote | drove | logged => exact ih

end Effect

namespace Handled

variable {k : String} {m : Inbound} {o : Outcome} {es : List Effect}

theorem eq_nil (h : Handled k m o es) (hn : ∀ v, ¬ Demands k m v) : es = [] := by
  cases h with
  | offTopic | echo | untagged | rejected => rfl
  | refused demand => exact absurd demand (hn _)
  | obeyed demand => exact absurd demand (hn _)

theorem reports (h : Handled k m o es) : ∀ x ∈ Effect.puts es, ∃ v, x = .currentValue v := by
  cases h with
  | offTopic | echo | untagged | rejected | refused => simp [Effect.puts]
  | @obeyed v =>
    intro x hx
    rw [List.mem_singleton.1 hx]
    exact ⟨v, rfl⟩

/-- One report is put if the line took a level that was asked for, and else none. -/
theorem length_puts (h : Handled k m o es) :
    (Effect.puts es).length = if (Effect.levels es).any fun v => Demands k m v then 1 else 0 := by
  cases h with
  | offTopic | echo | untagged | rejected | refused => rfl
  | obeyed demand => simp [Effect.puts, Effect.levels, demand]

end Handled

/-! ## Deliveries of reports -/

namespace Loop

/-- What holds of a loop of a provider of `k` at any time. -/
structure Sound (k : String) (l : Loop σ) : Prop where
  keyExpr : l.context.keyExpr = k
  reports : ∀ m ∈ Effect.puts l.effects, ∃ v, m = .currentValue v
  count : (Effect.puts l.effects).length = l.history.countP (Handling.obeyed k)

variable {dev : Devices σ} {sent : Nat → Timestamp} {k : String} {l : Loop σ}

/-- A report that comes back is tagged as a report, whatever the broker adds. -/
theorem attachment_returned (keyExpr : String) (v : Bool) (t : Timestamp)
    (added : List (String × String)) :
    (returned keyExpr (.currentValue v) t added).inbound.attachment =
      some (Utf8.encode "currentValue") := by
  simp [returned, Bus.Publish.ofOutbound, Bus.Publish.inbound, Bus.Properties.ofOutbound,
    Bus.Properties.user?, Outbound.currentValue, Signal.currentValueTag]

theorem not_demands_echo (hl : l.Sound k) {index : Nat} {added : List (String × String)}
    {p : Bus.Publish} (hp : l.publication? sent (.echo index added) = some p) (v : Bool) :
    ¬ Demands k p.inbound v := by
  intro demand
  obtain ⟨m, hm, rfl⟩ := Option.map_eq_some_iff.1 hp
  obtain ⟨w, rfl⟩ := hl.reports m (List.mem_of_getElem? hm)
  have h := demand.tagged
  rw [attachment_returned] at h
  exact absurd h (by decide)

/-- **A report that comes back makes no call and changes nothing** but the number
    of messages. -/
theorem echo_idle (dev : Devices σ) (hl : l.Sound k) {index : Nat} {added : List (String × String)}
    {p : Bus.Publish} (hp : l.publication? sent (.echo index added) = some p) :
    let r := l.context.process dev.observed p.inbound l.devices
    Effect.calls r.effects = [] ∧ r.state = l.devices ∧
      r.value.2.engine = l.context.engine := by
  have h := Context.processes_process dev l.context p.inbound l.devices
  have hn := not_demands_echo hl hp
  rw [← hl.keyExpr] at hn
  exact ⟨h.handled.eq_nil hn, h.idle hn⟩

theorem effects_snoc (l : Loop σ) (c : Context) (s : σ) (h : Handling) :
    effects ⟨c, s, l.history ++ [h]⟩ = l.effects ++ h.effects := by
  simp [effects]

theorem sound_deliver (hl : l.Sound k) (d : Delivery) :
    (l.deliver dev.observed sent d).Sound k := by
  rcases hp : l.publication? sent d with _ | p
  · simpa only [deliver, hp] using hl
  · have h := Context.processes_process dev l.context p.inbound l.devices
    have handled := h.handled
    rw [hl.keyExpr] at handled
    simp only [deliver, hp]
    refine ⟨h.keyExpr.trans hl.keyExpr, ?_, ?_⟩
    · rw [effects_snoc, Effect.puts_append]
      intro m hm
      rcases List.mem_append.1 hm with hm | hm
      · exact hl.reports m hm
      · rw [← Effect.puts_calls] at hm
        exact handled.reports m hm
    · rw [effects_snoc, Effect.puts_append, List.length_append, List.countP_append, hl.count,
        ← Effect.puts_calls (Context.process ..).effects, handled.length_puts, Effect.levels_calls]
      congr 1
      -- A report that comes back asks for nothing, and so does not count as obeyed.
      cases d with
      | external q =>
        cases hp
        simp [List.countP_cons, Handling.obeyed]
      | echo index added => simp [Handling.obeyed, not_demands_echo hl hp]

theorem sound_run (hl : l.Sound k) (ds : List Delivery) :
    (l.run dev.observed sent ds).Sound k := by
  induction ds generalizing l with
  | nil => exact hl
  | cons d ds ih => exact ih (sound_deliver hl d)

/-! ## Runs without the reports that come back -/

/-- Two loops have done the same and will do the same, but for the number of
    messages. -/
structure Same (l l' : Loop σ) : Prop where
  keyExpr : l.context.keyExpr = l'.context.keyExpr
  engine : l.context.engine = l'.context.engine
  devices : l.devices = l'.devices
  calls : Effect.calls l.effects = Effect.calls l'.effects

theorem same_external {l l' : Loop σ} (h : Same l l') (p : Bus.Publish) :
    Same (l.deliver dev.observed sent (.external p))
      (l'.deliver dev.observed sent (.external p)) := by
  obtain ⟨c, s, hist⟩ := l
  obtain ⟨c', s', hist'⟩ := l'
  obtain ⟨hk, he, rfl, hc⟩ := h
  have r := Context.processes_process dev c p.inbound s
  have r' := Context.processes_process dev c' p.inbound s
  obtain ⟨-, engine, devices, calls⟩ := Context.process_congr dev.observed hk he p.inbound s
  refine ⟨(r.keyExpr.trans hk).trans r'.keyExpr.symm, engine, devices, ?_⟩
  simp only [deliver, publication?]
  rw [effects_snoc ⟨c, s, hist⟩, effects_snoc ⟨c', s, hist'⟩, Effect.calls_append,
    Effect.calls_append, hc, calls]

theorem same_echo (dev : Devices σ) (sent : Nat → Timestamp) {l l' : Loop σ} (hl : l.Sound k)
    (h : Same l l') (index : Nat) (added : List (String × String)) :
    Same (l.deliver dev.observed sent (.echo index added)) l' := by
  rcases hp : l.publication? sent (.echo index added) with _ | p
  · simpa only [deliver, hp] using h
  · have r := Context.processes_process dev l.context p.inbound l.devices
    obtain ⟨calls, devices, engine⟩ := echo_idle dev hl hp
    simp only [deliver, hp]
    refine ⟨r.keyExpr.trans h.keyExpr, engine.trans h.engine, devices.trans h.devices, ?_⟩
    rw [effects_snoc, Effect.calls_append, calls, List.append_nil, h.calls]

theorem same_run {l l' : Loop σ} (hl : l.Sound k) (h : Same l l') (ds : List Delivery) :
    Same (l.run dev.observed sent ds)
      (l'.run dev.observed sent (ds.filter Delivery.isExternal)) := by
  induction ds generalizing l l' with
  | nil => exact h
  | cons d ds ih =>
    cases d with
    | external p => exact ih (sound_deliver hl _) (same_external h p)
    | echo index added => exact ih (sound_deliver hl _) (same_echo dev sent hl h index added)

end Loop

/-- **Feedback is safe.**  In a run with any publications of others and any reports
    that come back, no report that comes back makes a call, changes the devices or
    the engine; the run makes the calls that it makes without them; and it puts one
    message for each request of others that was obeyed. -/
theorem feedback_safe (dev : Devices σ) (sent : Nat → Timestamp) (c : Context) (s : σ)
    (ds : List Delivery) :
    let l := Loop.run dev.observed sent ⟨c, s, []⟩ ds
    let quiet := Loop.run dev.observed sent ⟨c, s, []⟩ (ds.filter Delivery.isExternal)
    (∀ index added,
      let next := l.deliver dev.observed sent (.echo index added)
      Effect.calls next.effects = Effect.calls l.effects ∧ next.devices = l.devices ∧
        next.context.engine = l.context.engine) ∧
    (Effect.calls l.effects = Effect.calls quiet.effects ∧ l.devices = quiet.devices ∧
      l.context.engine = quiet.context.engine) ∧
    (Effect.puts l.effects).length = l.history.countP (Handling.obeyed c.keyExpr) := by
  intro l quiet
  have start : Loop.Sound c.keyExpr (⟨c, s, []⟩ : Loop σ) :=
    ⟨rfl, by simp [Loop.effects, Effect.puts], rfl⟩
  have hl : l.Sound c.keyExpr := Loop.sound_run start ds
  have h : Loop.Same l quiet := Loop.same_run start ⟨rfl, rfl, rfl, rfl⟩ ds
  refine ⟨fun index added => ?_, ⟨h.calls, h.devices, h.engine⟩, hl.count⟩
  have he := Loop.same_echo dev sent hl ⟨rfl, rfl, rfl, rfl⟩ index added
  exact ⟨he.calls, he.devices, he.engine⟩

end SignalActuator.Actuation
