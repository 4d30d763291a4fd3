/-
  Energising — a provider on a GPIO line, and what it does to the files of that line.

  The line is prepared before the provider is started on it.  From then on the parties
  around the provider move in any order, and any write may be refused.

  * `System.keeps_moves`: what relates the calls to the devices to what is observed of
    them for every call relates them for every run of a provider;
  * `drives_worked`: the line is set once for each message that asks for a value, in
    order; `System.level_moves`: the level of a provider is the last one that was taken;
  * `System.handled_moves`: a consumer at work that is left to itself has handled all that
    has entered its channel;
  * `Wired` lists how a provider on a line may stand and what it has done to the files;
  * `energised_on_demand`: there are no other ways.
-/
import SignalActuator.Proofs.Actuation.Tracing
import SignalActuator.Proofs.Output.Gpio
import SignalActuator.Proofs.Provider.Lifetime

namespace SignalActuator

open Actuation
open Actuation.Effect (attempts drives calls)
open Host (Attempt)

namespace Provider

open Occurrence

/-! ## The whole trace -/

namespace Occurrence

@[simp] theorem effects_append (os os' : List Occurrence) :
    effects (os ++ os') = effects os ++ effects os' :=
  List.filterMap_append ..

@[simp] theorem effects_did (es : List Effect) : effects (es.map .did) = es := by
  simp [effects, List.filterMap_map]

@[simp] theorem effects_handled (es : List Effect) (m : Inbound) (o : Outcome) :
    effects (es.map .did ++ [.processed m o]) = es := by
  rw [effects_append, effects_did]
  exact List.append_nil es

theorem results_congr {os os' : List Occurrence} (h : fates os = fates os') :
    results os = results os' :=
  filterMap_congr_fates (fun _ => rfl) h

theorem admissions_congr {os os' : List Occurrence} (h : fates os = fates os') :
    admissions os = admissions os' :=
  filterMap_congr_fates (fun _ => rfl) h

/-- What a provider has done are the calls among its effects. -/
theorem effects_work (os : List Occurrence) : effects (work os) = calls (effects os) := by
  induction os with
  | nil => rfl
  | cons o os ih =>
    cases o with
    | did e =>
      cases e with
      | logged => exact ih
      | wrote | drove | put => exact congrArg (_ :: ·) ih
    | accepted | refused | processed => exact ih

end Occurrence

namespace System

variable {σ : Type} {dev : Devices σ} {R : σ → List Effect → List Effect → Prop}
  {terms : Terms} {s s' t : System σ} {os os' : List Occurrence} {done seen : List Effect}

/-- What is done when the output is driven low is done by the creation of the engine. -/
theorem energise_run (dev : Devices σ) (s : System σ) :
    let r := Engine.create dev s.keyExpr s.devices
    (s.energise dev).1.devices = r.state ∧
      calls (effects (s.energise dev).2) = calls r.effects := by
  simp only [energise]
  split <;> simp [effects, List.filterMap_map]

theorem keeps_energise (keeps : dev.Keeps R) (h : R s.devices done seen) :
    R (s.energise dev).1.devices (done ++ calls (effects (s.energise dev).2))
      (seen ++ calls (effects (s.energise dev.observed).2)) := by
  obtain ⟨devices, called⟩ := energise_run dev s
  obtain ⟨-, observed⟩ := energise_run dev.observed s
  rw [devices, called, observed]
  exact Engine.keeps_create keeps s.keyExpr h

theorem keeps_consume (keeps : dev.Keeps R) (hm : s.consume dev = some (s', os))
    (hm' : s.consume dev.observed = some (t, os')) (h : R s.devices done seen) :
    R s'.devices (done ++ calls (effects os)) (seen ++ calls (effects os')) := by
  cases hs : s.stage with
  | running c begun =>
    cases begun with
    | false =>
      simp only [consume, hs, Option.some.injEq] at hm hm'
      cases hm
      cases hm'
      simpa [effects] using h
    | true =>
      cases hq : s.queue with
      | nil =>
        simp only [consume, hs, hq, Option.ite_none_left_eq_some, Option.some.injEq] at hm hm'
        cases hm.2
        cases hm'.2
        simpa [effects] using h
      | cons m queue =>
        simp only [consume, hs, hq, Option.some.injEq] at hm hm'
        cases hm
        cases hm'
        simpa [effects] using Context.keeps_process keeps c m h
  | fresh | subscribed | announced | failed | finished | aborted =>
    simp [consume, hs] at hm

theorem keeps_move (keeps : dev.Keeps R) {m : Move} (hm : s.move dev terms m = some (s', os))
    (hm' : s.move dev.observed terms m = some (t, os')) (h : R s.devices done seen) :
    R s'.devices (done ++ calls (effects os)) (seen ++ calls (effects os')) := by
  cases m with
  | energise =>
    simp only [move, Option.ite_none_right_eq_some, Option.some.injEq] at hm hm'
    have kept := keeps_energise (s := s) keeps h
    rwa [hm.2, hm'.2] at kept
  | consume => exact keeps_consume keeps hm hm' h
  | subscribe | announce | offer | enter | close | unregister | abort =>
    obtain ⟨rfl, rfl⟩ := Prod.mk.inj (Option.some.inj (hm.symm.trans hm'))
    cases moved hm' <;> simpa [effects] using h

/-- **What every call keeps, every run of a provider keeps.** -/
theorem keeps_moves (keeps : dev.Keeps R) (terms : Terms) (ms : List Move) (s : System σ)
    (h : R s.devices done seen) :
    let r := s.moves dev terms ms
    let observed := s.moves dev.observed terms ms
    R r.1.devices (done ++ calls (effects r.2)) (seen ++ calls (effects observed.2)) := by
  refine (Moves.run_alike (R := fun (r o : System σ × List Occurrence) => r.1 = o.1 ∧
      R r.1.devices (done ++ calls (effects r.2)) (seen ++ calls (effects o.2)))
    ?_ ms [] [] ⟨rfl, by simpa [effects] using h⟩).2
  rintro s past - past' m ⟨rfl, before⟩
  -- Observing the devices makes no move possible or impossible.
  have same := move_observed dev terms m s
  rcases hm : s.move dev terms m with _ | ⟨s', os⟩ <;>
    rcases hm' : s.move dev.observed terms m with _ | ⟨t, os'⟩ <;>
    simp only [hm, hm', Option.map_none, Option.map_some, reduceCtorEq, Option.some.injEq] at same
  · rw [Moves.make_none hm, Moves.make_none hm', List.append_nil, List.append_nil]
    exact ⟨rfl, before⟩
  · rw [Moves.make_some hm, Moves.make_some hm']
    have together : s' = t := (congrArg Prod.fst same).symm
    exact ⟨together, by simpa using keeps_move keeps hm hm' before⟩

/-- A consumer at work that is left to itself has handled all that has entered its channel. -/
theorem handled_moves (dev : Devices σ) (terms : Terms) (k : String) (d : σ) (ms : List Move) :
    let r := moves dev terms ms { keyExpr := k, devices := d }
    let left := List.replicate ((admissions r.2).length + 2) Move.consume
    ∀ c begun, r.1.stage = .running c begun →
      (results (moves dev terms (ms ++ left) { keyExpr := k, devices := d }).2).map (·.1) =
        admissions r.2 := by
  intro r left c begun running
  obtain ⟨same, fates⟩ := moves_observed dev terms ms { keyExpr := k, devices := d }
  have kept : (results r.2).map (·.1) ++ r.1.queue = admissions r.2 := by
    have kept := (orders_moves dev terms k d ms).kept fun _ hs => by
      rw [same] at hs
      cases running.symm.trans hs
    rwa [same, results_congr fates, admissions_congr fates] at kept
  have enough : r.1.queue.length + 2 ≤ (admissions r.2).length + 2 := by
    rw [← kept, List.length_append]
    exact Nat.add_le_add_right (Nat.le_add_left ..) 2
  have settled := (settles dev running enough).handled
  rw [← moves_replicate_consume dev terms] at settled
  rw [moves_append, results_append, List.map_append, settled, kept]

/-- The level of a provider is the last one that its line took. -/
theorem level_moves (dev : Devices σ) (terms : Terms) (k : String) (d : σ) (ms : List Move) :
    let r := moves dev.observed terms ms { keyExpr := k, devices := d }
    ∀ c, r.1.stage.context? = some c →
      (Effect.levels (effects r.2)).getLast? = some c.engine.level := by
  refine moves_invariant (P := fun s past => ∀ c, s.stage.context? = some c →
    (Effect.levels (effects past)).getLast? = some c.engine.level) (fun h hm => ?_) ms [] nofun
  cases hm with
  | subscribes | unheard | announces | unannounced | stuck => exact nofun
  | energises =>
    intro c hc
    cases hc
    simp [effects, Effect.levels]
  | offers | refuses | enters | bounces | closes | unregisters =>
    simpa [effects, Effect.levels] using h
  | begins running | ends running | aborts running =>
    intro c hc
    cases hc
    simpa [effects, Effect.levels] using h _ (by rw [running]; rfl)
  | handles running first r processes =>
    intro c hc
    cases hc
    have before := h _ (by rw [running]; rfl)
    rw [effects_append, effects_handled, Effect.levels_append, List.getLast?_append, before,
      ← processes.level]
    cases (Effect.levels r.effects).getLast? <;> rfl

end System

/-! ## What the files of a line are asked for -/

/-- The value that a message asks a provider of `k` for. -/
def asked? (k : String) (m : Inbound) : Option Bool :=
  if Demands k m true then some true else if Demands k m false then some false else none

theorem asked?_eq_some {k : String} {m : Inbound} {v : Bool} :
    asked? k m = some v ↔ Demands k m v := by
  have unique : ¬ (Demands k m true ∧ Demands k m false) := fun h =>
    absurd (h.1.payload.symm.trans h.2.payload) (by decide)
  unfold asked?
  cases v <;> split <;> simp_all

theorem asked?_eq_none {k : String} {m : Inbound} :
    asked? k m = none ↔ ∀ v, ¬ Demands k m v := by
  rw [Option.eq_none_iff_forall_ne_some]
  exact forall_congr' fun v => not_congr asked?_eq_some

/-- The line is set to the value that a message asks for, and else left alone. -/
theorem drives_handled {k : String} {m : Inbound} {o : Outcome} {es : List Effect}
    (h : Handled k m o es) : (drives es).map (·.1) = (asked? k m).toList := by
  cases h with
  | offTopic topic => rw [asked?_eq_none.2 fun v d => topic d.onTopic]; rfl
  | echo _ tag =>
    rw [asked?_eq_none.2 fun v d => absurd (tag.symm.trans d.tagged) (by decide)]; rfl
  | untagged _ _ request => rw [asked?_eq_none.2 fun v d => request d.tagged]; rfl
  | rejected _ _ value => rw [asked?_eq_none.2 fun v d => value v d.payload]; rfl
  | refused demand | obeyed demand => rw [asked?_eq_some.2 demand]; rfl

theorem drives_worked {k : String} {handled : List (Inbound × Outcome)} {done : List Occurrence}
    (h : Worked k handled done) :
    (drives (effects done)).map (·.1) = (handled.map (·.1)).filterMap (asked? k) := by
  induction h with
  | nil => rfl
  | @snoc handled done m o es before now ih =>
    rw [effects_append, effects_handled, Effect.drives_append, List.map_append, ih,
      drives_handled now, List.map_append, List.filterMap_append]
    cases h : asked? k m <;> simp [h]

/-! ## Installations -/

/-- A provider that was put on a line: how far it has come, the state of its devices, and
    what could be seen from the preparation of the line on. -/
structure Installation (σ : Type) where
  stage : Stage
  devices : σ
  seen : List Occurrence

variable {σ β : Type}

/-- Prepares a GPIO line on a disk and, unless that fails, lets the parties around a provider
    on that line make their moves. -/
def install (disk : Host.Disk σ) (bus : Outbound → β → Except Bus.Error Unit × β) (root : String)
    (pin : UInt32) (terms : Terms) (k : String) (ms : List Move) (s : σ × β) :
    Installation (σ × β) :=
  let opened := Output.Line.configure disk .sysfs root pin s.1
  match opened.value with
  | .error e => ⟨.failed (.output e), (opened.state, s.2), opened.effects.map .did⟩
  | .ok line =>
    let r := System.moves (line.devices disk bus) terms ms
      { keyExpr := k, devices := (opened.state, s.2) }
    ⟨r.1.stage, r.1.devices, opened.effects.map .did ++ r.2⟩

open Output.Gpio (Prepared levelFile lineDirectory)

/-- The ways in which a provider of `k` on a GPIO line may stand, with the messages that it
    has handled and the attempts that were made to write files.  `there` tells whether the
    directory of the line was there at first. -/
inductive Wired (there : Bool) (root : String) (pin : UInt32) (terms : Terms) (k : String) :
    Stage → List Inbound → List Attempt → Prop
  | unprepared {e : Output.Error} {opening : List Attempt}
    (failed : Prepared there root pin opening (.error e)) :
    Wired there root pin terms k (.failed (.output e)) [] opening
  | waiting {g : Output.Gpio} {opening : List Attempt} {stage : Stage}
    (opened : Prepared there root pin opening (.ok g)) (left : stage.left ≠ []) :
    Wired there root pin terms k stage [] opening
  /-- There is no subscriber or no publisher. -/
  | undeclared {g : Output.Gpio} {opening : List Attempt} {e : Bus.Error}
    (opened : Prepared there root pin opening (.ok g))
    (refusal : terms.subscription = some e ∨
      terms.subscription = none ∧ terms.publication = some e) :
    Wired there root pin terms k (.failed (.transport e)) [] opening
  | stuck {g : Output.Gpio} {opening : List Attempt} (fault : Host.Fault)
    (opened : Prepared there root pin opening (.ok g)) (heard : terms.subscription = none)
    (told : terms.publication = none) :
    Wired there root pin terms k (.failed (.output (.file pin (levelFile root pin) fault))) []
      (opening ++ [⟨levelFile root pin, "0", some fault⟩])
  /-- The line was driven low once, and then to the values that messages asked for. -/
  | serving {g : Output.Gpio} {opening later : List Attempt} {stage : Stage} {c : Context}
    {handled : List Inbound} (opened : Prepared there root pin opening (.ok g))
    (heard : terms.subscription = none) (told : terms.publication = none)
    (context : stage.context? = some c)
    (asked : later.map Attempt.write =
      (handled.filterMap (asked? k)).map fun v => (levelFile root pin, if v then "1" else "0")) :
    Wired there root pin terms k stage handled
      (opening ++ ⟨levelFile root pin, "0", none⟩ :: later)

/-- What a provider on a line has done to the files of the line, from its life and from what
    was observed of the line. -/
theorem wired_of_life {disk : Host.Disk σ} {bus : Outbound → β → Except Bus.Error Unit × β}
    {there : Bool} {root : String} {pin : UInt32} {terms : Terms} {k : String} {d d' : σ × β}
    {stage : Stage} {handled : List (Inbound × Outcome)} {past : List Occurrence}
    {opening : List Attempt} {g : Output.Gpio} {xs : List (Bool × Option Host.Fault)}
    (opened : Prepared there root pin opening (.ok g))
    (life : Life ((Output.Line.gpio g).devices disk bus) terms k d stage d' handled past)
    (driven : drives (effects past) = xs.map g.answer) :
    Wired there root pin terms k stage (handled.map (·.1)) (opening ++ xs.map g.attempt) := by
  have hg := opened.eq_of_ok
  cases life with
  | fresh | subscribed | announced =>
    obtain rfl := List.map_eq_nil_iff.1 driven.symm
    simpa using Wired.waiting opened (by simp [Stage.left, startMoves])
  | unheard refusal =>
    obtain rfl := List.map_eq_nil_iff.1 driven.symm
    simpa using Wired.undeclared opened (.inl refusal)
  | unannounced heard refusal =>
    obtain rfl := List.map_eq_nil_iff.1 driven.symm
    simpa using Wired.undeclared opened (.inr ⟨heard, refusal⟩)
  | stuck heard told refusal =>
    obtain ⟨⟨level, fault⟩, rest, rfl, now, none_left⟩ := List.map_eq_cons_iff.1 driven.symm
    obtain rfl := List.map_eq_nil_iff.1 none_left
    cases fault with
    | none => cases now
    | some fault =>
      cases now
      subst hg
      exact .stuck fault opened heard told
  | @started _ _ _ _ done heard told low context keyExpr worked =>
    -- The first level is the low one of the start, and the later ones are those of the messages.
    obtain ⟨⟨level, fault⟩, later, rfl, now, after⟩ := List.map_eq_cons_iff.1 driven.symm
    cases fault with
    | some fault => cases now
    | none =>
      cases now
      subst hg
      refine .serving opened heard told context ?_
      have seen : later.map (Output.Gpio.answer _) = drives (effects done) := after
      rw [← drives_worked worked, ← seen, List.map_map, List.map_map, List.map_map]
      rfl

/-- What the level file was given are the levels that the line was seen to take. -/
theorem taken_levels {g : Output.Gpio} {seen : List Effect} {xs : List (Bool × Option Host.Fault)}
    (driven : drives seen = xs.map g.answer) :
    Attempt.taken g.valuePath (xs.map g.attempt) =
      (Effect.levels seen).map Output.Gpio.levelText := by
  rw [Effect.levels_eq, driven, List.filterMap_map, List.map_filterMap, Attempt.taken,
    List.filterMap_map]
  refine List.filterMap_congr fun x _ => ?_
  obtain ⟨level, _ | fault⟩ := x <;> simp [Output.Gpio.answer, Output.Gpio.attempt]

/-- What a provider does to the files of a line that is prepared. -/
theorem wired_moves (disk : Host.Disk σ) (bus : Outbound → β → Except Bus.Error Unit × β)
    {there : Bool} {root : String} {pin : UInt32} (terms : Terms) (k : String) (ms : List Move)
    (d : σ × β) {opening : List Attempt} {g : Output.Gpio}
    (opened : Prepared there root pin opening (.ok g)) :
    let r := System.moves ((Output.Line.gpio g).devices disk bus) terms ms
      { keyExpr := k, devices := d }
    let tried := attempts (effects r.2)
    Wired there root pin terms k r.1.stage ((results r.2).map (·.1)) (opening ++ tried) ∧
    disk.Undergoes d.1 tried r.1.devices.1 ∧
    (startMoves.Sublist ms → r.1.stage.left = []) ∧
    ∀ c, r.1.stage.context? = some c →
      (Attempt.taken (levelFile root pin) tried).getLast? =
        some (Output.Gpio.levelText c.engine.level) := by
  intro r tried
  let dev := (Output.Line.gpio g).devices disk bus
  obtain ⟨same, fates⟩ := System.moves_observed dev terms ms { keyExpr := k, devices := d }
  have alike := results_congr fates.symm
  have start : g.Tracks disk d.1 d [] [] := ⟨.nil _, [], rfl, rfl⟩
  obtain ⟨undergoes, xs, asked, driven⟩ :=
    System.keeps_moves (Output.Gpio.keeps_tracks disk bus g d.1) terms ms
      { keyExpr := k, devices := d } start
  rw [List.nil_append, Effect.attempts_calls] at undergoes
  replace asked : tried = xs.map g.attempt := (Effect.attempts_calls _).symm.trans asked
  replace driven := (Effect.drives_calls _).symm.trans driven
  have life := (System.lives_moves dev terms k d ms).life
  rw [same] at life
  refine ⟨?_, undergoes, fun started => ?_, fun c hc => ?_⟩
  · rw [alike, asked]
    exact wired_of_life opened life (by rw [effects_work, Effect.drives_calls]; exact driven)
  · rw [← same]
    exact System.left_moves ms started
  · have file : levelFile root pin = g.valuePath := by rw [opened.eq_of_ok]
    have last := System.level_moves dev terms k d ms c (by rw [same]; exact hc)
    rw [file, asked, taken_levels driven, List.getLast?_map, last]
    rfl

/-- **A line is energised on demand only.**  Whatever the disk refuses, and whatever the parties
    around the provider do:

    * the attempts to write files are those of `Wired`, in this order: the line is asked for if
      its directory was missing, made an output that is low, driven low once the provider is
      declared, and then set once for each message that asks for a value; the first attempt of
      the start that is refused ends it with a failure that names the line and the file;
    * the disk undergoes these attempts and no others;
    * a start whose moves are made is over;
    * a consumer at work that is left to itself handles every message that has entered the
      channel, and the line is set for each one that asks for a value;
    * the level of the provider is high exactly if what the level file took last was `1`. -/
theorem energised_on_demand (disk : Host.Disk σ) (bus : Outbound → β → Except Bus.Error Unit × β)
    (root : String) (pin : UInt32) (terms : Terms) (k : String) (ms : List Move) (s : σ × β) :
    let v := install disk bus root pin terms k ms s
    let tried := attempts (effects v.seen)
    Wired (disk.has s.1 (lineDirectory root pin)) root pin terms k v.stage
      ((results v.seen).map (·.1)) tried ∧
    disk.Undergoes s.1 tried v.devices.1 ∧
    (startMoves.Sublist ms → v.stage.left = []) ∧
    (∀ c begun, v.stage = .running c begun →
      let left := List.replicate ((admissions v.seen).length + 2) Move.consume
      let later := install disk bus root pin terms k (ms ++ left) s
      (results later.seen).map (·.1) = admissions v.seen ∧
      Wired (disk.has s.1 (lineDirectory root pin)) root pin terms k later.stage
        (admissions v.seen) (attempts (effects later.seen))) ∧
    ∀ c, v.stage.context? = some c →
      (c.engine.level = true ↔
        (Attempt.taken (levelFile root pin) tried).getLast? = some "1") := by
  obtain ⟨undergone, opened⟩ := Output.Gpio.prepared_configure disk root pin s.1
  rcases hv : (Output.Gpio.configure disk root pin s.1).value with e | g
  · rw [hv] at opened
    simp only [install, Output.Line.configure, hv, effects_did]
    exact ⟨by simpa using Wired.unprepared opened, undergone, fun _ => rfl, nofun, nofun⟩
  · rw [hv] at opened
    let d := ((Output.Gpio.configure disk root pin s.1).state, s.2)
    obtain ⟨wired, undergoes, ended, level⟩ := wired_moves disk bus terms k ms d opened
    simp only [install, Output.Line.configure, hv, effects_append, effects_did,
      Effect.attempts_append, Effect.attempts_logged, Effect.attempts_nil, List.append_nil,
      results_append, results_did, admissions_append, admissions_did, List.nil_append]
    refine ⟨wired, undergone.append undergoes, ended, fun c begun running => ?_, fun c hc => ?_⟩
    · let dev := (Output.Line.gpio g).devices disk bus
      let r := System.moves dev terms ms { keyExpr := k, devices := d }
      let left := List.replicate ((admissions r.2).length + 2) Move.consume
      have handled := System.handled_moves dev terms k d ms c begun running
      have whole := (wired_moves disk bus terms k (ms ++ left) d opened).1
      rw [handled] at whole
      exact ⟨handled, whole⟩
    · rw [Attempt.taken_append, List.getLast?_append, level c hc]
      cases c.engine.level <;> simp [Output.Gpio.levelText]

/-- A disk on which the directory of a line appears with the first write that is taken; its
    state has what the next writes come to. -/
def moody : Host.Disk (Bool × List (Option Host.Fault)) where
  has s _ := s.1
  write s _ _ := match s.2 with
    | some fault :: faults => (.error fault, (s.1, faults))
    | faults => (.ok (), (true, faults.tail))

/-- The directory of the line is missing and appears when it is asked for; two messages are in
    the channel, and of the levels that they ask for the disk refuses the second one. -/
theorem energised_on_demand_moody :
    let request (v : Bool) : Inbound :=
      ⟨"k", Signal.payload v, none, some (Utf8.encode "targetValue"), none⟩
    let ms := [.subscribe, .announce, .energise, .offer (request true), .enter 0,
      .offer (request false), .enter 0]
    let v := install moody (fun _ () => (.ok (), ())) "/gpio" 7 {} "k"
      (ms ++ .replicate 4 .consume) ((false, [none, none, none, none, some .permissionDenied]), ())
    attempts (effects v.seen) =
        [⟨"/gpio/export", "7", none⟩, ⟨"/gpio/gpio7/direction", "low", none⟩,
          ⟨"/gpio/gpio7/value", "0", none⟩, ⟨"/gpio/gpio7/value", "1", none⟩,
          ⟨"/gpio/gpio7/value", "0", some .permissionDenied⟩] ∧
      (results v.seen).map (·.1) = [request true, request false] ∧
      ∃ c, v.stage.context? = some c ∧ c.engine.level = true := by
  intro request ms v
  have seen : attempts (effects v.seen) =
      [⟨"/gpio/export", "7", none⟩, ⟨"/gpio/gpio7/direction", "low", none⟩,
        ⟨"/gpio/gpio7/value", "0", none⟩, ⟨"/gpio/gpio7/value", "1", none⟩,
        ⟨"/gpio/gpio7/value", "0", some .permissionDenied⟩] := by decide +kernel
  obtain ⟨-, -, -, settled, -⟩ := energised_on_demand moody (fun _ () => (.ok (), ())) "/gpio" 7
    {} "k" ms ((false, [none, none, none, none, some .permissionDenied]), ())
  obtain ⟨-, -, -, -, level⟩ := energised_on_demand moody (fun _ () => (.ok (), ())) "/gpio" 7
    {} "k" (ms ++ .replicate 4 .consume)
    ((false, [none, none, none, none, some .permissionDenied]), ())
  obtain ⟨handled, -⟩ := settled ⟨"k", ⟨false, "k"⟩, 0⟩ false (by decide +kernel)
  obtain ⟨c, hc⟩ : ∃ c, v.stage.context? = some c := Option.isSome_iff_exists.1 (by decide +kernel)
  refine ⟨seen, handled.trans (by decide +kernel), c, hc, (level c hc).2 ?_⟩
  change (Attempt.taken _ (attempts (effects v.seen))).getLast? = some "1"
  rw [seen]
  decide +kernel

end Provider

end SignalActuator
