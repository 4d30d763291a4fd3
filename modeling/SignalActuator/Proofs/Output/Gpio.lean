/-
  GPIO files — what a line does to the files behind it.

  Every write that is attempted leaves an effect in the trace, with what it was
  refused for.  The disk is any disk: a write may be refused at any time, and a
  directory may appear whenever a file is written.

  * `Disk.Undergoes`: attempts, one after another, take a disk from a state to
    another one and are answered as the disk answers;
  * `Gpio.Prepared` lists the ways in which the preparation of a line may go, and
    `prepared_configure` shows that there are no others;
  * `Gpio.Tracks`: on a line that is prepared, the files undergo one attempt for each
    level that the line is set to, and nothing else.
-/
import SignalActuator.Output.Line
import SignalActuator.Proofs.Actuation.Tracing

namespace SignalActuator

open Actuation (Effect refusal? Devices)

/-! ## Attempts -/

namespace Host

/-- An attempt to write a file, with what it was refused for. -/
structure Attempt where
  path : String
  contents : String
  refusal : Option Fault
  deriving DecidableEq, Repr

def Attempt.write (a : Attempt) : String × String :=
  (a.path, a.contents)

/-- What was written to a file by attempts that were not refused. -/
def Attempt.taken (path : String) (as : List Attempt) : List String :=
  as.filterMap fun a => if a.path = path ∧ a.refusal = none then some a.contents else none

theorem Attempt.taken_append (path : String) (as bs : List Attempt) :
    taken path (as ++ bs) = taken path as ++ taken path bs :=
  List.filterMap_append ..

variable {σ : Type}

/-- The disk goes from a state to another one by these attempts and nothing else. -/
inductive Disk.Undergoes (disk : Disk σ) : σ → List Attempt → σ → Prop
  | nil (s : σ) : Undergoes disk s [] s
  | cons {s t : σ} {path contents : String} {as : List Attempt}
    (rest : Undergoes disk (disk.write s path contents).2 as t) :
    Undergoes disk s (⟨path, contents, refusal? (disk.write s path contents).1⟩ :: as) t

namespace Disk.Undergoes

variable {disk : Disk σ} {s t u : σ} {as bs : List Attempt}

theorem append (h : disk.Undergoes s as t) (h' : disk.Undergoes t bs u) :
    disk.Undergoes s (as ++ bs) u := by
  induction h with
  | nil => exact h'
  | cons _ ih => exact .cons (ih h')

theorem write (disk : Disk σ) (s : σ) (path contents : String) :
    let w := disk.write s path contents
    disk.Undergoes s [⟨path, contents, refusal? w.1⟩] w.2 :=
  .cons (.nil _)

end Disk.Undergoes

end Host

open Host (Attempt)

namespace Actuation.Effect

/-- The attempts to write a file among the effects. -/
def attempts (es : List Effect) : List Attempt :=
  es.filterMap fun | .wrote path contents refusal => some ⟨path, contents, refusal⟩ | _ => none

/-- The levels that the line was set to, with what it refused them for. -/
def drives (es : List Effect) : List (Bool × Option Output.Error) :=
  es.filterMap fun | .drove level refusal => some (level, refusal) | _ => none

variable (es fs : List Effect)

@[simp] theorem attempts_nil : attempts [] = [] := rfl

@[simp] theorem attempts_wrote (path contents : String) (refusal : Option Host.Fault) :
    attempts (.wrote path contents refusal :: es) = ⟨path, contents, refusal⟩ :: attempts es := rfl

@[simp] theorem attempts_drove (level : Bool) (refusal : Option Output.Error) :
    attempts (.drove level refusal :: es) = attempts es := rfl

@[simp] theorem attempts_put (m : Outbound) (refusal : Option Bus.Error) :
    attempts (.put m refusal :: es) = attempts es := rfl

@[simp] theorem attempts_logged (r : Log.Record) : attempts (.logged r :: es) = attempts es := rfl

@[simp] theorem attempts_append : attempts (es ++ fs) = attempts es ++ attempts fs :=
  List.filterMap_append ..

@[simp] theorem drives_append : drives (es ++ fs) = drives es ++ drives fs :=
  List.filterMap_append ..

@[simp] theorem attempts_calls : attempts (calls es) = attempts es := by
  induction es with
  | nil => rfl
  | cons e es ih =>
    cases e with
    | logged => exact ih
    | wrote | drove | put => simpa [calls_cons, isCall] using ih

@[simp] theorem drives_calls : drives (calls es) = drives es := by
  induction es with
  | nil => rfl
  | cons e es ih =>
    cases e with
    | drove level refusal => exact congrArg (_ :: ·) ih
    | wrote | put | logged => exact ih

theorem levels_eq :
    levels es = (drives es).filterMap fun d => if d.2 = none then some d.1 else none := by
  induction es with
  | nil => rfl
  | cons e es ih =>
    cases e with
    | drove level refusal => cases refusal <;> simpa [levels, drives] using ih
    | wrote | put | logged => exact ih

end Actuation.Effect

open Actuation.Effect (attempts drives)

namespace Output

namespace Gpio

/-! ## Preparing a line -/

def exportFile (root : String) : String :=
  Host.joinPath root "export"

def directionFile (root : String) (pin : UInt32) : String :=
  Host.joinPath (lineDirectory root pin) "direction"

def levelFile (root : String) (pin : UInt32) : String :=
  Host.joinPath (lineDirectory root pin) "value"

/-- The attempt that makes the directory of a line appear, unless it is there. -/
def exporting (there : Bool) (root : String) (pin : UInt32) : List Attempt :=
  if there then [] else [⟨exportFile root, toString pin.toNat, none⟩]

/-- The ways in which the preparation of a line may go: the attempts that are made, up to
    the first one that is refused, and what comes of it. -/
inductive Prepared (there : Bool) (root : String) (pin : UInt32) :
    List Attempt → Except Error Gpio → Prop
  /-- The directory of the line was missing and could not be asked for. -/
  | unexported (missing : there = false) (fault : Host.Fault) :
    Prepared there root pin [⟨exportFile root, toString pin.toNat, some fault⟩]
      (.error (.file pin (exportFile root) fault))
  /-- The line could not be made an output. -/
  | undirected (fault : Host.Fault) :
    Prepared there root pin
      (exporting there root pin ++ [⟨directionFile root pin, "low", some fault⟩])
      (.error (.file pin (directionFile root pin) fault))
  | ready :
    Prepared there root pin (exporting there root pin ++ [⟨directionFile root pin, "low", none⟩])
      (.ok ⟨pin, levelFile root pin⟩)

theorem Prepared.eq_of_ok {there : Bool} {root : String} {pin : UInt32} {as : List Attempt}
    {g : Gpio} (h : Prepared there root pin as (.ok g)) : g = ⟨pin, levelFile root pin⟩ := by
  cases h
  rfl

variable {σ : Type}

/-- The attempts of a write, and what becomes of it. -/
theorem write_run (disk : Host.Disk σ) (pin : UInt32) (path contents : String) (s : σ) :
    let r := write disk pin path contents s
    disk.Undergoes s (attempts r.effects) r.state ∧
      (attempts r.effects = [⟨path, contents, none⟩] ∧ r.value = .ok () ∨
        ∃ fault, attempts r.effects = [⟨path, contents, some fault⟩] ∧
          r.value = .error (.file pin path fault)) := by
  have undergoes := Host.Disk.Undergoes.write disk s path contents
  refine ⟨undergoes, ?_⟩
  rcases h : (disk.write s path contents).1 with fault | ⟨⟩
  · exact .inr ⟨fault, by simp [write, h, refusal?], by simp only [write, h]; rfl⟩
  · exact .inl ⟨by simp [write, h, refusal?], by simp only [write, h]; rfl⟩

theorem exportLine_run (disk : Host.Disk σ) (root : String) (pin : UInt32) (s : σ) :
    let there := disk.has s (lineDirectory root pin)
    let r := exportLine disk root pin s
    disk.Undergoes s (attempts r.effects) r.state ∧
      (attempts r.effects = exporting there root pin ∧ r.value = .ok () ∨
        ∃ fault, there = false ∧
          attempts r.effects = [⟨exportFile root, toString pin.toNat, some fault⟩] ∧
          r.value = .error (.file pin (exportFile root) fault)) := by
  cases there : disk.has s (lineDirectory root pin) with
  | true =>
    simp only [exportLine, there, if_true]
    exact ⟨.nil s, .inl ⟨rfl, trivial⟩⟩
  | false =>
    have written := write_run disk pin (exportFile root) (toString pin.toNat) s
    simp only [exportFile] at written ⊢
    obtain ⟨undergoes, ⟨tried, value⟩ | ⟨fault, tried, value⟩⟩ := written
    · simp only [exportLine, there, value, Bool.false_eq_true, if_false, Effect.attempts_append,
        Effect.attempts_logged, Effect.attempts_nil, List.append_nil]
      exact ⟨undergoes, .inl ⟨tried, trivial⟩⟩
    · simp only [exportLine, there, value, Bool.false_eq_true, if_false]
      exact ⟨undergoes, .inr ⟨fault, trivial, tried, rfl⟩⟩

/-- **What the preparation of a line does to the files.** -/
theorem prepared_configure (disk : Host.Disk σ) (root : String) (pin : UInt32) (s : σ) :
    let r := configure disk root pin s
    disk.Undergoes s (attempts r.effects) r.state ∧
      Prepared (disk.has s (lineDirectory root pin)) root pin (attempts r.effects) r.value := by
  obtain ⟨before, ⟨exported, value⟩ | ⟨fault, missing, exported, value⟩⟩ :=
    exportLine_run disk root pin s
  · have written := write_run disk pin (directionFile root pin) "low"
      (exportLine disk root pin s).state
    simp only [directionFile] at written
    obtain ⟨after, ⟨directed, value'⟩ | ⟨fault, directed, value'⟩⟩ := written
    · simp only [configure, value, value', Effect.attempts_append, Effect.attempts_logged,
        Effect.attempts_nil, List.append_nil]
      refine ⟨before.append after, ?_⟩
      rw [exported, directed]
      exact .ready
    · simp only [configure, value, value', Effect.attempts_append]
      refine ⟨before.append after, ?_⟩
      rw [exported, directed]
      exact .undirected fault
  · simp only [configure, value]
    refine ⟨before, ?_⟩
    rw [exported]
    exact .unexported missing fault

/-! ## Driving a line -/

/-- The attempt of a line to take a level, by the level and what the file refuses it for. -/
def attempt (g : Gpio) (x : Bool × Option Host.Fault) : Attempt :=
  ⟨g.valuePath, levelText x.1, x.2⟩

/-- What the line answers to a level when its file refuses that, or does not. -/
def answer (g : Gpio) (x : Bool × Option Host.Fault) : Bool × Option Error :=
  (x.1, x.2.map (.file g.pin g.valuePath))

theorem drive_run (disk : Host.Disk σ) (g : Gpio) (level : Bool) (s : σ) :
    let a := g.drive disk level s
    disk.Undergoes s (attempts a.effects) a.state ∧
      ∃ refusal, attempts a.effects = [g.attempt (level, refusal)] ∧
        (level, refusal? a.result) = g.answer (level, refusal) := by
  obtain ⟨undergoes, ⟨tried, value⟩ | ⟨fault, tried, value⟩⟩ :=
    write_run disk g.pin g.valuePath (levelText level) s
  · simp only [drive, Effect.attempts_append, Effect.attempts_drove, Effect.attempts_nil,
      List.append_nil]
    exact ⟨undergoes, none, tried, by rw [value]; rfl⟩
  · simp only [drive, Effect.attempts_append, Effect.attempts_drove, Effect.attempts_nil,
      List.append_nil]
    exact ⟨undergoes, some fault, tried, by rw [value]; rfl⟩

end Gpio

variable {σ β : Type}

/-- The devices of an actuator whose line is behind the files of a disk, on any bus. -/
def Line.devices (disk : Host.Disk σ) (bus : Outbound → β → Except Bus.Error Unit × β)
    (line : Line) : Devices (σ × β) where
  drive level s :=
    let a := line.drive disk level s.1
    ⟨(a.state, s.2), a.result, a.effects⟩
  put m s :=
    let (result, b) := bus m s.2
    ⟨(s.1, b), result, [.put m (refusal? result)]⟩

namespace Gpio

/-- From the state `start` of the disk on, the files have undergone one attempt for each
    level that the line was seen to be set to, and nothing else. -/
def Tracks (disk : Host.Disk σ) (g : Gpio) (start : σ) (s : σ × β) (done seen : List Effect) :
    Prop :=
  disk.Undergoes start (attempts done) s.1 ∧
    ∃ xs : List (Bool × Option Host.Fault),
      attempts done = xs.map g.attempt ∧ drives seen = xs.map g.answer

/-- **Every call keeps track of the files.** -/
theorem keeps_tracks (disk : Host.Disk σ) (bus : Outbound → β → Except Bus.Error Unit × β)
    (g : Gpio) (start : σ) : ((Line.gpio g).devices disk bus).Keeps (g.Tracks disk start) where
  drive {s done seen} level h := by
    obtain ⟨undergone, xs, tried, driven⟩ := h
    obtain ⟨undergoes, refusal, now, result⟩ := drive_run disk g level s.1
    refine ⟨?_, xs ++ [(level, refusal)], ?_, ?_⟩
    · rw [Effect.attempts_append, Effect.attempts_calls]
      exact undergone.append undergoes
    · rw [Effect.attempts_append, Effect.attempts_calls, tried, List.map_append]
      exact congrArg _ now
    · rw [Effect.drives_append, driven, List.map_append]
      exact congrArg (_ ++ [·]) result
  put m h := by
    obtain ⟨undergone, xs, tried, driven⟩ := h
    refine ⟨?_, xs, ?_, ?_⟩
    · simpa [Line.devices] using undergone
    · simpa [Line.devices] using tried
    · simpa [drives] using driven

end Gpio

end Output

end SignalActuator
