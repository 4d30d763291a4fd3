/-
  Output lines — the line that a backend provides.

  The backend `sysfs` is a GPIO line; the backend `log` is for hosts without
  GPIO and only reports the levels that it is brought to.
-/
import SignalActuator.Output.Gpio

namespace SignalActuator.Output

open Actuation (Run Answer)

inductive Backend where
  | sysfs
  | log
  deriving DecidableEq, Repr

def Backend.describe : Backend → String
  | .sysfs => "Sysfs"
  | .log => "Log"

inductive Line where
  | gpio (line : Gpio)
  /-- A line that reports its levels under a number. -/
  | reported (pin : UInt32)
  deriving DecidableEq, Repr

namespace Line

variable {σ : Type}

def drive (disk : Host.Disk σ) : Line → Bool → σ → Answer σ Error
  | .gpio g, level, s => g.drive disk level s
  | .reported pin, level, s =>
    ⟨s, .ok (), [.logged (Log.record .info .output "Output level set"
      [("pin", .number pin.toNat), ("level", .number (if level then 1 else 0))])]⟩

def configure (disk : Host.Disk σ) (backend : Backend) (root : String) (pin : UInt32) (s : σ) :
    Run σ (Except Error Line) :=
  let ready := Log.record .info .lifecycle "Output initialised"
    [("pin", .number pin.toNat), ("backend", .shown backend.describe)]
  match backend with
  | .log => ⟨.ok (.reported pin), s, [.logged ready]⟩
  | .sysfs =>
    let r := Gpio.configure disk root pin s
    match r.value with
    | .error e => ⟨.error e, r.state, r.effects⟩
    | .ok g => ⟨.ok (.gpio g), r.state, r.effects ++ [.logged ready]⟩

end Line

end SignalActuator.Output
