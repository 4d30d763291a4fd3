/-
  GPIO lines — an output line behind the files of a GPIO directory.

  A line has a directory of its own, which appears when the number of the line
  is written to `export`.  Its file `direction` makes it an output and sets it
  low in one write; its file `value` takes the levels.

  * `Gpio.configure` prepares a line, and the first write that fails ends it;
  * `Gpio.drive` brings a prepared line to a level.
-/
import SignalActuator.Actuation.Effect

namespace SignalActuator.Output

open Actuation (Effect Run Answer refusal?)

/-- A line that is prepared as an output. -/
structure Gpio where
  pin : UInt32
  valuePath : String
  deriving DecidableEq, Repr

namespace Gpio

variable {σ : Type}

def lineDirectory (root : String) (pin : UInt32) : String :=
  Host.joinPath root ("gpio" ++ toString pin.toNat)

def levelText (level : Bool) : String :=
  if level then "1" else "0"

def write (disk : Host.Disk σ) (pin : UInt32) (path contents : String) (s : σ) :
    Run σ (Except Error Unit) :=
  let (result, s) := disk.write s path contents
  ⟨result.mapError (.file pin path), s, [.wrote path contents (refusal? result)]⟩

/-- Makes the directory of a line appear, unless it is there. -/
def exportLine (disk : Host.Disk σ) (root : String) (pin : UInt32) (s : σ) :
    Run σ (Except Error Unit) :=
  if disk.has s (lineDirectory root pin) then ⟨.ok (), s, []⟩
  else
    let r := write disk pin (Host.joinPath root "export") (toString pin.toNat) s
    match r.value with
    | .error e => ⟨.error e, r.state, r.effects⟩
    | .ok () => ⟨.ok (), r.state, r.effects ++
        [.logged (Log.record .debug .gpio "Exported GPIO" [("pin", .number pin.toNat)])]⟩

/-- Prepares a line as an output that is low. -/
def configure (disk : Host.Disk σ) (root : String) (pin : UInt32) (s : σ) :
    Run σ (Except Error Gpio) :=
  let exported := exportLine disk root pin s
  match exported.value with
  | .error e => ⟨.error e, exported.state, exported.effects⟩
  | .ok () =>
    let line := lineDirectory root pin
    let set := write disk pin (Host.joinPath line "direction") "low" exported.state
    match set.value with
    | .error e => ⟨.error e, set.state, exported.effects ++ set.effects⟩
    | .ok () => ⟨.ok ⟨pin, Host.joinPath line "value"⟩, set.state,
        exported.effects ++ set.effects ++
          [.logged (Log.record .info .gpio "GPIO configured as output"
            [("pin", .number pin.toNat)])]⟩

def drive (disk : Host.Disk σ) (g : Gpio) (level : Bool) (s : σ) : Answer σ Error :=
  let r := write disk g.pin g.valuePath (levelText level) s
  ⟨r.state, r.value, r.effects ++ [.drove level (refusal? r.value)]⟩

end Gpio

end SignalActuator.Output
