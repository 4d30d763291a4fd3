/-
  The test bench — devices whose refusals can be switched on and off, for
  trying an actuator without hardware and without a bus.

  The bench has a line of its own, which takes every level, and files for a
  GPIO line; its publisher takes every message.
-/
import SignalActuator.Actuation.Effect
import SignalActuator.Output.Line

namespace SignalActuator.Actuation

structure Bench where
  lineRefuses : Bool := false
  busRefuses : Bool := false
  files : Host.Files := {}

namespace Bench

def refusalText : String := "mock failure"

def drive (level : Bool) (b : Bench) : Answer Bench Output.Error :=
  let result := if b.lineRefuses then .error (.rejected refusalText) else .ok ()
  ⟨b, result, [.drove level (refusal? result)]⟩

def put (m : Outbound) (b : Bench) : Answer Bench Bus.Error :=
  let result := if b.busRefuses then .error (.publishFailed refusalText) else .ok ()
  ⟨b, result, [.put m (refusal? result)]⟩

def disk : Host.Disk Bench where
  has b path := b.files.has path
  write b path contents :=
    let (result, files) := Host.Files.disk.write b.files path contents
    (result, { b with files })

/-- The devices of the bench, with its own line or another one. -/
def devices (line : Option Output.Line) : Devices Bench where
  drive := match line with
    | none => drive
    | some l => l.drive disk
  put := put

end Bench

end SignalActuator.Actuation
