/-
  Operational state — link events from the state file of an interface.

  The file is sampled again and again.  It says `up`, blanks aside, or the
  interface is down; a file that cannot be read counts as down.  Only changes
  are reported, and the first sample only when it is up.
-/
import SignalActuator.Host.Fault
import SignalActuator.Link.Event
import SignalActuator.Text.Blank

namespace SignalActuator.Link.Operstate

abbrev Sample := Except Host.Fault String

structure Observation where
  up : Bool
  detail : String
  deriving DecidableEq, Repr

def Observation.ofSample : Sample → Observation
  | .ok contents =>
    let state := Text.trim contents
    ⟨state == "up", "operstate " ++ state⟩
  | .error fault => ⟨false, "operstate unreadable: " ++ fault.message⟩

/-- The event that a sample leads to, after one that was up, down or absent. -/
def transition (previous : Option Bool) (o : Observation) : Option Event :=
  if o.up then (if previous = some true then none else some .up)
  else if previous = some true then some (.down o.detail) else none

def reports (previous : Option Bool) : List Sample → List (Option Event)
  | [] => []
  | s :: ss =>
    let o := Observation.ofSample s
    transition previous o :: reports (some o.up) ss

/-- All events of a list of samples; the driver is ready before the first. -/
def stream (samples : List Sample) : List Event :=
  .started :: (reports none samples).filterMap id

end SignalActuator.Link.Operstate
