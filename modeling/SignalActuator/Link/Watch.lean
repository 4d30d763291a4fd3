/-
  Watched links — the driver of an interface that the host manages.

  The driver reports what the state file of the interface says, and associates
  by running a command, if it has one.  Without a command the link is managed
  elsewhere, and associating does nothing.
-/
import SignalActuator.Host.Files
import SignalActuator.Host.Programs
import SignalActuator.Link.Association
import SignalActuator.Link.Driver
import SignalActuator.Link.Operstate

namespace SignalActuator.Link

def interfacesRoot : String := "/sys/class/net"

/-- The driver of an interface on a host with states `σ`. -/
structure Watch (σ : Type) where
  interface : String
  root : String := interfacesRoot
  template : Option (List String) := none
  /-- What the state file holds when the driver looks, sample by sample. -/
  samples : List Operstate.Sample := []
  watching : Bool := false
  host : σ

namespace Watch

variable {σ : Type}

def statePath (w : Watch σ) : String :=
  Host.joinPath (Host.joinPath w.root w.interface) "operstate"

/-- Begins to report the state of the interface; this can be done once. -/
def start (w : Watch σ) : Response (Watch σ) :=
  if w.watching then
    { driver := w, result := .error (.driver "link driver already started") }
  else
    { driver := { w with watching := true }
      result := .ok ()
      emits := Operstate.stream w.samples
      log := [Log.record .info .interface "Watching link operstate"
        [("interface", .shown w.interface), ("path", .shown w.statePath)]] }

def associate (programs : Host.Programs σ) (_now : Nat) (c : Credentials) (w : Watch σ) :
    Response (Watch σ) :=
  match w.template.map (Association.argv · c) with
  | none =>
    { driver := w, result := .ok ()
      log := [Log.record .debug .interface "No association command, link managed externally"
        [("interface", .shown w.interface)]] }
  | some [] => { driver := w, result := .error (.driver "association command is empty") }
  | some (program :: arguments) =>
    let (ended, host) := programs.run w.host program arguments
    { driver := { w with host }
      result := match ended with
        | .error fault => .error (.associationFailed (program ++ ": " ++ fault.message))
        | .ok status =>
          if status.success then .ok ()
          else .error (.associationFailed (program ++ " exited with " ++ status.describe))
      log := [Log.record .info .interface "Running association command"
        [("interface", .shown w.interface), ("program", .shown program)]] }

def driver (programs : Host.Programs σ) : Driver (Watch σ) :=
  ⟨start, associate programs⟩

end Watch

end SignalActuator.Link
