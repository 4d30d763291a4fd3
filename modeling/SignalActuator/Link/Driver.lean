/-
  Link drivers — what the supervisor of a link asks of the hardware.

  A driver reports on its event stream and associates on request.  Its state is
  a parameter, so that a driver may be a radio, a file of samples or a script.
  Times are milliseconds since supervision began.

  * `Driver` is the interface;
  * `Rehearsal` is a driver that follows a script and keeps the associations
    asked of it.
-/
import SignalActuator.Link.Event
import SignalActuator.Log.Record

namespace SignalActuator.Link

/-- The outcome of a request to a driver: its next state, the answer, the
    events it puts on its stream, whether it then closes the stream, and its
    log records. -/
structure Response (δ : Type) where
  driver : δ
  result : Except Error Unit
  emits : List Event := []
  closes : Bool := false
  log : List Log.Record := []

/-- A link driver with states `δ`. -/
structure Driver (δ : Type) where
  start : δ → Response δ
  associate : (now : Nat) → Credentials → δ → Response δ

/-! ## Rehearsals -/

inductive Opening where
  | ready
  | silent
  | refuses
  /-- Reports that it is ready and closes its stream. -/
  | hangsUp
  deriving DecidableEq, Repr

inductive Cue where
  | succeeds
  | connects
  /-- Succeeds and reports a loss for this reason. -/
  | drops (reason : String)
  | fails (error : Error)
  /-- Succeeds and closes its stream. -/
  | hangsUp
  deriving DecidableEq, Repr

structure Association where
  time : Nat
  credentials : Credentials
  deriving DecidableEq

structure Rehearsal where
  opening : Opening
  /-- One cue per association; the last one repeats. -/
  cues : List Cue
  associations : List Association := []

namespace Rehearsal

def cue (cues : List Cue) (n : Nat) : Cue :=
  ((cues[n]?).orElse fun _ => cues.getLast?).getD .succeeds

def start (r : Rehearsal) : Response Rehearsal :=
  match r.opening with
  | .ready => { driver := r, result := .ok (), emits := [.started] }
  | .silent => { driver := r, result := .ok () }
  | .refuses => { driver := r, result := .error (.driver "no such device") }
  | .hangsUp => { driver := r, result := .ok (), emits := [.started], closes := true }

def associate (now : Nat) (c : Credentials) (r : Rehearsal) : Response Rehearsal :=
  let asked := { r with associations := r.associations ++ [⟨now, c⟩] }
  match cue r.cues r.associations.length with
  | .succeeds => { driver := asked, result := .ok () }
  | .connects => { driver := asked, result := .ok (), emits := [.up] }
  | .drops reason => { driver := asked, result := .ok (), emits := [.down reason] }
  | .fails e => { driver := asked, result := .error e }
  | .hangsUp => { driver := asked, result := .ok (), closes := true }

def driver : Driver Rehearsal := ⟨start, associate⟩

end Rehearsal

end SignalActuator.Link
