/-
  The supervisor — a link driver and an establisher at work.

  The supervisor takes one event at a time, lets the establisher decide and
  carries the decision out.  An association that fails counts as a loss of the
  link, which is handled before the events that wait on the stream.  While it
  waits to associate again it takes no event.

  * `step` is one move at a given time, or nothing when the supervisor waits
    for an event or for time to pass;
  * `settle` moves until it waits;
  * `launch` starts a driver under a supervisor.
-/
import SignalActuator.Link.Driver
import SignalActuator.Link.Establisher
import SignalActuator.Moves

namespace SignalActuator.Link

/-- How often and how soon a lost link is associated again. -/
structure RetryPolicy where
  maxRetries : UInt32
  /-- The pause before each attempt, in milliseconds. -/
  delay : Nat
  deriving DecidableEq, Repr

/-- What the supervisor publishes after each event. -/
structure Status where
  connection : Connection
  retries : UInt32
  exhausted : Bool
  deriving DecidableEq, Repr

def Status.connected (s : Status) : Bool :=
  s.connection == .connected

def Establisher.status (e : Establisher) : Status :=
  ⟨e.connection, e.retries, e.exhausted⟩

inductive Activity where
  | received (event : Event)
  /-- Takes the loss that stands for a failed association. -/
  | requeued (event : Event)
  | published (status : Status)
  | associated (result : Except Error Unit)
  | logged (record : Log.Record)

def Activity.records (acts : List Activity) : List Log.Record :=
  acts.filterMap fun | .logged r => some r | _ => none

inductive Phase where
  | ready
  | delaying (attempt : UInt32) (due : Nat)
  | stopped
  deriving DecidableEq, Repr

structure Supervisor (δ : Type) where
  policy : RetryPolicy
  credentials : Credentials
  driver : δ
  establisher : Establisher
  /-- Losses that stand for failed associations. -/
  pending : List Event
  stream : List Event
  closed : Bool
  phase : Phase

namespace Supervisor

variable {δ : Type}

def status (s : Supervisor δ) : Status :=
  s.establisher.status

def send (s : Supervisor δ) (event : Event) : Supervisor δ :=
  if s.closed then s else { s with stream := s.stream ++ [event] }

def close (s : Supervisor δ) : Supervisor δ :=
  { s with closed := true }

/-- Asks the driver to associate; a failure is put before all other events. -/
def associate (dr : Driver δ) (now : Nat) (s : Supervisor δ) : Supervisor δ × List Activity :=
  let r := dr.associate now s.credentials s.driver
  let s := { s with driver := r.driver
                    stream := if s.closed then s.stream else s.stream ++ r.emits
                    closed := s.closed || r.closes
                    phase := .ready }
  match r.result with
  | .ok () => (s, r.log.map .logged ++ [.associated (.ok ())])
  | .error e =>
    ({ s with pending := s.pending ++ [.down e.message] },
     r.log.map .logged ++ [.associated (.error e),
       .logged (Log.record .warn .supervisor "Association request failed"
         [("error", .shown e.message)])])

/-- Lets the establisher decide on an event and carries the decision out. -/
def handle (dr : Driver δ) (now : Nat) (s : Supervisor δ) (event : Event) :
    Supervisor δ × List Activity :=
  let reaction := s.establisher.react event
  let s := { s with establisher := reaction.next }
  let seen := .logged (Log.record .debug .supervisor "Link event"
      [("event", .shown event.describe)]) ::
    (reaction.log.map .logged ++ [.published s.status])
  match reaction.action with
  | .associate =>
    let (s, acts) := s.associate dr now
    (s, seen ++ acts)
  | .reassociate attempt => ({ s with phase := .delaying attempt (now + s.policy.delay) }, seen)
  | .markConnected =>
    (s, seen ++ [.logged (Log.record .info .supervisor "Link connected" [])])
  | .giveUp | .nothing => (s, seen)

/-- One move at the time `now`, if there is one to make. -/
def step (dr : Driver δ) (now : Nat) (s : Supervisor δ) :
    Option (Supervisor δ × List Activity) :=
  match s.phase with
  | .stopped => none
  | .delaying attempt due =>
    if due ≤ now then
      let (s, acts) := s.associate dr now
      some (s, .logged (Log.record .debug .supervisor "Reassociating link"
        [("attempt", .number attempt.toNat)]) :: acts)
    else none
  | .ready =>
    match s.pending with
    | event :: pending =>
      let (s, acts) := { s with pending }.handle dr now event
      some (s, .requeued event :: acts)
    | [] =>
      match s.stream with
      | event :: stream =>
        let (s, acts) := { s with stream }.handle dr now event
        some (s, .received event :: acts)
      | [] =>
        if s.closed then
          some ({ s with phase := .stopped },
            [.logged (Log.record .warn .supervisor
              "Link event stream closed, supervisor stopping" [])])
        else none

/-- Moves until there is no move to make, at most `fuel` times. -/
def settle (dr : Driver δ) (now fuel : Nat) (s : Supervisor δ) : Supervisor δ × List Activity :=
  Moves.settle (step dr now) fuel s

/-- The moves that the events at hand can lead to: each event may spend the
    whole budget, and each attempt is made of an association and a loss. -/
def effort (s : Supervisor δ) : Nat :=
  (s.stream.length + s.pending.length + 2) * (2 * s.policy.maxRetries.toNat + 6)

/-- The time at which a waiting supervisor can move again. -/
def due? (s : Supervisor δ) : Option Nat :=
  match s.phase with
  | .delaying _ due => some due
  | _ => none

/-- Starts a driver and puts it under a supervisor, which has not moved yet. -/
def launch (dr : Driver δ) (driver : δ) (credentials : Credentials) (policy : RetryPolicy) :
    Except Error (Supervisor δ) × List Log.Record :=
  let r := dr.start driver
  match r.result with
  | .error e => (.error e, r.log)
  | .ok () =>
    (.ok { policy, credentials, driver := r.driver, establisher := .new policy.maxRetries,
           pending := [], stream := r.emits, closed := r.closes, phase := .ready },
     r.log ++ [Log.record .info .supervisor "Connecting link..."
       [("max_retries", .number policy.maxRetries.toNat)]])

end Supervisor

end SignalActuator.Link
