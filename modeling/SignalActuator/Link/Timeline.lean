/-
  Timelines — a supervised link in virtual time, and waiting for it.

  Time jumps from one deadline to the next.  At one instant a waiter looks
  before the supervisor moves, so that it sees what was so before the instant.

  * `advance` lets time pass;
  * `awaitConnected` polls until the link is up or cannot come up, and
    `awaitExhausted` waits until the link is lost for good.
-/
import SignalActuator.Link.Supervisor

namespace SignalActuator.Link

/-- A supervised link at a time, in milliseconds. -/
structure Timeline (δ : Type) where
  now : Nat
  supervisor : Supervisor δ

inductive Waited (α : Type) where
  | done (result : α)
  | timeout
  deriving DecidableEq, Repr

/-- The verdict on a link that is waited for: up, or never coming up; none as
    long as it may still come up. -/
def Supervisor.readiness {δ : Type} (s : Supervisor δ) : Option (Except Error Unit) :=
  if s.status.connected then some (.ok ())
  else if s.status.exhausted then some (.error (.retriesExhausted s.policy.maxRetries))
  else if s.phase = .stopped then some (.error .eventStreamClosed)
  else none

def waitingRecord : Log.Record :=
  Log.record .info .supervisor "Waiting for link..." []

namespace Timeline

variable {δ : Type}

def settle (dr : Driver δ) (t : Timeline δ) : Timeline δ × List Activity :=
  let (s, acts) := t.supervisor.settle dr t.now t.supervisor.effort
  ({ t with supervisor := s }, acts)

/-- Moves at the present time and at all deadlines before `limit`, which is the
    present time afterwards; at most `fuel` deadlines. -/
def runTo (dr : Driver δ) (limit : Nat) : Nat → Timeline δ → Timeline δ × List Activity
  | 0, t => ({ t with now := limit }, [])
  | fuel + 1, t =>
    let (t, acts) := t.settle dr
    match t.supervisor.due? with
    | some due =>
      if due < limit then
        let (t, more) := runTo dr limit fuel { t with now := due }
        (t, acts ++ more)
      else ({ t with now := limit }, acts)
    | none => ({ t with now := limit }, acts)

/-- Lets time pass; what is due at its end has happened then. -/
def advance (dr : Driver δ) (n : Nat) (t : Timeline δ) : Timeline δ × List Activity :=
  let (t, acts) := t.runTo dr (t.now + n) (n + 1)
  let (t, more) := t.settle dr
  (t, acts ++ more)

/-- Polls every `interval` until there is a verdict, at most `fuel` times and
    not beyond the time `limit`. -/
def poll (dr : Driver δ) (interval limit : Nat) :
    Nat → Timeline δ → Waited (Except Error Unit) × Timeline δ × List Activity
  | 0, t => (.timeout, t, [])
  | fuel + 1, t =>
    match t.supervisor.readiness with
    | some verdict => (.done verdict, t, [])
    | none =>
      let wake := t.now + interval
      if limit < wake ∨ limit = t.now then
        let (t, acts) := t.runTo dr limit (limit - t.now + 1)
        (.timeout, t, .logged waitingRecord :: acts)
      else
        let (t, acts) := t.runTo dr wake (interval + 1)
        let (result, t, more) := poll dr interval limit fuel t
        (result, t, .logged waitingRecord :: acts ++ more)

def awaitConnected (dr : Driver δ) (interval span : Nat) (t : Timeline δ) :
    Waited (Except Error Unit) × Timeline δ × List Activity :=
  t.poll dr interval (t.now + span) (span + 2)

/-- Whether a waiter for the loss of the link has something to report: the
    budget is spent, or the supervisor has stopped. -/
def lost (t : Timeline δ) : Bool :=
  t.supervisor.status.exhausted || t.supervisor.phase == .stopped

/-- Moves until the link is lost or `limit` comes, at most `fuel` deadlines. -/
def runToLoss (dr : Driver δ) (limit : Nat) :
    Nat → Timeline δ → Waited Unit × Timeline δ × List Activity
  | 0, t => (.timeout, { t with now := limit }, [])
  | fuel + 1, t =>
    let (t, acts) := t.settle dr
    if t.lost then (.done (), t, acts)
    else match t.supervisor.due? with
      | some due =>
        if due < limit then
          let (result, t, more) := runToLoss dr limit fuel { t with now := due }
          (result, t, acts ++ more)
        else (.timeout, { t with now := limit }, acts)
      | none => (.timeout, { t with now := limit }, acts)

def awaitExhausted (dr : Driver δ) (span : Nat) (t : Timeline δ) :
    Waited Unit × Timeline δ × List Activity :=
  if t.lost then (.done (), t, [])
  else if span = 0 then (.timeout, t, [])
  else t.runToLoss dr (t.now + span) (span + 1)

end Timeline

end SignalActuator.Link
