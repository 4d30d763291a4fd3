/-
  The establisher — the decision that each link event calls for.

  A link may be associated again a bounded number of times in a row.  An event
  that reports connectivity refills the budget; when it is spent, the
  establisher gives up once and then ignores further losses.

  * `react` gives the state after an event, the action it calls for and the
    log records of the decision;
  * `run` is the state after a list of events.
-/
import SignalActuator.Link.Event
import SignalActuator.Log.Record

namespace SignalActuator.Link

/-- Connectivity as the establisher sees it. -/
inductive Connection where
  | disconnected
  | connecting
  | connected
  deriving DecidableEq, Repr

inductive Action where
  /-- The first association. -/
  | associate
  /-- Another association after a loss, with its number since the link was up. -/
  | reassociate (attempt : UInt32)
  | markConnected
  | giveUp
  | nothing
  deriving DecidableEq, Repr

structure Establisher where
  connection : Connection
  retries : UInt32
  maxRetries : UInt32
  exhausted : Bool
  deriving DecidableEq, Repr

namespace Establisher

def new (maxRetries : UInt32) : Establisher :=
  ⟨.disconnected, 0, maxRetries, false⟩

structure Reaction where
  next : Establisher
  action : Action
  log : List Log.Record
  deriving DecidableEq, Repr

/-- The link is up: the budget is full again. -/
def onUp (e : Establisher) : Reaction where
  next := { e with connection := .connected, retries := 0, exhausted := false }
  action := .markConnected
  log :=
    if 0 < e.retries then
      [Log.record .info .establisher "Link recovered, retry counter reset"
        [("retries", .number e.retries.toNat)]]
    else []

/-- The link is lost: associate again while the budget lasts, then give up. -/
def onDown (e : Establisher) (reason : String) : Reaction :=
  if e.exhausted then ⟨e, .nothing, []⟩
  else if e.retries < e.maxRetries then
    let attempt := e.retries + 1
    { next := { e with connection := .connecting, retries := attempt }
      action := .reassociate attempt
      log := [Log.record .warn .establisher "Link down, reassociating"
        [("reason", .shown reason), ("attempt", .number attempt.toNat),
         ("max_retries", .number e.maxRetries.toNat)]] }
  else
    { next := { e with connection := .disconnected, exhausted := true }
      action := .giveUp
      log := [Log.record .error .establisher "Link down and retry budget exhausted, giving up"
        [("reason", .shown reason), ("max_retries", .number e.maxRetries.toNat)]] }

/-- The outcome of an event.  A driver that starts is associated whatever the
    state. -/
def react (e : Establisher) : Event → Reaction
  | .started => ⟨{ e with connection := .connecting }, .associate, []⟩
  | .up => e.onUp
  | .down reason => e.onDown reason

def run (e : Establisher) (events : List Event) : Establisher :=
  events.foldl (fun e event => (e.react event).next) e

end Establisher

end SignalActuator.Link
