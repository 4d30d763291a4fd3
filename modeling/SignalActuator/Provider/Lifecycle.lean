/-
  The lifecycle of a provider — subscribing, announcing its reports, driving the
  output low, consuming messages and stopping, while messages come in.

  Messages pass through a channel of bounded room.  Whoever delivers one first
  finds the subscription and then waits for room; the channel is open as long
  as the session has the subscription or somebody still waits.  The parties move
  one at a time, in any order.

  * `System.move` is what a move does, or nothing when it cannot be made now;
  * `System.settle` lets the consumer move until it waits.
-/
import SignalActuator.Actuation.Context
import SignalActuator.Failure
import SignalActuator.Moves

namespace SignalActuator.Provider

open Actuation (Effect Context Devices Engine Outcome)

inductive Stage where
  | fresh
  | subscribed
  | announced
  | failed (failure : Failure)
  /-- The consumer is at work; `begun` tells whether it has moved at all. -/
  | running (context : Context) (begun : Bool)
  /-- The consumer has come to the end of the channel. -/
  | finished (context : Context)
  /-- The consumer was stopped before that. -/
  | aborted (context : Context)
  deriving DecidableEq, Repr

/-- Whether the receiving end of the channel exists. -/
def Stage.receives : Stage → Bool
  | .subscribed | .announced | .running .. => true
  | _ => false

def Stage.consuming : Stage → Bool
  | .running .. => true
  | _ => false

/-- The failures of a session to declare its endpoints. -/
structure Terms where
  subscription : Option Bus.Error := none
  publication : Option Bus.Error := none

structure System (σ : Type) where
  keyExpr : String
  stage : Stage := .fresh
  /-- The session has the sending end of the subscription. -/
  registered : Bool := false
  closed : Bool := false
  queue : List Inbound := []
  waiting : List Inbound := []
  devices : σ

inductive Occurrence where
  | did (effect : Effect)
  /-- The message has entered the channel. -/
  | accepted (m : Inbound)
  /-- The message was delivered to nobody. -/
  | refused (m : Inbound)
  | processed (m : Inbound) (outcome : Outcome)
  deriving DecidableEq

def Occurrence.effects (os : List Occurrence) : List Effect :=
  os.filterMap fun | .did e => some e | _ => none

inductive Move where
  | subscribe
  | announce
  /-- Drives the output low and lets the consumer begin. -/
  | energise
  /-- Finds the subscription of a message. -/
  | offer (m : Inbound)
  /-- Puts a message that waits into the channel. -/
  | enter (index : Nat)
  | consume
  | close
  | unregister
  | abort
  deriving DecidableEq

def capacity : Nat := 32

def startSpan (keyExpr : String) : Log.Span where
  name := "lifecycle_event"
  component := .lifecycle
  fields := [("key_expr", .word keyExpr)]

namespace System

variable {σ : Type}

def energise (dev : Devices σ) (s : System σ) : System σ × List Occurrence :=
  let r := Engine.create dev s.keyExpr s.devices
  let inSpan (es : List Effect) : List Occurrence :=
    es.map fun e => .did (e.within (startSpan s.keyExpr))
  match r.value with
  | .error e => ({ s with stage := .failed (.output e), devices := r.state }, inSpan r.effects)
  | .ok engine =>
    ({ s with stage := .running { keyExpr := s.keyExpr, engine } false, devices := r.state },
     inSpan (r.effects ++ [.logged (Log.record .info .lifecycle "Actuator provider started" [])]))

def consume (dev : Devices σ) (s : System σ) : Option (System σ × List Occurrence) :=
  match s.stage with
  | .running c false =>
    some ({ s with stage := .running c true }, [.did (.logged (Context.startedRecord s.keyExpr))])
  | .running c true =>
    match s.queue with
    | m :: queue =>
      let r := c.process dev m s.devices
      some ({ s with stage := .running r.value.2 true, queue, devices := r.state },
        r.effects.map .did ++ [.processed m r.value.1])
    | [] =>
      if s.registered ∨ s.waiting ≠ [] then none
      else some ({ s with stage := .finished c },
        [.did (.logged (Context.stoppedRecord c))])
  | _ => none

/-- What a move does, or nothing when it cannot be made now. -/
def move (dev : Devices σ) (terms : Terms) : Move → System σ → Option (System σ × List Occurrence)
  | .subscribe, s =>
    if s.stage ≠ .fresh then none
    else match terms.subscription with
      | some e => some ({ s with stage := .failed (.transport e) }, [])
      | none => some ({ s with stage := .subscribed, registered := true }, [])
  | .announce, s =>
    if s.stage ≠ .subscribed then none
    else match terms.publication with
      | some e => some ({ s with stage := .failed (.transport e) }, [])
      | none => some ({ s with stage := .announced }, [])
  | .energise, s => if s.stage = .announced then some (s.energise dev) else none
  | .offer m, s =>
    if s.registered ∧ m.keyExpr = s.keyExpr then
      some ({ s with waiting := s.waiting ++ [m] }, [])
    else some (s, [.refused m])
  | .enter i, s =>
    match s.waiting[i]? with
    | none => none
    | some m =>
      if ¬ s.stage.receives then
        some ({ s with waiting := s.waiting.eraseIdx i }, [.refused m])
      else if s.queue.length < capacity then
        some ({ s with waiting := s.waiting.eraseIdx i, queue := s.queue ++ [m] }, [.accepted m])
      else none
  | .consume, s => s.consume dev
  | .close, s => some ({ s with closed := true }, [])
  | .unregister, s => some ({ s with registered := false }, [])
  | .abort, s =>
    match s.stage with
    | .running c _ => some ({ s with stage := .aborted c, queue := [] }, [])
    | _ => none

/-- Makes moves in order, passing over those that cannot be made. -/
def moves (dev : Devices σ) (terms : Terms) (ms : List Move) (s : System σ) :
    System σ × List Occurrence :=
  Moves.run (move dev terms) ms s

/-- Lets the consumer move until it waits: to its beginning, through the channel
    and to its end. -/
def settle (dev : Devices σ) (terms : Terms) (s : System σ) : System σ × List Occurrence :=
  Moves.settle (move dev terms .consume) (s.queue.length + 2) s

end System

end SignalActuator.Provider
