/-
  A provider on the bench — started, fed and stopped in single steps, each of
  which lasts until nothing is left to do.
-/
import SignalActuator.Actuation.Bench
import SignalActuator.Provider.Lifecycle

namespace SignalActuator.Provider

open Actuation (Bench)

structure Trial where
  line : Option Output.Line := none
  terms : Terms := {}
  system : System Bench
  /-- Somebody holds the provider and may shut it down. -/
  held : Bool := false

def benchTerms (keyExpr : String) (failSubscription failPublication : Bool) : Terms where
  subscription :=
    if failSubscription then some (.subscriptionFailed keyExpr Bench.refusalText) else none
  publication :=
    if failPublication then some (.publisherDeclarationFailed keyExpr Bench.refusalText) else none

namespace Trial

/-- Makes moves and lets the consumer move until it waits. -/
def moves (t : Trial) (ms : List Move) : Trial × List Occurrence :=
  let dev := Bench.devices t.line
  let (s, os) := t.system.moves dev t.terms ms
  let (s, more) := s.settle dev t.terms
  ({ t with system := s }, os ++ more)

def start (t : Trial) : Except Failure Unit × Trial × List Occurrence :=
  let (t, os) := t.moves [.subscribe, .announce, .energise]
  match t.system.stage with
  | .failed f => (.error f, t, os)
  | _ => (.ok (), { t with held := true }, os)

/-- Delivers a message; whether anybody took it. -/
def deliver (t : Trial) (m : Inbound) : Bool × Trial × List Occurrence :=
  let (t, os) := t.moves [.offer m, .enter t.system.waiting.length]
  (os.contains (.accepted m), t, os)

def closeSession (t : Trial) : Trial × List Occurrence :=
  t.moves [.close, .unregister]

/-- Shuts the provider down, if somebody holds it. -/
def shutdown (t : Trial) : Option (Trial × List Occurrence) :=
  if t.held then
    let (t, os) := t.closeSession
    some ({ t with held := false },
      .did (.logged (Log.record .info .lifecycle "Shutting down actuator provider"
        [("key_expr", .shown t.system.keyExpr)])) :: os)
  else none

/-- Lets go of the provider. -/
def drop (t : Trial) : Trial × List Occurrence :=
  let (t, os) := if t.held then t.moves [.abort] else (t, [])
  ({ t with held := false }, os)

end Trial

end SignalActuator.Provider
