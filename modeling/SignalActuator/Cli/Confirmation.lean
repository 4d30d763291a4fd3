/-
  Confirmations — what the sender of a request learns from the bus.

  The sender listens on the key-expression it sends on, and takes the first
  report that comes by for the answer to its request.
-/
import SignalActuator.Message

namespace SignalActuator.Cli

inductive Confirmation where
  | confirmed (value : String)
  | sessionClosed
  | timedOut (secs : UInt64)
  deriving DecidableEq, Repr

namespace Confirmation

def firstReport? (ms : List Inbound) : Option String :=
  (ms.find? fun m => m.kind == .currentValue).map (·.payloadText)

/-- What the messages before the end of the wait come to; `closed` tells whether
    the session ended it, and not the time. -/
def ofMessages (ms : List Inbound) (closed : Bool) (timeoutSecs : UInt64) : Confirmation :=
  match firstReport? ms with
  | some value => .confirmed value
  | none => if closed then .sessionClosed else .timedOut timeoutSecs

def line : Confirmation → String
  | .confirmed v => "✅ Confirmed currentValue=" ++ v
  | .sessionClosed => "⚠️  Session closed before confirmation"
  | .timedOut n => "⚠️  No confirmation within " ++ toString n.toNat ++ "s"

end Confirmation

def sentLine (value : Bool) (keyExpr : String) : String :=
  "📤 Sent targetValue=" ++ Signal.valueText value ++ " on " ++ keyExpr

end SignalActuator.Cli
