/-
  Session states — how a session stands with its broker.
-/
namespace SignalActuator.Bus

inductive SessionState where
  | connecting
  | connected
  /-- The connection is lost, and made again after a while. -/
  | disconnected (reason : String)
  | closed
  deriving DecidableEq, Repr

def SessionState.describe : SessionState → String
  | .connecting => "connecting"
  | .connected => "connected"
  | .disconnected reason => "disconnected (" ++ reason ++ ")"
  | .closed => "closed"

end SignalActuator.Bus
