/-
  Bus failures — why a session or one of its endpoints cannot be used.
-/
import SignalActuator.KeyExpr
import SignalActuator.Locator
import SignalActuator.Duration

namespace SignalActuator.Bus

inductive Error where
  | sessionOpenFailed (reason : String)
  | connectTimeout (limit : Duration)
  | subscriptionFailed (keyExpr cause : String)
  | publisherDeclarationFailed (keyExpr reason : String)
  | publishFailed (cause : String)
  /-- A message was put while the session was in this state. -/
  | notConnected (state : String)
  | invalidLocator (error : Locator.Error)
  | invalidKeyExpr (error : KeyExpr.Error)
  deriving DecidableEq, Repr

namespace Error

def message : Error → String
  | .sessionOpenFailed r => "Session open failed: " ++ r
  | .connectTimeout d => "No connection acknowledgement within " ++ d.toText
  | .subscriptionFailed k _ => "Subscriber declaration on '" ++ k ++ "' failed"
  | .publisherDeclarationFailed k r => "Publisher declaration on '" ++ k ++ "' failed: " ++ r
  | .publishFailed _ => "Publishing failed"
  | .notConnected s => "Not connected - session state: " ++ s
  | .invalidLocator e => "Invalid locator: " ++ e.message
  | .invalidKeyExpr e => "Invalid key-expression: " ++ e.message

/-- The texts of what lies under a failure, the nearest first. -/
def causes : Error → List String
  | .subscriptionFailed _ c | .publishFailed c => [c]
  | .invalidLocator e => [e.message]
  | .invalidKeyExpr e => [e.message]
  | _ => []

end Error

end SignalActuator.Bus
