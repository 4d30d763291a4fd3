/-
  Link events — what a link driver reports, the credentials it associates with
  and the ways in which a link fails.
-/
import SignalActuator.Text.Quoted

namespace SignalActuator.Link

/-- A report of a link driver. -/
inductive Event where
  /-- The driver is ready to associate. -/
  | started
  | up
  /-- The link lost connectivity, or an association failed. -/
  | down (reason : String)
  deriving DecidableEq, Repr

def Event.describe : Event → String
  | .started => "Started"
  | .up => "Up"
  | .down reason => "Down \x7b reason: " ++ Text.quote reason ++ " \x7d"

structure Credentials where
  ssid : String
  password : String
  deriving DecidableEq

/-- The text of credentials in diagnostics; the password never shows. -/
def Credentials.describe (c : Credentials) : String :=
  "Credentials \x7b ssid: " ++ Text.quote c.ssid ++ ", password: \"***\" \x7d"

inductive Error where
  | driver (reason : String)
  | associationFailed (reason : String)
  | retriesExhausted (maxRetries : UInt32)
  | eventStreamClosed
  deriving DecidableEq, Repr

def Error.message : Error → String
  | .driver r => "Link driver error: " ++ r
  | .associationFailed r => "Association failed: " ++ r
  | .retriesExhausted m => "Link retries exhausted after " ++ toString m.toNat ++ " attempts"
  | .eventStreamClosed => "Link event stream closed before connectivity was established"

end SignalActuator.Link
