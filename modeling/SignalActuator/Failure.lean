/-
  Failures — why a provider could not be started or had to stop.

  * `Failure.kind` is a word for records, `Failure.message` the text of the
    whole failure and `Failure.causes` the texts of what lies under it.
-/
import SignalActuator.Config.Basic

namespace SignalActuator

/-- Why a provider could not be started or had to stop. -/
inductive Failure where
  | config (error : Config.Error)
  | locator (error : Locator.Error)
  | link (error : Link.Error)
  | output (error : Output.Error)
  | transport (error : Bus.Error)
  | consumer (reason : String)
  | signal (fault : Host.Fault)
  deriving DecidableEq, Repr

namespace Failure

def kind : Failure → String
  | .config _ => "config"
  | .locator _ => "locator"
  | .link _ => "link"
  | .output _ => "output"
  | .transport _ => "transport"
  | .consumer _ => "consumer"
  | .signal _ => "signal"

def message : Failure → String
  | .config e => "Configuration error: " ++ e.message
  | .locator e => "Invalid locator: " ++ e.message
  | .link e => "Link error: " ++ e.message
  | .output e => "Output error: " ++ e.message
  | .transport e => "Transport error: " ++ e.message
  | .consumer r => "Consumer task failed: " ++ r
  | .signal f => "Signal handler error: " ++ f.message

/-- The texts of what lies under a failure, the nearest first. -/
def causes : Failure → List String
  | .config e => e.message :: e.causes
  | .locator e => [e.message]
  | .link e => [e.message]
  | .output e => e.message :: (match e with
    | .file _ _ fault => [fault.message]
    | .rejected _ => [])
  | .transport e => e.message :: e.causes
  | .consumer _ => []
  | .signal f => [f.message]

end Failure

end SignalActuator
