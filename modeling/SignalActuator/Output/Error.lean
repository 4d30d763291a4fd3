/-
  Output failures — why an output line was not driven.
-/
import SignalActuator.Host.Fault

namespace SignalActuator.Output

inductive Error where
  | file (pin : UInt32) (path : String) (fault : Host.Fault)
  | rejected (reason : String)
  deriving DecidableEq, Repr

def Error.message : Error → String
  | .file pin path fault =>
    "GPIO " ++ toString pin.toNat ++ " I/O error on " ++ path ++ ": " ++ fault.message
  | .rejected reason => "Output rejected level change: " ++ reason

end SignalActuator.Output
