/-
  Environments — the variables that a program is started with.
-/
import SignalActuator.Text.Utf8

namespace SignalActuator.Host

/-- Names with their values, which need not be texts. -/
structure Environment where
  entries : List (String × List UInt8) := []
  deriving DecidableEq, Repr

/-- The value of a variable.  One that is no text is as good as unset, and the
    empty name belongs to no variable. -/
def Environment.text? (env : Environment) (name : String) : Option String :=
  if name = "" then none
  else (env.entries.find? fun v => v.1 == name).bind fun v => Utf8.decode? v.2

end SignalActuator.Host
