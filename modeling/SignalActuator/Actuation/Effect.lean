/-
  Effects — what the actuator does to the world, in order.

  The devices of the actuator keep their state in a parameter `σ`; they may
  refuse any call.  Every call, refused or not, leaves an effect in the trace.
-/
import SignalActuator.Bus.Error
import SignalActuator.Host.Files
import SignalActuator.Log.Record
import SignalActuator.Message
import SignalActuator.Output.Error

namespace SignalActuator.Actuation

/-- One thing done to the world, with what it was refused for. -/
inductive Effect where
  | wrote (path contents : String) (refusal : Option Host.Fault)
  | drove (level : Bool) (refusal : Option Output.Error)
  | put (message : Outbound) (refusal : Option Bus.Error)
  | logged (record : Log.Record)
  deriving DecidableEq

namespace Effect

def records (effects : List Effect) : List Log.Record :=
  effects.filterMap fun | .logged r => some r | _ => none

/-- The levels that the output line was brought to. -/
def levels (effects : List Effect) : List Bool :=
  effects.filterMap fun | .drove level none => some level | _ => none

/-- The messages that the bus took. -/
def messages (effects : List Effect) : List Outbound :=
  effects.filterMap fun | .put m none => some m | _ => none

def within (span : Log.Span) : Effect → Effect
  | .logged r => .logged (r.within span)
  | e => e

end Effect

/-- What a value refuses for, if it refuses. -/
def refusal? {ε α : Type} : Except ε α → Option ε
  | .ok _ => none
  | .error e => some e

/-- The answer of a device to a call: its next state, whether it complied, and
    what it did. -/
structure Answer (σ ε : Type) where
  state : σ
  result : Except ε Unit
  effects : List Effect

/-- A value reached by calls to devices, with their state and their effects. -/
structure Run (σ α : Type) where
  value : α
  state : σ
  effects : List Effect

structure Devices (σ : Type) where
  drive : Bool → σ → Answer σ Output.Error
  put : Outbound → σ → Answer σ Bus.Error

end SignalActuator.Actuation
