/-
  The engine — from messages to output levels and reports.

  A request sets the output line and is then confirmed by a report of the
  value; nothing is reported that was not set.  All other messages leave the
  output line alone.

  * `Engine.create` drives the line low;
  * `Engine.command` obeys the payload of a request, and `Engine.handle` sorts
    a message by its kind first.
-/
import SignalActuator.Actuation.Effect
import SignalActuator.Text.Quoted

namespace SignalActuator.Actuation

inductive Outcome where
  /-- It came on another key-expression than the declared one. -/
  | offTopic
  | ignored (kind : Signal.Kind)
  | rejected
  | outputFailed
  /-- The value is set; `confirmed` tells whether the bus took the report. -/
  | actuated (value confirmed : Bool)
  deriving DecidableEq, Repr

def kindText : Signal.Kind → String
  | .currentValue => "CurrentValue"
  | .targetValue => "TargetValue"
  | .unknown => "Unknown"

def Outcome.describe : Outcome → String
  | .offTopic => "OffTopic"
  | .ignored k => "Ignored(" ++ kindText k ++ ")"
  | .rejected => "Rejected"
  | .outputFailed => "OutputFailed"
  | .actuated v c => "Actuated \x7b value: " ++ Signal.valueText v ++ ", confirmed: " ++
      Signal.valueText c ++ " \x7d"

/-- The engine: the level last set, and the key-expression it reports on. -/
structure Engine where
  level : Bool
  reportsOn : String
  deriving DecidableEq, Repr

namespace Engine

variable {σ : Type}

/-- Drives the output line low; a line that refuses makes no engine. -/
def create (dev : Devices σ) (reportsOn : String) (s : σ) :
    Run σ (Except Output.Error Engine) :=
  let a := dev.drive false s
  match a.result with
  | .ok () => ⟨.ok ⟨false, reportsOn⟩, a.state, a.effects⟩
  | .error e => ⟨.error e, a.state, a.effects⟩

/-- Reports a value; whether the bus took the report. -/
def confirm (dev : Devices σ) (e : Engine) (value : Bool) (s : σ) : Run σ Bool :=
  let a := dev.put (.currentValue value) s
  match a.result with
  | .ok () =>
    ⟨true, a.state, a.effects ++
      [.logged (Log.record .debug .confirmation "Published current value"
        [("key_expr", .shown e.reportsOn), ("value", .flag value)])]⟩
  | .error err =>
    ⟨false, a.state, a.effects ++
      [.logged (Log.record .warn .confirmation "Failed to publish current value"
        [("key_expr", .shown e.reportsOn), ("value", .flag value),
         ("error", .shown err.message)])]⟩

def command (dev : Devices σ) (e : Engine) (payload : List UInt8) (s : σ) :
    Run σ (Outcome × Engine) :=
  match Signal.command? payload with
  | none =>
    ⟨(.rejected, e), s,
      [.logged (Log.record .warn .engine "Unknown command payload, message dropped"
        [("payload", .shown (Utf8.decodeLossy payload))])]⟩
  | some value =>
    let a := dev.drive value s
    match a.result with
    | .error err =>
      ⟨(.outputFailed, e), a.state, a.effects ++
        [.logged (Log.record .warn .engine "Failed to drive output"
          [("value", .flag value), ("error", .shown err.message)])]⟩
    | .ok () =>
      let e := { e with level := value }
      let r := e.confirm dev value a.state
      ⟨(.actuated value r.value, e), r.state, a.effects ++
        .logged (Log.record .info .engine "Actuator set" [("value", .flag value)]) :: r.effects⟩

def attachmentText : Option (List UInt8) → String
  | none => "None"
  | some a => "Some(" ++ Text.quote (Utf8.decodeLossy a) ++ ")"

def handle (dev : Devices σ) (e : Engine) (m : Inbound) (s : σ) : Run σ (Outcome × Engine) :=
  match m.kind with
  | .targetValue => e.command dev m.payload s
  | .currentValue =>
    ⟨(.ignored .currentValue, e), s,
      [.logged (Log.record .debug .engine "Ignoring current value echo"
        [("payload", .shown m.payloadText)])]⟩
  | .unknown =>
    ⟨(.ignored .unknown, e), s,
      [.logged (Log.record .info .engine "Unknown signal type, message dropped"
        [("attachment", .shown (attachmentText m.attachment))])]⟩

end Engine

end SignalActuator.Actuation
