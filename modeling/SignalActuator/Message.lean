/-
  Messages — what the bus delivers to a provider and what it publishes, apart
  from the packets that carry them.
-/
import SignalActuator.Signal
import SignalActuator.Timestamp

namespace SignalActuator

structure Inbound where
  keyExpr : String
  payload : List UInt8
  encoding : Option String := none
  attachment : Option (List UInt8) := none
  timestamp : Option Timestamp := none
  deriving DecidableEq

namespace Inbound

def kind (m : Inbound) : Signal.Kind :=
  .classify m.attachment

def payloadText (m : Inbound) : String :=
  Utf8.decodeLossy m.payload

def encodingLabel (m : Inbound) : String :=
  m.encoding.getD "none"

def timestampLabel (m : Inbound) : String :=
  (m.timestamp.map Timestamp.toText).getD "none"

end Inbound

/-- A tagged value to publish.  The time of sending is not part of it: it is
    read when the message is put into a packet. -/
structure Outbound where
  payload : List UInt8
  attachment : String
  encoding : String
  deriving DecidableEq, Repr

namespace Outbound

/-- The encoding of every published value. -/
def textEncoding : String := "text/plain;charset=utf-8"

def currentValue (value : Bool) : Outbound :=
  ⟨Signal.payload value, Signal.currentValueTag, textEncoding⟩

def targetValue (value : Bool) : Outbound :=
  ⟨Signal.payload value, Signal.targetValueTag, textEncoding⟩

def kind (m : Outbound) : Signal.Kind :=
  .classify (some (Utf8.encode m.attachment))

end Outbound

end SignalActuator
