/-
  The context — an engine on its declared key-expression.

  Messages are handled one at a time, in order.  Each one is counted and its
  handling is a span of the log; a message on another key-expression is
  dropped before the engine sees it.

  * `Context.process` handles a message and `Context.processAll` a list;
  * `Context.consume` is the work of a consumer whose messages end.
-/
import SignalActuator.Actuation.Engine

namespace SignalActuator.Actuation

/-- An engine, the key-expression it serves and the number of messages it was
    given. -/
structure Context where
  keyExpr : String
  engine : Engine
  handled : UInt64 := 0
  deriving DecidableEq, Repr

def actuationSpan (m : Inbound) (seq : UInt64) : Log.Span where
  name := "actuation"
  component := .consumer
  fields := [("key_expr", .shown m.keyExpr), ("kind", .shown m.kind.name),
    ("seq", .number seq.toNat)]

def receivedRecord (m : Inbound) : Log.Record :=
  Log.record .info .consumer "Received message"
    [("payload", .shown m.payloadText), ("encoding", .word m.encodingLabel),
     ("timestamp", .shown m.timestampLabel)]

namespace Context

variable {σ : Type}

def process (dev : Devices σ) (c : Context) (m : Inbound) (s : σ) : Run σ (Outcome × Context) :=
  let c := { c with handled := c.handled + 1 }
  let inSpan := List.map (Effect.within (actuationSpan m c.handled))
  let received := .logged (receivedRecord m)
  if KeyExpr.covers c.keyExpr m.keyExpr then
    let r := c.engine.handle dev m s
    let handledRecord := Log.record .debug .consumer "Message handled"
      [("outcome", .shown r.value.1.describe)]
    ⟨(r.value.1, { c with engine := r.value.2 }), r.state,
      inSpan (received :: r.effects ++ [.logged handledRecord])⟩
  else
    ⟨(.offTopic, c), s,
      inSpan [received, .logged (Log.record .debug .consumer
        "Message on unexpected key-expression dropped" [("expected", .shown c.keyExpr)])]⟩

def processAll (dev : Devices σ) (c : Context) : List Inbound → σ → Run σ (List Outcome × Context)
  | [], s => ⟨([], c), s, []⟩
  | m :: ms, s =>
    let r := c.process dev m s
    let rest := r.value.2.processAll dev ms r.state
    ⟨(r.value.1 :: rest.value.1, rest.value.2), rest.state, r.effects ++ rest.effects⟩

def startedRecord (keyExpr : String) : Log.Record :=
  Log.record .info .consumer "Consumer started" [("key_expr", .shown keyExpr)]

def stoppedRecord (c : Context) : Log.Record :=
  Log.record .info .consumer "Subscriber closed, consumer stopping"
    [("handled", .number c.handled.toNat)]

/-- Handles the messages of a subscription from its beginning to its end. -/
def consume (dev : Devices σ) (c : Context) (subscription : String) (ms : List Inbound) (s : σ) :
    Run σ Context :=
  let r := c.processAll dev ms s
  ⟨r.value.2, r.state,
    .logged (startedRecord subscription) :: r.effects ++ [.logged (stoppedRecord r.value.2)]⟩

end Context

end SignalActuator.Actuation
