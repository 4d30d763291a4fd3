/-
  Session options — where a session connects to, and as whom.

  * `SessionOptions` is everything that opens a session;
  * `SessionOptions.connect` is what the connection needs of it, or the refusal
    of a client without a name.
-/
import SignalActuator.Bus.Error

namespace SignalActuator.Bus

/-- The role of a session.  In both roles it connects to a broker: a peer to one
    on its own device. -/
inductive Mode where
  | client
  | peer
  deriving DecidableEq, Repr

def Mode.name : Mode → String
  | .client => "client"
  | .peer => "peer"

/-- The endpoint that stands for the empty locator. -/
def defaultEndpoint : String × UInt16 := ("127.0.0.1", 1883)

structure SessionOptions where
  clientId : String
  mode : Mode := .client
  locator : Option Locator := none
  username : Option String := none
  password : Option String := none
  /-- The longest silence on a connection, in seconds. -/
  keepAlive : Nat := 30
  connectTimeout : Duration := .ofSeconds 10
  /-- The room for messages that a subscriber has not taken yet. -/
  channelCapacity : UInt64 := 32
  deriving DecidableEq, Repr

def SessionOptions.endpoint (o : SessionOptions) : String × UInt16 :=
  match o.locator with
  | some l => (l.host, l.port)
  | none => defaultEndpoint

structure ConnectOptions where
  clientId : String
  host : String
  port : UInt16
  keepAlive : Nat
  /-- The broker forgets the subscriptions of earlier connections. -/
  cleanStart : Bool
  credentials : Option (String × String)
  deriving DecidableEq, Repr

/-- What the connection of a session is made with.  A password counts only beside
    a username, and a username alone has the empty one. -/
def SessionOptions.connect (o : SessionOptions) : Except Error ConnectOptions :=
  if o.clientId = "" then .error (.sessionOpenFailed "client id cannot be empty")
  else .ok
    { clientId := o.clientId
      host := o.endpoint.1
      port := o.endpoint.2
      keepAlive := o.keepAlive
      cleanStart := true
      credentials := o.username.map fun u => (u, o.password.getD "") }

end SignalActuator.Bus
