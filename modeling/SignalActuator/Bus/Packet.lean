/-
  Packets — the events of a connection to the bus, and the messages in them.

  The attachment and the time stamp of a message travel as the user properties
  `attachment` and `timestamp`, the encoding as the content type.

  * `Publish.inbound` reads the message out of a packet: of several user
    properties with one name the first counts, and a time stamp that does not
    parse is as good as none;
  * `Properties.ofOutbound` writes the properties of a message;
  * `Event.route` says what each event means to a session.
-/
import SignalActuator.Message

namespace SignalActuator.Bus

/-! ## Publications -/

structure Properties where
  contentType : Option String := none
  user : List (String × String) := []
  deriving DecidableEq, Repr

def attachmentProperty : String := "attachment"

def timestampProperty : String := "timestamp"

/-- The value of the first user property with a name. -/
def Properties.user? (p : Properties) (name : String) : Option String :=
  (p.user.find? fun x => x.1 == name).map (·.2)

def Properties.ofOutbound (m : Outbound) (sent : Timestamp) : Properties where
  contentType := some m.encoding
  user := [(attachmentProperty, m.attachment), (timestampProperty, sent.toText)]

structure Publish where
  topic : List UInt8
  payload : List UInt8
  properties : Option Properties := none
  deriving DecidableEq, Repr

def Publish.inbound (p : Publish) : Inbound where
  keyExpr := Utf8.decodeLossy p.topic
  payload := p.payload
  encoding := p.properties.bind (·.contentType)
  attachment := p.properties.bind fun q => (q.user? attachmentProperty).map Utf8.encode
  timestamp := p.properties.bind fun q => (q.user? timestampProperty).bind Timestamp.parse?

def Publish.ofOutbound (keyExpr : String) (m : Outbound) (sent : Timestamp) : Publish where
  topic := Utf8.encode keyExpr
  payload := m.payload
  properties := some (.ofOutbound m sent)

/-! ## Events -/

/-- The broker's answer to one topic of a subscription. -/
inductive SubscribeCode where
  | granted (qos : Fin 3)
  | implementationSpecific
  | notAuthorized
  | topicFilterInvalid
  | quotaExceeded
  | unspecified
  deriving DecidableEq, Repr

namespace SubscribeCode

/-- The answer with a reason code; codes without a meaning of their own are
    unspecified failures. -/
def ofCode : Nat → SubscribeCode
  | 0 => .granted 0
  | 1 => .granted 1
  | 2 => .granted 2
  | 131 => .implementationSpecific
  | 135 => .notAuthorized
  | 143 => .topicFilterInvalid
  | 151 => .quotaExceeded
  | _ => .unspecified

def name : SubscribeCode → String
  | .granted 0 => "Success(AtMostOnce)"
  | .granted 1 => "Success(AtLeastOnce)"
  | .granted 2 => "Success(ExactlyOnce)"
  | .implementationSpecific => "ImplementationSpecific"
  | .notAuthorized => "NotAuthorized"
  | .topicFilterInvalid => "TopicFilterInvalid"
  | .quotaExceeded => "QuotaExceeded"
  | .unspecified => "Unspecified"

end SubscribeCode

/-- A packet that keeps the connection going and carries no message. -/
inductive Upkeep where
  | pingRequest
  | pingResponse
  | publishAck (id : UInt16) (matched : Bool)
  | unsubscribeAck (id : UInt16)
  deriving DecidableEq, Repr

def Upkeep.describe : Upkeep → String
  | .pingRequest => "PingReq(PingReq)"
  | .pingResponse => "PingResp(PingResp)"
  | .publishAck id m =>
    "PubAck(PubAck \x7b pkid: " ++ toString id.toNat ++ ", reason: " ++
      (if m then "Success" else "NoMatchingSubscribers") ++ ", properties: None \x7d)"
  | .unsubscribeAck id =>
    "UnsubAck(UnsubAck \x7b pkid: " ++ toString id.toNat ++
      ", reasons: [Success], properties: None \x7d)"

/-- What a connection reports: a packet that came in, or that one went out. -/
inductive Event where
  | connectAck
  | publish (packet : Publish)
  | disconnect
  | subscribeAck (id : UInt16) (codes : List SubscribeCode)
  | upkeep (packet : Upkeep)
  | outgoing
  deriving DecidableEq, Repr

/-- What an event means to a session. -/
inductive Route where
  | connectionAcknowledged
  | messageReceived (message : Inbound)
  | disconnected
  | subscriptionConfirmed (id : UInt16) (summary : String)
  | infrastructure (text : String)
  | outgoing
  deriving DecidableEq

def bracketed (xs : List String) : String :=
  "[" ++ ", ".intercalate xs ++ "]"

def Event.route : Event → Route
  | .connectAck => .connectionAcknowledged
  | .publish p => .messageReceived p.inbound
  | .disconnect => .disconnected
  | .subscribeAck id codes => .subscriptionConfirmed id (bracketed (codes.map (·.name)))
  | .upkeep p => .infrastructure p.describe
  | .outgoing => .outgoing

end SignalActuator.Bus
