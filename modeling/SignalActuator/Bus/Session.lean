/-
  Sessions — declaring subscribers and publishers, and publishing.

  * `SessionState.after` is how the events of the connection change the state of
    a session;
  * `Subscriptions` knows the one inbox that each key-expression leads to;
  * `declarePublisher` and `publication` are what a state allows.
-/
import SignalActuator.Bus.Options
import SignalActuator.Bus.Packet
import SignalActuator.Bus.State

namespace SignalActuator.Bus

/-! ## States -/

/-- What the connection yields: an event, or the text of what broke it. -/
abbrev Polled := Except String Event

def brokerReason : String := "disconnected by broker"

/-- The state after the connection has yielded something.  Only an
    acknowledgement, a farewell of the broker and a failure change it. -/
def SessionState.after (s : SessionState) : Polled → SessionState
  | .error reason => .disconnected reason
  | .ok event =>
    match event.route with
    | .connectionAcknowledged => .connected
    | .disconnected => .disconnected brokerReason
    | _ => s

/-- What opening a session comes to in a state; nothing as long as the broker has
    not answered. -/
def SessionState.opening? : SessionState → Option (Except Error Unit)
  | .connecting => none
  | .connected => some (.ok ())
  | .disconnected reason => some (.error (.sessionOpenFailed reason))
  | .closed => some (.error (.sessionOpenFailed "session closed"))

/-- Opens a session whose connection goes through the given states in time. -/
def SessionOptions.open_ (o : SessionOptions) (states : List SessionState) :
    Except Error ConnectOptions := do
  let connection ← o.connect
  match states.findSome? SessionState.opening? with
  | some verdict => verdict
  | none => throw (.connectTimeout o.connectTimeout)
  return connection

/-! ## Requests -/

/-- A publication that a session sends: at least once, and not kept by the broker. -/
structure Publication where
  packet : Publish
  qos : Nat := 1
  retain : Bool := false
  deriving DecidableEq, Repr

inductive Request where
  | subscribe (keyExpr : String)
  | publish (publication : Publication)
  | disconnect
  deriving DecidableEq, Repr

def declarePublisher (state : SessionState) (keyExpr : String) : Except Error Unit := do
  (KeyExpr.validate keyExpr).mapError .invalidKeyExpr
  if state = .closed then
    throw (.publisherDeclarationFailed keyExpr ("session is " ++ state.describe))

/-- The publication of a message that is put at the time `sent`; only a connected
    session takes it. -/
def publication (state : SessionState) (keyExpr : String) (m : Outbound) (sent : Timestamp) :
    Except Error Publication :=
  if state = .connected then .ok { packet := .ofOutbound keyExpr m sent }
  else .error (.notConnected state.describe)

/-! ## Subscriptions -/

/-- The number of the inbox that each declared key-expression leads to. -/
abbrev Subscriptions := List (String × Nat)

namespace Subscriptions

def get? (s : Subscriptions) (keyExpr : String) : Option Nat :=
  (s.find? fun e => e.1 == keyExpr).map (·.2)

def erase (s : Subscriptions) (keyExpr : String) : Subscriptions :=
  s.filter fun e => e.1 != keyExpr

/-- The subscriptions with a key-expression leading to an inbox, and to no other. -/
def insert (s : Subscriptions) (keyExpr : String) (inbox : Nat) : Subscriptions :=
  s.erase keyExpr ++ [(keyExpr, inbox)]

def keys (s : Subscriptions) : List String :=
  s.map (·.1)

@[simp] theorem mem_keys_insert {s : Subscriptions} {k x : String} {i : Nat} :
    x ∈ (s.insert k i).keys ↔ x = k ∨ x ∈ s.keys := by
  by_cases hx : x = k <;> simp [keys, insert, erase, hx]

theorem get?_erase (s : Subscriptions) (k x : String) :
    (s.erase k).get? x = if x = k then none else s.get? x := by
  by_cases hx : x = k
  · have hnone : (s.erase k).find? (fun e => e.1 == x) = none := by
      simp +contextual [erase, hx]
    rw [get?, hnone, if_pos hx]
    rfl
  · rw [get?, erase, List.find?_filter, get?, if_neg hx]
    congr 2
    funext e
    by_cases he : e.1 = x <;> simp [he, hx]

theorem get?_insert (s : Subscriptions) (k x : String) (i : Nat) :
    (s.insert k i).get? x = if x = k then some i else s.get? x := by
  have herase := get?_erase s k x
  by_cases hx : x = k
  · have hnone : (s.erase k).find? (fun e => e.1 == x) = none := by
      rw [if_pos hx] at herase
      exact Option.map_eq_none_iff.1 herase
    rw [get?, insert, List.find?_append, hnone, if_pos hx]
    simp [hx]
  · have hk : (k == x) = false := by simpa using fun h : k = x => hx h.symm
    rw [if_neg hx] at herase
    rw [if_neg hx, ← herase, get?, get?, insert, List.find?_append]
    simp [hk]

end Subscriptions

end SignalActuator.Bus
