/-
  Traffic — a session at work: the loop that serves its connection, and all who
  declare, publish, receive and close while it does.

  The loop takes what the connection yields and finishes with it before it takes
  more.  Requests to the connection pass through a queue of bounded room, which
  is emptied only while the loop polls; messages pass through an inbox of
  bounded room per subscriber.  The parties move one at a time, in any order.

  A request may be forgotten as long as there is no connection, and one that was
  queued before the connection was acknowledged also later.

  * `Session.move` is what a move does, or nothing when it cannot be made now;
  * `Session.moves` makes any moves of the parties, and `Occurrence` is what can be
    seen of them.
-/
import SignalActuator.Bus.Session
import SignalActuator.Moves

namespace SignalActuator.Bus

structure Inbox where
  keyExpr : String
  messages : List Inbound := []
  taken : List Inbound := []
  open_ : Bool := true
  deriving DecidableEq

/-- Somebody who waits for room in the queue of requests. -/
inductive Waiter where
  /-- A subscriber is being declared, and its key-expression leads to its inbox. -/
  | declaration (keyExpr : String) (inbox : Nat)
  /-- A message is being put, for the subscriber with the given inbox if it is
      one that does. -/
  | publication (publication : Publication) (inbox : Option Nat)
  | farewell
  deriving DecidableEq

def Waiter.request : Waiter → Request
  | .declaration k _ => .subscribe k
  | .publication p _ => .publish p
  | .farewell => .disconnect

inductive Loop where
  | polling
  /-- The connection was acknowledged, and it is about to look up what to ask for. -/
  | acknowledged
  /-- It asks for the subscriptions that are left, one by one. -/
  | resubscribing (keys : List String)
  | addressing (m : Inbound)
  | forwarding (m : Inbound) (inbox : Nat)
  | pausing
  | stopped
  deriving DecidableEq

structure Session where
  inboxRoom : Nat
  state : SessionState := .connecting
  loop : Loop := .polling
  subscriptions : Subscriptions := []
  inboxes : List Inbox := []
  requests : List Request := []
  /-- So many of the first requests are older than the acknowledgement of the
      connection. -/
  old : Nat := 0
  waiting : List Waiter := []
  stopping : Bool := false
  /-- There is a connection, and these are its subscriptions at the broker. -/
  live : Bool := false
  subscribed : List String := []
  deriving DecidableEq

def requestRoom : Nat := 10

/-- A move of one of the parties. -/
inductive Move where
  /-- The loop takes what the connection yields. -/
  | yield (polled : Polled)
  /-- The connection sends the first request. -/
  | serve
  | forget (index : Nat)
  /-- The loop looks up the declared key-expressions. -/
  | survey
  | resubscribe
  | address
  | forward
  | resume
  /-- The loop notices that it was told to stop. -/
  | heed
  | declare (keyExpr : String)
  | put (keyExpr : String) (m : Outbound) (sent : Timestamp) (inbox : Option Nat)
  | bring (index : Nat)
  | take (inbox : Nat)
  | leave (inbox : Nat)
  /-- The four steps of closing, in order. -/
  | stopLoop
  | sayFarewell
  | markClosed
  | clear

/-- What can be seen of a move. -/
inductive Occurrence where
  | yielded (polled : Polled)
  /-- The key-expression leads to a new inbox from now on. -/
  | entered (keyExpr : String) (inbox : Nat)
  | declared (inbox : Nat)
  | handed (request : Request)
  | addressed (m : Inbound)
  | delivered (inbox : Nat) (m : Inbound)
  /-- A message was received that has no inbox, or one that is gone. -/
  | discarded (m : Inbound)
  | cleared
  | failed (error : Error)

namespace Session

def hasRoom (s : Session) : Bool :=
  s.requests.length < requestRoom

/-- Whether the consumer of an inbox waits to publish. -/
def consumerWaits (s : Session) (inbox : Nat) : Bool :=
  s.waiting.any fun | .publication _ i => i == some inbox | _ => false

def updateInbox (s : Session) (inbox : Nat) (f : Inbox → Inbox) : Session :=
  { s with inboxes := s.inboxes.modify inbox f }

/-- What the loop does with what the connection yields. -/
def receive (s : Session) (polled : Polled) : Session :=
  let s := { s with state := s.state.after polled }
  match polled with
  | .error _ => { s with loop := .pausing, live := false, subscribed := [] }
  | .ok event =>
    match event.route with
    | .connectionAcknowledged =>
      { s with loop := .acknowledged, live := true, subscribed := [], old := s.requests.length }
    | .messageReceived m => { s with loop := .addressing m }
    | .disconnected => { s with live := false, subscribed := [] }
    | _ => s

def serve (s : Session) : Option Session :=
  match s.requests with
  | [] => none
  | r :: requests =>
    let s := { s with requests, old := s.old - 1 }
    some (match r with
      | .subscribe k => { s with subscribed := s.subscribed ++ [k] }
      | .disconnect => { s with live := false, subscribed := [] }
      | .publish _ => s)

def forget (s : Session) (index : Nat) : Session :=
  { s with requests := s.requests.eraseIdx index
           old := if index < s.old then s.old - 1 else s.old }

def address (s : Session) (m : Inbound) : Session × List Occurrence :=
  match s.subscriptions.get? m.keyExpr with
  | some inbox => ({ s with loop := .forwarding m inbox }, [.addressed m])
  | none => ({ s with loop := .polling }, [.addressed m, .discarded m])

/-- Puts the message at hand into its inbox, if it has room. -/
def forward (s : Session) (m : Inbound) (inbox : Nat) : Option (Session × List Occurrence) :=
  match s.inboxes[inbox]? with
  | none => some ({ s with loop := .polling }, [.discarded m])
  | some box =>
    if ¬ box.open_ then some ({ s with loop := .polling }, [.discarded m])
    else if box.messages.length < s.inboxRoom then
      some ({ s with loop := .polling }.updateInbox inbox
        fun b => { b with messages := b.messages ++ [m] }, [.delivered inbox m])
    else none

/-- Brings the request of a waiter, if there is room.  When the loop has stopped,
    nobody takes requests any more; a declaration that fails takes its
    key-expression out of the subscriptions. -/
def bring (s : Session) (index : Nat) : Option (Session × List Occurrence) :=
  match s.waiting[index]? with
  | none => none
  | some w =>
    let s' := { s with waiting := s.waiting.eraseIdx index }
    if s.loop = .stopped then
      let cause := "Failed to send mqtt requests to eventloop"
      some (match w with
        | .declaration k _ =>
          ({ s' with subscriptions := s'.subscriptions.erase k },
           [.failed (.subscriptionFailed k cause)])
        | .publication _ _ => (s', [.failed (.publishFailed cause)])
        | .farewell => (s', []))
    else if s.hasRoom then
      let s' := { s' with requests := s'.requests ++ [w.request] }
      some (match w with
        | .declaration _ inbox => (s', [.handed w.request, .declared inbox])
        | _ => (s', [.handed w.request]))
    else none

/-- Begins to declare a subscriber: its key-expression leads to a new inbox from
    now on. -/
def declare (s : Session) (keyExpr : String) : Session × List Occurrence :=
  match KeyExpr.validate keyExpr with
  | .error e => (s, [.failed (.invalidKeyExpr e)])
  | .ok () =>
    let inbox := s.inboxes.length
    ({ s with inboxes := s.inboxes ++ [{ keyExpr }]
              subscriptions := s.subscriptions.insert keyExpr inbox
              waiting := s.waiting ++ [.declaration keyExpr inbox] }, [.entered keyExpr inbox])

/-- What a move does, or nothing when it cannot be made now. -/
def move (s : Session) : Move → Option (Session × List Occurrence)
  | .yield polled =>
    if s.loop = .polling then some (s.receive polled, [.yielded polled]) else none
  | .serve => if s.loop = .polling ∧ s.live then s.serve.map (·, []) else none
  | .forget i => if s.live ∧ s.old ≤ i then none else some (s.forget i, [])
  | .survey =>
    if s.loop = .acknowledged then
      some ({ s with loop := .resubscribing s.subscriptions.keys }, [])
    else none
  | .resubscribe =>
    match s.loop with
    | .resubscribing [] => some ({ s with loop := .polling }, [])
    | .resubscribing (k :: ks) =>
      if s.hasRoom then
        some ({ s with loop := .resubscribing ks, requests := s.requests ++ [.subscribe k] },
          [.handed (.subscribe k)])
      else none
    | _ => none
  | .address =>
    match s.loop with
    | .addressing m => some (s.address m)
    | _ => none
  | .forward =>
    match s.loop with
    | .forwarding m inbox => s.forward m inbox
    | _ => none
  | .resume => if s.loop = .pausing then some ({ s with loop := .polling }, []) else none
  | .heed =>
    if s.stopping ∧ (s.loop = .polling ∨ s.loop = .pausing) then
      some ({ s with loop := .stopped, live := false, subscribed := [] }, [])
    else none
  | .declare k => some (s.declare k)
  | .put k m sent inbox =>
    if inbox.any s.consumerWaits then none
    else some (match publication s.state k m sent with
      | .error e => (s, [.failed e])
      | .ok p => ({ s with waiting := s.waiting ++ [.publication p inbox] }, []))
  | .bring i => s.bring i
  | .take i =>
    if s.consumerWaits i then none
    else match (s.inboxes[i]?).bind (·.messages.head?) with
      | none => none
      | some m => some (s.updateInbox i fun b =>
          { b with messages := b.messages.tail, taken := b.taken ++ [m] }, [])
  | .leave i => some (s.updateInbox i fun b => { b with open_ := false, messages := [] }, [])
  | .stopLoop => some ({ s with stopping := true }, [])
  | .sayFarewell => some ({ s with waiting := s.waiting ++ [.farewell] }, [])
  | .markClosed => some ({ s with state := .closed }, [])
  | .clear => some ({ s with subscriptions := [] }, [.cleared])

/-- Makes moves in order, passing over those that cannot be made. -/
def moves (ms : List Move) (s : Session) : Session × List Occurrence :=
  Moves.run (fun m s => s.move m) ms s

end Session

end SignalActuator.Bus
