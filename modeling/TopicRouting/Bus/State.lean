import TopicRouting.Broker.Exchange
import TopicRouting.Broker.Settings
import TopicRouting.Metrics
import TopicRouting.Router.Dispatch

/-! The state of a bus: its connection, the calls that wait for an answer of the broker, and
the topics it is subscribed to. Messages go through its router. -/
namespace TopicRouting.Bus

inductive Status where
  | ready
  | connecting
  | connected
  | reconnecting
  | offline
  | closed
  | error
  deriving DecidableEq, Repr

def Status.name : Status → Text
  | ready => "ready"
  | connecting => "connecting"
  | connected => "connected"
  | reconnecting => "reconnecting"
  | offline => "offline"
  | closed => "closed"
  | error => "error"

inductive Patience where
  | endless
  | none
  | limited
  | unordered
  | unbounded
  deriving DecidableEq, Repr

/-- A waiting time of zero or less is no patience; no time at all is endless patience. -/
def Patience.ofSeconds : Value → Patience
  | .null => endless
  | .float x => if x.isAtMostZero then none else limited
  | v =>
      match v.whole? with
      | some n =>
          if n ≤ 0 then none
          else if (Binary64.ofInt n).isInfinite then unbounded
          else limited
      | _ => unordered

def Patience.fault? : Patience → Option Error
  | unordered => some .wrongType
  | unbounded => some .overflow
  | _ => Option.none

structure Options where
  clientId : Value
  keepalive : Value
  qos : Value
  reconnect : Value
  timeout : Value

def Options.patience (o : Options) : Patience := Patience.ofSeconds o.timeout

def Options.seconds (o : Options) : Text := o.timeout.plain

abbrev CallId := Nat

inductive Answer where
  | connected (reason : Broker.Reason)
  | acknowledged (reasons : Option (List Broker.Reason))
  | published (message : Int)

/-- The answer that a call waits for. It is settled at most once. -/
inductive Future where
  | open
  | settled (answer : Except BusError Answer)
  | cancelled

def Future.isOpen : Future → Bool
  | .open => true
  | _ => false

inductive Purpose where
  | connect
  | close
  | subscribe (label : Label) (topic : Text) (qos : Value)
  | unsubscribe (label : Label) (topic : Text) (clears : Bool)
  | publish (label : Label) (topic : Text) (qos retain : Value)

/-- How a call goes on after the loop of its client has stopped. -/
inductive Ending where
  | closed
  | timedOut
  | failed (error : Error)

structure Call where
  id : CallId
  purpose : Purpose
  message : Option Int := none
  future : Future := .open
  expired : Bool := false
  ending : Option Ending := none

structure State where
  options : Options
  settings : Broker.Settings
  logger : Logger
  routerLogger : Logger
  router : Router := {}
  metrics : Metrics := {}
  status : Status := .ready
  statusError : Option BusError := none
  client : Option Nat := none
  created : Nat := 0
  /-- The call that the next answer to a connection attempt belongs to. -/
  connecting : Option CallId := none
  /-- The calls that wait for an acknowledgement, by the number of its message. -/
  pending : List (Int × CallId) := []
  subscriptions : List (Text × Value) := []
  closing : Bool := false
  calls : List Call := []

inductive Reply where
  | connected (reason : Broker.Reason)
  | closed
  | granted (codes : List Value)
  | unsubscribed
  | published (topic : Text)

inductive Output where
  | logged (record : Record)
  | requested (client : Nat) (request : Broker.Request)
  | dispatched (output : Router.Output)
  | unhandled (error : Error)
  | armed (call : CallId)
  | woken (call : CallId)
  | expired (call : CallId)
  | stopping (call : CallId)
  | finished (call : CallId) (result : Except Error Reply)

namespace State

def isAvailable (s : State) : Bool := s.client.isSome

def topics (s : State) : List Text := s.subscriptions.map (·.1)

def call? (s : State) (id : CallId) : Option Call := s.calls.find? (·.id == id)

def changeCall (s : State) (id : CallId) (f : Call → Call) : State :=
  { s with calls := s.calls.map fun c => if c.id == id then f c else c }

def dropCall (s : State) (id : CallId) : State :=
  { s with calls := s.calls.filter (·.id != id) }

def putPending (message : Int) (id : CallId) : List (Int × CallId) → List (Int × CallId)
  | [] => [(message, id)]
  | (m, i) :: rest =>
      if m = message then (m, id) :: rest else (m, i) :: putPending message id rest

def dropPending (s : State) (message : Int) : State :=
  { s with pending := s.pending.filter (·.1 != message) }

def putSubscription (topic : Text) (qos : Value) : List (Text × Value) → List (Text × Value)
  | [] => [(topic, qos)]
  | (t, q) :: rest =>
      if t = topic then (t, qos) :: rest else (t, q) :: putSubscription topic qos rest

def setSubscriptions (s : State) (subscriptions : List (Text × Value)) : State :=
  { s with
    subscriptions := subscriptions
    metrics := { s.metrics with subscriptions := subscriptions.length } }

def log (s : State) (severity : Severity) (message : Text) (fields : Dict) : List Output :=
  (s.logger.record? severity message fields).map .logged

def request (s : State) (r : Broker.Request) : List Output :=
  (s.client.map fun n => Output.requested n r).toList

end State
end TopicRouting.Bus
