import TopicRouting.Broker.Exchange

/-! A client without a network: it numbers the messages and answers every request by itself,
as it is told to. -/
namespace TopicRouting.Broker.Loopback

inductive Response where
  | connected
  | failed
  | silent
  deriving DecidableEq, Repr

inductive Granted where
  | requested
  | fixed (reasons : Option (List Reason))

structure Conduct where
  response : Response := .connected
  connack : Reason := .code 0
  connectError : Option Text := none
  acknowledges : Bool := true
  granted : Granted := .requested
  released : Option (List Reason) := some []
  published : Option Reason := some (.code 0)
  code : Int := 0

structure Client where
  conduct : Conduct
  sent : Nat := 0

namespace Client

def grants (c : Client) (qos : Value) : Except Error (Option (List Reason)) :=
  match c.conduct.granted with
  | .requested => (Reason.ofQuality qos).map fun reason => some [reason]
  | .fixed reasons => .ok reasons

def answer (c : Client) (qos : Option Value) : Answer :=
  { connectError := c.conduct.connectError
    subscribeError := (qos.filter fun _ => c.conduct.acknowledges).bind fun qos =>
      match c.grants qos with
      | .error e => some e
      | .ok _ => none
    code := c.conduct.code
    message := Int.ofNat (c.sent + 1) }

def send (c : Client) (signal : Int → Signal) : Client × List Signal :=
  ({ c with sent := c.sent + 1 },
    if c.conduct.acknowledges then [signal (Int.ofNat (c.sent + 1))] else [])

def perform (c : Client) : Request → Client × List Signal
  | .start =>
      match c.conduct.response with
      | .connected => (c, [.connected c.conduct.connack])
      | .failed => (c, [.connectFailed])
      | .silent => (c, [])
  | .disconnect => (c, [.disconnected (.code 0)])
  | .subscribe _ qos =>
      match c.grants qos with
      | .ok reasons => c.send fun n => .acknowledged n reasons
      | .error _ => ({ c with sent := c.sent + 1 }, [])
  | .unsubscribe _ => c.send fun n => .acknowledged n c.conduct.released
  | .publish .. => c.send fun n => .published n c.conduct.published
  | _ => (c, [])

end Client
end TopicRouting.Broker.Loopback
