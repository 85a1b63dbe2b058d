import TopicRouting.Broker.Reason

/-! What passes between a bus and its client: requests of the bus, which the client answers at
once with a result, and signals of the client, which the bus handles one by one later. -/
namespace TopicRouting.Broker

inductive Request where
  | create (clientId reconnect : Value)
  | credentials (user : Text) (password : Option Text)
  | secure
  | connect (host : Text) (port : Nat) (keepalive : Value)
  | start
  | stop
  | disconnect
  | subscribe (topic : Text) (qos : Value)
  | unsubscribe (topic : Text)
  | publish (topic : Text) (payload : ByteArray) (qos retain : Value)

/-- What a client answers at once: why it does not try to connect, if so, what keeps it from
subscribing, if anything does, and for all other requests a result code and the number of the
message. -/
structure Answer where
  connectError : Option Text := none
  subscribeError : Option Error := none
  code : Int := 0
  message : Int := 1

inductive Signal where
  | connected (reason : Reason)
  | connectFailed
  | disconnected (reason : Reason)
  | acknowledged (message : Int) (reasons : Option (List Reason))
  | published (message : Int) (reason : Option Reason)

end TopicRouting.Broker
