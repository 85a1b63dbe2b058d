import TopicRouting.Text

/-! What a client answers to a request at once: a result code, zero for success. -/
namespace TopicRouting.Broker.ResultCode

def success : Int := 0

def text : Int → Text
  | 1 => "Out of memory."
  | 2 => "A network protocol error occurred when communicating with the broker."
  | 3 => "Invalid function arguments provided."
  | 4 => "The client is not currently connected."
  | 5 => "The connection was refused."
  | 6 => "Message not found (internal error)."
  | 7 => "The connection was lost."
  | 8 => "A TLS error occurred."
  | 9 => "Payload too large."
  | 10 => "This feature is not supported."
  | 11 => "Authorisation failed."
  | 12 => "Access denied by ACL."
  | 14 => "Error defined by errno."
  | 15 => "Message queue full."
  | 16 => "Client or broker did not communicate in the keepalive interval."
  | _ => "Unknown error."

end TopicRouting.Broker.ResultCode
