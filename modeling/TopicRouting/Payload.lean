import TopicRouting.Error
import TopicRouting.Json.Reader
import TopicRouting.Json.Writer

/-! Payloads of messages as bytes. A payload goes out as JSON; what has no JSON form goes out
as its plain text, and byte strings go out as they are. A number of too many digits has neither
text, and no text has too many brackets inside each other. -/
namespace TopicRouting.Payload

def bytesOf (text : Text) : ByteArray := (String.ofList text).toUTF8

/-- How many brackets may stand inside each other in a plain text. -/
def plainLimit : Nat := Json.depthLimit + 3

def write (payload : Value) : Except WriteError Text :=
  match Json.write payload with
  | .ok text => .ok text
  | .error .tooDeep => .error .tooDeep
  | .error _ => payload.plainWithin plainLimit

def encode : Value → Except Error ByteArray
  | .bytes b | .byteArray b => .ok b
  | payload => ((write payload).mapError Error.ofWrite).map bytesOf

def textOf (b : ByteArray) : Option Text := b.utf8Decode?.map Array.toList

def ofText (text : Text) : Except Error (Option Value) :=
  match Json.read text with
  | .ok v => .ok (some v)
  | .error .tooDeep => .error .tooDeep
  | .error _ => .ok none

/-- Reads a received payload: the value if it is JSON. Only texts, byte strings and no
payload at all can be received; anything else is refused. -/
def decode : Value → Except Error (Option Value)
  | .null => .ok none
  | .text t => ofText t
  | .bytes b | .byteArray b =>
      match textOf b with
      | some t => ofText t
      | none => .ok none
  | _ => .error .wrongType

end TopicRouting.Payload
