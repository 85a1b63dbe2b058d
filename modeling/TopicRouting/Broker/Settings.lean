import TopicRouting.Url

/-! How to reach a broker, as the parts of its URL say. -/
namespace TopicRouting.Broker

inductive Scheme where
  | mqtt
  | tcp
  | mqtts
  | ssl
  deriving DecidableEq, Repr

namespace Scheme

def all : List Scheme := [mqtt, tcp, mqtts, ssl]

def name : Scheme → Text
  | mqtt => "mqtt"
  | tcp => "tcp"
  | mqtts => "mqtts"
  | ssl => "ssl"

def ofName? (name : Text) : Option Scheme := all.find? fun s => s.name == name

def isSecure : Scheme → Bool
  | mqtt | tcp => false
  | mqtts | ssl => true

def defaultPort (s : Scheme) : Nat := if s.isSecure then 8883 else 1883

end Scheme

structure Settings where
  host : Text
  port : Nat
  user : Option Text
  password : Option Text
  secure : Bool
  deriving DecidableEq, Repr

namespace Settings

def localHost : Text := "localhost"

/-- The settings of a URL whose scheme is known. A port that is missing or zero is the usual
one of the scheme. -/
def ofScheme (scheme : Scheme) (u : Url) : Except ValueError Settings := do
  let port ← u.port?
  let port := match port with
    | none | some 0 => scheme.defaultPort
    | some n => n
  .ok ⟨u.host?.getD localHost, port, u.user, u.password, scheme.isSecure⟩

def read (given : Value) : Except Error Settings := do
  let (u, shown) ← Url.ofValue given
  match shown, Scheme.ofName? u.scheme with
  | .text _, some scheme => (ofScheme scheme u).mapError .value
  | _, _ => .error (.value (.scheme shown.literal))

end Settings
end TopicRouting.Broker
