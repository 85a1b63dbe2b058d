import TopicRouting.Broker.ResultCode
import TopicRouting.Draft
import TopicRouting.Label

/-! What can go wrong, by cause. Every cause has one message; the kind says how it is caught. -/
namespace TopicRouting

inductive PatternError where
  | notText
  | multiNotLast (pattern level : Text)
  deriving DecidableEq, Repr

def PatternError.message : PatternError → Text
  | notText => "pattern must be a string, got None"
  | multiNotLast pattern level =>
      "# wildcard must be at the end of the pattern (" ++ pattern.quoted ++ ", segment " ++
        level.quoted ++ ")"

inductive ParameterError where
  | unnamed (level pattern : Text)
  | missing (name pattern : Text)
  | notList (name typeName : Text)
  | notText (name typeName : Text)
  | emptyLevel (name : Text)
  | forbidden (name value : Text) (char : Char)
  | count (got expected : Nat)
  | notAssignment (text : Text)
  deriving DecidableEq, Repr

def ParameterError.message : ParameterError → Text
  | unnamed level pattern =>
      "unnamed wildcard " ++ level.quoted ++ " in " ++ pattern.quoted ++
        " cannot be rendered into a topic"
  | missing name pattern =>
      "missing parameter " ++ name.quoted ++ " for pattern " ++ pattern.quoted
  | notList name typeName =>
      "parameter " ++ name.quoted ++ " must be a list of strings, got " ++ typeName
  | notText name typeName => "parameter " ++ name.quoted ++ " must be a string, got " ++ typeName
  | emptyLevel name => "parameter " ++ name.quoted ++ " contains an empty segment"
  | forbidden name value char =>
      "parameter " ++ name.quoted ++ " value " ++ value.quoted ++ " contains " ++
        Text.quoted [char]
  | count got expected =>
      "wrong parameter count, got " ++ Text.ofNat got ++ ", expected " ++ Text.ofNat expected
  | notAssignment text => "expected name=value, got " ++ text.quoted

inductive LabelError where
  | unknown (label : Label)
  | invalid (label : Label)
  | inUse (label : Label)
  deriving DecidableEq

def LabelError.message : LabelError → Text
  | unknown label => "unknown label (" ++ label.shown ++ ")"
  | invalid label => "invalid label (" ++ label.shown ++ ")"
  | inUse label => "label already in use (" ++ label.shown ++ ")"

inductive Operation where
  | subscribe
  | unsubscribe
  | publish
  deriving DecidableEq, Repr

def Operation.name : Operation → Text
  | subscribe => "subscribe"
  | unsubscribe => "unsubscribe"
  | publish => "publish"

inductive BusError where
  | alreadyAvailable
  | notAvailable
  | connectTimedOut (seconds : Text)
  | refused (reason : Text)
  | unreachable (host : Text) (port : Nat)
  | alreadySubscribed (topic : Text)
  | notSubscribed (topic : Text)
  | requestFailed (operation : Operation) (code : Int)
  | requestRejected (reasons : List Text)
  | publishRejected (reason : Text)
  | noAcknowledgement (message : Int) (seconds : Text)
  | invalidConfiguration (problems : List Text)
  deriving DecidableEq, Repr

def BusError.message : BusError → Text
  | alreadyAvailable => "connect: bus already available"
  | notAvailable => "bus not available"
  | connectTimedOut seconds => "connect: timed out after " ++ seconds ++ "s"
  | refused reason => "connection refused: " ++ reason
  | unreachable host port => "could not connect to " ++ host ++ ":" ++ Text.ofNat port
  | alreadySubscribed topic => "already subscribed to topic (" ++ topic ++ ")"
  | notSubscribed topic => "not subscribed to topic (" ++ topic ++ ")"
  | requestFailed operation code =>
      operation.name ++ " failed: " ++ Broker.ResultCode.text code
  | requestRejected reasons => "broker rejected request: " ++ Text.join ", " reasons
  | publishRejected reason => "publish rejected: " ++ reason
  | noAcknowledgement message seconds =>
      "no acknowledgement for message " ++ Text.ofInt message ++ " after " ++ seconds ++ "s"
  | invalidConfiguration problems =>
      "Configuration validation failed: " ++ Text.join "; " problems

inductive ValueError where
  | notMapping (file : Text)
  | sectionNotMapping (name : Value) (file : Text)
  | scheme (shown : Text)
  | brackets
  | address (text : Text)
  | addressFuture
  | addressOld
  | netloc (text : Text)
  | portNotNumber (text : Text)
  | portRange
  | tooManyDigits (count : Nat)
  | tooManyToWrite
  | calendar (cause : CalendarError)
  | notWhole (base : Nat) (text : Value)
  | notNumber (text : Text)
  | nanToWhole
  | notTokenKind (given : Value)
  | noCharacter
  | other (message : Text)

def ValueError.message : ValueError → Text
  | notMapping file => "config file must contain a mapping (" ++ file ++ ")"
  | sectionNotMapping name file =>
      "config section " ++ name.literal ++ " must be a mapping (" ++ file ++ ")"
  | scheme shown =>
      "Invalid MQTT URL scheme: " ++ shown ++ ". Expected 'mqtt://' or 'mqtts://'."
  | brackets => "Invalid IPv6 URL"
  | address text => text.quoted ++ " does not appear to be an IPv4 or IPv6 address"
  | addressFuture => "IPvFuture address is invalid"
  | addressOld => "An IPv4 address cannot be in brackets"
  | netloc text =>
      "netloc '" ++ text ++ "' contains invalid characters under NFKC normalization"
  | portNotNumber text => "Port could not be cast to integer value as " ++ text.quoted
  | portRange => "Port out of range 0-65535"
  | tooManyDigits count =>
      "Exceeds the limit (4300 digits) for integer string conversion: value has " ++
        Text.ofNat count ++
        " digits; use sys.set_int_max_str_digits() to increase the limit"
  | tooManyToWrite =>
      "Exceeds the limit (4300 digits) for integer string conversion; " ++
        "use sys.set_int_max_str_digits() to increase the limit"
  | calendar cause => cause.message
  | notWhole base text =>
      "invalid literal for int() with base " ++ Text.ofNat base ++ ": " ++ text.literal.take 200
  | notNumber text => "could not convert string to float: " ++ text.quoted
  | nanToWhole => "cannot convert float NaN to integer"
  | notTokenKind given => given.literal ++ " is not a valid TokenType"
  | noCharacter => "chr() arg not in range(0x110000)"
  | other message => message

/-- How an error is caught. The first six kinds are this library's own. -/
inductive ErrorKind where
  | library
  | pattern
  | parameter
  | parameterCount
  | label
  | bus
  | value
  | key
  | type
  | attribute
  | runtime
  | index
  | overflow
  | fileNotFound
  | isFolder
  | notFolder
  | unicodeDecode
  | jsonDecode
  | yamlToken
  | yamlStructure
  | yamlDocument
  | yamlValue
  | yamlCharacter
  | yamlUnwritable
  | badRegex
  | badUrl
  | depth
  | abort
  | other (name : Text)
  deriving DecidableEq, Repr

def ErrorKind.ancestors : ErrorKind → List ErrorKind
  | pattern => [pattern, library, value]
  | parameter => [parameter, library, value]
  | parameterCount => [parameterCount, parameter, library, value]
  | label => [label, library, key]
  | bus => [bus, library]
  | kind => [kind]

structure Raised where
  kind : ErrorKind
  arguments : List Value

/-- One argument is shown plainly, none not at all and several as a tuple. A key error shows
its only argument as a literal, a label error only its first argument. -/
def Raised.text (r : Raised) : Text :=
  match r.kind, r.arguments with
  | .parameterCount, [got, expected] =>
      "wrong parameter count, got " ++ got.plain ++ ", expected " ++ expected.plain
  | .label, first :: _ => first.plain
  | _, [] => []
  | .key, [only] => only.literal
  | _, [only] => only.plain
  | _, arguments => (Value.tuple arguments).literal

def Raised.countProblem : Nat → Text
  | 0 => "ParameterCountError.__init__() missing 2 required positional arguments: 'got' and 'expected'"
  | 1 => "ParameterCountError.__init__() missing 1 required positional argument: 'expected'"
  | n =>
      "ParameterCountError.__init__() takes 3 positional arguments but " ++ Text.ofNat (n + 1) ++
        " were given"

inductive Error where
  | pattern (cause : PatternError)
  | parameter (cause : ParameterError)
  | label (cause : LabelError)
  | bus (cause : BusError)
  | value (cause : ValueError)
  | raised (what : Raised)
  | plain (kind : ErrorKind) (message : Text)

namespace Error

def wrongType : Error := plain .type []

def unhashable (v : Value) : Error :=
  plain .type ("unhashable type: " ++ Text.quoted (v.changing?.getD v).typeName)

def noAttribute : Error := plain .attribute []

def notSplit (v : Value) : Error :=
  match v with
  | .bytes _ | .byteArray _ => plain .type "a bytes-like object is required, not 'str'"
  | v => plain .attribute (Text.quoted v.typeName ++ " object has no attribute 'split'")

def overflow : Error := plain .overflow []

def noKey : Error := plain .key []

def tooDeep : Error := plain .depth "maximum recursion depth exceeded"

def ofWrite : WriteError → Error
  | .noForm => wrongType
  | .tooManyDigits => value .tooManyToWrite
  | .tooDeep => tooDeep

def aborted : Error := plain .abort []

def ofArguments (kind : ErrorKind) (arguments : List Value) : Error :=
  if kind = .parameterCount ∧ arguments.length ≠ 2 then
    plain .type (Raised.countProblem arguments.length)
  else raised ⟨kind, arguments⟩

def kind : Error → ErrorKind
  | pattern _ => .pattern
  | parameter (.count ..) => .parameterCount
  | parameter _ => .parameter
  | label _ => .label
  | bus _ => .bus
  | value _ => .value
  | raised what => what.kind
  | plain kind _ => kind

def message : Error → Text
  | pattern cause => cause.message
  | parameter cause => cause.message
  | label cause => cause.message
  | bus cause => cause.message
  | value cause => cause.message
  | raised what => what.text
  | plain _ message => message

end Error
end TopicRouting
