import TopicRouting.Config
import TopicRouting.Broker.Settings
import TopicRouting.Pattern

/-! What makes a configuration unfit for a bus. -/
namespace TopicRouting.Config

inductive Problem where
  | scheme (shown : Value)
  | qos
  | keepalive
  | port (owner : Text)
  | pattern (label : Value) (cause : PatternError)

def Problem.message : Problem → Text
  | scheme shown => "Invalid broker URL scheme: " ++ shown.literal
  | qos => "Invalid QoS level, expected 0, 1 or 2"
  | keepalive => "Invalid keepalive"
  | port owner => "Invalid " ++ owner ++ " port"
  | pattern label cause =>
      "Invalid pattern for label " ++ label.literal ++ ": " ++ cause.message

def isQos (v : Value) : Bool :=
  match v.whole? with
  | some level => level == 0 || level == 1 || level == 2
  | none => false

def isBelowOne : Value → Except Error Bool
  | .bool b => .ok (!b)
  | .int i => .ok (decide (i < 1))
  | .float x => .ok (x.isBelow 1)
  | _ => .error .wrongType

def isPort : Value → Bool
  | .bool b => b
  | .int i => decide (1 ≤ i ∧ i ≤ 65535)
  | _ => false

def schemeProblems (c : Config) : Except Error (List Problem) := do
  let (_, shown) ← Url.ofValue (c.get (.text "bus") (.text "url") (.text []))
  match shown with
  | .text scheme =>
      .ok (if (Broker.Scheme.ofName? scheme).isSome then [] else [.scheme shown])
  | _ => .ok [.scheme shown]

def keepaliveProblems (c : Config) : Except Error (List Problem) := do
  let isLow ← isBelowOne (c.get (.text "bus") (.text "keepalive") (.int 60))
  .ok (if isLow then [.keepalive] else [])

def portProblems (c : Config) (owner key : Text) : List Problem :=
  if isPort (c.get (.text owner) (.text key) .null) then [] else [.port owner]

def patternProblems : Dict → Except Error (List Problem)
  | [] => .ok []
  | (label, source) :: rest =>
      match Pattern.ofValue source with
      | .ok _ => patternProblems rest
      | .error (.pattern cause) =>
          (patternProblems rest).map (.pattern label cause :: ·)
      | .error e => .error e

def problems (c : Config) : Except Error (List Problem) := do
  let scheme ← c.schemeProblems
  let qos := if isQos (c.get (.text "bus") (.text "qos") .null) then [] else [Problem.qos]
  let keepalive ← c.keepaliveProblems
  let ports := c.portProblems "monitoring" "prometheus_port" ++ c.portProblems "api" "port"
  let patterns ← patternProblems c.patterns
  .ok (scheme ++ qos ++ keepalive ++ ports ++ patterns)

end TopicRouting.Config
