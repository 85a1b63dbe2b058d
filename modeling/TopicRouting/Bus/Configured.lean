import TopicRouting.Bus.Setup
import TopicRouting.Config.Problem

/-! The bus that a configuration describes, with its patterns. -/
namespace TopicRouting.Bus

def setPatterns (s : State) : Dict → Turn × Except Error Unit
  | [] => (s.quiet, .ok ())
  | (label, source) :: rest =>
      match Label.ofValue? label with
      | none => (s.quiet, .error (.unhashable label))
      | some label =>
          match s.route (.set label source) with
          | .error e => (s.quiet, .error e)
          | .ok (_, turn) =>
              let (later, result) := setPatterns turn.state rest
              (⟨later.state, turn.outputs ++ later.outputs⟩, result)

/-- The bus of a configuration without problems, and whether its patterns could be set. The
configuration decides the URL, the name, the keepalive and the quality, which no one else may
give; a given setup decides the rest. -/
def build (c : Config) (given : Setup) (givesMore : Bool) (env : Environment)
    (generated : Text) : Except Error (Turn × Except Error Unit) := do
  let problems ← c.problems
  if !problems.isEmpty then
    .error (.bus (.invalidConfiguration (problems.map Config.Problem.message)))
  else
    let level := c.get (.text "logging") (.text "level") (.text "INFO")
    let logger ← Logger.ofLevel (.text "bus") level env.logLevel
    if givesMore then .error .wrongType
    else
      let setup : Setup :=
        { given with
          url := c.get (.text "bus") (.text "url") .null
          clientId := c.get (.text "bus") (.text "client_id") .null
          keepalive := c.get (.text "bus") (.text "keepalive") (.int 60)
          qos := c.get (.text "bus") (.text "qos") (.int 0)
          logger := some (given.logger.getD logger) }
      .ok (setPatterns (← setup.create env generated) c.patterns)

def ofConfig (c : Config) (given : Setup) (givesMore : Bool) (env : Environment)
    (generated : Text) : Except Error Turn := do
  let (turn, result) ← build c given givesMore env generated
  result.map fun _ => turn

end TopicRouting.Bus
