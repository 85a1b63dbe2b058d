import TopicRouting.Text

/-! The surroundings of a process: its environment variables. -/
namespace TopicRouting

abbrev Environment := List (Text × Text)

namespace Environment

def find? (env : Environment) (name : Text) : Option Text :=
  (List.find? (fun entry => entry.1 == name) env).map (·.2)

def logLevel (env : Environment) : Option Text := find? env "LOG_LEVEL"

end Environment
end TopicRouting
