import TopicRouting.Environment
import TopicRouting.Number.Written
import TopicRouting.Text.Case
import TopicRouting.Value

/-! The settings that environment variables give. A variable whose text is no number where one
is needed gives none. -/
namespace TopicRouting.Config

inductive Conversion where
  | text
  | whole
  | truth
  deriving DecidableEq, Repr

def Conversion.read? (given : Text) : Conversion → Option Value
  | text => some (.text given)
  | whole => (Number.read given).map .int
  | truth => some (.bool (Text.lower given == "true".toList))

structure Override where
  name : Text
  group : Text
  key : Text
  conversion : Conversion := .text
  deriving DecidableEq, Repr

namespace Override

def all : List Override :=
  [ ⟨"MQTT_URL", "bus", "url", .text⟩,
    ⟨"MQTT_CLIENT_ID", "bus", "client_id", .text⟩,
    ⟨"MQTT_KEEPALIVE", "bus", "keepalive", .whole⟩,
    ⟨"MQTT_QOS", "bus", "qos", .whole⟩,
    ⟨"LOG_LEVEL", "logging", "level", .text⟩,
    ⟨"PROMETHEUS_ENABLED", "monitoring", "prometheus_enabled", .truth⟩,
    ⟨"PROMETHEUS_PORT", "monitoring", "prometheus_port", .whole⟩,
    ⟨"API_HOST", "api", "host", .text⟩,
    ⟨"API_PORT", "api", "port", .whole⟩ ]

def value? (env : Environment) (o : Override) : Option Value :=
  (Environment.find? env o.name).bind o.conversion.read?

end Override
end TopicRouting.Config
