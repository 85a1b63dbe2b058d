import TopicRouting.Label
import TopicRouting.Pattern

/-! A message as it comes in and as listeners see it. -/
namespace TopicRouting

structure Message where
  topic : Text
  payload : Value := .null
  qos : Value := .int 0
  retain : Value := .bool false
  label : Option Label := none
  params : Params := []
  json : Option Value := none

namespace Message

def view (m : Message) : Value :=
  .dict [(.text "topic", .text m.topic), (.text "payload", m.payload), (.text "qos", m.qos),
    (.text "retain", m.retain), (.text "label", (m.label.map Label.value).getD .null),
    (.text "params", .dict m.params.toDict), (.text "is_json", .bool m.json.isSome),
    (.text "json", m.json.getD .null)]

end Message
end TopicRouting
