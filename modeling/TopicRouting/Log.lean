import TopicRouting.Error
import TopicRouting.Json.Writer
import TopicRouting.Text.Case

/-! A log is a list of lines, each a JSON object of its own. A logger writes the lines of one
component that are at or above its level. -/
namespace TopicRouting

inductive Severity where
  | debug
  | info
  | warn
  | error
  deriving DecidableEq, Repr

namespace Severity

def all : List Severity := [debug, info, warn, error]

def name : Severity → Text
  | debug => "DEBUG"
  | info => "INFO"
  | warn => "WARN"
  | error => "ERROR"

def rank : Severity → Nat
  | debug => 10
  | info => 20
  | warn => 30
  | error => 40

def ofName? (name : Text) : Option Severity := all.find? fun s => s.name == name

end Severity

structure Record where
  severity : Severity
  component : Value
  message : Value
  fields : Dict

namespace Record

def entry (time : Binary64) (r : Record) : Dict :=
  Dict.overlay
    [(.text "timestamp", .float time), (.text "level", .text r.severity.name),
      (.text "component", r.component), (.text "message", r.message)]
    r.fields

/-- The line without its break. Values without a JSON form are written as plain text; a
mapping among the fields with a key that is no scalar has no line. -/
def text (time : Binary64) (r : Record) : Except WriteError Text :=
  Json.writeLenient (.dict (r.entry time))

end Record

structure Logger where
  component : Value
  level : Value

namespace Logger

def levelName (given : Text) : Text :=
  let name := given.upper
  if name = "WARNING" then "WARN" else name

def defaultLevel (environment : Option Text) : Text := environment.getD "INFO"

def upperBytes (b : ByteArray) : ByteArray :=
  ⟨(b.toList.map fun x => if 97 ≤ x && x ≤ 122 then x - 32 else x).toArray⟩

def ofLevel (component level : Value) (environment : Option Text) : Except Error Logger :=
  match level.orElse (.text (defaultLevel environment)) with
  | .text t => .ok ⟨component, .text (levelName t)⟩
  | .bytes b => .ok ⟨component, .bytes (upperBytes b)⟩
  | _ => .error .noAttribute

def severity? : Value → Option Severity
  | .text name => Severity.ofName? name
  | _ => none

/-- The least rank that is written. A level without a rank acts as the one for information. -/
def threshold (l : Logger) : Nat := ((severity? l.level).getD .info).rank

def isEnabledFor (l : Logger) (level : Value) : Except Error Bool :=
  if level.isKey then .ok (decide (l.threshold ≤ ((severity? level).map Severity.rank).getD 0))
  else .error (.unhashable level)

def isEnabled (l : Logger) (s : Severity) : Bool := l.threshold ≤ s.rank

def reserved : List Text := ["self", "level", "message"]

def isFieldName : Value → Bool
  | .text name => !reserved.contains name
  | _ => false

def record? (l : Logger) (severity : Severity) (message : Text) (fields : Dict) : List Record :=
  if l.isEnabled severity then [⟨severity, l.component, .text message, fields⟩] else []

def fieldsOf : Value → Except Error Dict
  | .dict fields =>
      if fields.all fun field => isFieldName field.1 then .ok fields else .error .wrongType
  | _ => .error .wrongType

/-- What a call with any message and fields writes. The fields are checked even if nothing is
written, and whether there is a line at all only if one is. -/
def write (l : Logger) (severity : Severity) (message fields : Value) :
    Except Error (List Record) := do
  let fields ← fieldsOf fields
  let record : Record := ⟨severity, l.component, message, fields⟩
  if !l.isEnabled severity then .ok []
  else ((record.text (.zero false)).mapError Error.ofWrite).map fun _ => [record]

def written (l : Logger) (time : Binary64) (severity : Severity) (message fields : Value) :
    Except Error Text := do
  let records ← l.write severity message fields
  .ok (records.flatMap fun r => (r.text time).toOption.getD [] ++ "\n")

end Logger
end TopicRouting
