import TopicRouting.Json.Reader
import TopicRouting.Text.Encoded

/-! The bodies of requests. Each kind of request has its fields, and a body that lacks one or
has one of the wrong type is refused; fields that are not known do not count. -/
namespace TopicRouting.Api

inductive Body where
  | absent
  | malformed
  | unreadable
  | json (value : Value)

def Body.ofBytes (bytes : List UInt8) : Body :=
  if bytes.isEmpty then .absent
  else match (Text.ofJsonBytes bytes).map Json.read with
    | some (.ok v) => .json v
    | some (.error .malformed) => .malformed
    | _ => .unreadable

namespace Field

def find? (body : Value) (name : Text) : Option Value :=
  match body with
  | .dict d => Dict.find? d (.text name)
  | _ => none

def isObject : Value → Bool
  | .dict _ => true
  | _ => false

def text : Value → Option Text
  | .text t => some t
  | _ => none

def requiredText (body : Value) (name : Text) : Option Text := (find? body name).bind text

def isText : Value → Bool
  | .text _ => true
  | _ => false

def isParam : Value → Bool
  | .text _ => true
  | .list xs => xs.all isText
  | _ => false

def params (body : Value) : Option Value :=
  match find? body "params" with
  | none => some (.dict [])
  | some (.dict d) => if d.all (fun entry => isParam entry.2) then some (.dict d) else none
  | some _ => none

def withoutFraction (t : Text) : Option Text :=
  match Text.cut '.' t with
  | none => some t
  | some (whole, zeros) =>
      if !zeros.isEmpty && zeros.all (· = '0') && !whole.isEmpty then some whole else none

def withoutPlus : Text → Option Text
  | '+' :: rest =>
      match rest with
      | '+' :: _ | '-' :: _ => none
      | rest => some rest
  | t => some t

def withoutZeros (t : Text) : Option Text :=
  match t with
  | '0' :: _ =>
      match t.dropWhile fun c => c = '0' || c = '_' with
      | [] => t.getLast?.map ([·])
      | c :: rest =>
          if c = '.' then some ('0' :: c :: rest)
          else if c = '-' || c.isDigit then some (c :: rest)
          else none
  | t => some t

def withoutUnderscores (t : Text) : Option Text :=
  let parts := List.splitOn '_' t
  if parts.any List.isEmpty then none else some parts.flatten

def digits (t : Text) : Option Int :=
  let (negative, ds) := match t with
    | '-' :: rest => (true, rest)
    | ds => (false, ds)
  if Text.isDigits ds && ds.length ≤ Number.digitLimit then
    some (Binary64.signed negative (Text.toNat ds))
  else none

def wholeText (t : Text) : Option Int := do
  let t ← withoutPlus (Number.trim t)
  let t ← withoutZeros t
  let t ← withoutFraction t
  let t ← withoutUnderscores t
  digits t

def whole : Value → Option Value
  | .text t => (wholeText t).map .int
  | v => v.whole?.map .int

def quality (body : Value) : Option (Option Value) :=
  match find? body "qos" with
  | none | some .null => some none
  | some v => (whole v).map some

def truthWords : List Text := ["true", "t", "yes", "y", "on", "1"]

def falsehoodWords : List Text := ["false", "f", "no", "n", "off", "0"]

def truth : Value → Option Bool
  | .text t =>
      let word := Text.lowerAscii t
      if truthWords.contains word then some true
      else if falsehoodWords.contains word then some false
      else none
  | v =>
      match v.whole? with
      | some 0 => some false
      | some 1 => some true
      | _ => none

def retain (body : Value) : Option Bool :=
  match find? body "retain" with
  | none => some false
  | some v => truth v

end Field

structure NewPattern where
  label : Text
  pattern : Text

def NewPattern.read (body : Value) : Option NewPattern := do
  let label ← Field.requiredText body "label"
  let pattern ← Field.requiredText body "pattern"
  some ⟨label, pattern⟩

structure Publication where
  params : Value
  payload : Value
  qos : Option Value
  retain : Bool

def Publication.read (body : Value) : Option Publication := do
  if !Field.isObject body then none
  let params ← Field.params body
  let qos ← Field.quality body
  let retain ← Field.retain body
  some ⟨params, (Field.find? body "payload").getD .null, qos, retain⟩

end TopicRouting.Api
