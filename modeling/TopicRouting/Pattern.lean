import TopicRouting.Error
import TopicRouting.Pattern.Token

/-! A pattern is a topic whose levels may be wildcards: `+name` stands for one level and
`#name`, at the end only, for any number of levels. A pattern matches topics, giving the
parameters by name, and builds topics from parameters. -/
namespace TopicRouting

inductive ParamValue where
  | single (level : Text)
  | multi (levels : List Text)
  deriving DecidableEq, Repr

def ParamValue.value : ParamValue → Value
  | single level => .text level
  | multi levels => .list (levels.map .text)

abbrev Params := List (Text × ParamValue)

namespace Params

def put : Params → Text → ParamValue → Params
  | [], name, value => [(name, value)]
  | (n, v) :: rest, name, value =>
      if n = name then (name, value) :: rest else (n, v) :: put rest name value

def find? (params : Params) (name : Text) : Option ParamValue :=
  (List.find? (fun entry => entry.1 == name) params).map (·.2)

def toDict (params : Params) : Dict := params.map fun (name, value) => (.text name, value.value)

end Params

namespace Segment

def levelsOf (text : Text) : List Text := List.splitOn '/' text

/-- Reads the levels of a pattern. A multi wildcard is refused everywhere but at the end. -/
def readAll (source : Text) : List Text → Except PatternError (List Segment)
  | [] => .ok []
  | [level] => .ok [ofLevel level]
  | level :: rest =>
      match ofLevel level with
      | multi _ => .error (.multiNotLast source level)
      | segment => do
          let segments ← readAll source rest
          .ok (segment :: segments)

end Segment

structure Pattern where
  source : Text
  segments : List Segment
  compiled : Segment.readAll source (Segment.levelsOf source) = .ok segments
  deriving DecidableEq

namespace Pattern

def compile (source : Text) : Except PatternError Pattern :=
  match h : Segment.readAll source (Segment.levelsOf source) with
  | .ok segments => .ok ⟨source, segments, h⟩
  | .error e => .error e

def ofValue : Value → Except Error Pattern
  | .text source => (compile source).mapError .pattern
  | .null => .error (.pattern .notText)
  | given => .error (.notSplit given)

def tokens (p : Pattern) : List Token := p.segments.map Segment.token

def topic (p : Pattern) : Text := Token.filter p.tokens

def regexSource (p : Pattern) : Text := Token.regexSource p.tokens

def regex (p : Pattern) : Regex := Segment.regex p.segments

def parameterCount (p : Pattern) : Nat := Token.namedCount p.tokens

def groupCount (p : Pattern) : Nat := p.tokens.countP Token.isWildcard

def shown (p : Pattern) : Text := "Pattern(" ++ p.source.quoted ++ ")"

def frozen : Error := .plain .attribute "Pattern is immutable"

def groups? (p : Pattern) (topic : Text) : Option (List Text) := p.regex.match? topic

def readSingle (capture : Text) : Text :=
  if capture.getLast? = some '/' then capture.dropLast else capture

def readMulti (capture : Text) : List Text :=
  let levels := Segment.levelsOf capture
  if levels.getLast? = some [] then levels.dropLast else levels

/-- Reads the parameters from captured groups, one for each wildcard in order. Wildcards
without a name are left out, and a later one overwrites an earlier one of its name. -/
def readParams : List Segment → List Text → Params → Params
  | .raw _ :: rest, groups, params => readParams rest groups params
  | .single name :: rest, capture :: groups, params =>
      readParams rest groups
        (if name.isEmpty then params else params.put name (.single (readSingle capture)))
  | .multi name :: rest, capture :: groups, params =>
      readParams rest groups
        (if name.isEmpty then params else params.put name (.multi (readMulti capture)))
  | _, _, params => params

def paramsOf (p : Pattern) (groups : List Text) : Params := readParams p.segments groups []

def match? (p : Pattern) (topic : Text) : Option Params := (p.groups? topic).map p.paramsOf

def checkLevel (name : Text) : Value → Except Error Text
  | .text t =>
      if t.isEmpty then .error (.parameter (.emptyLevel name))
      else match ['/', '+', '#'].find? t.contains with
        | some c => .error (.parameter (.forbidden name t c))
        | none => .ok t
  | v => .error (.parameter (.notText name v.typeName))

def checkLevels (name : Text) : List Value → Except Error (List Text)
  | [] => .ok []
  | v :: vs => do
      let level ← checkLevel name v
      let levels ← checkLevels name vs
      .ok (level :: levels)

/-- The parameter of a name. Only a mapping can answer; a text or a list may still say that it
does not hold the name. -/
def lookup (p : Pattern) (name : Text) (params : Value) : Except Error Value :=
  let absent : Except Error Value := .error (.parameter (.missing name p.source))
  match params with
  | .dict d =>
      match Dict.find? d (.text name) with
      | some v => .ok v
      | none => absent
  | .text t => if name.hasPart t then .error .wrongType else absent
  | .list xs | .tuple xs | .set xs =>
      if xs.any (·.sameKey (.text name)) then .error .wrongType else absent
  | _ => .error .wrongType

def wildcardValue (p : Pattern) (level name : Text) (params : Value) : Except Error Value :=
  if name.isEmpty then .error (.parameter (.unnamed level p.source)) else p.lookup name params

def buildSegment (p : Pattern) (params : Value) : Segment → Except Error Text
  | .raw text => .ok text
  | .single name => do
      let value ← p.wildcardValue ('+' :: name) name params
      checkLevel name value
  | .multi name => do
      let value ← p.wildcardValue ('#' :: name) name params
      match value with
      | .list vs | .tuple vs => do
          let levels ← checkLevels name vs
          .ok (Text.join "/" levels)
      | v => .error (.parameter (.notList name v.typeName))

def buildSegments (p : Pattern) (params : Value) : List Segment → Except Error (List Text)
  | [] => .ok []
  | s :: rest => do
      let level ← p.buildSegment params s
      let levels ← p.buildSegments params rest
      .ok (level :: levels)

/-- The topic with the wildcards replaced by parameters. No parameters and parameters that
count as absent are an empty mapping. -/
def build (p : Pattern) (params : Value) : Except Error Text := do
  let levels ← p.buildSegments (params.orElse (.dict [])) p.segments
  .ok (Text.join "/" levels)

end Pattern
end TopicRouting
