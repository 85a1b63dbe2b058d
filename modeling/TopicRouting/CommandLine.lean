import TopicRouting.CommandLine.Assignment
import TopicRouting.CommandLine.Help
import TopicRouting.Json.Writer

/-! The command line tool: it shows the topic of a pattern, matches topics with it and builds
topics from it. -/
namespace TopicRouting.CommandLine

structure Query where
  command : Option Value := none
  pattern : Option Value := none
  topic : Option Value := none
  assignments : Option Value := none

def matchAnswer (p : Pattern) (topic : Text) : Dict :=
  match p.match? topic with
  | some params => [(.text "matched", .bool true), (.text "params", .dict params.toDict)]
  | none =>
      [(.text "error", .text (topic.quoted ++ " does not match " ++ p.source.quoted)),
        (.text "matched", .bool false)]

def required (given : Option Value) : Except Error Value :=
  match given with
  | some v => .ok v
  | none => .error .noAttribute

def answer (q : Query) : Except Error Dict := do
  let p ← Pattern.ofValue (← required q.pattern)
  let given ← required q.command
  let command := match given with
    | .text name => Command.ofName? name
    | _ => none
  match command with
  | some .showTopic => .ok [(.text "topic", .text p.topic)]
  | some .matchTopic =>
      match ← required q.topic with
      | .text topic => .ok (matchAnswer p topic)
      | _ => .error .wrongType
  | some .buildTopic => do
      let topic ← p.build (.dict (← readGiven p (← required q.assignments)))
      .ok [(.text "topic", .text topic)]
  | none => .ok [(.text "error", .text ("unknown command " ++ given.literal))]

def run (q : Query) : Except Error Dict :=
  match answer q with
  | .error (.pattern cause) => .ok [(.text "error", .text cause.message)]
  | .error (.parameter cause) => .ok [(.text "error", .text cause.message)]
  | result => result

def holds (v : Value) (name : Text) : Except Error Bool :=
  match v with
  | .dict d => .ok (Dict.has d (.text name))
  | .list xs | .tuple xs | .set xs => .ok (xs.any (·.sameKey (.text name)))
  | .text t => .ok (name.hasPart t)
  | _ => .error .wrongType

def valueAt (v : Value) (name : Text) : Except Error Value :=
  match v with
  | .dict d => .ok ((Dict.find? d (.text name)).getD .null)
  | _ => .error .wrongType

def isSingle : Value → Bool
  | .dict d => d.length == 1
  | .list xs | .tuple xs | .set xs => xs.length == 1
  | .text t => t.length == 1
  | _ => false

def indented (v : Value) : Except Error Value :=
  ((Json.writeIndented v).mapError Error.ofWrite).map .text

/-- An answer as it is shown: an error by its message and a topic alone by itself, but all
else, and with the format for programs everything, as JSON. -/
def shown (isJson : Bool) (data : Value) : Except Error Value := do
  if isJson then indented data
  else if ← holds data "error" then
    .ok (.text ("Error: " ++ (← valueAt data "error").plain))
  else if (← holds data "topic") && isSingle data then valueAt data "topic"
  else indented data

structure Outcome where
  code : Nat
  output : Text
  deriving DecidableEq, Repr

def Invocation.query (i : Invocation) : Query :=
  { command := some (.text i.command.name)
    pattern := some (.text i.pattern)
    topic := some (match i.words with
      | [topic] => .text topic
      | words => .list (words.map .text))
    assignments := some (.list (i.words.map .text)) }

def Invocation.outcome (i : Invocation) : Except Error Outcome := do
  let data ← run i.query
  let shown ← shown (i.format = .json) (.dict data)
  .ok ⟨if Dict.has data (.text "error") then 1 else 0, shown.plain ++ ['\n']⟩

def execute (arguments : List Text) : Except Error Outcome :=
  match Request.read arguments with
  | .run invocation => invocation.outcome
  | .help command => .ok ⟨0, helpOf command⟩
  | .noCommand => .ok ⟨1, programHelp⟩
  | .invalid => .ok ⟨2, []⟩

end TopicRouting.CommandLine
