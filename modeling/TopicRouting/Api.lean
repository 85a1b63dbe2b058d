import TopicRouting.Api.Body
import TopicRouting.Api.Route
import TopicRouting.Bus.Step

/-! Requests over HTTP to look at a bus and to drive it. A request is refused for its address
first, then for its body, then for want of a bus, and then for what it asks. -/
namespace TopicRouting.Api

structure Response where
  code : Nat
  body : Value

def object (members : List (Text × Value)) : Value :=
  .dict (members.map fun (name, value) => (.text name, value))

def Response.ok (members : List (Text × Value)) : Response := ⟨200, object members⟩

def Response.refuse (code : Nat) (detail : Text) : Response :=
  ⟨code, object [("detail", .text detail)]⟩

def invalidBody : Response := ⟨422, .null⟩

def noBus : Response := .refuse 503 "Bus not available"

def unknownLabel (label : Text) : Response :=
  .refuse 404 (LabelError.unknown (.text label)).message

inductive Plan where
  | reply (response : Response)
  | change (turn : Bus.Turn) (response : Response)
  | call (command : Bus.Command)
      (finish : Bus.State → Except Error Bus.Reply → Except Error Response)

def describe (bus : Bus.State) (label : Label) (pattern : Pattern) : List (Text × Value) :=
  [("label", label.value), ("pattern", .text pattern.source), ("topic", .text pattern.topic),
    ("parameter_count", .int pattern.parameterCount),
    ("subscribed", .bool (bus.topics.contains pattern.topic))]

def health (bus : Option Bus.State) : Response :=
  .ok [("status", .text "healthy"), ("bus_available", .bool (bus.any (·.isAvailable))),
    ("bus_status", (bus.map fun b => Value.text b.status.name).getD .null)]

def listing (bus : Bus.State) : Response :=
  .ok [("patterns", .list (bus.router.entries.map fun (label, pattern) =>
    object (describe bus label pattern)))]

def create (bus : Bus.State) (request : NewPattern) : Plan :=
  let label := Label.text request.label
  match bus.route (.set label (.text request.pattern)) with
  | .error (.label e) => .reply (.refuse 409 e.message)
  | .error e => .reply (.refuse 400 e.message)
  | .ok (_, turn) =>
      let members := match turn.state.router.pattern? label with
        | some pattern => describe turn.state label pattern
        | none => []
      .change turn ⟨201, object members⟩

def delete (bus : Bus.State) (label : Text) : Plan :=
  match bus.route (.remove (.text label)) with
  | .ok (_, turn) => .change turn (.ok [("status", .text "ok")])
  | .error _ => .reply (unknownLabel label)

def matchTopic (pattern : Pattern) (topic : Text) : Response :=
  let params := pattern.match? topic
  .ok [("matched", .bool params.isSome), ("params", .dict (params.getD []).toDict)]

def buildTopic (pattern : Pattern) (params : Value) : Except Error Response :=
  match pattern.build params with
  | .ok topic => .ok (.ok [("topic", .text topic)])
  | .error (.parameter e) => .ok (.refuse 400 e.message)
  | .error e => .error e

def subscribed (bus : Bus.State) : Except Error Bus.Reply → Except Error Response
  | .ok (.granted codes) => .ok (.ok [("status", .text "ok"), ("granted", .list codes)])
  | .ok _ => .error .wrongType
  | .error (.bus e) => .ok (.refuse (if bus.isAvailable then 409 else 503) e.message)
  | .error e => .error e

def published : Except Error Bus.Reply → Except Error Response
  | .ok (.published topic) => .ok (.ok [("status", .text "ok"), ("topic", .text topic)])
  | .ok _ => .error .wrongType
  | .error (.parameter e) => .ok (.refuse 400 e.message)
  | .error (.bus e) => .ok (.refuse 503 e.message)
  | .error e => .error e

def withPattern (bus : Option Bus.State) (label : Text) (answer : Bus.State → Pattern → Plan) :
    Plan :=
  match bus with
  | none => .reply noBus
  | some bus =>
      match bus.router.get (.text label) with
      | .ok (some pattern) => answer bus pattern
      | _ => .reply (unknownLabel label)

def atOnce : Except Error Response → Plan
  | .ok response => .reply response
  | .error _ => .reply ⟨500, .null⟩

def withBody {Request : Type} (body : Body) (read : Value → Option Request)
    (answer : Request → Plan) : Plan :=
  match body with
  | .unreadable => .reply (.refuse 400 "There was an error parsing the body")
  | .json v =>
      match read v with
      | some request => answer request
      | none => .reply invalidBody
  | _ => .reply invalidBody

def withOptionalBody {Request : Type} (body : Body) (default : Request)
    (read : Value → Option Request) (answer : Request → Plan) : Plan :=
  match body with
  | .absent | .json .null => answer default
  | body => withBody body read answer

def answer (bus : Option Bus.State) (body : Body) : Route → Plan
  | .page => .reply ⟨200, .null⟩
  | .health => .reply (health bus)
  | .listing =>
      match bus with
      | some bus => .reply (listing bus)
      | none => .reply noBus
  | .create =>
      withBody body NewPattern.read fun request =>
        match bus with
        | some bus => create bus request
        | none => .reply noBus
  | .delete label => withPattern bus label fun bus _ => delete bus label
  | .match label =>
      withBody body (Field.requiredText · "topic") fun topic =>
        withPattern bus label fun _ pattern => .reply (matchTopic pattern topic)
  | .build label =>
      withBody body (fun v => if Field.isObject v then Field.params v else none) fun params =>
        withPattern bus label fun _ pattern => atOnce (buildTopic pattern params)
  | .subscribe label =>
      withOptionalBody body none
        (fun v => if Field.isObject v then Field.quality v else none) fun qos =>
          withPattern bus label fun _ _ => .call (.subscribe (.text label) qos) subscribed
  | .publish label =>
      withBody body Publication.read fun p =>
        withPattern bus label fun _ _ =>
          .call (.publish (.text label) p.params p.payload p.qos (.bool p.retain))
            fun _ result => published result

def handlePath (bus : Option Bus.State) (method path : Text) (body : Body) : Plan :=
  match findRoute method path with
  | .error .unknownPath => .reply (.refuse 404 "Not Found")
  | .error .wrongMethod => .reply (.refuse 405 "Method Not Allowed")
  | .error .slashes => .reply ⟨307, .null⟩
  | .ok route => answer bus body route

def Response.bare (r : Response) : Response := ⟨r.code, .null⟩

def Plan.bare : Plan → Plan
  | .reply r => .reply r.bare
  | .change turn r => .change turn r.bare
  | .call command finish => .call command fun bus result => (finish bus result).map Response.bare

/-- Answers a request to an address, if that is one. What asks for the head of an answer gets no
body. -/
def handle (bus : Option Bus.State) (method address : Text) (body : Body) : Except Error Plan :=
  (Address.path address).map fun path =>
    let plan := handlePath bus method path body
    if Text.upper method = "HEAD" then plan.bare else plan

end TopicRouting.Api
