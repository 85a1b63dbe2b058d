import TopicRouting.Router.Command

/-! A message goes to the listeners of the first label whose pattern matches. The listeners
are those that the label has at that moment; what they do to the router, by commands or by
dispatching further messages, does not change who is called. -/
namespace TopicRouting.Router

structure Work where
  slices : List (List Value)
  failure : Option Error

inductive Dispatched where
  | routed (label : Option Label)
  | aborted
  | tooDeep
  deriving DecidableEq

inductive Reaction where
  | done
  | fail (error : Error)
  | abort
  | leave (work : Work)
  | note (what : Value) (next : Reaction)
  | edit (change : Message → Message) (next : Reaction)
  | run (command : Command) (next : Except Error Reply → Reaction)
  | dispatch (message : Message) (next : Dispatched → Message → Reaction)

/-- What a listener does with a message. It may go by the number of the calls of listeners that
came before, and so by all that the listeners have done. -/
abbrev Behaviour := Nat → ListenerId → Message → Reaction

inductive Output where
  | invoked (registration : Registration)
  | noted (what : Value)
  | logged (record : Record)
  | left (work : Work)

structure Scene where
  router : Router
  message : Message
  outputs : List Output
  calls : Nat

def Scene.add (s : Scene) (outputs : List Output) : Scene :=
  { s with outputs := s.outputs ++ outputs }

def Scene.call (s : Scene) (g : Registration) : Scene :=
  { s with outputs := s.outputs ++ [.invoked g], calls := s.calls + 1 }

def Scene.after (s inner : Scene) : Scene :=
  { s with
    router := inner.router
    outputs := s.outputs ++ inner.outputs
    calls := inner.calls }

structure Surroundings where
  behaviour : Behaviour
  logger : Logger
  runsWork : Bool

inductive Finish where
  | done
  | failed (error : Error)
  | aborted
  | left (work : Work)

abbrev Nested := Nat → Router → Message → Dispatched × Scene

def perform (logger : Logger) (nested : Nested) : Reaction → Scene → Finish × Scene
  | .done, s => (.done, s)
  | .fail e, s => (.failed e, s)
  | .abort, s => (.aborted, s)
  | .leave work, s => (.left work, s)
  | .note what next, s => perform logger nested next (s.add [.noted what])
  | .edit change next, s => perform logger nested next { s with message := change s.message }
  | .run command next, s =>
      match s.router.run logger command with
      | .ok (reply, router, records) =>
          perform logger nested (next (.ok reply))
            { s.add (records.map .logged) with router := router }
      | .error e => perform logger nested (next (.error e)) s
  | .dispatch message next, s =>
      let (how, inner) := nested s.calls s.router message
      perform logger nested (next how inner.message) (s.after inner)

def failedRecord (logger : Logger) (label : Label) (topic text : Text) : List Record :=
  logger.record? .error "Listener failed"
    [(.text "label", label.value), (.text "topic", .text topic), (.text "error", .text text)]

def noLoop : Text := "no running event loop"

/-- Calls the listeners of registrations in order. Only a listener that breaks off keeps the
others from being called. -/
def callAll (env : Surroundings) (nested : Nested) (label : Label) :
    List Registration → Scene → Dispatched × Scene
  | [], s => (.routed (some label), s)
  | g :: rest, s =>
      let topic := s.message.topic
      let reaction := env.behaviour s.calls g.listener s.message
      let (finish, s) := perform env.logger nested reaction (s.call g)
      let failure (text : Text) : List Output :=
        (failedRecord env.logger label topic text).map .logged
      match finish with
      | .done => callAll env nested label rest s
      | .failed e => callAll env nested label rest (s.add (failure e.message))
      | .aborted => (.aborted, s)
      | .left work =>
          callAll env nested label rest
            (s.add (if env.runsWork then [.left work] else failure noLoop))

/-- Dispatches a message after a number of calls of listeners. The depth bounds how deeply
listeners may dispatch within each other. -/
def dispatch (env : Surroundings) : Nat → Nat → Router → Message → Dispatched × Scene
  | 0, calls, r, m => (.tooDeep, ⟨r, m, [], calls⟩)
  | depth + 1, calls, r, m =>
      match r.match? m.topic with
      | none =>
          let records := env.logger.record? .debug "No pattern matched"
            [(.text "topic", .text m.topic)]
          (.routed none, ⟨r, m, records.map .logged, calls⟩)
      | some found =>
          let m := { m with label := some found.label, params := found.params }
          let (registrations, r) := r.take found.label
          callAll env (dispatch env depth) found.label registrations ⟨r, m, [], calls⟩

def depthLimit : Nat := 200

end TopicRouting.Router
