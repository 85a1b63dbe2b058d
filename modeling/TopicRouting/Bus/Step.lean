import TopicRouting.Bus.State
import TopicRouting.Payload

/-! The steps of a bus, each without interruption: a call up to the point where it has to wait,
the handling of one signal of the client, the end of a waiting time, and a call going on once
it need not wait any longer. Between two steps of one call any others may come. -/
namespace TopicRouting.Bus

inductive Command where
  | connect
  | close
  | subscribe (label : Label) (qos : Option Value)
  | unsubscribe (label : Label) (clears : Bool)
  | publish (label : Label) (params payload : Value) (qos : Option Value) (retain : Value)

structure Turn where
  state : State
  outputs : List Output

def Turn.andThen (t : Turn) (next : State → Turn) : Turn :=
  let later := next t.state
  ⟨later.state, t.outputs ++ later.outputs⟩

def sizeOf? : Value → Option Nat
  | .text t => some t.length
  | .bytes b | .byteArray b => some b.size
  | .list xs | .tuple xs | .set xs => some xs.length
  | .dict d => some d.length
  | _ => none

def grantedCodes : Answer → Except Error Reply
  | .acknowledged reasons => .ok (.granted ((reasons.getD []).map (·.value)))
  | .published 0 => .ok (.granted [])
  | _ => .error .wrongType

def acknowledgement (reasons : Option (List Broker.Reason)) : Except BusError Answer :=
  match (reasons.getD []).filter (·.isFailure) with
  | [] => .ok (.acknowledged reasons)
  | failures => .error (.requestRejected (failures.map (·.text)))

def publication (message : Int) : Option Broker.Reason → Except BusError Answer
  | some reason =>
      if reason.isFailure then .error (.publishRejected reason.text) else .ok (.published message)
  | none => .ok (.published message)

namespace State

def showing (s : State) (outputs : List Output) : Turn := ⟨s, outputs⟩

def quiet (s : State) : Turn := ⟨s, []⟩

def say (s : State) (severity : Severity) (message : Text) (fields : Dict) : Turn :=
  s.showing (s.log severity message fields)

def setStatus (s : State) (status : Status) (error : Option BusError) : Turn :=
  State.say { s with status := status, statusError := error <|> s.statusError }
    .debug "Status changed" [(.text "status", .text status.name)]

def finish (s : State) (id : CallId) (result : Except Error Reply) : Turn :=
  ⟨s.dropCall id, [.finished id result]⟩

/-- Ends a connection attempt. Answers to attempts belong to no call from then on. -/
def finishAttempt (s : State) (id : CallId) (result : Except Error Reply) : Turn :=
  ({ s with connecting := none }).finish id result

def settle (s : State) (id : CallId) (answer : Except BusError Answer) : Turn :=
  match s.call? id with
  | none => s.quiet
  | some c =>
      if c.future.isOpen then
        ⟨s.changeCall id fun c => { c with future := .settled answer },
          if c.expired || c.ending.isSome then [] else [.woken id]⟩
      else s.quiet

def settleMessage (s : State) (message : Int) (answer : Except BusError Answer) : Turn :=
  match s.pending.find? (·.1 == message) with
  | some (_, id) => s.settle id answer
  | none => s.quiet

def release (s : State) : Turn :=
  let settled := s.pending.foldl
    (fun t (_, id) => t.andThen (·.settle id (.error .notAvailable))) s.quiet
  settled.andThen fun s => quiet { s with pending := [] }

def conclude (s : State) (id : CallId) : Ending → Turn
  | .closed =>
      (s.setSubscriptions []).setStatus .closed none
        |>.andThen (fun s =>
          s.say .info "Connection closed" [(.text "client_id", s.options.clientId)])
        |>.andThen (·.finish id (.ok .closed))
  | .timedOut =>
      let e := BusError.connectTimedOut s.options.seconds
      (s.setStatus .error (some e)).andThen (·.finishAttempt id (.error (.bus e)))
  | .failed e => s.finishAttempt id (.error e)

/-- Drops the client and stops its loop. Where there is no client, there is nothing to wait
for. -/
def stopClient (s : State) (id : CallId) (ending : Ending) : Turn :=
  match s.client with
  | none => s.conclude id ending
  | some n =>
      ⟨({ s with client := none }).changeCall id fun c => { c with ending := some ending },
        [.requested n .stop, .stopping id]⟩

def wait (s : State) (c : Call) : Turn :=
  match s.options.patience with
  | .endless => ⟨{ s with calls := s.calls ++ [c] }, []⟩
  | .none => ⟨{ s with calls := s.calls ++ [{ c with future := .cancelled }] }, [.woken c.id]⟩
  | _ => ⟨{ s with calls := s.calls ++ [c] }, [.armed c.id]⟩

def waitFor (s : State) (id : CallId) (purpose : Purpose) (message : Int) : Turn :=
  match s.options.patience.fault? with
  | some e => (s.dropPending message).finish id (.error e)
  | none =>
      let s := { s with pending := putPending message id s.pending }
      s.wait { id := id, purpose := purpose, message := some message }

def attempt? (s : State) : Option CallId :=
  s.connecting.filter fun id => (s.call? id).any (·.future.isOpen)

def preparation (s : State) (n : Nat) : List Output :=
  let requests :=
    [.create s.options.clientId s.options.reconnect] ++
    (match s.settings.user with
      | some (c :: user) => [Broker.Request.credentials (c :: user) s.settings.password]
      | _ => []) ++
    (if s.settings.secure then [Broker.Request.secure] else [])
  requests.map (.requested n)

def reach (s : State) (n : Nat) : Output :=
  .requested n (.connect s.settings.host s.settings.port s.options.keepalive)

def connect (s : State) (id : CallId) (answer : Broker.Answer) : Turn :=
  if s.isAvailable then s.finish id (.error (.bus .alreadyAvailable))
  else
    let n := s.created
    let attempt : State :=
      { s with created := n + 1, client := some n, connecting := some id, closing := false }
    let c : Call := { id := id, purpose := .connect }
    attempt.showing (s.preparation n)
      |>.andThen (·.setStatus .connecting none)
      |>.andThen (fun s =>
        s.say .info "Connecting"
          [(.text "host", .text s.settings.host), (.text "port", .int s.settings.port),
            (.text "client_id", s.options.clientId)])
      |>.andThen (·.showing [s.reach n])
      |>.andThen fun s =>
        let give (e : Error) (s : State) : Turn :=
          stopClient { s with calls := s.calls ++ [c] } id (.failed e)
        match answer.connectError with
        | some text => give (.value (.other text)) s
        | none =>
            (s.showing [.requested n .start]).andThen fun s =>
              match s.options.patience.fault? with
              | some e => give e s
              | none => s.wait c

def close (s : State) (id : CallId) : Turn :=
  if s.isAvailable then
    let c : Call := { id := id, purpose := .close }
    showing { s with closing := true, calls := s.calls ++ [c] } (s.request .disconnect)
      |>.andThen (·.stopClient id .closed)
  else s.finish id (.error (.bus .notAvailable))

def require (s : State) (label : Label) : Except Error Pattern :=
  if !s.isAvailable then .error (.bus .notAvailable)
  else match s.router.get label with
    | .error e => .error (.label e)
    | .ok (some pattern) => .ok pattern
    | .ok none => .error .noAttribute

def quality (s : State) (qos : Option Value) : Value := qos.getD s.options.qos

def subscribe (s : State) (id : CallId) (label : Label) (qos : Option Value)
    (answer : Broker.Answer) : Turn :=
  match s.require label with
  | .error e => s.finish id (.error e)
  | .ok pattern =>
      let topic := pattern.topic
      let qos := s.quality qos
      if s.topics.contains topic then s.finish id (.error (.bus (.alreadySubscribed topic)))
      else
        (s.showing (s.request (.subscribe topic qos))).andThen fun s =>
          if let some e := answer.subscribeError then s.finish id (.error e)
          else if answer.code ≠ Broker.ResultCode.success then
            s.finish id (.error (.bus (.requestFailed .subscribe answer.code)))
          else s.waitFor id (.subscribe label topic qos) answer.message

def unsubscribe (s : State) (id : CallId) (label : Label) (clears : Bool)
    (answer : Broker.Answer) : Turn :=
  match s.require label with
  | .error e => s.finish id (.error e)
  | .ok pattern =>
      let topic := pattern.topic
      if !s.topics.contains topic then s.finish id (.error (.bus (.notSubscribed topic)))
      else
        (s.showing (s.request (.unsubscribe topic))).andThen fun s =>
          if answer.code ≠ Broker.ResultCode.success then
            s.finish id (.error (.bus (.requestFailed .unsubscribe answer.code)))
          else s.waitFor id (.unsubscribe label topic clears) answer.message

def countFailure (s : State) (label : Label) : State :=
  { s with metrics := s.metrics.fail label }

def topicFor (pattern : Pattern) (params : Value) : Except Error Text :=
  let params := params.orElse (.dict [])
  match sizeOf? params with
  | none => .error .wrongType
  | some n =>
      if n ≠ pattern.parameterCount then .error (.parameter (.count n pattern.parameterCount))
      else pattern.build params

def publish (s : State) (id : CallId) (label : Label) (params payload : Value)
    (qos : Option Value) (retain : Value) (answer : Broker.Answer) : Turn :=
  match s.require label with
  | .error e => s.finish id (.error e)
  | .ok pattern =>
      match topicFor pattern params with
      | .error (.parameter cause) =>
          let e := Error.parameter cause
          (s.countFailure label).say .warn "Publish rejected"
              [(.text "label", label.value), (.text "error", .text e.message)]
            |>.andThen (·.finish id (.error e))
      | .error e => s.finish id (.error e)
      | .ok topic =>
          match Payload.encode payload with
          | .error e => s.finish id (.error e)
          | .ok bytes =>
              let qos := s.quality qos
              (s.showing (s.request (.publish topic bytes qos retain))).andThen fun s =>
                if answer.code ≠ Broker.ResultCode.success then
                  (s.countFailure label).finish id
                    (.error (.bus (.requestFailed .publish answer.code)))
                else s.waitFor id (.publish label topic qos retain) answer.message

def begin (s : State) (id : CallId) (answer : Broker.Answer) : Command → Turn
  | .connect => s.connect id answer
  | .close => s.close id
  | .subscribe label qos => s.subscribe id label qos answer
  | .unsubscribe label clears => s.unsubscribe id label clears answer
  | .publish label params payload qos retain => s.publish id label params payload qos retain answer

def forget (s : State) (c : Call) : State :=
  match c.message with
  | some message => s.dropPending message
  | none => s

def complete (s : State) (c : Call) (answer : Answer) : Turn :=
  let s := s.forget c
  match c.purpose with
  | .connect =>
      match answer with
      | .connected reason => s.finishAttempt c.id (.ok (.connected reason))
      | _ => s.finishAttempt c.id (.error .wrongType)
  | .close => s.finish c.id (.ok .closed)
  | .subscribe label topic qos =>
      let s := s.setSubscriptions (putSubscription topic qos s.subscriptions)
      s.say .info "Subscribed"
          [(.text "label", label.value), (.text "topic", .text topic), (.text "qos", qos)]
        |>.andThen (·.finish c.id (grantedCodes answer))
  | .unsubscribe label topic clears =>
      if !s.topics.contains topic then s.finish c.id (.error .noKey)
      else
        let s := s.setSubscriptions (s.subscriptions.filter (·.1 != topic))
        let cleared := if clears then
            s.router.clearFor (if label = .null then none else some label)
          else .ok s.router
        match cleared with
        | .error e => s.finish c.id (.error (.label e))
        | .ok router =>
            say { s with router := router } .info "Unsubscribed"
                [(.text "label", label.value), (.text "topic", .text topic)]
              |>.andThen (·.finish c.id (.ok .unsubscribed))
  | .publish label topic qos retain =>
      say { s with metrics := s.metrics.publish label } .debug "Published"
          [(.text "label", label.value), (.text "topic", .text topic), (.text "qos", qos),
            (.text "retain", retain)]
        |>.andThen (·.finish c.id (.ok (.published topic)))

def fail (s : State) (c : Call) (e : BusError) : Turn :=
  match c.purpose with
  | .connect => s.stopClient c.id (.failed (.bus e))
  | .publish label .. => ((s.forget c).countFailure label).finish c.id (.error (.bus e))
  | _ => (s.forget c).finish c.id (.error (.bus e))

def giveUp (s : State) (c : Call) : Turn :=
  match c.purpose, c.message with
  | .connect, _ => s.stopClient c.id .timedOut
  | _, message => s.fail c (.noAcknowledgement (message.getD 0) s.options.seconds)

/-- A call that goes on. If its time is over and no answer has come, it gives the answer up
first and goes on once more. -/
def resume (s : State) (id : CallId) : Turn :=
  match s.call? id with
  | none => s.quiet
  | some c =>
      match c.ending, c.future with
      | some ending, _ => s.release.andThen (·.conclude id ending)
      | none, .settled (.ok answer) => s.complete c answer
      | none, .settled (.error e) => s.fail c e
      | none, .cancelled => s.giveUp c
      | none, .open =>
          if c.expired then
            ⟨s.changeCall id fun c => { c with future := .cancelled }, [.woken id]⟩
          else s.quiet

def expire (s : State) (id : CallId) : Turn :=
  match s.call? id with
  | none => s.quiet
  | some c =>
      if c.future.isOpen && !c.expired && c.ending.isNone then
        ⟨s.changeCall id fun c => { c with expired := true }, [.expired id]⟩
      else s.quiet

def settleAttempt (s : State) (answer : Except BusError Answer) : Turn :=
  match s.attempt? with
  | some id => s.settle id answer
  | none => s.quiet

def resubscribe (s : State) : Turn :=
  s.showing (s.subscriptions.flatMap fun (topic, qos) => s.request (.subscribe topic qos))

def handleConnected (s : State) (reason : Broker.Reason) : Turn :=
  if reason.isFailure then
    let e := BusError.refused reason.text
    s.setStatus .error (some e)
      |>.andThen (·.say .error "Connection refused" [(.text "reason", .text reason.text)])
      |>.andThen (·.settleAttempt (.error e))
  else
    (s.setStatus .connected none).andThen fun s =>
      if s.attempt?.isSome then
        s.say .info "Connected" [(.text "client_id", s.options.clientId)]
          |>.andThen (·.settleAttempt (.ok (.connected reason)))
      else if s.isAvailable then
        s.say .info "Reconnected"
            [(.text "client_id", s.options.clientId),
              (.text "topics", .int s.subscriptions.length)]
          |>.andThen resubscribe
      else s.quiet

def handleConnectFailed (s : State) : Turn :=
  let e := BusError.unreachable s.settings.host s.settings.port
  s.setStatus .error (some e)
    |>.andThen (fun s =>
      s.say .error "Connection failed"
        [(.text "host", .text s.settings.host), (.text "port", .int s.settings.port)])
    |>.andThen (·.settleAttempt (.error e))

def handleDisconnected (s : State) (reason : Broker.Reason) : Turn :=
  if s.closing then s.setStatus .closed none
  else
    s.setStatus (if s.options.reconnect.isBlank then .offline else .reconnecting) none
      |>.andThen fun s =>
        s.say .warn "Connection lost"
          [(.text "reason", .text reason.text), (.text "reconnecting", s.options.reconnect)]

def dispatch (s : State) (behaviour : Router.Behaviour) (m : Message) :
    Router.Dispatched × Message × Turn :=
  let (how, scene) :=
    Router.dispatch ⟨behaviour, s.routerLogger, true⟩ Router.depthLimit 0 s.router m
  (how, scene.message, ⟨{ s with router := scene.router }, scene.outputs.map .dispatched⟩)

/-- Reads a message and routes it; it counts once all its listeners have been called. -/
def handleReceived (s : State) (behaviour : Router.Behaviour) (m : Message) : Turn :=
  match Payload.decode m.payload with
  | .error e => s.showing [.unhandled e]
  | .ok json =>
      let read := { m with json := json, retain := .bool !m.retain.isBlank }
      let (how, _, turn) := s.dispatch behaviour read
      turn.andThen fun s =>
        match how with
        | .routed label => quiet { s with metrics := s.metrics.receive label }
        | .aborted => s.showing [.unhandled .aborted]
        | .tooDeep => s.showing [.unhandled .tooDeep]

def handle (s : State) : Broker.Signal → Turn
  | .connected reason => s.handleConnected reason
  | .connectFailed => s.handleConnectFailed
  | .disconnected reason => s.handleDisconnected reason
  | .acknowledged message reasons => s.settleMessage message (acknowledgement reasons)
  | .published message reason => s.settleMessage message (publication message reason)

def route (s : State) (command : Router.Command) : Except Error (Router.Reply × Turn) := do
  let (reply, router, records) ← s.router.run s.routerLogger command
  .ok (reply, ⟨{ s with router := router }, records.map .logged⟩)

end State

/-- What may happen to a bus. A message that is delivered comes with what the listeners do with it,
which may be something else for the next one. -/
inductive Action where
  | begin (call : CallId) (command : Command) (answer : Broker.Answer)
  | handle (signal : Broker.Signal)
  | deliver (message : Message) (behaviour : Router.Behaviour)
  | expire (call : CallId)
  | resume (call : CallId)
  | route (command : Router.Command)

def step (s : State) : Action → Turn
  | .begin call command answer => s.begin call answer command
  | .handle signal => s.handle signal
  | .deliver message behaviour => s.handleReceived behaviour message
  | .expire call => s.expire call
  | .resume call => s.resume call
  | .route command =>
      match s.route command with
      | .ok (_, turn) => turn
      | .error _ => s.quiet

def run (s : State) (actions : List Action) : Turn :=
  actions.foldl (fun t action => t.andThen fun s => step s action) s.quiet

end TopicRouting.Bus
