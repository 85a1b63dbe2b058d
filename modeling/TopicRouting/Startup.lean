import TopicRouting.Bus.Configured
import TopicRouting.Bus.Loop

/-! Starts the server of a configuration: its bus connects, subscribes every label and, while
the server runs, is there for its requests; after the server the bus is closed. -/
namespace TopicRouting.Startup

structure Operations (σ : Type) where
  connect : σ → Except Error Unit × σ
  attach : σ → σ
  labels : σ → List Label
  subscribe : Label → σ → Except Error Unit × σ
  run : σ → Except Error Unit × σ
  close : σ → Except Error Unit × σ

namespace Operations

variable {σ : Type} (o : Operations σ)

def subscribeAll : List Label → σ → Except Error Unit × σ
  | [], s => (.ok (), s)
  | label :: rest, s =>
      match o.subscribe label s with
      | (.ok (), s) => subscribeAll rest s
      | failed => failed

/-- Runs the server, and closes the bus however it ended. An error of the closing hides one of
the server. -/
def runAndClose (s : σ) : Except Error Unit × σ :=
  let (ran, s) := o.run s
  let (closed, s) := o.close s
  (closed.bind fun _ => ran, s)

/-- The whole start. What fails before the server runs ends it there, and leaves the bus as
it is. -/
def serve (s : σ) : Except Error Unit × σ :=
  match o.connect s with
  | (.ok (), s) =>
      let s := o.attach s
      match o.subscribeAll (o.labels s) s with
      | (.ok (), s) => o.runAndClose s
      | failed => failed
  | failed => failed

end Operations

inductive Event where
  | exporterStarted (port : Value)
  | bus (output : Bus.Output)
  | serverMade (host port : Value)
  | serverRan (status : Bus.Status) (topics : List Text)

structure Stage where
  loop : Bus.Loop
  isAttached : Bool := false
  events : List Event := []

namespace Stage

def look (s : Stage) : Stage :=
  let (shown, loop) := s.loop.look
  { s with loop := loop, events := s.events ++ shown.map .bus }

def note (s : Stage) (events : List Event) : Stage := { s with events := s.events ++ events }

def call (s : Stage) (command : Bus.Command) : Except Error Unit × Stage :=
  let (id, loop) := s.loop.call command
  ((loop.result? id).getD (.ok .closed) |>.map fun _ => (), { s with loop := loop }.look)

end Stage

structure Server where
  host : Value
  port : Value
  failure : Option Error := none

def Server.ofConfig (c : Config) (failure : Option Error) : Server :=
  ⟨c.get (.text "api") (.text "host") (.text "0.0.0.0"),
    c.get (.text "api") (.text "port") (.int 8080), failure⟩

def operations (server : Server) : Operations Stage where
  connect s := s.call .connect
  attach s := { s with isAttached := true }
  labels s := s.loop.bus.router.labels
  subscribe label s := s.call (.subscribe label none)
  run s :=
    let bus := s.loop.bus
    (match server.failure with
      | some e => .error e
      | none => .ok (),
      s.note [.serverMade server.host server.port, .serverRan bus.status bus.topics])
  close s := s.call .close

structure Session where
  isExporting : Bool := false
  metrics : Metrics := {}
  conducts : List Broker.Loopback.Conduct := []
  attached : Option Bus.State := none
  events : List Event := []

namespace Session

def startExporter (p : Session) (c : Config) : Session :=
  let isWanted := !(c.get (.text "monitoring") (.text "prometheus_enabled") (.bool false)).isBlank
  if isWanted && !p.isExporting then
    let port := c.get (.text "monitoring") (.text "prometheus_port") (.int 9090)
    { p with isExporting := true, events := p.events ++ [.exporterStarted port] }
  else p

def conductsAfter (p : Session) (used : Nat) : List Broker.Loopback.Conduct :=
  match p.conducts.drop used with
  | [] => p.conducts.getLast?.toList
  | rest => rest

def take (p : Session) (s : Stage) : Session :=
  { p with
    metrics := s.loop.bus.metrics
    conducts := p.conductsAfter s.loop.clients.length
    attached := if s.isAttached then some s.loop.bus else p.attached
    events := p.events ++ s.events }

def serve (p : Session) (c : Config) (env : Environment) (generated : Text)
    (failure : Option Error) : Except Error Unit × Session :=
  let p := p.startExporter c
  match Bus.build c { url := .null } false env generated with
  | .error e => (.error e, p)
  | .ok (turn, .error e) => (.error e, { p with events := p.events ++ turn.outputs.map .bus })
  | .ok (turn, .ok ()) =>
      let loop : Bus.Loop :=
        { bus := { turn.state with metrics := p.metrics }
          behaviour := fun _ _ _ => .done
          conducts := p.conducts
          shown := turn.outputs }
      let (result, stage) := (operations (Server.ofConfig c failure)).serve { loop := loop }
      (result, p.take stage)

end Session
end TopicRouting.Startup
