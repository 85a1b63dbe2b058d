import TopicRouting.Broker.Loopback
import TopicRouting.Bus.Step

/-! A loop takes the steps of a bus in a fixed order: what is ready first goes first, and time
passes only when nothing is ready. Its clients are loopback clients. -/
namespace TopicRouting.Bus

open Broker.Loopback (Client Conduct)

inductive Job where
  | begin (call : CallId) (command : Command)
  | handle (signal : Broker.Signal)
  | deliver (message : Message)
  | resume (call : CallId) (turns : Nat)
  | work (work : Router.Work)
  | ended (failure : Option Error)

structure Loop where
  bus : State
  behaviour : Router.Behaviour
  conducts : List Conduct := []
  clients : List Client := []
  ready : List Job := []
  timers : List CallId := []
  results : List (CallId × Except Error Reply) := []
  next : CallId := 0
  background : Nat := 0
  shown : List Output := []

namespace Loop

def conductOf (l : Loop) (n : Nat) : Conduct :=
  (l.conducts[n]? <|> l.conducts.getLast?).getD {}

def answerTo (l : Loop) (command : Command) : Broker.Answer :=
  let inUse (qos : Option Value) : Broker.Answer :=
    ((l.bus.client.bind (l.clients[·]?)).map (·.answer qos)).getD {}
  match command with
  | .connect => Client.answer { conduct := l.conductOf l.bus.created } none
  | .subscribe _ qos => inUse (some (l.bus.quality qos))
  | _ => inUse none

def enqueue (l : Loop) (jobs : List Job) : Loop := { l with ready := l.ready ++ jobs }

def perform (l : Loop) (n : Nat) (request : Broker.Request) : Loop :=
  match request with
  | .create .. => { l with clients := l.clients ++ [{ conduct := l.conductOf n }] }
  | request =>
      match l.clients[n]? with
      | none => l
      | some client =>
          let (client, signals) := client.perform request
          ({ l with clients := l.clients.set n client }).enqueue (signals.map .handle)

/-- The turns that pass until a woken call goes on: one more where its time was limited. -/
def turnsToWake (l : Loop) : Nat := if l.bus.options.patience = .endless then 0 else 1

def turnsToStop : Nat := 1

def serve (l : Loop) : Output → Loop
  | .requested n request => l.perform n request
  | .dispatched (.left work) => { l with background := l.background + 1 }.enqueue [.work work]
  | .armed call => { l with timers := l.timers ++ [call] }
  | .woken call => l.enqueue [.resume call l.turnsToWake]
  | .expired call => l.enqueue [.resume call 0]
  | .stopping call => l.enqueue [.resume call turnsToStop]
  | .finished call result =>
      { l with results := l.results ++ [(call, result)], timers := l.timers.erase call }
  | _ => l

def take (l : Loop) (t : Turn) : Loop :=
  t.outputs.foldl serve { l with bus := t.state, shown := l.shown ++ t.outputs }

def workFailed (l : Loop) (e : Error) : List Output :=
  (l.bus.routerLogger.record? .error "Listener failed" [(.text "error", .text e.message)]).map
    .logged

def dispatch (l : Loop) : Job → Loop
  | .begin call command => l.take (l.bus.begin call (l.answerTo command) command)
  | .handle signal => l.take (l.bus.handle signal)
  | .deliver message => l.take (l.bus.handleReceived l.behaviour message)
  | .resume call 0 => l.take (l.bus.resume call)
  | .resume call (turns + 1) => l.enqueue [.resume call turns]
  | .work work =>
      match work.slices with
      | [] => l.enqueue [.ended work.failure]
      | notes :: rest =>
          let l := l.take (l.bus.showing (notes.map fun v => .dispatched (.noted v)))
          if rest.isEmpty then l.enqueue [.ended work.failure]
          else l.enqueue [.work { work with slices := rest }]
  | .ended failure =>
      let lines := (failure.map l.workFailed).getD []
      { l.take (l.bus.showing lines) with background := l.background - 1 }

def drain : Nat → Loop → Loop
  | 0, l => l
  | fuel + 1, l =>
      match l.ready with
      | [] => l
      | job :: rest => drain fuel ({ l with ready := rest }.dispatch job)

def jobLimit : Nat := 1000000

def idle (l : Loop) : Loop := l.drain jobLimit

def result? (l : Loop) (call : CallId) : Option (Except Error Reply) :=
  (l.results.find? (·.1 == call)).map (·.2)

def await (call : CallId) : Nat → Loop → Loop
  | 0, l => l
  | fuel + 1, l =>
      match l.result? call, l.timers with
      | none, first :: rest =>
          let l := { l with timers := rest }
          await call fuel (l.take (l.bus.expire first)).idle
      | _, _ => l

def join (l : Loop) (call : CallId) : Loop := l.idle.await call (l.timers.length + jobLimit)

def spawn (l : Loop) (command : Command) : CallId × Loop :=
  (l.next, ({ l with next := l.next + 1 }.enqueue [.begin l.next command]).idle)

def call (l : Loop) (command : Command) : CallId × Loop :=
  let started := { l with next := l.next + 1 }.dispatch (.begin l.next command)
  (l.next, started.join l.next)

def signal (l : Loop) (signal : Broker.Signal) : Loop := (l.enqueue [.handle signal]).idle

def deliver (l : Loop) (message : Message) : Loop := (l.enqueue [.deliver message]).idle

def conduct (l : Loop) (change : Conduct → Conduct) : Loop :=
  let newest := l.clients.length - 1
  { l with clients := l.clients.modify newest fun c => { c with conduct := change c.conduct } }

def look (l : Loop) : List Output × Loop := (l.shown, { l with shown := [] })

end Loop
end TopicRouting.Bus
