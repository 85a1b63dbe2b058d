import TopicRouting.Bus.Step
import TopicRouting.Environment

/-! What a new bus is made of. It writes to the logger and uses the router that it is given, or
has its own. -/
namespace TopicRouting.Bus

structure LoggedRouter where
  router : Router
  logger : Logger

structure Setup where
  url : Value
  clientId : Value := .null
  keepalive : Value := .int 60
  qos : Value := .int 0
  reconnect : Value := .bool true
  timeout : Value := .int 10
  logger : Option Logger := none
  router : Option LoggedRouter := none

/-- Whether a bus uses a router that it is given; an empty one counts as none. -/
def usesGiven (given : Router) : Bool := !given.isEmpty

def chooseRouter (given : Option LoggedRouter) (own : LoggedRouter) : LoggedRouter :=
  (given.filter fun g => usesGiven g.router).getD own

def Setup.create (setup : Setup) (env : Environment) (generated : Text) : Except Error State := do
  let settings ← Broker.Settings.read setup.url
  let logger ← match setup.logger with
    | some logger => .ok logger
    | none => Logger.ofLevel (.text "bus") .null env.logLevel
  let routerLogger ← Logger.ofLevel (.text "router") logger.level env.logLevel
  let chosen := chooseRouter setup.router ⟨{}, routerLogger⟩
  let options : Options :=
    ⟨setup.clientId.orElse (.text generated), setup.keepalive, setup.qos, setup.reconnect,
      setup.timeout⟩
  .ok
    { options := options
      settings := settings
      logger := logger
      routerLogger := chosen.logger
      router := chosen.router }

end TopicRouting.Bus
