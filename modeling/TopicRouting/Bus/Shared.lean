import TopicRouting.Bus.Setup

/-! Routers that stand on their own, one of which a bus may use too. Each keeps the logger that
it was made with. What is changed on the router of a bus is changed for both sides. -/
namespace TopicRouting.Bus

structure Shared where
  routers : List LoggedRouter
  place : Nat
  bus : State

namespace Shared

inductive Use where
  | direct (place : Nat) (command : Router.Command)
  | through (command : Router.Command)
  | act (action : Action)

structure Shown where
  reply : Option (Except Error Router.Reply) := none
  outputs : List Output := []

/-- A new bus that is given the router at a place. If it does not use that one, its own is added
to the others. -/
def create (setup : Setup) (env : Environment) (generated : Text) (routers : List LoggedRouter)
    (given : Nat) : Except Error Shared := do
  let bus ← Setup.create { setup with router := routers[given]? } env generated
  .ok (if routers[given]?.any fun r => usesGiven r.router then ⟨routers, given, bus⟩
    else ⟨routers ++ [⟨bus.router, bus.routerLogger⟩], routers.length, bus⟩)

def current (s : Shared) : State :=
  match s.routers[s.place]? with
  | some r => { s.bus with router := r.router, routerLogger := r.logger }
  | none => s.bus

def take (s : Shared) (bus : State) : Shared :=
  { s with
    routers := s.routers.modify s.place fun r => { r with router := bus.router }
    bus := bus }

def step (s : Shared) : Use → Shared × Shown
  | .direct place command =>
      match s.routers[place]? with
      | none => (s, {})
      | some r =>
          match r.router.run r.logger command with
          | .error e => (s, { reply := some (.error e) })
          | .ok (reply, router, records) =>
              ({ s with routers := s.routers.set place { r with router := router } },
                { reply := some (.ok reply), outputs := records.map .logged })
  | .through command =>
      match s.current.route command with
      | .error e => (s, { reply := some (.error e) })
      | .ok (reply, turn) =>
          (s.take turn.state, { reply := some (.ok reply), outputs := turn.outputs })
  | .act action =>
      let turn := Bus.step s.current action
      (s.take turn.state, { outputs := turn.outputs })

def run (s : Shared) : List Use → Shared × List Shown
  | [] => (s, [])
  | use :: rest =>
      let (s, shown) := s.step use
      let (s, later) := run s rest
      (s, shown :: later)

end Shared
end TopicRouting.Bus
