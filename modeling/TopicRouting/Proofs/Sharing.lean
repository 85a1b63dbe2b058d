import TopicRouting.Bus.Shared
import TopicRouting.Proofs.Beginning
import TopicRouting.Proofs.Publishing

/-! A router that is used by itself and through a bus. The bus uses the router that it is given
if a pattern is registered there: both sides then see one router, which serves commands of either
and routes what the bus receives. An empty one is not used, and nothing done to it reaches the
bus. -/
namespace TopicRouting.Bus

namespace Shared

/- What may be asked of a router: a command by either side, or to route a message that the bus
receives. -/
inductive Access where
  | direct (command : Router.Command)
  | through (command : Router.Command)
  | received (m : Message) (behaviour : Router.Behaviour)

def Access.use (place : Nat) : Access → Use
  | direct command => .direct place command
  | through command => .through command
  | received m behaviour => .act (.deliver m behaviour)

end Shared

namespace LoggedRouter
open Shared (Access Shown)

def obey (r : LoggedRouter) (command : Router.Command) : LoggedRouter × Shown :=
  match r.router.run r.logger command with
  | .error e => (r, { reply := some (.error e) })
  | .ok (reply, router, records) =>
      ({ r with router := router }, { reply := some (.ok reply), outputs := records.map .logged })

def escaped : Router.Dispatched → List Output
  | .routed _ => []
  | .aborted => [.unhandled .aborted]
  | .tooDeep => [.unhandled .tooDeep]

def route (r : LoggedRouter) (m : Message) (behaviour : Router.Behaviour) : LoggedRouter × Shown :=
  match Payload.decode m.payload with
  | .error e => (r, { outputs := [.unhandled e] })
  | .ok json =>
      let (how, scene) := Router.dispatch ⟨behaviour, r.logger, true⟩ Router.depthLimit 0 r.router
        (State.read m json)
      ({ r with router := scene.router },
        { outputs := scene.outputs.map .dispatched ++ escaped how })

def serve (r : LoggedRouter) : Access → LoggedRouter × Shown
  | .direct command | .through command => r.obey command
  | .received m behaviour => r.route m behaviour

def serveAll (r : LoggedRouter) : List Access → LoggedRouter × List Shown
  | [] => (r, [])
  | access :: rest =>
      let (r, shown) := r.serve access
      let (r, later) := serveAll r rest
      (r, shown :: later)

theorem obeyLogger (r : LoggedRouter) (command : Router.Command) :
    (r.obey command).1.logger = r.logger := by
  unfold obey
  split <;> rfl

end LoggedRouter

theorem receivedRoutes (s : State) (r : LoggedRouter) (m : Message)
    (behaviour : Router.Behaviour) :
    let turn := ({ s with router := r.router, routerLogger := r.logger } : State).handleReceived
      behaviour m
    turn.state.router = (r.route m behaviour).1.router ∧
      turn.outputs = (r.route m behaviour).2.outputs ∧
      (r.route m behaviour).1.logger = r.logger := by
  intro turn
  rw [LoggedRouter.route]
  simp only [turn, State.handleReceived, State.dispatch]
  cases Payload.decode m.payload with
  | error e => exact ⟨rfl, rfl, rfl⟩
  | ok json =>
    simp only [State.read]
    cases Router.dispatch ⟨behaviour, r.logger, true⟩ Router.depthLimit 0 r.router
      { m with json := json, retain := .bool !m.retain.isBlank } with
    | mk how scene =>
      cases how <;>
        simp [Turn.andThen, State.quiet, State.showing, LoggedRouter.escaped]

namespace Shared
open LoggedRouter (serve serveAll)

variable {s t : Shared} {r : LoggedRouter} {p : Nat}

theorem currentHeld (held : s.routers[s.place]? = some r) :
    s.current = { s.bus with router := r.router, routerLogger := r.logger } := by
  rw [current, held]

theorem takeHeld (held : s.routers[s.place]? = some r) (bus : State) :
    (s.take bus).routers[s.place]? = some { r with router := bus.router } := by
  simp [take, held]

theorem stepDirect (held : s.routers[p]? = some r) (command : Router.Command) :
    s.step (.direct p command) =
      ({ s with routers := s.routers.set p (r.obey command).1 }, (r.obey command).2) := by
  simp only [step, held, LoggedRouter.obey]
  cases r.router.run r.logger command with
  | ok done => rfl
  | error e =>
    obtain ⟨inside, here⟩ := List.getElem?_eq_some_iff.mp held
    have same : s.routers.set p r = s.routers := by rw [← here, List.set_getElem_self]
    simp only [same]

theorem stepThrough (held : s.routers[s.place]? = some r) (command : Router.Command) :
    (s.step (.through command)).2 = (r.obey command).2 ∧
      (s.step (.through command)).1.routers[s.place]? = some (r.obey command).1 := by
  simp only [step, State.route, currentHeld held, LoggedRouter.obey]
  cases r.router.run r.logger command with
  | error e => exact ⟨rfl, held⟩
  | ok done => exact ⟨rfl, takeHeld held _⟩

theorem stepServes (place : s.place = p) (held : s.routers[p]? = some r) (access : Access) :
    (s.step (access.use p)).2 = (r.serve access).2 ∧
      (s.step (access.use p)).1.routers[p]? = some (r.serve access).1 := by
  subst place
  cases access with
  | direct command =>
    obtain ⟨inside, _⟩ := List.getElem?_eq_some_iff.mp held
    rw [Access.use, serve, stepDirect held]
    exact ⟨rfl, List.getElem?_set_self inside⟩
  | through command => exact stepThrough held command
  | received m behaviour =>
    obtain ⟨router, outputs, logger⟩ := receivedRoutes s.bus r m behaviour
    simp only [Access.use, step, serve, Bus.step, currentHeld held]
    refine ⟨?_, (takeHeld held _).trans ?_⟩
    · rw [outputs, LoggedRouter.route]
      split <;> rfl
    · rw [router, ← logger]

theorem stepPlace (s : Shared) (use : Use) :
    (s.step use).1.place = s.place := by
  cases use with
  | direct place command =>
    rw [step]
    split
    · rfl
    · split <;> rfl
  | through command =>
    rw [step]
    split <;> rfl
  | act action => rfl

theorem takeLogger (s : Shared) (bus : State) (q : Nat) :
    ((s.take bus).routers[q]?).map LoggedRouter.logger =
      (s.routers[q]?).map LoggedRouter.logger := by
  rw [take, List.getElem?_modify]
  split <;> simp [Function.comp_def]

theorem stepLogger (s : Shared) (use : Use) (q : Nat) :
    ((s.step use).1.routers[q]?).map LoggedRouter.logger =
      (s.routers[q]?).map LoggedRouter.logger := by
  cases use with
  | direct place command =>
    cases held : s.routers[place]? with
    | none => simp only [step, held]
    | some r =>
      rw [stepDirect held, List.getElem?_set]
      split
      · rename_i same
        obtain ⟨inside, _⟩ := List.getElem?_eq_some_iff.mp held
        rw [← same, held, if_pos inside]
        exact congrArg some (r.obeyLogger command)
      · rfl
  | through command =>
    rw [step]
    split
    · rfl
    · exact takeLogger s _ q
  | act action => exact takeLogger s _ q

theorem runPlace (s : Shared) (uses : List Use) :
    (s.run uses).1.place = s.place := by
  induction uses generalizing s with
  | nil => rfl
  | cons use uses ih => exact (ih _).trans (stepPlace s use)

theorem runLogger (s : Shared) (uses : List Use) (q : Nat) :
    ((s.run uses).1.routers[q]?).map LoggedRouter.logger =
      (s.routers[q]?).map LoggedRouter.logger := by
  induction uses generalizing s with
  | nil => rfl
  | cons use uses ih => exact (ih _).trans (stepLogger s use q)

theorem runServes (place : s.place = p) (held : s.routers[p]? = some r) (accesses : List Access) :
    (s.run (accesses.map (Access.use p))).2 = (serveAll r accesses).2 ∧
      (s.run (accesses.map (Access.use p))).1.routers[p]? = some (serveAll r accesses).1 := by
  induction accesses generalizing s r with
  | nil => exact ⟨rfl, held⟩
  | cons access accesses ih =>
    obtain ⟨shown, after⟩ := stepServes place held access
    obtain ⟨later, last⟩ := ih ((stepPlace s _).trans place) after
    exact ⟨congrArg₂ List.cons shown later, last⟩

def Use.asks (p : Nat) : Use → Option Router.Command
  | .direct q command => if q = p then some command else none
  | _ => none

structure Apart (p : Nat) (s t : Shared) : Prop where
  place : s.place = t.place
  bus : s.bus = t.bus
  others : ∀ q, q ≠ p → s.routers[q]? = t.routers[q]?

theorem Apart.current (apart : Apart p s t) (other : s.place ≠ p) : s.current = t.current := by
  rw [Shared.current, Shared.current, apart.others s.place other, apart.place, apart.bus]

theorem Apart.take (apart : Apart p s t) (bus : State) : Apart p (s.take bus) (t.take bus) where
  place := apart.place
  bus := rfl
  others q other := by
    simp only [Shared.take, List.getElem?_modify, apart.others q other, apart.place]

theorem stepApart (apart : Apart p s t) (other : s.place ≠ p) {use : Use}
    (silent : use.asks p = none) :
    (s.step use).2 = (t.step use).2 ∧
      Apart p (s.step use).1 (t.step use).1 := by
  cases use with
  | direct q command =>
    have elsewhere : q ≠ p := by
      rintro rfl
      simp [Use.asks] at silent
    cases held : s.routers[q]? with
    | none =>
      have missing := (apart.others q elsewhere).symm.trans held
      simpa only [step, held, missing, true_and] using apart
    | some r =>
      obtain ⟨inside, _⟩ := List.getElem?_eq_some_iff.mp held
      have same := (apart.others q elsewhere).symm.trans held
      obtain ⟨there, _⟩ := List.getElem?_eq_some_iff.mp same
      rw [stepDirect held, stepDirect same]
      refine ⟨rfl, apart.place, apart.bus, fun q' apart' => ?_⟩
      simp only [List.getElem?_set, apart.others q' apart', inside, there]
  | through command =>
    simp only [step, apart.current other]
    split
    · exact ⟨rfl, apart⟩
    · exact ⟨rfl, apart.take _⟩
  | act action =>
    simp only [step, apart.current other]
    exact ⟨trivial, apart.take _⟩

theorem stepAsked {command : Router.Command} {use : Use} (asked : use.asks p = some command)
    (held : s.routers[p]? = some r) (apart : Apart p s t) :
    (s.step use).1.routers[p]? = some (r.obey command).1 ∧
      Apart p (s.step use).1 t := by
  obtain rfl : use = .direct p command := by
    cases use with
    | direct q given =>
      rw [Use.asks] at asked
      split at asked
      · rename_i same
        rw [same, Option.some.inj asked]
      · contradiction
    | _ => contradiction
  obtain ⟨inside, _⟩ := List.getElem?_eq_some_iff.mp held
  rw [stepDirect held]
  refine ⟨List.getElem?_set_self inside, apart.place, apart.bus, fun q other => ?_⟩
  exact (List.getElem?_set_ne (Ne.symm other)).trans (apart.others q other)

theorem stepSilent (other : s.place ≠ p) {use : Use}
    (silent : use.asks p = none) :
    (s.step use).1.routers[p]? = s.routers[p]? := by
  have taken (bus : State) : (s.take bus).routers[p]? = s.routers[p]? := by
    simp [take, other]
  cases use with
  | direct q command =>
    have elsewhere : q ≠ p := by
      rintro rfl
      simp [Use.asks] at silent
    cases held : s.routers[q]? with
    | none => simp only [step, held]
    | some r =>
      rw [stepDirect held]
      exact List.getElem?_set_ne elsewhere
  | through command =>
    rw [step]
    split
    · rfl
    · exact taken _
  | act action => exact taken _

theorem runAsked (held : s.routers[p]? = some r) (other : s.place ≠ p)
    (uses : List Use) : (s.run uses).1.routers[p]? =
      some ((uses.filterMap (Use.asks p)).foldl (fun r command => (r.obey command).1) r) := by
  induction uses generalizing s r with
  | nil => exact held
  | cons use uses ih =>
    have place := (stepPlace s use).trans_ne other
    cases asked : use.asks p with
    | none =>
      rw [List.filterMap_cons_none asked]
      exact ih ((stepSilent other asked).trans held) place
    | some command =>
      rw [List.filterMap_cons_some asked]
      exact ih (stepAsked asked held ⟨rfl, rfl, fun _ _ => rfl⟩).1 place

theorem runApart (held : s.routers[p]? = some r) (other : s.place ≠ p) (apart : Apart p s t)
    (uses : List Use) :
    let silent (use : Use) := (use.asks p).isNone
    Apart p (s.run uses).1 (t.run (uses.filter silent)).1 ∧
      ((uses.zip (s.run uses).2).filter fun use => silent use.1).map Prod.snd =
        (t.run (uses.filter silent)).2 := by
  intro silent
  induction uses generalizing s t r with
  | nil => exact ⟨apart, rfl⟩
  | cons use uses ih =>
    have place := (stepPlace s use).trans_ne other
    cases asked : use.asks p with
    | none =>
      have now : silent use = true := by simp [silent, asked]
      obtain ⟨shown, after⟩ := stepApart apart other asked
      have here := (stepSilent other asked).trans held
      obtain ⟨last, later⟩ := ih here place after
      simpa [run, List.filter_cons, now, shown] using And.intro last later
    | some command =>
      have now : silent use = false := by simp [silent, asked]
      obtain ⟨here, after⟩ := stepAsked asked held apart
      simpa [run, List.filter_cons, now] using ih here place after

theorem createdAt {setup : Setup} {env : Environment} {generated : Text}
    {routers : List LoggedRouter} (held : routers[p]? = some r)
    (created : create setup env generated routers p = .ok s) :
    s.routers[p]? = some r ∧ (r.router.isEmpty = false → s.place = p) ∧
      (r.router.isEmpty = true → s.place = routers.length ∧ s.current.router = {}) := by
  obtain ⟨bus, made, placed⟩ := bindOk.mp created
  cases placed
  rw [held] at made ⊢
  cases empty : r.router.isEmpty with
  | false => simp [usesGiven, empty, held]
  | true =>
    obtain ⟨_, _, _, ⟨_, logger⟩, _, rfl, rfl⟩ := createdMakes made
    have chosen (own : LoggedRouter) : chooseRouter (some r) own = own := by
      rw [chooseRouter, Option.filter_some_neg (by simp [usesGiven, empty])]
      rfl
    obtain ⟨inside, _⟩ := List.getElem?_eq_some_iff.mp held
    have still : (routers ++ [⟨{}, logger⟩])[p]? = some r :=
      (List.getElem?_append_left inside).trans held
    simp [usesGiven, empty, current, chosen, still]

/-- A bus that is given a router with a pattern uses it. Whatever has been done before, commands to
the router, by itself or through the bus, and messages that the bus receives have the replies and
outputs that this one router has for them, in their order, and leave it as it is then for both. A
router without patterns is not used: the bus has an empty one of its own, and nothing of what is
done to the given one shows in the bus, nor does it learn anything from the bus. -/
theorem givenRouter {setup : Setup} {env : Environment} {generated : Text}
    {routers : List LoggedRouter} {given : Nat} {r : LoggedRouter} {s : Shared}
    (held : routers[given]? = some r)
    (created : create setup env generated routers given = .ok s)
    (before : List Use) :
    let now := (s.run before).1
    s.routers[given]? = some r ∧
    (r.router.isEmpty = false → ∃ r', now.routers[given]? = some r' ∧ r'.logger = r.logger ∧
      ∀ accesses : List Access,
        let after := now.run (accesses.map (Access.use given))
        let alone := r'.serveAll accesses
        after.2 = alone.2 ∧ after.1.routers[given]? = some alone.1 ∧
          after.1.current.router = alone.1.router) ∧
    (r.router.isEmpty = true → s.current.router = {} ∧
      now.routers[given]? = some
        ((before.filterMap (Use.asks given)).foldl (fun r command => (r.obey command).1) r) ∧
      let silent (use : Use) := (use.asks given).isNone
      let without := s.run (before.filter silent)
      now.current = without.1.current ∧
        ((before.zip (s.run before).2).filter fun use => silent use.1).map Prod.snd =
          without.2) := by
  intro now
  obtain ⟨here, full, empty⟩ := createdAt held created
  refine ⟨here, fun filled => ?_, fun none => ?_⟩
  · have place := (runPlace s before).trans (full filled)
    have kept := runLogger s before given
    rw [here, Option.map_some, Option.map_eq_some_iff] at kept
    obtain ⟨r', now', logger⟩ := kept
    refine ⟨r', now', logger, fun accesses => ?_⟩
    obtain ⟨shown, after⟩ := runServes place now' accesses
    have last := (runPlace now (accesses.map (Access.use given))).trans place
    exact ⟨shown, after, congrArg State.router (currentHeld (by rw [last, after]))⟩
  · obtain ⟨place, fresh⟩ := empty none
    obtain ⟨inside, _⟩ := List.getElem?_eq_some_iff.mp held
    have other : s.place ≠ given := by omega
    obtain ⟨apart, shown⟩ := runApart here other ⟨rfl, rfl, fun _ _ => rfl⟩ before
    have stays := (runPlace s before).trans_ne other
    exact ⟨fresh, runAsked here other before, apart.current stays, shown⟩

theorem givenRouterOfTwo :
    let empty : LoggedRouter := ⟨{}, ⟨.text "router", .text "ERROR"⟩⟩
    let full := (empty.obey (.set (.text "a") (.text "x"))).1
    let routers := [empty, full]
    let more : Router.Command := .set (.text "b") (.text "y")
    full.router.isEmpty = false ∧ empty.router.isEmpty = true ∧
      ∃ s t, create { url := .text "mqtt://b" } [] "c" routers 0 = .ok s ∧
        create { url := .text "mqtt://b" } [] "c" routers 1 = .ok t ∧
        (s.run [.direct 0 more]).1.current.router.has (.text "b") = false ∧
        ∃ first second,
          (t.run [.through more, .direct 1 (.contains (.text "b"))]).2 = [first, second] ∧
            second.reply = some (.ok (.contains true)) := by
  intro empty full routers more
  have filled : full.router.isEmpty = false := by decide +kernel
  have made (given : Nat) :
      ∃ s, create { url := .text "mqtt://b" } [] "c" routers given = .ok s := ⟨_, rfl⟩
  obtain ⟨s, first⟩ := made 0
  obtain ⟨t, second⟩ := made 1
  refine ⟨filled, rfl, s, t, first, second, ?_, ?_⟩
  · obtain ⟨-, -, unused⟩ := givenRouter (r := empty) rfl first [.direct 0 more]
    obtain ⟨fresh, -, same, -⟩ := unused rfl
    rw [same]
    exact (congrArg (Router.has · (.text "b")) fresh).trans rfl
  · obtain ⟨here, used, -⟩ := givenRouter (r := full) rfl second []
    obtain ⟨r', now, -, all⟩ := used filled
    cases here.symm.trans now
    obtain ⟨shown, -⟩ := all [.through more, .direct (.contains (.text "b"))]
    exact ⟨_, _, shown, rfl⟩

end Shared
end TopicRouting.Bus
