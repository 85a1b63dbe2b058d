import TopicRouting.Proofs.Linearizing
import TopicRouting.Proofs.Overlapping
import TopicRouting.Proofs.Registrations

/-! What lasts while a bus is used, whatever it is asked for. Its router is what commands and
messages make of a router, and a client is in use only if calls can tell how long they wait. -/
namespace TopicRouting.Bus

namespace Connection

variable {k : Connection} {action : Action}

def Timed (k : Connection) : Prop := k.client.isSome = true → k.options.patience.fault? = none

theorem stopTimed (k : Connection) (id : CallId) (ending : Ending) :
    (k.stop id ending).connection.Timed := by
  have none : (k.stop id ending).connection.client = none := by
    rw [stop]
    cases client : k.client with
    | none => cases ending <;> exact client
    | some n => rfl
  intro available
  simp [none] at available

theorem connectTimed (timed : k.Timed) (id : CallId) (answer : Broker.Answer) :
    (k.connect id answer).connection.Timed := by
  rw [connect]
  split
  · exact timed
  · split
    · exact stopTimed _ _ _
    · split
      · exact stopTimed _ _ _
      · rename_i patient
        exact fun _ => patient

theorem nextTimed (timed : k.Timed) (action : Action) : (k.next action).connection.Timed := by
  have steps := k.nextSteps action
  have connects {id : CallId} {answer : Broker.Answer} (begun : action = .begin id .connect answer) :
      (k.next action).connection.Timed := begun ▸ connectTimed timed id answer
  generalize k.next action = shift at steps connects ⊢
  cases steps with
  | kept _ _ => exact timed
  | refused _ _ _ => exact timed
  | attempted begun _ => exact connects begun
  | attemptFailed begun _ => exact connects begun
  | closes _ _ => exact stopTimed _ _ _
  | @concluded c ending _ _ _ => cases ending <;> exact timed
  | answered _ _ _ _ => exact timed
  | stopped _ _ _ _ => exact stopTimed _ _ _

theorem runTimed (timed : k.Timed) (actions : List Action) : (k.run actions).connection.Timed := by
  induction actions generalizing k with
  | nil => exact timed
  | cons action rest ih => exact ih (nextTimed timed action)

end Connection

namespace State

variable {s : State}

theorem reachableTimed {start : State} (new : start.New) {actions : List Action}
    (distinct : (begun actions).Nodup)
    (available : (run start actions).state.isAvailable = true) :
    (run start actions).state.options.patience.fault? = none := by
  have timed : start.connection.Timed := fun available => by
    simp [show start.connection.client = none from new.client] at available
  have distinct : (begun (actions ++ [])).Nodup := by rwa [List.append_nil]
  have course : (run start actions).state.connection = (start.connection.run actions).connection :=
    runCourse new distinct
  have last := Connection.runTimed timed actions
  rw [← course] at last
  exact last available

def Grows (before after : Router) : Prop :=
  ∃ turns : List Router.Turn, after = turns.foldl Router.turn before

theorem Grows.none {r : Router} : Grows r r := ⟨[], rfl⟩

theorem Grows.same {r t : Router} (same : t = r) : Grows r t := same ▸ .none

theorem completeGrows (s : State) (c : Call) (answer : Answer) :
    Grows s.router (s.complete c answer).state.router := by
  have forgot : (s.forget c).router = s.router := contentRouter (contentHeld (forgetHoldings s c))
  rw [← forgot, complete.eq_def]
  cases c.purpose with
  | connect => cases answer <;> exact .none
  | unsubscribe l topic clears =>
    dsimp only
    split
    · exact .none
    · split
      · exact .none
      · rename_i router cleared
        split at cleared
        · refine ⟨[.command s.routerLogger (.offAll (if l = .null then none else some l))], ?_⟩
          rw [List.foldl_cons, List.foldl_nil, Router.turnStays _ rfl]
          exact (congrArg (Router.orStay _) cleared).symm
        · cases cleared
          exact .none
  | _ => exact .none

theorem resumeGrows (s : State) (id : CallId) : Grows s.router (s.resume id).state.router := by
  have held {t : State} (same : t.holdings = s.holdings) : Grows s.router t.router :=
    .same (contentRouter (contentHeld same))
  rw [resume]
  cases s.call? id with
  | none => exact .none
  | some c =>
    dsimp only
    split
    · rename_i ending _
      refine .same (Eq.trans ?_ (contentRouter (contentHeld (releaseHoldings s))))
      cases ending <;> rfl
    · exact completeGrows s c _
    · exact held (failHoldings s c _)
    · exact held (giveUpHoldings s c)
    · split <;> exact .none

theorem receivedGrows (s : State) (behaviour : Router.Behaviour) (m : Message) :
    Grows s.router (s.handleReceived behaviour m).state.router := by
  have turned {json : Option Value} {how : Router.Dispatched} {scene : Router.Scene}
      (routing : s.routing behaviour m json = (how, scene)) : Grows s.router scene.router :=
    ⟨[.dispatch ⟨behaviour, s.routerLogger, true⟩ Router.depthLimit
      { m with json := json, retain := .bool !m.retain.isBlank }],
      (congrArg (·.2.router) routing).symm⟩
  cases s.receives behaviour m with
  | unread fails turn => exact .same (congrArg (·.state.router) turn)
  | routed decoded routing turn =>
    rw [turn]
    exact turned routing
  | broken decoded routing breaks turn =>
    rw [turn]
    exact turned routing

theorem stepGrows (s : State) (action : Action) :
    Grows s.router (step s action).state.router := by
  have held {t : State} (same : t.holdings = s.holdings) : Grows s.router t.router :=
    .same (contentRouter (contentHeld same))
  cases action with
  | begin id command answer => exact held (beginHoldings s id command answer)
  | handle signal => exact held (handleHoldings s signal)
  | deliver m behaviour => exact receivedGrows s behaviour m
  | expire id => exact held (expireHoldings s id)
  | resume id => exact resumeGrows s id
  | route command =>
    refine ⟨[.command s.routerLogger command], ?_⟩
    rw [step, route, List.foldl_cons, List.foldl_nil, Router.turn]
    cases s.router.run s.routerLogger command <;> rfl

theorem runGrows (s : State) (actions : List Action) :
    Grows s.router (run s actions).state.router := by
  induction actions generalizing s with
  | nil => exact .none
  | cons action rest ih =>
    obtain ⟨first, here⟩ := stepGrows s action
    obtain ⟨later, there⟩ := ih (step s action).state
    refine ⟨first ++ later, ?_⟩
    rw [List.foldl_append, ← here, runCons]
    exact there

theorem grownKnows {past : List Router.Turn} {r : Router} (grown : Grows (Router.after past) r)
    (label : Label) : (∃ p, r.get label = .ok (some p)) ∨ r.get label = .error (.unknown label) := by
  obtain ⟨turns, same⟩ := grown
  rw [Router.after, ← List.foldl_append] at same
  obtain ⟨t, represents⟩ := Router.afterRepresents (past ++ turns)
  rw [Router.after, ← same] at represents
  rw [Router.getRow represents]
  cases t.row? label with
  | none => exact .inr rfl
  | some row => exact .inl ⟨_, rfl⟩

end State
end TopicRouting.Bus
