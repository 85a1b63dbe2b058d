import TopicRouting.Proofs.Following

/-! A run of a bus as a course of its connection: from step to step the connection moves as its
machine says, whatever other calls do meanwhile. -/
namespace TopicRouting.Bus

namespace State

variable {s : State} {id : CallId}

theorem appendedAsked {c : Call} (asks : c.purpose.acknowledged = true) :
    ({ s with calls := s.calls ++ [c] } : State).connection = s.connection := by
  simp [connection, List.filter_append, asks]

theorem appendedConnection {c : Call} (connects : c.purpose.acknowledged = false) :
    ({ s with calls := s.calls ++ [c] } : State).connection =
      { s.connection with calls := s.connection.calls ++ [c] } := by
  simp [connection, List.filter_append, connects]

theorem askedAside {u : State} {outputs : List Output} (same : u.connection = s.connection)
    (silent : ∀ output ∈ outputs, output.isSilent) {next : State → Turn}
    (rest : (next u).Aside s.connection id) :
    ((u.showing outputs).andThen next).Aside s.connection id := by
  have shown := showingFollows silent u
  rw [same] at shown
  exact shown.thenAside rest

section asking

variable (other : ∀ c ∈ s.connection.calls, c.id ≠ id)
include other

theorem waitForAside {purpose : Purpose} (message : Int) (asks : purpose.acknowledged = true) :
    (s.waitFor id purpose message).Aside s.connection id := by
  rw [waitFor]
  split
  · refine finishAside ?_ other _
    rfl
  · refine ⟨?_, ?_, ?_⟩
    · rw [waitAppends]
      exact appendedAsked asks
    · rw [wait]
      dsimp only
      split <;> exact fun _ none => absurd none List.not_mem_nil
    · rw [wait]
      dsimp only
      split <;> rfl

theorem subscribeAside (label : Label) (qos : Option Value) (answer : Broker.Answer) :
    (s.subscribe id label qos answer).Aside s.connection id := by
  rw [subscribe]
  split
  · exact finishAside rfl other _
  · dsimp only
    split
    · exact finishAside rfl other _
    · refine askedAside rfl (requestSilent s (by simp)) ?_
      split
      · exact finishAside rfl other _
      · split
        · exact finishAside rfl other _
        · exact waitForAside other _ rfl

theorem unsubscribeAside (label : Label) (clears : Bool) (answer : Broker.Answer) :
    (s.unsubscribe id label clears answer).Aside s.connection id := by
  rw [unsubscribe]
  split
  · exact finishAside rfl other _
  · dsimp only
    split
    · exact finishAside rfl other _
    · refine askedAside rfl (requestSilent s (by simp)) ?_
      split
      · exact finishAside rfl other _
      · exact waitForAside other _ rfl

theorem publishAside (label : Label) (params payload : Value) (qos : Option Value) (retain : Value)
    (answer : Broker.Answer) :
    (s.publish id label params payload qos retain answer).Aside s.connection id := by
  rw [publish]
  split
  · exact finishAside rfl other _
  · split
    · refine reportAside ?_ other _ _ _ _
      rfl
    · exact finishAside rfl other _
    · split
      · exact finishAside rfl other _
      · refine askedAside rfl (requestSilent s (by simp)) ?_
        split
        · refine finishAside ?_ other _
          rfl
        · exact waitForAside other _ rfl

end asking

theorem joinedFollows (s : State) {c : Call} (connects : c.purpose.acknowledged = false)
    (id : CallId) (ending : Ending) :
    (({ s with calls := s.calls ++ [c] } : State).stopClient id ending).Follows
      ({ s.connection with calls := s.connection.calls ++ [c] }.stop id ending) :=
  appendedConnection connects ▸ stopFollows _ id ending

theorem closeFollows (s : State) (id : CallId) :
    (s.close id).Follows (s.connection.close id) := by
  rw [close, Connection.close]
  by_cases available : s.client.isSome = true
  · rw [if_pos (show s.isAvailable = true from available),
      if_pos (show s.connection.client.isSome = true from available)]
    refine Turn.Follows.andThen (showingFollows (requestSilent s (by simp)) _) ?_
    exact joinedFollows { s with closing := true } rfl id .closed
  · rw [if_neg (show ¬ s.isAvailable = true from available),
      if_neg (show ¬ s.connection.client.isSome = true from available)]
    exact finishFollows s id _

theorem preparationSilent (s : State) (n : Nat) :
    ∀ output ∈ s.preparation n, output.isSilent := by
  intro output member
  simp only [preparation, List.map_append, List.mem_append] at member
  rcases member with (created | named) | secured
  · rw [List.mem_singleton.mp created]
    rfl
  · split at named
    · rw [List.mem_singleton.mp named]
      rfl
    · contradiction
  · split at secured
    · rw [List.mem_singleton.mp secured]
      rfl
    · contradiction

theorem preparedFollows (s : State) (id : CallId) : (s.prepared id).Follows
    { s.connection with client := some s.created, created := s.created + 1, connecting := some id,
                        closing := false, status := .connecting }.quiet := by
  let attempt : State :=
    { s with created := s.created + 1, client := some s.created, connecting := some id,
             closing := false }
  have shown : ((attempt.showing (s.preparation s.created)).andThen
      (·.setStatus .connecting none)).Follows
        { attempt.connection with status := .connecting }.quiet :=
    (showingFollows (s.preparationSilent s.created) attempt).andThen (setStatusFollows _ _ _)
  rw [prepared]
  refine Turn.Follows.thenQuiet (Turn.Follows.thenQuiet shown (sayFollows _ _ _ _)) ?_
  refine showingFollows (fun output member => ?_) _
  rw [List.mem_singleton.mp member]
  rfl

theorem waitFollows (s : State) (id : CallId) :
    let c : Call := { id := id, purpose := .connect, future := s.options.patience.future }
    (s.wait { id := id, purpose := .connect }).Follows
      { s.connection with calls := s.connection.calls ++ [c] }.quiet where
  connection := by
    rw [waitAppends]
    exact appendedConnection (c := ⟨id, .connect, none, s.options.patience.future, false, none⟩) rfl
  results := by
    rw [wait]
    dsimp only
    split <;> rfl
  stopped := by
    rw [wait]
    dsimp only
    split <;> rfl

theorem connectFollows (s : State) (id : CallId) (answer : Broker.Answer) :
    (s.connect id answer).Follows (s.connection.connect id answer) := by
  rw [Connection.connect]
  by_cases available : s.client.isSome = true
  · rw [connect, if_pos (show s.isAvailable = true from available),
      if_pos (show s.connection.client.isSome = true from available)]
    exact finishFollows s id _
  · rw [connectPrepared available, if_neg (show ¬ s.connection.client.isSome = true from available)]
    refine (preparedFollows s id).andThen ?_
    rw [reaching]
    cases answer.connectError with
    | some text => exact joinedFollows (s.prepared id).state rfl id _
    | none =>
      have shown : ((s.prepared id).state.showing [.requested s.created .start]).Follows
          (s.prepared id).state.connection.quiet := showingFollows (by simp [Output.isSilent]) _
      refine shown.andThen ?_
      dsimp only [showing, preparedState]
      rw [show s.connection.options = s.options from rfl]
      cases s.options.patience.fault? with
      | some e => exact joinedFollows (s.prepared id).state rfl id _
      | none => exact waitFollows (s.prepared id).state id

theorem stepAccords (consistent : s.Consistent) {action : Action}
    (fresh : ∀ id, action.begun? = some id → ¬ s.Uses id) :
    (step s action).Accords s action (s.connection.next action) := by
  cases action with
  | begin id command answer =>
    have other : ∀ c ∈ s.connection.calls, c.id ≠ id := fun c member same =>
      fresh id rfl (.inl ⟨c, (connectionCall.mp member).1, same⟩)
    cases command with
    | connect => exact (connectFollows s id answer).accords s _
    | close => exact (closeFollows s id).accords s _
    | subscribe label qos => exact (subscribeAside other label qos answer).accords (.inr rfl)
    | unsubscribe label clears =>
      exact (unsubscribeAside other label clears answer).accords (.inr rfl)
    | publish label params payload qos retain =>
      exact (publishAside other label params payload qos retain answer).accords (.inr rfl)
  | handle signal => exact (handleFollows consistent signal).accords s _
  | deliver m behaviour => exact (receivedFollows s behaviour m).accords s _
  | expire id => exact (expireFollows consistent id).accords s _
  | resume id => exact resumeAccords consistent id
  | route command =>
    have follows : (step s (.route command)).Follows s.connection.quiet := by
      rw [step, route]
      cases s.router.run s.routerLogger command with
      | error e => exact quietFollows s
      | ok result =>
        refine showingFollows (fun output member => ?_) { s with router := result.2.1 }
        obtain ⟨record, _, rfl⟩ := List.mem_map.mp member
        rfl
    exact follows.accords s _

theorem stepAsks (consistent : s.Consistent) {action : Action}
    (fresh : ∀ id, action.begun? = some id → ¬ s.Uses id) {id : CallId}
    (asks : (step s action).state.Asks id) : s.Asks id ∨ action.asks? = some id := by
  obtain ⟨c, member, rfl, kind⟩ := asks
  have old (descends : s.Descends (step s action).state) : s.Asks c.id := by
    obtain ⟨before, inside, same, purpose, _⟩ := descends.calls c member
    exact ⟨before, inside, same.symm, purpose ▸ kind⟩
  cases begun : action.begun? with
  | none => exact .inl (old (stepDescends consistent begun))
  | some id =>
    cases action with
    | begin new command answer =>
      cases Option.some.inj begun
      have apart : ∀ c ∈ s.calls, c.id ≠ id :=
        fun c member same => fresh id rfl (.inl ⟨c, member, same⟩)
      rcases beginBegins apart command answer with descends | ⟨added, rfl, asked, adds⟩
      · exact .inl (old descends)
      · rw [step, adds.calls] at member
        rcases List.mem_append.mp member with before | new
        · exact .inl ⟨c, before, rfl, kind⟩
        · cases List.mem_singleton.mp new
          rw [kind] at asked
          exact .inr (by simp [Action.asks?, ← asked])
    | _ => contradiction

end State

def Shift.andThen (shift : Shift) (next : Connection → Shift) : Shift :=
  let later := next shift.connection
  { connection := later.connection
    results := shift.results ++ later.results
    stopped := shift.stopped ++ later.stopped }

theorem Shift.resultsOfThen (shift : Shift) (next : Connection → Shift) (id : CallId) :
    (shift.andThen next).resultsOf id = shift.resultsOf id ++ (next shift.connection).resultsOf id :=
  List.filterMap_append

def Connection.run (k : Connection) : List Action → Shift
  | [] => k.quiet
  | action :: rest => (k.next action).andThen (·.run rest)

theorem runAccords {s : State} {actions : List Action}
    (consistent : s.Consistent) (numbered : Numbered s actions) :
    let t := run s actions
    let shift := s.connection.run actions
    t.state.connection = shift.connection ∧ t.stopped = shift.stopped ∧
      ∀ id, ¬ s.Asks id → (∀ action ∈ actions, action.asks? ≠ some id) →
        t.resultsOf id = shift.resultsOf id := by
  induction actions generalizing s with
  | nil => exact ⟨rfl, rfl, fun _ _ _ => rfl⟩
  | cons action rest ih =>
    intro t shift
    have fresh : ∀ id, action.begun? = some id → ¬ s.Uses id := fun id new => numbered.head new
    have accords := State.stepAccords consistent fresh
    obtain ⟨connection, stopped, results⟩ :=
      ih (State.stepConsistent consistent fresh).1 (numbered.tail consistent)
    have split : t = (step s action).andThen fun s => run s rest :=
      runCons s action rest
    rw [accords.connection] at connection stopped results
    refine ⟨by rw [split]; exact connection, ?_, fun id other silent => ?_⟩
    · rw [split, Turn.stoppedThen, accords.stopped, stopped]
      rfl
    · obtain ⟨here, others⟩ := List.forall_mem_cons.mp silent
      have still : ¬ (step s action).state.Asks id := fun asks =>
        (State.stepAsks consistent fresh asks).elim other here
      rw [split, Turn.resultsOfThen, accords.results id other here, results id still others]
      exact (Shift.resultsOfThen (s.connection.next action) (·.run rest) id).symm

theorem State.newIdle {s : State} (new : s.New) : s.connection.calls = [] := by
  simp [State.connection, new.calls]

theorem State.runCourse {s : State} (new : s.New)
    {front back : List Action} (distinct : (begun (front ++ back)).Nodup) :
    (run s front).state.connection = (s.connection.run front).connection := by
  refine (runAccords new.consistent (new.numbered ?_)).1
  exact distinct.sublist (by rw [begunAppend]; exact List.sublist_append_left ..)

end TopicRouting.Bus
