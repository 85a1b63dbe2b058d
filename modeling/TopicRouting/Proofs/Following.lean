import TopicRouting.Proofs.Acknowledging
import TopicRouting.Proofs.Beginning

/-! The steps of a bus as moves of its connection. Calls that wait for an acknowledgement leave the
connection as it is, and return to their own callers only. -/
namespace TopicRouting.Bus

def Shift.resultsOf (shift : Shift) (id : CallId) : List (Except Error Reply) :=
  shift.results.filterMap fun (call, result) => if call = id then some result else none

def Action.asks? : Action → Option CallId
  | .begin id command _ => if command.acknowledged then some id else none
  | _ => none

theorem askedBegun {action : Action} {id : CallId} (asked : action.asks? = some id) :
    action.begun? = some id := by
  cases action with
  | begin call command answer =>
    rw [Action.asks?] at asked
    split at asked
    · exact asked
    · contradiction
  | _ => contradiction

def State.Asks (s : State) (id : CallId) : Prop :=
  ∃ c ∈ s.calls, c.id = id ∧ c.purpose.acknowledged = true

structure Turn.Aside (t : Turn) (k : Connection) (id : CallId) : Prop where
  connection : t.state.connection = k
  results : ∀ result ∈ t.results, result.1 = id
  stopped : t.stopped = []

structure Turn.Accords (t : Turn) (s : State) (action : Action) (shift : Shift) : Prop where
  connection : t.state.connection = shift.connection
  stopped : t.stopped = shift.stopped
  results : ∀ id, ¬ s.Asks id → action.asks? ≠ some id → t.resultsOf id = shift.resultsOf id

theorem Turn.Follows.accords {t : Turn} {shift : Shift} (follows : t.Follows shift) (s : State)
    (action : Action) : t.Accords s action shift where
  connection := follows.connection
  stopped := follows.stopped
  results := fun id _ _ => by rw [resultsOf, follows.results]; rfl

theorem Turn.Aside.accords {t : Turn} {s : State} {id : CallId} {action : Action}
    (aside : t.Aside s.connection id) (asks : s.Asks id ∨ action.asks? = some id) :
    t.Accords s action s.connection.quiet where
  connection := aside.connection
  stopped := aside.stopped
  results := by
    intro other quiet silent
    refine List.filterMap_eq_nil_iff.mpr fun result member => if_neg ?_
    rintro rfl
    rw [aside.results result member] at quiet silent
    exact asks.elim quiet silent

theorem Turn.Follows.thenAside {t : Turn} {k : Connection} {next : State → Turn} {id : CallId}
    (first : t.Follows k.quiet) (rest : (next t.state).Aside k id) :
    (t.andThen next).Aside k id where
  connection := rest.connection
  results := by
    intro result member
    rw [resultsThen, first.results] at member
    exact rest.results result member
  stopped := by rw [stoppedThen, first.stopped, rest.stopped]; rfl

namespace Connection

theorem unknownCall {k : Connection} {id : CallId} (other : ∀ c ∈ k.calls, c.id ≠ id) :
    k.call? id = none :=
  List.find?_eq_none.mpr fun c member => by simpa using other c member

theorem dropUnknown {k : Connection} {id : CallId} (other : ∀ c ∈ k.calls, c.id ≠ id) :
    k.drop id = k := by
  have kept : k.calls.filter (·.id != id) = k.calls :=
    List.filter_eq_self.mpr fun c member => by simpa using other c member
  rw [drop, kept]

theorem changeUnknown {k : Connection} {id : CallId} (other : ∀ c ∈ k.calls, c.id ≠ id)
    (f : Call → Call) : k.change id f = k := by
  have kept : k.calls.map (fun c => if c.id == id then f c else c) = k.calls := by
    conv_rhs => rw [← List.map_id k.calls]
    refine List.map_congr_left fun c member => ?_
    simp [other c member]
  rw [change, kept]

end Connection

namespace State

variable {s : State}

theorem connectionCall {c : Call} :
    c ∈ s.connection.calls ↔ c ∈ s.calls ∧ c.purpose.acknowledged = false := by
  simp [connection, List.mem_filter]

theorem uncalledConnection {id : CallId} (missing : s.call? id = none) :
    s.connection.call? id = none :=
  Connection.unknownCall fun c member => by
    simpa using List.find?_eq_none.mp missing c (connectionCall.mp member).1

theorem settleOpen {id : CallId} {c : Call} (found : s.call? id = some c)
    (waits : c.future.isOpen = true) (answer : Except BusError Answer) :
    (s.settle id answer).Follows
      (s.connection.change id fun c => { c with future := .settled answer }).quiet := by
  rw [settle, found]
  simp only [waits, if_true]
  refine ⟨?_, ?_, ?_⟩
  · exact changeConnection s id fun _ => rfl
  · dsimp only [Turn.results]
    split <;> rfl
  · dsimp only [Turn.stopped]
    split <;> rfl

theorem settleAsked {id : CallId} (asks : ∀ c ∈ s.calls, c.id = id → c.purpose.acknowledged = true)
    (answer : Except BusError Answer) : (s.settle id answer).Follows s.connection.quiet := by
  have other : ∀ c ∈ s.connection.calls, c.id ≠ id := by
    intro c member same
    obtain ⟨inside, connects⟩ := connectionCall.mp member
    rw [asks c inside same] at connects
    contradiction
  cases found : s.call? id with
  | none =>
    rw [settle, found]
    exact quietFollows s
  | some c =>
    by_cases waits : c.future.isOpen = true
    · have settled := settleOpen found waits answer
      rwa [Connection.changeUnknown other] at settled
    · rw [settle, found]
      simp only [waits]
      exact quietFollows s

theorem requestSilent (s : State) {asked : Broker.Request} (goesOn : asked ≠ .stop) :
    ∀ output ∈ s.request asked, output.isSilent := by
  intro output member
  obtain ⟨n, _, rfl⟩ := Option.map_eq_some_iff.mp (Option.mem_toList.mp member)
  cases asked with
  | stop => contradiction
  | _ => rfl

theorem resubscribeFollows (s : State) : s.resubscribe.Follows s.connection.quiet := by
  refine showingFollows (fun output member => ?_) s
  obtain ⟨entry, _, asked⟩ := List.mem_flatMap.mp member
  have goesOn : Broker.Request.subscribe entry.1 entry.2 ≠ .stop := by simp
  exact requestSilent s goesOn output asked

theorem receivedFollows (s : State) (behaviour : Router.Behaviour) (m : Message) :
    (s.handleReceived behaviour m).Follows s.connection.quiet := by
  have silent {outputs : List Router.Output} :
      ∀ output ∈ outputs.map Output.dispatched, output.isSilent := by
    intro output member
    obtain ⟨inner, _, rfl⟩ := List.mem_map.mp member
    rfl
  cases s.receives behaviour m with
  | unread fails turn =>
    rw [turn]
    exact ⟨rfl, rfl, rfl⟩
  | @routed json label scene decoded routing turn =>
    rw [turn]
    exact showingFollows silent
      { s with router := scene.router, metrics := s.metrics.receive label }
  | @broken json how scene e decoded routing breaks turn =>
    rw [turn]
    have broken : ∀ output ∈ scene.outputs.map Output.dispatched ++ [.unhandled e],
        output.isSilent := List.forall_mem_append.mpr ⟨silent, by simp [Output.isSilent]⟩
    exact showingFollows broken { s with router := scene.router }

theorem forgetConnection (s : State) (c : Call) : (s.forget c).connection = s.connection := by
  rw [forget]
  split <;> rfl

theorem finishAside {u : State} {id : CallId} (same : u.connection = s.connection)
    (other : ∀ c ∈ s.connection.calls, c.id ≠ id) (result : Except Error Reply) :
    (u.finish id result).Aside s.connection id where
  connection := by
    rw [show (u.finish id result).state.connection = _ from dropConnection u id, same,
      Connection.dropUnknown other]
  results := fun entry member => by rw [List.mem_singleton.mp member]
  stopped := rfl

theorem reportAside {u : State} {id : CallId} (same : u.connection = s.connection)
    (other : ∀ c ∈ s.connection.calls, c.id ≠ id) (severity : Severity) (message : Text)
    (fields : Dict) (result : Except Error Reply) :
    ((u.say severity message fields).andThen (·.finish id result)).Aside s.connection id := by
  have said := sayFollows u severity message fields
  rw [same] at said
  exact said.thenAside (finishAside same other result)

section asking

variable {c : Call} (other : ∀ k ∈ s.connection.calls, k.id ≠ c.id)
  (asks : c.purpose.acknowledged = true)
include other asks

theorem completeAside (answer : Answer) : (s.complete c answer).Aside s.connection c.id := by
  have forgot := forgetConnection s c
  rw [complete.eq_def]
  cases purpose : c.purpose with
  | connect => simp [purpose, Purpose.acknowledged] at asks
  | close => simp [purpose, Purpose.acknowledged] at asks
  | subscribe label topic qos =>
    refine reportAside ?_ other _ _ _ _
    exact forgot
  | unsubscribe label topic clears =>
    dsimp only
    split
    · exact finishAside forgot other _
    · split
      · refine finishAside ?_ other _
        exact forgot
      · refine reportAside ?_ other _ _ _ _
        exact forgot
  | publish label topic qos retain =>
    refine reportAside ?_ other _ _ _ _
    exact forgot

theorem failAside (e : BusError) : (s.fail c e).Aside s.connection c.id := by
  have forgot := forgetConnection s c
  have finished (u : State) (same : u.connection = s.connection) :
      (u.finish c.id (.error (.bus e))).Aside s.connection c.id := finishAside same other _
  rw [fail.eq_def]
  cases purpose : c.purpose with
  | connect => simp [purpose, Purpose.acknowledged] at asks
  | publish label topic qos retain => exact finished ((s.forget c).countFailure label) forgot
  | _ => exact finished (s.forget c) forgot

theorem giveUpAside : (s.giveUp c).Aside s.connection c.id := by
  rw [giveUp.eq_def]
  cases purpose : c.purpose with
  | connect => simp [purpose, Purpose.acknowledged] at asks
  | _ => exact failAside other asks _

end asking

section consistent

variable (consistent : s.Consistent)
include consistent

theorem otherAsks {c : Call} (member : c ∈ s.calls) (asks : c.purpose.acknowledged = true) :
    ∀ other ∈ s.connection.calls, other.id ≠ c.id := by
  intro other there same
  obtain ⟨inside, connects⟩ := connectionCall.mp there
  rw [consistent.sameCall inside member same, asks] at connects
  contradiction

theorem foundCall {c : Call} (member : c ∈ s.calls) (connects : c.purpose.acknowledged = false) :
    s.connection.call? c.id = some c := by
  have inside : c ∈ s.connection.calls := connectionCall.mpr ⟨member, connects⟩
  cases found : s.connection.call? c.id with
  | none => exact absurd (List.find?_eq_none.mp found c inside) (by simp)
  | some other =>
    have there := (connectionCall.mp (List.mem_of_find?_eq_some found)).1
    have same : other.id = c.id := by simpa using List.find?_some found
    rw [consistent.sameCall there member same]

theorem calledConnection {id : CallId} {c : Call} (found : s.call? id = some c) :
    s.connection.call? id = if c.purpose.acknowledged then none else some c := by
  obtain ⟨member, rfl⟩ := callMember found
  split
  · rename_i asks
    exact Connection.unknownCall (otherAsks consistent member asks)
  · rename_i connects
    exact foundCall consistent member (by simpa using connects)

theorem settleMessageFollows (message : Int) (answer : Except BusError Answer) :
    (s.settleMessage message answer).Follows s.connection.quiet := by
  rw [settleMessage]
  split
  · rename_i m id found
    exact settleAsked (consistent.pending _ (List.mem_of_find?_eq_some found)) answer
  · exact quietFollows s

theorem releaseFollows : s.release.Follows s.connection.quiet := by
  have settles (t : Turn) (before : s.Descends t.state ∧ t.Follows s.connection.quiet)
      (entry : Int × CallId) (inside : entry ∈ s.pending) :
      s.Descends (t.andThen (·.settle entry.2 (.error .notAvailable))).state ∧
        (t.andThen (·.settle entry.2 (.error .notAvailable))).Follows s.connection.quiet := by
    obtain ⟨same, follows⟩ := before
    refine ⟨same.trans (settleDescends t.state entry.2 _), follows.andThen ?_⟩
    rw [← show t.state.connection = s.connection from follows.connection]
    refine settleAsked (fun c member own => ?_) _
    obtain ⟨old, there, id, purpose, _⟩ := same.calls c member
    rw [purpose]
    exact consistent.pending entry inside old there (id ▸ own)
  obtain ⟨t, ⟨_, follows⟩, released⟩ :=
    releaseKeeps s _ ⟨.same rfl rfl rfl, quietFollows s⟩ settles
  rw [released]
  exact follows.thenQuiet ⟨rfl, rfl, rfl⟩

theorem attemptConnection : s.attempt? = s.connection.attempt? := by
  rw [attempt?, Connection.attempt?, show s.connection.connecting = s.connecting from rfl]
  cases current : s.connecting with
  | none => rfl
  | some id =>
    have same : (s.call? id).any (·.future.isOpen) =
        (s.connection.call? id).any (·.future.isOpen) := by
      cases found : s.call? id with
      | none => rw [uncalledConnection found]
      | some c =>
        obtain ⟨member, rfl⟩ := callMember found
        rw [foundCall consistent member (consistent.attempt c member current)]
    simp only [Option.filter, same]

theorem settleAttemptFollows (answer : Except BusError Answer) :
    (s.settleAttempt answer).Follows (s.connection.settleAttempt answer).quiet := by
  rw [settleAttempt, Connection.settleAttempt, ← attemptConnection consistent]
  cases attempted : s.attempt? with
  | none => exact quietFollows s
  | some id =>
    have waits := (Option.filter_eq_some_iff.mp attempted).2
    obtain ⟨c, found, waits⟩ := (Option.any_eq_true ..).mp waits
    exact settleOpen found waits answer

theorem expireFollows (id : CallId) :
    (s.expire id).Follows (s.connection.expire id).quiet := by
  rw [expire, Connection.expire]
  cases found : s.call? id with
  | none =>
    rw [uncalledConnection found]
    exact quietFollows s
  | some c =>
    obtain ⟨member, rfl⟩ := callMember found
    rw [calledConnection consistent found]
    by_cases asks : c.purpose.acknowledged = true
    · rw [if_pos asks]
      dsimp only
      split
      · refine ⟨Eq.trans (changeConnection s c.id ?_)
          (Connection.changeUnknown (otherAsks consistent member asks) _), rfl, rfl⟩
        exact fun _ => rfl
      · exact quietFollows s
    · rw [if_neg asks]
      dsimp only
      split
      · exact ⟨changeConnection s c.id fun _ => rfl, rfl, rfl⟩
      · exact quietFollows s

theorem welcomeFollows (reason : Broker.Reason) (first again : State → Dict) :
    (if s.attempt?.isSome then
      (s.say .info "Connected" (first s)).andThen (·.settleAttempt (.ok (.connected reason)))
    else if s.isAvailable then (s.say .info "Reconnected" (again s)).andThen resubscribe
    else s.quiet).Follows (s.connection.settleAttempt (.ok (.connected reason))).quiet := by
  have settled := settleAttemptFollows consistent (.ok (.connected reason))
  cases attempted : s.attempt? with
  | some id =>
    rw [if_pos (show (some id).isSome = true from rfl)]
    exact (sayFollows s .info "Connected" (first s)).andThen settled
  | none =>
    have same : s.connection.settleAttempt (.ok (.connected reason)) = s.connection := by
      rw [Connection.settleAttempt, ← attemptConnection consistent, attempted]
    rw [same]
    split
    · contradiction
    · split
      · exact (sayFollows s _ _ _).thenQuiet (resubscribeFollows _)
      · exact quietFollows s

theorem reportFollows {k : Connection} {t : Turn} (follows : t.Follows k.quiet)
    (same : s.Descends t.state) (severity : Severity) (message : Text) (fields : State → Dict)
    (answer : Except BusError Answer) :
    ((t.andThen fun s => s.say severity message (fields s)).andThen
      (·.settleAttempt answer)).Follows (k.settleAttempt answer).quiet := by
  have said : (t.andThen fun s => s.say severity message (fields s)).Follows k.quiet :=
    follows.thenQuiet (sayFollows _ _ _ _)
  have settled := settleAttemptFollows (same.consistent consistent) answer
  rw [show t.state.connection = k from follows.connection] at settled
  exact said.andThen settled

theorem handleFollows (signal : Broker.Signal) :
    (s.handle signal).Follows (s.connection.hear signal).quiet := by
  cases signal with
  | connected reason =>
    rw [handle, handleConnected, Connection.hear]
    split
    · exact reportFollows consistent (setStatusFollows s _ _) (.same rfl rfl rfl) _ _ _ _
    · have shown := setStatusFollows s .connected none
      have alike : s.Descends (s.setStatus .connected none).state := .same rfl rfl rfl
      have welcomed := welcomeFollows (alike.consistent consistent) reason
        (fun s => [(.text "client_id", s.options.clientId)]) fun s =>
          [(.text "client_id", s.options.clientId), (.text "topics", .int s.subscriptions.length)]
      exact shown.andThen welcomed
  | connectFailed =>
    exact reportFollows consistent (setStatusFollows s _ _) (.same rfl rfl rfl) _ _ _ _
  | disconnected reason =>
    rw [handle, handleDisconnected, Connection.hear, show s.connection.closing = s.closing from rfl]
    split
    · exact setStatusFollows s .closed none
    · exact (setStatusFollows s _ none).thenQuiet (sayFollows _ _ _ _)
  | acknowledged message reasons => exact settleMessageFollows consistent message _
  | published message reason => exact settleMessageFollows consistent message _

theorem resumeAside {c : Call} (found : s.call? c.id = some c) (member : c ∈ s.calls)
    (asks : c.purpose.acknowledged = true) : (s.resume c.id).Aside s.connection c.id := by
  have other := otherAsks consistent member asks
  rw [resume, found]
  simp only [consistent.running c member asks]
  cases c.future with
  | settled result =>
    cases result with
    | ok answer => exact completeAside other asks answer
    | error e => exact failAside other asks e
  | cancelled => exact giveUpAside other asks
  | «open» =>
    dsimp only
    split
    · refine ⟨Eq.trans (changeConnection s c.id ?_) (Connection.changeUnknown other _),
        fun _ none => absurd none List.not_mem_nil, rfl⟩
      exact fun _ => rfl
    · exact ⟨rfl, fun _ none => absurd none List.not_mem_nil, rfl⟩

theorem resumeFollows {c : Call} (found : s.call? c.id = some c) (member : c ∈ s.calls)
    (connects : c.purpose.acknowledged = false) :
    (s.resume c.id).Follows (s.connection.resume c.id) := by
  rw [resume, Connection.resume, foundCall consistent member connects, found]
  dsimp only
  cases ended : c.ending with
  | some ending =>
    dsimp only
    refine (releaseFollows consistent).andThen ?_
    have concluded := concludeFollows s.release.state c.id ending
    rwa [show s.release.state.connection = _ from (releaseFollows consistent).connection]
      at concluded
  | none =>
    have attempt : c.purpose = .connect := by
      cases purpose : c.purpose with
      | connect => rfl
      | close =>
        rw [consistent.closes c member purpose] at ended
        contradiction
      | _ =>
        rw [purpose] at connects
        contradiction
    cases c.future with
    | settled result =>
      cases result with
      | ok answer =>
        rw [← forgetConnection s c]
        cases answer with
        | connected reason =>
          dsimp only
          rw [complete.eq_def, attempt]
          exact finishAttemptFollows (s.forget c) c.id _
        | acknowledged reasons =>
          dsimp only
          rw [complete.eq_def, attempt]
          exact finishAttemptFollows (s.forget c) c.id _
        | published message =>
          dsimp only
          rw [complete.eq_def, attempt]
          exact finishAttemptFollows (s.forget c) c.id _
      | error e =>
        dsimp only
        rw [fail.eq_def, attempt]
        exact stopFollows s c.id _
    | cancelled =>
      dsimp only
      rw [giveUp.eq_def, attempt]
      exact stopFollows s c.id _
    | «open» =>
      dsimp only
      split
      · refine ⟨changeConnection s c.id ?_, rfl, rfl⟩
        exact fun _ => rfl
      · exact quietFollows s

theorem resumeAccords (id : CallId) :
    (s.resume id).Accords s (.resume id) (s.connection.resume id) := by
  cases found : s.call? id with
  | none =>
    have still : s.connection.resume id = s.connection.quiet := by
      rw [Connection.resume, uncalledConnection found]
    rw [resume, found, still]
    exact (quietFollows s).accords s _
  | some c =>
    obtain ⟨member, rfl⟩ := callMember found
    cases kind : c.purpose.acknowledged with
    | true =>
      have still : s.connection.resume c.id = s.connection.quiet := by
        rw [Connection.resume, calledConnection consistent found, if_pos kind]
      rw [still]
      exact (resumeAside consistent found member kind).accords (.inl ⟨c, member, rfl, kind⟩)
    | false => exact (resumeFollows consistent found member kind).accords s _

end consistent
end State
end TopicRouting.Bus
