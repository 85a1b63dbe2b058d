import TopicRouting.Proofs.Linearizing
import TopicRouting.Proofs.Overlapping

/-! Calls that wait for an acknowledgement: how each begins, and, where no other call is under way,
all that can become of it until it returns. A call that returns an error leaves the topics as they
were, and one that does not has written what it is for. -/
namespace TopicRouting.Bus

theorem Connection.idleRests {k : Connection} (idle : k.calls = []) {action : Action}
    (begun : action.begun? = none) : (k.next action).connection.calls = [] ∧
      (k.next action).connection.client = k.client ∧ ∀ id, (k.next action).resultsOf id = [] := by
  have steps := k.nextSteps action
  generalize k.next action = shift at steps
  cases steps with
  | kept alike reported => exact ⟨by simp [quiet, idle], rfl, fun _ => rfl⟩
  | refused e begins lasting => simp [begun] at begins
  | attempted begins unavailable => simp [begins, Action.begun?] at begun
  | attemptFailed begins unavailable => simp [begins, Action.begun?] at begun
  | closes begins client => simp [begins, Action.begun?] at begun
  | concluded resumed found ended => simp [idleCall idle] at found
  | answered resumed found running connects => simp [idleCall idle] at found
  | stopped resumed found running goesOn => simp [idleCall idle] at found

def Command.publishes : Command → Bool
  | .publish .. => true
  | _ => false

namespace State

variable {s : State} {id : CallId} {command : Command} {c : Call}

inductive Intends (s : State) : Command → Purpose → Prop
  | topic {command : Command} {purpose : Purpose} (means : s.Means command purpose)
      (finds : s.Finds purpose) : s.Intends command purpose
  | publish {label : Label} {params payload retain : Value} {qos : Option Value} {topic : Text} :
      s.Intends (.publish label params payload qos retain)
        (.publish label topic (s.quality qos) retain)

theorem Intends.asks {purpose : Purpose} (intends : s.Intends command purpose) :
    purpose.acknowledged = true := by
  cases intends with
  | topic means _ => cases means <;> rfl
  | publish => rfl

theorem Intends.fulfils {purpose : Purpose} (intends : s.Intends command purpose) {t : State}
    (same : t.content = s.content) {answer : Answer}
    (granted : ∀ label qos, command = .subscribe label qos →
      ∃ codes, grantedCodes answer = .ok codes) : t.Fulfils answer purpose := by
  cases intends with
  | topic means finds =>
    cases means with
    | subscribe known => exact granted _ _ rfl
    | unsubscribe known =>
      refine ⟨?_, _, by rw [contentRouter same, known]⟩
      rw [topicsAlike (congrArg Prod.fst same)]
      exact finds
  | publish => trivial

inductive Begun (s : State) (id : CallId) (command : Command) (message : Int) (t : Turn) : Prop
  | refused {e : Error} (calls : t.state.calls = s.calls.filter (·.id != id))
      (pending : t.state.pending.Sublist s.pending) (content : t.state.content = s.content)
      (results : t.results = [(id, .error e)])
      (timed : (s.isAvailable = true → s.options.patience.fault? = none) →
        t.state.pending = s.pending)
      (metrics : command.publishes = false → t.state.metrics = s.metrics)
  | waits {purpose : Purpose} (available : s.isAvailable = true)
      (intends : s.Intends command purpose)
      (calls : t.state.calls = s.calls ++
        [⟨id, purpose, some message, s.options.patience.future, false, none⟩])
      (pending : t.state.pending = putPending message id s.pending)
      (content : t.state.content = s.content) (results : t.results = [])
      (metrics : t.state.metrics = s.metrics)
      (woken : s.options.patience = .none → .woken id ∈ t.outputs)

theorem Begun.after {message : Int} {t : State} {outputs : List Output} {next : State → Turn}
    (silent : (t.showing outputs).results = [])
    (begun : s.Begun id command message (next t)) :
    s.Begun id command message ((t.showing outputs).andThen next) := by
  have results : ((t.showing outputs).andThen next).results = (next t).results := by
    rw [Turn.resultsThen, silent]
    rfl
  cases begun with
  | refused calls pending content ended timed metrics =>
    exact .refused calls pending content (results.trans ended) timed metrics
  | waits available intends calls pending content none metrics woken =>
    exact .waits available intends calls pending content (results.trans none) metrics
      fun hasty => List.mem_append_right _ (woken hasty)

theorem requestResults (s : State) (request : Broker.Request) :
    (s.showing (s.request request)).results = [] := by
  rw [State.request]
  cases s.client <;> rfl

theorem finishBegun (s : State) (id : CallId) (command : Command) (message : Int) (e : Error) :
    s.Begun id command message (s.finish id (.error e)) :=
  .refused rfl (List.Sublist.refl _) rfl rfl (fun _ => rfl) fun _ => rfl

theorem waitForBegun {purpose : Purpose} (available : s.isAvailable = true)
    (intends : s.Intends command purpose) (id : CallId) (message : Int) :
    s.Begun id command message (s.waitFor id purpose message) := by
  rw [waitFor]
  split
  · rename_i fault
    exact .refused rfl List.filter_sublist rfl rfl (fun timed => by simp [timed available] at fault)
      fun _ => rfl
  · have appends := waitAppends { s with pending := putPending message id s.pending } id purpose
      (some message)
    refine .waits available intends (congrArg State.calls appends) (congrArg State.pending appends)
      ((congrArg content appends).trans rfl) ?_ ((congrArg State.metrics appends).trans rfl) ?_
    · rw [wait]
      dsimp only
      split <;> rfl
    · intro hasty
      rw [wait, show State.options _ = s.options from rfl, hasty]
      exact List.mem_singleton_self _

theorem subscribeBegun (s : State) (id : CallId) (label : Label) (qos : Option Value)
    (answer : Broker.Answer) :
    s.Begun id (.subscribe label qos) answer.message (s.subscribe id label qos answer) := by
  rw [subscribe]
  split
  · exact finishBegun ..
  · rename_i p requires
    dsimp only
    split
    · exact finishBegun ..
    · rename_i absent
      have finds : s.Finds (.subscribe label p.topic (s.quality qos)) := by
        simpa [Finds] using absent
      refine .after (requestResults s _) ?_
      split
      · exact finishBegun ..
      · split
        · exact finishBegun ..
        · obtain ⟨available, known⟩ := requireIff.mp requires
          exact waitForBegun available (.topic (.subscribe known) finds) id _

theorem unsubscribeBegun (s : State) (id : CallId) (label : Label) (clears : Bool)
    (answer : Broker.Answer) :
    s.Begun id (.unsubscribe label clears) answer.message
      (s.unsubscribe id label clears answer) := by
  rw [unsubscribe]
  split
  · exact finishBegun ..
  · rename_i p requires
    dsimp only
    split
    · exact finishBegun ..
    · rename_i present
      have finds : s.Finds (.unsubscribe label p.topic clears) := by
        simpa [Finds] using present
      refine .after (requestResults s _) ?_
      split
      · exact finishBegun ..
      · obtain ⟨available, known⟩ := requireIff.mp requires
        exact waitForBegun available (.topic (.unsubscribe known) finds) id _

theorem publishBegun (s : State) (id : CallId) (label : Label) (params payload : Value)
    (qos : Option Value) (retain : Value) (answer : Broker.Answer) :
    s.Begun id (.publish label params payload qos retain) answer.message
      (s.publish id label params payload qos retain answer) := by
  have counted (e : Error) : s.Begun id (.publish label params payload qos retain)
      answer.message ((s.countFailure label).finish id (.error e)) :=
    .refused rfl (List.Sublist.refl _) rfl rfl (fun _ => rfl) nofun
  rw [publish]
  split
  · exact finishBegun ..
  · rename_i requires
    split
    · exact .after (sayKeeps _ _ _ _).results (counted _)
    · exact finishBegun ..
    · split
      · exact finishBegun ..
      · refine .after (requestResults s _) ?_
        split
        · exact counted _
        · exact waitForBegun (requireIff.mp requires).1 .publish id _

theorem beginBegun (asks : command.acknowledged = true) (id : CallId) (answer : Broker.Answer) :
    s.Begun id command answer.message (s.begin id answer command) := by
  cases command with
  | connect => contradiction
  | close => contradiction
  | subscribe label qos => exact subscribeBegun s id label qos answer
  | unsubscribe label clears => exact unsubscribeBegun s id label clears answer
  | publish label params payload qos retain =>
    exact publishBegun s id label params payload qos retain answer

structure Sole (s : State) (c : Call) (message : Int) : Prop where
  consistent : s.Consistent
  calls : s.calls = [c]
  pending : s.pending = [(message, c.id)]
  awaited : c.message = some message
  asks : c.purpose.acknowledged = true

inductive Proceeds (s : State) (c : Call) (message : Int) (action : Action) (t : Turn) : Prop
  | waits {after : Call} (sole : t.state.Sole after message) (id : after.id = c.id)
      (purpose : after.purpose = c.purpose) (content : t.state.content = s.content)
      (future : after.future = c.future ∨ after.future = .cancelled ∨
        ∃ signal answer, action = .handle signal ∧ answerTo message signal = some answer ∧
          after.future = .settled answer) (results : t.results = [])
  | fails {e : Error} (calls : t.state.calls = []) (pending : t.state.pending = [])
      (content : t.state.content = s.content) (results : t.results = [(c.id, .error e)])
  | completes {answer : Answer} (granted : c.future = .settled (.ok answer))
      (turn : t = s.complete c answer)

namespace Sole

variable {message : Int} (sole : s.Sole c message)
include sole

theorem callFound : s.call? c.id = some c := by simp [call?, sole.calls]

theorem otherUnknown (other : id ≠ c.id) : s.call? id = none := by
  simp [call?, sole.calls, Ne.symm other]

theorem noEnding : c.ending = none :=
  sole.consistent.running c (by simp [sole.calls]) sole.asks

theorem noAttempt : s.attempt? = none := by
  rw [attempt?, Option.filter_eq_none_iff]
  intro id current
  by_cases own : id = c.id
  · have connects := sole.consistent.attempt c (by simp [sole.calls]) (own ▸ current)
    rw [sole.asks] at connects
    contradiction
  · simp [sole.otherUnknown own]

theorem connectionIdle : s.connection.calls = [] := by simp [connection, sole.calls, sole.asks]

theorem changeLeaves (f : Call → Call) : (s.changeCall c.id f).calls = [f c] := by
  simp [changeCall, sole.calls]

theorem forgetLeaves : (s.forget c).calls = [c] ∧ (s.forget c).pending = [] := by
  rw [forget, sole.awaited]
  simp [dropPending, sole.calls, sole.pending]

theorem stepSole {action : Action} (begun : action.begun? = none) {after : Call}
    (calls : (step s action).state.calls = [after])
    (pending : (step s action).state.pending = s.pending) (id : after.id = c.id)
    (purpose : after.purpose = c.purpose) (awaited : after.message = c.message) :
    (step s action).state.Sole after message where
  consistent := (stepConsistent sole.consistent (unbegunFresh begun)).1
  calls := calls
  pending := by rw [pending, sole.pending, id]
  awaited := awaited.trans sole.awaited
  asks := by rw [purpose, sole.asks]

theorem settleLeaves (answer : Except BusError Answer) :
    (s.settle c.id answer).state.pending = s.pending ∧ ((s.settle c.id answer).state.calls = [c] ∨
      (s.settle c.id answer).state.calls = [{ c with future := .settled answer }]) := by
  rw [settle, sole.callFound]
  dsimp only
  split
  · exact ⟨rfl, .inr (sole.changeLeaves _)⟩
  · exact ⟨rfl, .inl sole.calls⟩

theorem settleMessageLeaves (m : Int) (answer : Except BusError Answer) :
    (s.settleMessage m answer).state.pending = s.pending ∧
      ((s.settleMessage m answer).state.calls = [c] ∨ m = message ∧
        (s.settleMessage m answer).state.calls = [{ c with future := .settled answer }]) := by
  by_cases own : m = message
  · have first : s.pending.find? (·.1 == m) = some (message, c.id) := by simp [sole.pending, own]
    rw [settleMessage, first]
    exact (sole.settleLeaves answer).imp_right fun calls => calls.imp_right fun calls => ⟨own, calls⟩
  · have none : s.pending.find? (·.1 == m) = none := by simp [sole.pending, Ne.symm own]
    rw [settleMessage, none]
    exact ⟨rfl, .inl sole.calls⟩

theorem handleReports {signal : Broker.Signal}
    (silent : ∀ m, answerTo m signal = none) : ∃ status error,
      (s.handle signal).state = { s with status := status, statusError := error } := by
  have quiet {t : State} (answer : Except BusError Answer) (unattempted : t.attempt? = none) :
      (t.settleAttempt answer).state = t := by
    rw [settleAttempt, unattempted]
    rfl
  cases signal with
  | connected reason =>
    rw [handle, handleConnected]
    split
    · exact ⟨_, _, quiet _ sole.noAttempt⟩
    · have unattempted : (s.setStatus .connected none).state.attempt? = none := sole.noAttempt
      dsimp only [Turn.andThen]
      rw [unattempted]
      split
      · contradiction
      · split <;> exact ⟨_, _, rfl⟩
  | connectFailed => exact ⟨_, _, quiet _ sole.noAttempt⟩
  | disconnected reason =>
    rw [handle, handleDisconnected]
    split <;> exact ⟨_, _, rfl⟩
  | acknowledged m reasons => simp [answerTo] at silent
  | published m reason => simp [answerTo] at silent

theorem handleLeaves (signal : Broker.Signal) :
    (s.handle signal).state.pending = s.pending ∧
      ((s.handle signal).state.calls = [c] ∨ ∃ answer,
        answerTo message signal = some answer ∧
          (s.handle signal).state.calls = [{ c with future := .settled answer }]) := by
  have quiet (silent : ∀ m, answerTo m signal = none) :
      (s.handle signal).state.pending = s.pending ∧
        (s.handle signal).state.calls = [c] := by
    obtain ⟨status, error, same⟩ := sole.handleReports silent
    rw [same]
    exact ⟨rfl, sole.calls⟩
  cases signal with
  | acknowledged m reasons =>
    obtain ⟨pending, calls⟩ := sole.settleMessageLeaves m (acknowledgement reasons)
    refine ⟨pending, calls.imp_right ?_⟩
    rintro ⟨rfl, heard⟩
    exact ⟨_, if_pos rfl, heard⟩
  | published m reason =>
    obtain ⟨pending, calls⟩ := sole.settleMessageLeaves m (publication m reason)
    refine ⟨pending, calls.imp_right ?_⟩
    rintro ⟨rfl, heard⟩
    exact ⟨_, if_pos rfl, heard⟩
  | _ => exact (quiet fun _ => rfl).imp_right .inl

theorem failReturns (e : BusError) : (s.fail c e).state.calls = [] ∧ (s.fail c e).state.pending = [] ∧
    (s.fail c e).results = [(c.id, .error (.bus e))] := by
  obtain ⟨calls, pending⟩ := sole.forgetLeaves
  have left : (s.forget c).calls.filter (·.id != c.id) = [] := by simp [calls]
  rw [fail.eq_def]
  split
  · rename_i connects
    have asks := sole.asks
    rw [connects] at asks
    contradiction
  · exact ⟨left, pending, rfl⟩
  · exact ⟨left, pending, rfl⟩

theorem giveUpIsFail : s.giveUp c = s.fail c (.noAcknowledgement message s.options.seconds) :=
  giveUpFails sole.asks sole.awaited

theorem resumeProceeds (id : CallId) :
    s.Proceeds c message (.resume id) (step s (.resume id)) := by
  have begun : (Action.resume id).begun? = none := rfl
  have fails (e : BusError) : s.Proceeds c message (.resume id) (s.fail c e) := by
    obtain ⟨calls, pending, results⟩ := sole.failReturns e
    exact .fails calls pending (contentHeld (failHoldings s c e)) results
  have waits {after : Call} (calls : (step s (.resume id)).state.calls = [after])
      (pending : (step s (.resume id)).state.pending = s.pending) :=
    sole.stepSole begun calls pending
  by_cases own : id = c.id
  · subst own
    rw [step] at waits ⊢
    rw [resume, sole.callFound] at waits ⊢
    simp only [sole.noEnding] at waits ⊢
    cases future : c.future with
    | settled answer =>
      cases answer with
      | ok answer => exact .completes future rfl
      | error e => exact fails e
    | cancelled =>
      dsimp only
      rw [sole.giveUpIsFail]
      exact fails _
    | «open» =>
      simp only [future] at waits ⊢
      split
      · rename_i expired
        simp only [expired, if_true] at waits
        exact .waits (waits (sole.changeLeaves _) rfl rfl rfl rfl) rfl rfl rfl (.inr (.inl rfl)) rfl
      · rename_i unexpired
        simp only [unexpired] at waits
        exact .waits (waits sole.calls rfl rfl rfl rfl) rfl rfl rfl (.inl rfl) rfl
  · have still : step s (.resume id) = s.quiet := by rw [step, resume, sole.otherUnknown own]
    rw [still] at waits ⊢
    exact .waits (waits sole.calls rfl rfl rfl rfl) rfl rfl rfl (.inl rfl) rfl

theorem expireProceeds (id : CallId) :
    s.Proceeds c message (.expire id) (step s (.expire id)) := by
  have waits {after : Call} (calls : (step s (.expire id)).state.calls = [after])
      (pending : (step s (.expire id)).state.pending = s.pending) :=
    sole.stepSole rfl calls pending
  rw [step] at waits ⊢
  by_cases own : id = c.id
  · subst own
    rw [expire, sole.callFound] at waits ⊢
    dsimp only at waits ⊢
    split
    · rename_i runs
      simp only [runs, if_true] at waits
      exact .waits (waits (sole.changeLeaves _) rfl rfl rfl rfl) rfl rfl rfl (.inl rfl) rfl
    · rename_i stands
      simp only [stands] at waits
      exact .waits (waits sole.calls rfl rfl rfl rfl) rfl rfl rfl (.inl rfl) rfl
  · rw [expire, sole.otherUnknown own] at waits ⊢
    exact .waits (waits sole.calls rfl rfl rfl rfl) rfl rfl rfl (.inl rfl) rfl

theorem handleProceeds (signal : Broker.Signal) :
    s.Proceeds c message (.handle signal) (step s (.handle signal)) := by
  have content := contentHeld (handleHoldings s signal)
  have results := (handleFollows sole.consistent signal).results
  obtain ⟨pending, calls | ⟨answer, heard, calls⟩⟩ := sole.handleLeaves signal
  · exact .waits (sole.stepSole rfl calls pending rfl rfl rfl) rfl rfl content (.inl rfl) results
  · exact .waits (sole.stepSole rfl calls pending rfl rfl rfl) rfl rfl content
      (.inr (.inr ⟨signal, answer, rfl, heard, rfl⟩)) results

theorem completeReturns {answer : Answer} (fulfils : s.Fulfils answer c.purpose) :
    let t := s.complete c answer
    t.state.calls = [] ∧ t.state.pending = [] ∧ t.state.table = (s.written c.purpose).table ∧
      ∃ reply, t.results = [(c.id, .ok reply)] := by
  obtain ⟨calls, pending, _⟩ := completeRest s c answer
  refine ⟨?_, pending.trans sole.forgetLeaves.2, completeTable s c answer, completeResults fulfils⟩
  rw [calls, sole.calls]
  simp

theorem clientStays {action : Action} (begun : action.begun? = none) :
    (step s action).state.client = s.client := by
  have accords := stepAccords sole.consistent (unbegunFresh begun)
  exact (congrArg Connection.client accords.connection).trans
    (Connection.idleRests sole.connectionIdle begun).2.1

end Sole
end State
end TopicRouting.Bus
