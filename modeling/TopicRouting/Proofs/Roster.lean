import TopicRouting.Proofs.Asking

/-! The roster of a bus: its calls by number, purpose and message. A step leaves the roster as it is,
enters the call that begins on it, or strikes off the call that returns. Nothing but a call that
publishes changes what is counted of publishes. -/
namespace TopicRouting.Bus

def Call.entry (c : Call) : Call := { id := c.id, purpose := c.purpose, message := c.message }

def Purpose.publishes : Purpose → Bool
  | .publish .. => true
  | _ => false

namespace State

def roster (s : State) : List Call := s.calls.map Call.entry

def sent (s : State) : Tally × Tally := (s.metrics.published, s.metrics.failed)

def mail (s : State) : (Tally × Tally) × List Call := (s.sent, s.roster)

def publishing (s : State) : Action → Bool
  | .begin _ command _ => command.publishes
  | .resume id => (s.call? id).any (·.purpose.publishes)
  | _ => false

theorem changeRoster (s : State) (id : CallId) {f : Call → Call}
    (kept : ∀ c, (f c).entry = c.entry) : (s.changeCall id f).roster = s.roster := by
  rw [roster, changeCall, List.map_map, roster]
  refine List.map_congr_left fun c _ => ?_
  rw [Function.comp_apply]
  split
  · exact kept c
  · rfl

theorem dropRoster (s : State) (id : CallId) :
    (s.dropCall id).roster = s.roster.filter (·.id != id) := by
  rw [roster, dropCall, roster, List.filter_map]
  rfl

end State

structure Turn.Rests (t : Turn) (mail : (Tally × Tally) × List Call) : Prop where
  mail : t.state.mail = mail
  results : t.results = []

structure Turn.Strikes (t : Turn) (s : State) (id : CallId) (counts : Bool) : Prop where
  roster : t.state.roster = s.roster.filter (·.id != id)
  results : ∃ result, t.results = [(id, result)]
  sent : counts = false → t.state.sent = s.sent

theorem Turn.resultsOfOthers {t : Turn} {id : CallId} (others : ∀ result, (id, result) ∉ t.results) :
    t.resultsOf id = [] :=
  List.filterMap_eq_nil_iff.mpr fun result member => if_neg fun same : result.1 = id =>
    others result.2 (same ▸ member)

theorem Turn.Rests.thenRests {t : Turn} {mail : (Tally × Tally) × List Call} {next : State → Turn}
    (rests : t.Rests mail) (later : (next t.state).Rests t.state.mail) :
    (t.andThen next).Rests mail :=
  ⟨later.mail.trans rests.mail, by rw [resultsThen, rests.results, later.results, List.append_nil]⟩

theorem Turn.silentThen {t : Turn} {mail : (Tally × Tally) × List Call} {next : State → Turn}
    (silent : t.results = []) (later : (next t.state).Rests mail) : (t.andThen next).Rests mail :=
  ⟨later.mail, by rw [resultsThen, silent, later.results]; rfl⟩

theorem Turn.Rests.thenStrikes {t : Turn} {s : State} {id : CallId} {counts : Bool}
    {next : State → Turn} (rests : t.Rests s.mail) (later : (next t.state).Strikes t.state id counts) :
    (t.andThen next).Strikes s id counts := by
  obtain ⟨sent, roster⟩ := Prod.mk.inj rests.mail
  refine ⟨later.roster.trans (by rw [roster]), ?_, fun quiet => (later.sent quiet).trans sent⟩
  rw [resultsThen, rests.results]
  exact later.results

namespace State

variable {s : State} {id : CallId}

theorem sayRests (s : State) (severity : Severity) (message : Text) (fields : Dict) :
    (s.say severity message fields).Rests s.mail := ⟨rfl, (sayKeeps _ _ _ _).results⟩

theorem setStatusRests (s : State) (status : Status) (error : Option BusError) :
    (s.setStatus status error).Rests s.mail := ⟨rfl, (setStatusKeeps _ _ _).results⟩

theorem settleRests (s : State) (id : CallId) (answer : Except BusError Answer) :
    (s.settle id answer).Rests s.mail := by
  rw [settle]
  cases s.call? id with
  | none => exact ⟨rfl, rfl⟩
  | some c =>
    dsimp only
    split
    · refine ⟨congrArg (s.sent, ·) (changeRoster s id fun _ => rfl), ?_⟩
      rw [Turn.results]
      dsimp only
      split <;> rfl
    · exact ⟨rfl, rfl⟩

theorem settleAttemptRests (s : State) (answer : Except BusError Answer) :
    (s.settleAttempt answer).Rests s.mail := by
  rw [settleAttempt]
  split
  · exact settleRests s _ answer
  · exact ⟨rfl, rfl⟩

theorem settleMessageRests (s : State) (message : Int) (answer : Except BusError Answer) :
    (s.settleMessage message answer).Rests s.mail := by
  rw [settleMessage]
  split
  · exact settleRests s _ answer
  · exact ⟨rfl, rfl⟩

theorem releaseRests (s : State) : s.release.Rests s.mail := by
  obtain ⟨t, rests, released⟩ := releaseKeeps s (·.Rests s.mail) ⟨rfl, rfl⟩
    fun t rests entry _ => rests.thenRests (settleRests t.state entry.2 _)
  rw [released]
  exact rests.thenRests ⟨rfl, rfl⟩

theorem receiveSent (m : Metrics) (label : Option Label) :
    ((m.receive label).published, (m.receive label).failed) = (m.published, m.failed) := by
  rw [Metrics.receive.eq_def]
  split <;> rfl

theorem receivedRests (s : State) (behaviour : Router.Behaviour) (m : Message) :
    (s.handleReceived behaviour m).Rests s.mail := by
  refine ⟨?_, (receivedKeeps s behaviour m).results⟩
  cases s.receives behaviour m with
  | unread fails turn => rw [turn]
  | routed decoded routing turn =>
    rw [turn]
    exact congrArg (·, s.roster) (receiveSent _ _)
  | broken decoded routing breaks turn =>
    rw [turn]
    rfl

theorem handleRests (s : State) (signal : Broker.Signal) :
    (s.handle signal).Rests s.mail := by
  cases signal with
  | connected reason =>
    rw [handle, handleConnected]
    split
    · exact ((setStatusRests _ _ _).thenRests (sayRests _ _ _ _)).thenRests
        (settleAttemptRests _ _)
    · refine (setStatusRests s _ _).thenRests ?_
      split
      · exact (sayRests _ _ _ _).thenRests (settleAttemptRests _ _)
      · split
        · exact (sayRests _ _ _ _).thenRests ⟨rfl, (resubscribeKeeps _).results⟩
        · exact ⟨rfl, rfl⟩
  | connectFailed =>
    rw [handle, handleConnectFailed]
    exact ((setStatusRests _ _ _).thenRests (sayRests _ _ _ _)).thenRests (settleAttemptRests _ _)
  | disconnected reason =>
    rw [handle, handleDisconnected]
    split
    · exact setStatusRests s _ _
    · exact (setStatusRests s _ _).thenRests (sayRests _ _ _ _)
  | acknowledged message reasons => exact settleMessageRests s message _
  | published message reason => exact settleMessageRests s message _

theorem expireRests (s : State) (id : CallId) : (s.expire id).Rests s.mail := by
  rw [expire]
  split
  · exact ⟨rfl, rfl⟩
  · split
    · exact ⟨congrArg (s.sent, ·) (changeRoster s id fun _ => rfl), rfl⟩
    · exact ⟨rfl, rfl⟩

theorem routeRests (s : State) (command : Router.Command) :
    (step s (.route command)).Rests s.mail := by
  refine ⟨?_, (routeKeeps s command).results⟩
  rw [step, route]
  cases s.router.run s.routerLogger command <;> rfl

section striking

variable {u : State} {counts : Bool} (roster : u.roster = s.roster)
  (sent : counts = false → u.sent = s.sent)
include roster sent

theorem finishStrikes (id : CallId) (result : Except Error Reply) :
    (u.finish id result).Strikes s id counts :=
  ⟨(dropRoster u id).trans (by rw [roster]), ⟨result, rfl⟩, sent⟩

theorem finishAttemptStrikes (id : CallId) (result : Except Error Reply) :
    (u.finishAttempt id result).Strikes s id counts :=
  finishStrikes (u := { u with connecting := none }) roster sent id result

theorem reportStrikes (severity : Severity) (message : Text) (fields : Dict) (id : CallId)
    (result : Except Error Reply) :
    ((u.say severity message fields).andThen (·.finish id result)).Strikes s id counts := by
  refine ⟨(dropRoster u id).trans (by rw [roster]), ⟨result, ?_⟩, sent⟩
  rw [Turn.resultsThen, (sayKeeps _ _ _ _).results]
  rfl

end striking

theorem concludeStrikes (s : State) (id : CallId) (ending : Ending) (counts : Bool) :
    (s.conclude id ending).Strikes s id counts := by
  rw [conclude.eq_def]
  cases ending with
  | closed =>
    have closed : ((s.setSubscriptions []).setStatus .closed none).Rests s.mail :=
      setStatusRests (s.setSubscriptions []) _ _
    exact (closed.thenRests (sayRests _ _ _ _)).thenStrikes (finishStrikes rfl (fun _ => rfl) _ _)
  | timedOut =>
    exact (setStatusRests s _ _).thenStrikes (finishAttemptStrikes rfl (fun _ => rfl) _ _)
  | failed e => exact finishAttemptStrikes rfl (fun _ => rfl) _ _

theorem stopAlters (s : State) (id : CallId) (ending : Ending) (counts : Bool) :
    (s.stopClient id ending).Rests s.mail ∨ (s.stopClient id ending).Strikes s id counts := by
  rw [stopClient]
  split
  · exact .inr (concludeStrikes s id ending counts)
  · exact .inl ⟨congrArg (s.sent, ·) (changeRoster { s with client := none } id fun _ => rfl), rfl⟩

theorem forgetMail (s : State) (c : Call) : (s.forget c).mail = s.mail := by
  rw [forget]
  split <;> rfl

theorem completeStrikes (s : State) (c : Call) (answer : Answer) :
    (s.complete c answer).Strikes s c.id c.purpose.publishes := by
  obtain ⟨sent, roster⟩ := Prod.mk.inj (forgetMail s c)
  rw [complete.eq_def]
  cases purpose : c.purpose with
  | connect => cases answer <;> exact finishAttemptStrikes roster (fun _ => sent) _ _
  | close => exact finishStrikes roster (fun _ => sent) _ _
  | subscribe label topic qos =>
    exact reportStrikes (u := (s.forget c).setSubscriptions _) roster (fun _ => sent) _ _ _ _ _
  | unsubscribe label topic clears =>
    dsimp only
    split
    · exact finishStrikes roster (fun _ => sent) _ _
    · split
      · exact finishStrikes (u := (s.forget c).setSubscriptions _) roster (fun _ => sent) _ _
      · rename_i router _
        exact reportStrikes (u := { (s.forget c).setSubscriptions _ with router := router }) roster
          (fun _ => sent) _ _ _ _ _
  | publish label topic qos retain =>
    exact reportStrikes (u := { s.forget c with metrics := (s.forget c).metrics.publish label })
      roster (by rintro ⟨⟩) _ _ _ _ _

theorem failAlters (s : State) (c : Call) (e : BusError) :
    (s.fail c e).Rests s.mail ∨ (s.fail c e).Strikes s c.id c.purpose.publishes := by
  obtain ⟨sent, roster⟩ := Prod.mk.inj (forgetMail s c)
  rw [fail.eq_def]
  split
  · exact stopAlters s c.id _ _
  · rename_i purpose
    rw [purpose]
    exact .inr (finishStrikes (u := (s.forget c).countFailure _) roster (by rintro ⟨⟩) _ _)
  · exact .inr (finishStrikes roster (fun _ => sent) _ _)

theorem failSent {c : Call} {label : Label} {topic : Text} {qos retain : Value}
    (purpose : c.purpose = .publish label topic qos retain) (e : BusError) :
    (s.fail c e).state.sent = (s.sent.1, s.sent.2.add label.shown) := by
  rw [fail, purpose]
  exact congrArg (fun counts : Tally × Tally => (counts.1, counts.2.add label.shown))
    (Prod.mk.inj (forgetMail s c)).1

theorem giveUpAlters (s : State) (c : Call) :
    (s.giveUp c).Rests s.mail ∨ (s.giveUp c).Strikes s c.id c.purpose.publishes := by
  rw [giveUp.eq_def]
  split
  · exact stopAlters s c.id _ _
  · exact failAlters s c _

theorem Intends.publishes {command : Command} {purpose : Purpose}
    (intends : s.Intends command purpose) : purpose.publishes = command.publishes := by
  cases intends with
  | topic means _ => cases means <;> rfl
  | publish => rfl

/- What an action does to the roster. -/
inductive Alters (s : State) (action : Action) (t : Turn) : Prop
  | stays (rests : t.Rests s.mail)
  | enters {c : Call} {command : Command} {answer : Broker.Answer}
      (begun : action = .begin c.id command answer)
      (asks : c.purpose.acknowledged = command.acknowledged)
      (publishes : c.purpose.publishes = command.publishes)
      (awaits : c.message.isSome = c.purpose.acknowledged)
      (rests : t.Rests (s.sent, s.roster ++ [c.entry]))
  | leaves {id : CallId}
      (own : action.begun? = some id ∨ action = .resume id ∧ ∃ c ∈ s.calls, c.id = id)
      (strikes : t.Strikes s id (s.publishing action))

theorem resumeAlters (s : State) (id : CallId) : s.Alters (.resume id) (s.resume id) := by
  cases found : s.call? id with
  | none =>
    rw [resume, found]
    exact .stays ⟨rfl, rfl⟩
  | some c =>
    obtain ⟨member, rfl⟩ := callMember found
    have counts : s.publishing (.resume c.id) = c.purpose.publishes := by
      rw [publishing, found, Option.any_some]
    have either {t : Turn}
        (alters : t.Rests s.mail ∨ t.Strikes s c.id c.purpose.publishes) :
        s.Alters (.resume c.id) t := by
      rcases alters with rests | strikes
      · exact .stays rests
      · exact .leaves (.inr ⟨rfl, c, member, rfl⟩) (counts ▸ strikes)
    rw [resume, found]
    dsimp only
    split
    · exact either (.inr ((releaseRests s).thenStrikes (concludeStrikes _ _ _ _)))
    · exact either (.inr (completeStrikes s c _))
    · exact either (failAlters s c _)
    · exact either (giveUpAlters s c)
    · split
      · exact .stays ⟨congrArg (s.sent, ·) (changeRoster s c.id fun _ => rfl), rfl⟩
      · exact .stays ⟨rfl, rfl⟩

theorem appendedMail (s : State) (c : Call) :
    ({ s with calls := s.calls ++ [c] } : State).mail = (s.sent, s.roster ++ [c.entry]) :=
  congrArg (s.sent, ·) List.map_append

theorem joinedRests {n : Nat} (client : s.client = some n) (c : Call) (ending : Ending) :
    (({ s with calls := s.calls ++ [c] } : State).stopClient c.id ending).Rests
      (s.sent, s.roster ++ [c.entry]) := by
  rw [← appendedMail, stopClient]
  dsimp only
  rw [client]
  exact ⟨congrArg (s.sent, ·)
    (changeRoster { s with calls := s.calls ++ [c], client := none } c.id fun _ => rfl), rfl⟩

theorem connectAlters (s : State) (id : CallId) (answer : Broker.Answer) :
    s.Alters (.begin id .connect answer) (s.connect id answer) := by
  by_cases available : s.isAvailable = true
  · rw [connect, if_pos available]
    exact .leaves (.inl rfl) (finishStrikes rfl (fun _ => rfl) id _)
  · let c : Call := { id := id, purpose := .connect }
    have silent : (s.prepared id).results = [] := (preparedFollows s id).results
    have stops (ending : Ending) := joinedRests (s := (s.prepared id).state) rfl c ending
    refine .enters (c := c) rfl rfl rfl rfl ?_
    rw [connectPrepared available]
    refine Turn.silentThen silent ?_
    rw [reaching]
    split
    · exact stops _
    · refine Turn.silentThen rfl ?_
      dsimp only [showing]
      split
      · exact stops _
      · refine ⟨?_, (waitFollows (s.prepared id).state id).results⟩
        rw [waitAppends]
        exact appendedMail (s.prepared id).state _

theorem closeAlters (s : State) (id : CallId) (answer : Broker.Answer) :
    s.Alters (.begin id .close answer) (s.close id) := by
  rw [close]
  split
  · rename_i available
    obtain ⟨n, client⟩ := Option.isSome_iff_exists.mp available
    refine .enters (c := { id := id, purpose := .close }) rfl rfl rfl rfl ?_
    refine Turn.silentThen ?_ (joinedRests (s := { s with closing := true }) client _ _)
    exact requestResults s _
  · exact .leaves (.inl rfl) (finishStrikes rfl (fun _ => rfl) id _)

theorem beginAlters (s : State) (id : CallId) (command : Command) (answer : Broker.Answer) :
    s.Alters (.begin id command answer) (s.begin id answer command) := by
  have asked (asks : command.acknowledged = true) :
      s.Alters (.begin id command answer) (s.begin id answer command) := by
    cases beginBegun asks id answer with
    | refused calls _ _ results _ metrics =>
      refine .leaves (.inl rfl) ⟨?_, ⟨_, results⟩, fun quiet => ?_⟩
      · rw [roster, calls]
        exact dropRoster s id
      · rw [sent, metrics quiet, sent]
    | @waits purpose _ intends calls _ _ results metrics =>
      refine .enters (c := ⟨id, purpose, some answer.message, .open, false, none⟩) rfl ?_
        intends.publishes ?_ ⟨?_, results⟩
      · rw [intends.asks, asks]
      · exact intends.asks.symm
      · rw [mail, sent, metrics, roster, calls, List.map_append]
        rfl
  cases command with
  | connect => exact connectAlters s id answer
  | close => exact closeAlters s id answer
  | _ => exact asked rfl

theorem stepAlters (s : State) (action : Action) :
    s.Alters action (step s action) := by
  cases action with
  | begin id command answer => exact beginAlters s id command answer
  | handle signal => exact .stays (handleRests s signal)
  | deliver m behaviour => exact .stays (receivedRests s behaviour m)
  | expire id => exact .stays (expireRests s id)
  | resume id => exact resumeAlters s id
  | route command => exact .stays (routeRests s command)

theorem Consistent.found (consistent : s.Consistent) {c : Call} (member : c ∈ s.calls) :
    s.call? c.id = some c := by
  cases found : s.call? c.id with
  | none => simpa using List.find?_eq_none.mp found c member
  | some other =>
    obtain ⟨there, same⟩ := callMember found
    rw [consistent.sameCall there member same]

def Holds (s : State) (id : CallId) : Prop := ∃ c ∈ s.calls, c.id = id

theorem holdsEntry : s.Holds id ↔ ∃ e ∈ s.roster, e.id = id := by
  rw [Holds, roster]
  simp [Call.entry]

namespace Alters

variable {action : Action} {t : Turn} (alters : s.Alters action t)
include alters

theorem own : ∀ result ∈ t.results,
    action.begun? = some result.1 ∨ action = .resume result.1 ∧ s.Holds result.1 := by
  intro result member
  cases alters with
  | stays rests => simp [rests.results] at member
  | enters _ _ _ _ rests => simp [rests.results] at member
  | leaves own strikes =>
    obtain ⟨returned, results⟩ := strikes.results
    rw [results] at member
    rw [List.mem_singleton.mp member]
    exact own

theorem joined {e : Call} (member : e ∈ t.state.roster) (new : e ∉ s.roster) :
    ∃ command answer, action = .begin e.id command answer ∧
      e.purpose.acknowledged = command.acknowledged ∧ e.message.isSome = e.purpose.acknowledged := by
  cases alters with
  | stays rests =>
    rw [(Prod.mk.inj rests.mail).2] at member
    exact absurd member new
  | @enters c command answer begun asks _ awaits rests =>
    rw [(Prod.mk.inj rests.mail).2] at member
    rw [List.mem_singleton.mp ((List.mem_append.mp member).resolve_left new)]
    exact ⟨command, answer, begun, asks, awaits⟩
  | leaves _ strikes =>
    rw [strikes.roster] at member
    exact absurd (List.mem_filter.mp member).1 new

theorem entered {e : Call} (member : e ∈ t.state.roster) :
    e ∈ s.roster ∨ action.begun? = some e.id := by
  by_cases old : e ∈ s.roster
  · exact .inl old
  · obtain ⟨command, answer, begun, _⟩ := alters.joined member old
    exact .inr (congrArg Action.begun? begun)

theorem holds (held : t.state.Holds id) : s.Holds id ∨ action.begun? = some id := by
  obtain ⟨e, member, rfl⟩ := holdsEntry.mp held
  exact (alters.entered member).imp_left fun old => holdsEntry.mpr ⟨e, old, rfl⟩

theorem returns {result : Except Error Reply} (returned : (id, result) ∈ t.results) :
    t.results = [(id, result)] ∧ ¬ t.state.Holds id := by
  cases alters with
  | stays rests => simp [rests.results] at returned
  | enters _ _ _ _ rests => simp [rests.results] at returned
  | leaves own strikes =>
    obtain ⟨other, results⟩ := strikes.results
    rw [results] at returned
    cases List.mem_singleton.mp returned
    refine ⟨results, fun held => ?_⟩
    obtain ⟨e, member, same⟩ := holdsEntry.mp held
    rw [strikes.roster] at member
    simp [same] at member

theorem gone (absent : ¬ s.Holds id) (other : action.begun? ≠ some id) :
    t.resultsOf id = [] ∧ ¬ t.state.Holds id := by
  refine ⟨Turn.resultsOfOthers fun result member => ?_,
    fun held => (alters.holds held).elim absent other⟩
  rcases alters.own _ member with begun | ⟨_, held⟩
  · exact other begun
  · exact absent held

end Alters

theorem runGone {actions : List Action} (absent : ¬ s.Holds id) (fresh : id ∉ begun actions) :
    (run s actions).resultsOf id = [] ∧ ¬ (run s actions).state.Holds id := by
  induction actions generalizing s with
  | nil => exact ⟨rfl, absent⟩
  | cons action rest ih =>
    rw [begunCons, List.mem_append, not_or] at fresh
    have other : action.begun? ≠ some id := fun begun => fresh.1 (by simp [begun])
    obtain ⟨silent, away⟩ := (stepAlters s action).gone absent other
    obtain ⟨none, last⟩ := ih away fresh.2
    rw [runCons, Turn.resultsOfThen, silent, none]
    exact ⟨rfl, last⟩

end State
end TopicRouting.Bus
