import TopicRouting.Proofs.Beginning

/-! The topics that a bus is subscribed to and their count, from step to step. Only a call that goes
on writes them: one that subscribes or unsubscribes with its answer, or one that closes the bus. -/
namespace TopicRouting.Bus

namespace State

def table (s : State) : List (Text × Value) × Nat := (s.subscriptions, s.metrics.subscriptions)

def content (s : State) : (List (Text × Value) × Nat) × Router := (s.table, s.router)

def intake (s : State) : Nat × Nat × Tally :=
  (s.metrics.received, s.metrics.unmatched, s.metrics.matched)

def holdings (s : State) : ((List (Text × Value) × Nat) × Router) × Nat × Nat × Tally :=
  (s.content, s.intake)

def written (s : State) : Purpose → State
  | .subscribe _ topic qos => s.setSubscriptions (putSubscription topic qos s.subscriptions)
  | .unsubscribe _ topic _ =>
      if s.topics.contains topic then
        s.setSubscriptions (s.subscriptions.filter (·.1 != topic))
      else s
  | _ => s

/- All that a step can do to the topics. -/
inductive Writes (s : State) (action : Action) (t : State) : Prop
  | kept (same : t.table = s.table)
  | answered {c : Call} {answer : Answer} (resumed : action = .resume c.id)
      (found : s.call? c.id = some c) (running : c.ending = none)
      (granted : c.future = .settled (.ok answer)) (written : t.table = (s.written c.purpose).table)
  | cleared {c : Call} (resumed : action = .resume c.id) (found : s.call? c.id = some c)
      (closes : c.ending = some .closed) (empty : t.table = ([], 0))

structure Subscribes (s : State) (c : Call) (topic : Text) : Prop where
  found : s.call? c.id = some c
  running : c.ending = none
  granted : ∃ answer, c.future = .settled (.ok answer)
  purpose : ∃ label qos, c.purpose = .subscribe label topic qos

variable {s : State} {topic : Text}

theorem contentHeld {t : State} (same : t.holdings = s.holdings) : t.content = s.content :=
  congrArg Prod.fst same

theorem intakeHeld {t : State} (same : t.holdings = s.holdings) : t.intake = s.intake :=
  congrArg Prod.snd same

theorem tableHeld {t : State} (same : t.holdings = s.holdings) : t.table = s.table :=
  congrArg (·.1.1) same

theorem settleHoldings (s : State) (id : CallId) (answer : Except BusError Answer) :
    (s.settle id answer).state.holdings = s.holdings := by
  rw [settle]
  cases s.call? id with
  | none => rfl
  | some c =>
    dsimp only
    split <;> rfl

theorem releaseHoldings (s : State) : s.release.state.holdings = s.holdings := by
  obtain ⟨t, same, released⟩ := releaseKeeps s (fun t => t.state.holdings = s.holdings) rfl
    fun t same entry _ => (settleHoldings t.state entry.2 _).trans same
  rw [released]
  exact same

theorem concludeHoldings {id : CallId} {ending : Ending} (goesOn : ending ≠ .closed) :
    (s.conclude id ending).state.holdings = s.holdings := by
  rw [conclude.eq_def]
  cases ending with
  | closed => contradiction
  | timedOut => rfl
  | failed e => rfl

theorem stopHoldings {id : CallId} {ending : Ending}
    (goesOn : s.client = none → ending ≠ .closed) :
    (s.stopClient id ending).state.holdings = s.holdings := by
  rw [stopClient]
  split
  · exact concludeHoldings (goesOn ‹_›)
  · rfl

theorem forgetHoldings (s : State) (c : Call) : (s.forget c).holdings = s.holdings := by
  rw [forget]
  split <;> rfl

theorem waitForHoldings (s : State) (id : CallId) (purpose : Purpose) (message : Int) :
    (s.waitFor id purpose message).state.holdings = s.holdings := by
  rw [waitFor]
  split
  · rfl
  · rw [waitAppends]
    rfl

theorem connectHoldings (s : State) (id : CallId) (answer : Broker.Answer) :
    (s.connect id answer).state.holdings = s.holdings := by
  by_cases available : s.isAvailable = true
  · rw [connect, if_pos available]
    rfl
  · rw [connectPrepared available]
    dsimp only [Turn.andThen, reaching]
    split
    · exact stopHoldings (by simp)
    · dsimp only [showing]
      split
      · exact stopHoldings (by simp)
      · rw [waitAppends]
        rfl

theorem beginHoldings (s : State) (id : CallId) (command : Command) (answer : Broker.Answer) :
    (s.begin id answer command).state.holdings = s.holdings := by
  cases command with
  | connect => exact connectHoldings s id answer
  | close =>
    rw [begin, close]
    split
    · rename_i available
      refine stopHoldings fun unavailable => ?_
      rw [isAvailable] at available
      simp [show s.client = none from unavailable] at available
    · rfl
  | subscribe label qos =>
    rw [begin, subscribe]
    split
    · rfl
    · dsimp only
      split
      · rfl
      · dsimp only [Turn.andThen, showing]
        split
        · rfl
        · split
          · rfl
          · exact waitForHoldings s id _ _
  | unsubscribe label clears =>
    rw [begin, unsubscribe]
    split
    · rfl
    · dsimp only
      split
      · rfl
      · dsimp only [Turn.andThen, showing]
        split
        · rfl
        · exact waitForHoldings s id _ _
  | publish label params payload qos retain =>
    rw [begin, publish]
    split
    · rfl
    · split
      · rfl
      · rfl
      · split
        · rfl
        · dsimp only [Turn.andThen, showing]
          split
          · rfl
          · exact waitForHoldings s id _ _

theorem settleAttemptHoldings (s : State) (answer : Except BusError Answer) :
    (s.settleAttempt answer).state.holdings = s.holdings := by
  rw [settleAttempt]
  split
  · exact settleHoldings s _ answer
  · rfl

theorem settleMessageHoldings (s : State) (message : Int) (answer : Except BusError Answer) :
    (s.settleMessage message answer).state.holdings = s.holdings := by
  rw [settleMessage]
  split
  · exact settleHoldings s _ answer
  · rfl

theorem receiveSubscriptions (m : Metrics) (label : Option Label) :
    (m.receive label).subscriptions = m.subscriptions := by
  rw [Metrics.receive.eq_def]
  split <;> rfl

theorem handleHoldings (s : State) (signal : Broker.Signal) :
    (s.handle signal).state.holdings = s.holdings := by
  cases signal with
  | connected reason =>
    rw [handle, handleConnected]
    split
    · exact settleAttemptHoldings _ _
    · show (if _ then _ else _ : Turn).state.holdings = s.holdings
      split
      · exact settleAttemptHoldings _ _
      · split <;> rfl
  | connectFailed => exact settleAttemptHoldings _ _
  | disconnected reason =>
    rw [handle, handleDisconnected]
    split <;> rfl
  | acknowledged message reasons => exact settleMessageHoldings s message _
  | published message reason => exact settleMessageHoldings s message _

theorem receivedTable (s : State) (behaviour : Router.Behaviour) (m : Message) :
    (s.handleReceived behaviour m).state.table = s.table := by
  cases s.receives behaviour m with
  | unread fails turn => rw [turn]
  | routed decoded routing turn =>
    rw [turn]
    exact congrArg (s.subscriptions, ·) (receiveSubscriptions _ _)
  | broken decoded routing breaks turn =>
    rw [turn]
    rfl

theorem setTable (s : State) (subscriptions : List (Text × Value)) :
    (s.setSubscriptions subscriptions).table = (subscriptions, subscriptions.length) := rfl

theorem writtenAlike {t : State} (same : t.table = s.table) (purpose : Purpose) :
    (t.written purpose).table = (s.written purpose).table := by
  have entries : t.subscriptions = s.subscriptions := congrArg Prod.fst same
  cases purpose with
  | subscribe label topic qos => simp only [written, entries, setTable]
  | unsubscribe label topic clears =>
    have topics : t.topics = s.topics := congrArg (·.map Prod.fst) entries
    rw [written, written, topics, entries]
    split
    · rfl
    · exact same
  | _ => exact same

theorem completeTable (s : State) (c : Call) (answer : Answer) :
    (s.complete c answer).state.table = (s.written c.purpose).table := by
  have forgot : (s.forget c).table = s.table := tableHeld (forgetHoldings s c)
  rw [← writtenAlike forgot, complete.eq_def]
  cases c.purpose with
  | connect => cases answer <;> rfl
  | unsubscribe label topic clears =>
    dsimp only [written]
    cases present : (s.forget c).topics.contains topic with
    | false => rfl
    | true =>
      simp only [Bool.not_true, Bool.false_eq_true, if_false, if_true]
      split <;> rfl
  | _ => rfl

theorem failHoldings (s : State) (c : Call) (e : BusError) :
    (s.fail c e).state.holdings = s.holdings := by
  rw [fail.eq_def]
  split
  · exact stopHoldings (by simp)
  · exact forgetHoldings s c
  · exact forgetHoldings s c

theorem giveUpHoldings (s : State) (c : Call) : (s.giveUp c).state.holdings = s.holdings := by
  rw [giveUp.eq_def]
  split
  · exact stopHoldings (by simp)
  · exact failHoldings s c _

theorem resumeWrites (s : State) (id : CallId) : s.Writes (.resume id) (s.resume id).state := by
  rw [resume]
  cases found : s.call? id with
  | none => exact .kept rfl
  | some c =>
    obtain ⟨_, rfl⟩ := callMember found
    dsimp only
    split
    · rename_i ending ended
      have kept (goesOn : ending ≠ .closed) : s.Writes (.resume c.id)
          (s.release.andThen (·.conclude c.id ending)).state :=
        .kept (tableHeld ((concludeHoldings goesOn).trans (releaseHoldings s)))
      cases ending with
      | closed => exact .cleared rfl found ended rfl
      | timedOut => exact kept (by simp)
      | failed e => exact kept (by simp)
    · rename_i running granted
      exact .answered rfl found running granted (completeTable s c _)
    · exact .kept (tableHeld (failHoldings s c _))
    · exact .kept (tableHeld (giveUpHoldings s c))
    · split
      · exact .kept rfl
      · exact .kept rfl

theorem expireHoldings (s : State) (id : CallId) :
    (s.expire id).state.holdings = s.holdings := by
  rw [expire]
  split
  · rfl
  · split <;> rfl

theorem stepWrites (s : State) (action : Action) :
    s.Writes action (step s action).state := by
  cases action with
  | begin id command answer => exact .kept (tableHeld (beginHoldings s id command answer))
  | handle signal => exact .kept (tableHeld (handleHoldings s signal))
  | deliver m behaviour => exact .kept (receivedTable s behaviour m)
  | expire id => exact .kept (tableHeld (expireHoldings s id))
  | resume id => exact resumeWrites s id
  | route command =>
    refine .kept ?_
    rw [step, route]
    cases s.router.run s.routerLogger command <;> rfl

theorem putTopics {subscriptions : List (Text × Value)} {other : Text} {qos : Value} :
    topic ∈ (putSubscription other qos subscriptions).map Prod.fst ↔
      topic = other ∨ topic ∈ subscriptions.map Prod.fst := by
  induction subscriptions with
  | nil => simp [putSubscription]
  | cons entry rest ih =>
    rw [putSubscription]
    split
    · rename_i same
      rw [List.map_cons, List.map_cons, List.mem_cons, same]
      tauto
    · rw [List.map_cons, List.map_cons, List.mem_cons, List.mem_cons, ih]
      tauto

theorem filterTopics {subscriptions : List (Text × Value)} {other : Text} :
    topic ∈ (subscriptions.filter (·.1 != other)).map Prod.fst ↔
      topic ≠ other ∧ topic ∈ subscriptions.map Prod.fst := by
  simp only [List.mem_map, List.mem_filter, bne_iff_ne, ne_eq]
  constructor
  · rintro ⟨entry, ⟨inside, other⟩, rfl⟩
    exact ⟨other, entry, inside, rfl⟩
  · rintro ⟨other, entry, inside, rfl⟩
    exact ⟨entry, ⟨inside, other⟩, rfl⟩

theorem writtenFrom {purpose : Purpose} (member : topic ∈ (s.written purpose).topics) :
    topic ∈ s.topics ∨ ∃ label qos, purpose = .subscribe label topic qos := by
  cases purpose with
  | subscribe label other qos =>
    rcases putTopics.mp member with rfl | before
    · exact .inr ⟨label, qos, rfl⟩
    · exact .inl before
  | unsubscribe label other clears =>
    rw [written] at member
    split at member
    · exact .inl (filterTopics.mp member).2
    · exact .inl member
  | _ => exact .inl member

theorem writtenStays (member : topic ∈ s.topics) (purpose : Purpose) :
    topic ∈ (s.written purpose).topics ∨
      ∃ label clears, purpose = .unsubscribe label topic clears := by
  cases purpose with
  | subscribe label other qos => exact .inl (putTopics.mpr (.inr member))
  | unsubscribe label other clears =>
    by_cases own : topic = other
    · exact .inr ⟨label, clears, own ▸ rfl⟩
    · rw [written]
      split
      · exact .inl (filterTopics.mpr ⟨own, member⟩)
      · exact .inl member
  | _ => exact .inl member

theorem topicsAlike {t : State} (same : t.table = s.table) : t.topics = s.topics :=
  congrArg (·.1.map Prod.fst) same

theorem stepTopics (member : topic ∈ s.topics) (action : Action) :
    topic ∈ (step s action).state.topics ∨ ∃ c ∈ s.calls, action = .resume c.id ∧
      ((∃ label clears, c.purpose = .unsubscribe label topic clears) ∨ c.ending = some .closed) := by
  cases stepWrites s action with
  | kept same => exact .inl (topicsAlike same ▸ member)
  | @answered c _ resumed found _ _ written =>
    rw [topicsAlike written]
    refine (writtenStays member c.purpose).imp_right fun ends => ?_
    exact ⟨c, (callMember found).1, resumed, .inl ends⟩
  | @cleared c resumed found closes _ =>
    exact .inr ⟨c, (callMember found).1, resumed, .inr closes⟩

theorem stepNew {action : Action}
    (member : topic ∈ (step s action).state.topics) : topic ∈ s.topics ∨
      ∃ c, action = .resume c.id ∧ s.Subscribes c topic := by
  cases stepWrites s action with
  | kept same => exact .inl (topicsAlike same ▸ member)
  | @answered c answer resumed found running granted written =>
    rw [topicsAlike written] at member
    refine (writtenFrom member).imp_right ?_
    rintro ⟨label, qos, purpose⟩
    exact ⟨c, resumed, found, running, ⟨answer, granted⟩, label, qos, purpose⟩
  | cleared _ _ _ empty =>
    rw [topics, show (step s action).state.subscriptions = [] from
      congrArg Prod.fst empty] at member
    contradiction

theorem stepCounted (counted : s.metrics.subscriptions = s.topics.length)
    (action : Action) : (step s action).state.metrics.subscriptions =
      (step s action).state.topics.length := by
  have counts (t : State) : t.metrics.subscriptions = t.topics.length ↔
      t.table.2 = t.table.1.length := by rw [topics, List.length_map]; rfl
  rw [counts] at counted ⊢
  cases stepWrites s action with
  | kept same => rwa [same]
  | @answered c _ _ _ _ _ written =>
    rw [written]
    cases c.purpose with
    | subscribe label topic qos => rfl
    | unsubscribe label topic clears =>
      rw [State.written]
      split
      · rfl
      · exact counted
    | _ => exact counted
  | cleared _ _ _ empty => rw [empty]; rfl

end State

theorem createdEmpty {setup : Setup} {env : Environment} {generated : Text} {s : State}
    (created : setup.create env generated = .ok s) : s.table = ([], 0) := by
  obtain ⟨_, _, _, _, _, _, rfl⟩ := createdMakes created
  rfl

theorem runTopics {s : State} {topic : Text} {actions : List Action}
    (member : topic ∈ s.topics) (goesOn : ∀ front back, actions = front ++ back →
      ∀ c ∈ (run s front).state.calls, c.ending ≠ some .closed) :
    topic ∈ (run s actions).state.topics ∨
      ∃ front call back, actions = front ++ .resume call :: back ∧
        ∃ c ∈ (run s front).state.calls, c.id = call ∧
          ∃ label clears, c.purpose = .unsubscribe label topic clears := by
  induction actions generalizing s with
  | nil => exact .inl member
  | cons action rest ih =>
    rcases State.stepTopics member action with stays | ⟨c, inside, rfl, ends | closes⟩
    · have later := ih stays fun front back split c inside =>
        goesOn (action :: front) back (by rw [split, List.cons_append]) c (by rwa [runCons])
      rw [runCons]
      refine later.imp_right ?_
      rintro ⟨front, call, back, split, c, inside, own⟩
      exact ⟨action :: front, call, back, by rw [split, List.cons_append], c, by rwa [runCons], own⟩
    · exact .inr ⟨[], c.id, rest, rfl, c, inside, rfl, ends⟩
    · exact absurd closes (goesOn [] _ rfl c inside)

theorem runNew {s : State} {topic : Text} {actions : List Action}
    (member : topic ∈ (run s actions).state.topics) : topic ∈ s.topics ∨
      ∃ front c back, actions = front ++ .resume c.id :: back ∧
        (run s front).state.Subscribes c topic := by
  induction actions generalizing s with
  | nil => exact .inl member
  | cons action rest ih =>
    rw [runCons] at member
    rcases ih member with before | ⟨front, c, back, split, subscribes⟩
    · refine (State.stepNew before).imp_right ?_
      rintro ⟨c, rfl, subscribes⟩
      exact ⟨[], c, rest, rfl, subscribes⟩
    · exact .inr ⟨action :: front, c, back, by rw [split, List.cons_append], by rwa [runCons]⟩

theorem runCounted {s : State} {actions : List Action}
    (counted : s.metrics.subscriptions = s.topics.length) :
    (run s actions).state.metrics.subscriptions = (run s actions).state.topics.length := by
  induction actions generalizing s with
  | nil => exact counted
  | cons action rest ih =>
    rw [runCons]
    exact ih (State.stepCounted counted action)

end TopicRouting.Bus
