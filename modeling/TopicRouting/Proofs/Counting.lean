import TopicRouting.Proofs.Staging
import TopicRouting.Proofs.Topics

/-! What the counts of a bus say about its messages. A message counts once it has been read and its
listeners are called: under the label whose pattern was the first to match, or under none. No other
step changes these counts. -/
namespace TopicRouting

namespace Tally

theorem countAdd (t : Tally) (name other : Text) :
    (t.add name).count other = t.count other + if name = other then 1 else 0 := by
  induction t with
  | nil => by_cases same : name = other <;> simp [add, count, same]
  | cons entry t ih =>
    obtain ⟨n, k⟩ := entry
    simp only [count] at ih
    by_cases here : n = name
    · subst here
      by_cases same : n = other <;> simp [add, count, same]
    · by_cases first : n = other
      · subst first
        simp [add, count, here, Ne.symm here]
      · simp [add, count, here, first, ih]

theorem totalAdd (t : Tally) (name : Text) : (t.add name).total = t.total + 1 := by
  induction t with
  | nil => rfl
  | cons entry t ih =>
    obtain ⟨n, k⟩ := entry
    simp only [total] at ih
    by_cases here : n = name
    · simp [add, total, here]
      omega
    · simp [add, total, here, ih]
      omega

end Tally

namespace Label

def counter? : Option Label → Option Text
  | none => none
  | some label => if label = .null then none else some label.shown

end Label

namespace Metrics

structure Counts (m : Metrics) (seen : List (Option Text)) : Prop where
  all : m.received = seen.length
  balance : m.received = m.unmatched + m.matched.total
  unmatched : m.unmatched = seen.count none
  matched : ∀ name, m.matched.count name = seen.count (some name)

variable {m : Metrics} {seen : List (Option Text)}

theorem countsUnmatched (counts : m.Counts seen) :
    ({ m with received := m.received + 1, unmatched := m.unmatched + 1 } : Metrics).Counts
      (seen ++ [none]) where
  all := by simp [counts.all]
  balance := by
    dsimp only
    rw [counts.balance]
    omega
  unmatched := by simp [counts.unmatched]
  matched name := by simp [counts.matched]

theorem countsMatched (counts : m.Counts seen) (name : Text) :
    ({ m with received := m.received + 1, matched := m.matched.add name } : Metrics).Counts
      (seen ++ [some name]) where
  all := by simp [counts.all]
  balance := by
    dsimp only
    rw [counts.balance, Tally.totalAdd]
    omega
  unmatched := by simp [counts.unmatched]
  matched other := by simp [Tally.countAdd, counts.matched, List.count_singleton]

theorem countsReceive (counts : m.Counts seen) (label : Option Label) :
    (m.receive label).Counts (seen ++ [Label.counter? label]) := by
  unfold receive
  split
  · exact countsUnmatched counts
  · rw [Label.counter?, if_pos rfl]
    exact countsUnmatched counts
  · rename_i label other
    rw [Label.counter?, if_neg other]
    exact countsMatched counts label.shown

end Metrics

namespace Router

def taker (r : Router) (topic : Text) : Option Label :=
  (r.entries.find? fun (_, pattern) => (pattern.match? topic).isSome).map Prod.fst

theorem matchTaker (r : Router) (topic : Text) :
    (r.match? topic).map Found.label = r.taker topic := by
  rw [match?, taker]
  induction r.entries with
  | nil => rfl
  | cons entry entries ih =>
    obtain ⟨label, pattern⟩ := entry
    cases matched : pattern.match? topic with
    | none => simpa [matched] using ih
    | some params => simp [matched]

end Router

namespace Bus

/- The message that an action delivers, with the router that it comes to. -/
def State.delivered? (s : State) : Action → Option (Router × Message)
  | .deliver m _ => some (s.router, m)
  | _ => none

def Action.Calm : Action → Prop
  | .deliver _ behaviour => ∀ calls listener message, (behaviour calls listener message).Calm
  | _ => True

def deliveries : State → List Action → List (Router × Message)
  | _, [] => []
  | s, action :: rest =>
      (s.delivered? action).toList ++ deliveries (step s action).state rest

def readable (m : Message) : Bool := (Payload.decode m.payload).isOk

theorem unreadable {m : Message} {b : ByteArray} (payload : m.payload = .bytes b) :
    readable m = false ↔ ∃ t, Payload.textOf b = some t ∧ Json.read t = .error .tooDeep := by
  rw [readable, payload, Payload.decode]
  cases text : Payload.textOf b with
  | none => simp [Except.isOk, Except.toBool]
  | some t =>
    dsimp only
    rw [Payload.ofText]
    cases read : Json.read t with
    | ok v => simp [read, Except.isOk, Except.toBool]
    | error fault => cases fault <;> simp [read, Except.isOk, Except.toBool]

def goesTo (delivery : Router × Message) : Option Text :=
  Label.counter? (delivery.1.taker delivery.2.topic)

/- Where the messages go that can be read. -/
def counted (delivered : List (Router × Message)) : List (Option Text) :=
  (delivered.filter fun delivery => readable delivery.2).map goesTo

theorem countedAppend (front back : List (Router × Message)) :
    counted (front ++ back) = counted front ++ counted back := by
  rw [counted, List.filter_append, List.map_append]
  rfl

theorem countGoing (delivered : List (Router × Message)) (place : Option Text) :
    (delivered.map goesTo).count place = delivered.countP (goesTo · = place) := by
  rw [List.count, List.countP_map]
  exact List.countP_congr fun delivery _ => by simp

namespace State

variable {s : State} {behaviour : Router.Behaviour}

theorem concludeIntake (s : State) (id : CallId) (ending : Ending) :
    (s.conclude id ending).state.intake = s.intake := by
  rw [conclude.eq_def]
  cases ending <;> rfl

theorem completeIntake (s : State) (c : Call) (answer : Answer) :
    (s.complete c answer).state.intake = s.intake := by
  rw [← intakeHeld (forgetHoldings s c), complete.eq_def]
  cases c.purpose with
  | connect => cases answer <;> rfl
  | unsubscribe label topic clears =>
    dsimp only
    split
    · rfl
    · split <;> rfl
  | _ => rfl

theorem resumeIntake (s : State) (id : CallId) : (s.resume id).state.intake = s.intake := by
  rw [resume]
  cases s.call? id with
  | none => rfl
  | some c =>
    dsimp only
    split
    · exact (concludeIntake _ id _).trans (intakeHeld (releaseHoldings s))
    · exact completeIntake s c _
    · exact intakeHeld (failHoldings s c _)
    · exact intakeHeld (giveUpHoldings s c)
    · split <;> rfl

theorem stepIntake (s : State) {action : Action}
    (other : ∀ m behaviour, action ≠ .deliver m behaviour) :
    (step s action).state.intake = s.intake := by
  cases action with
  | begin id command answer => exact intakeHeld (beginHoldings s id command answer)
  | handle signal => exact intakeHeld (handleHoldings s signal)
  | deliver m behaviour => exact absurd rfl (other m behaviour)
  | expire id => exact intakeHeld (expireHoldings s id)
  | resume id => exact resumeIntake s id
  | route command =>
    rw [step, route]
    cases s.router.run s.routerLogger command <;> rfl

theorem routingCalm (calm : ∀ calls listener message, (behaviour calls listener message).Calm)
    (s : State) (m : Message) (json : Option Value) :
    (s.routing behaviour m json).1 = .routed (s.router.taker m.topic) := by
  rw [← Router.matchTaker]
  exact Router.dispatchCalm calm (Router.depthLimit - 1) 0 s.router
    { m with json := json, retain := .bool !m.retain.isBlank }

theorem countsAlike {t : State} (same : t.intake = s.intake) {seen : List (Option Text)}
    (counts : s.metrics.Counts seen) : t.metrics.Counts seen := by
  obtain ⟨received, rest⟩ := Prod.mk.inj same
  obtain ⟨unmatched, matched⟩ := Prod.mk.inj rest
  refine ⟨received.trans counts.all, ?_, unmatched.trans counts.unmatched, fun name => ?_⟩
  · rw [received, unmatched, matched]
    exact counts.balance
  · rw [matched]
    exact counts.matched name

theorem receivedCounts (calm : ∀ calls listener message, (behaviour calls listener message).Calm)
    {seen : List (Option Text)} (counts : s.metrics.Counts seen) (m : Message) :
    (s.handleReceived behaviour m).state.metrics.Counts (seen ++ counted [(s.router, m)]) := by
  cases s.receives behaviour m with
  | unread fails turn =>
    have unread : counted [(s.router, m)] = [] := by
      simp [counted, readable, fails, Except.isOk, Except.toBool]
    rw [turn, unread, List.append_nil]
    exact counts
  | routed decoded routing turn =>
    have read : counted [(s.router, m)] = [goesTo (s.router, m)] := by
      simp [counted, readable, decoded, Except.isOk, Except.toBool]
    cases (congrArg Prod.fst routing).symm.trans (routingCalm calm s m _)
    rw [turn, read]
    exact Metrics.countsReceive counts _
  | broken decoded routing breaks turn =>
    cases (congrArg Prod.fst routing).symm.trans (routingCalm calm s m _)
    obtain ⟨aborted, _⟩ | ⟨deep, _⟩ := breaks <;> contradiction

theorem stepCounts {action : Action} (calm : action.Calm) {seen : List (Option Text)}
    (counts : s.metrics.Counts seen) :
    (step s action).state.metrics.Counts (seen ++ counted (s.delivered? action).toList) := by
  cases action with
  | deliver m behaviour => exact receivedCounts calm counts m
  | _ =>
    refine countsAlike (stepIntake s (by simp)) ?_
    simpa [delivered?, counted] using counts

end State

theorem runCounts {s : State} {seen : List (Option Text)} (counts : s.metrics.Counts seen)
    {actions : List Action} (calm : ∀ action ∈ actions, action.Calm) :
    (run s actions).state.metrics.Counts (seen ++ counted (deliveries s actions)) := by
  induction actions generalizing s seen with
  | nil =>
    rw [deliveries, counted, List.filter_nil, List.map_nil, List.append_nil]
    exact counts
  | cons action rest ih =>
    obtain ⟨here, later⟩ := List.forall_mem_cons.mp calm
    rw [runCons, deliveries, countedAppend, ← List.append_assoc]
    exact ih (State.stepCounts here counts) later

/-- Over any run the counts are those of the messages that were delivered and could be read, each
told by the first pattern that matched it, and the gauge is the number of topics. Bytes are read
unless they are JSON that nests too deeply. -/
theorem messagesCounted {s : State} (zero : s.metrics = {}) (empty : s.subscriptions = [])
    {actions : List Action} (calm : ∀ action ∈ actions, action.Calm) :
    let t := (run s actions).state
    let read := (deliveries s actions).filter fun delivery => readable delivery.2
    t.metrics.received = t.metrics.unmatched + t.metrics.matched.total ∧
      t.metrics.received = read.length ∧
      (∀ name, t.metrics.matched.count name = read.countP (goesTo · = some name)) ∧
      t.metrics.unmatched = read.countP (goesTo · = none) ∧
      t.metrics.subscriptions = t.subscriptions.length ∧
      ∀ delivery ∈ deliveries s actions, ∀ b, delivery.2.payload = .bytes b →
        (delivery ∈ read ↔ ¬ ∃ text, Payload.textOf b = some text ∧
          Json.read text = .error .tooDeep) := by
  intro t read
  have start : s.metrics.Counts [] := by
    rw [zero]
    exact ⟨rfl, rfl, rfl, fun name => rfl⟩
  have counts : t.metrics.Counts (read.map goesTo) := runCounts start calm
  have gauge : t.metrics.subscriptions = t.topics.length :=
    runCounted (by rw [zero, State.topics, empty]; rfl)
  refine ⟨counts.balance, counts.all.trans (List.length_map _),
    fun name => (counts.matched name).trans (countGoing _ _),
    counts.unmatched.trans (countGoing _ _),
    gauge.trans (List.length_map _), fun delivery member b payload => ?_⟩
  rw [← unreadable payload, Bool.not_eq_false, List.mem_filter]
  exact and_iff_right member

theorem messagesCountedLater :
    let s : State :=
      { options := ⟨.text "c", .int 60, .int 0, .bool true, .null⟩
        settings := ⟨"localhost", 1883, none, none, false⟩
        logger := ⟨.text "bus", .text "ERROR"⟩
        routerLogger := ⟨.text "router", .text "ERROR"⟩ }
    let message (topic payload : Text) (reaction : Router.Reaction) : Action :=
      .deliver { topic := topic, payload := .bytes (Payload.bytesOf payload) }
        fun _ _ _ => reaction
    let actions : List Action :=
      [.route (.set (.text "a") (.text "x/+id")), .route (.set (.text "b") (.text "#rest")),
        .route (.on (.text "a") "l"), message "x/1" "5" (.fail .wrongType),
        message "y" "no" .done, .route (.remove (.text "b")), message "y" "" .done,
        .route (.remove (.text "a")), .route (.set (.text "a") (.text "y")),
        message "y" "[1]" .done]
    let t := (run s actions).state
    ((∀ action ∈ actions, action.Calm) ∧ s.metrics = {} ∧ s.subscriptions = []) ∧
    t.metrics.received = 4 ∧ t.metrics.matched.count "a" = 2 ∧ t.metrics.matched.count "b" = 1 ∧
      t.metrics.unmatched = 1 := by
  intro s message actions t
  have going : ((deliveries s actions).filter fun delivery => readable delivery.2).map
      goesTo = ([some "a", some "b", none, some "a"] : List (Option Text)) := by decide +kernel
  have calm : ∀ action ∈ actions, action.Calm := by
    simp [actions, message, Action.Calm, Router.Reaction.Calm]
  obtain ⟨_, all, matched, unmatched, _⟩ := messagesCounted (s := s) rfl rfl calm
  simp only [← countGoing, going] at matched unmatched
  refine ⟨⟨calm, rfl, rfl⟩, ?_, ?_, ?_, ?_⟩
  · rw [all, ← List.length_map goesTo, going]
    rfl
  · rw [matched]
    decide +kernel
  · rw [matched]
    decide +kernel
  · rw [unmatched]
    decide +kernel

end Bus
end TopicRouting
