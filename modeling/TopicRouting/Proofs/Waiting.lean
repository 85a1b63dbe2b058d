import Mathlib.Data.List.Nodup
import TopicRouting.Proofs.Ledger
import TopicRouting.Proofs.Wait

/-! What the handling of a signal, the end of a waiting time and the end of a wait do to the calls
of a bus. Each call goes on as its own waiting says. -/
namespace TopicRouting.Bus

def Future.wait (expired : Bool) : Future → Wait
  | .open => .waiting expired
  | .settled answer => .answered answer
  | .cancelled => .gaveUp

def Call.wait (c : Call) : Wait := c.future.wait c.expired

def Purpose.acknowledged : Purpose → Bool
  | .connect | .close => false
  | _ => true

/- What a call returns that goes on with an answer, or with none. Whether an ending subscription
can still be found depends on other calls. -/
def Purpose.Returns (s : State) (message : Int) :
    Purpose → Option (Except BusError Answer) → Except Error Reply → Prop
  | _, none, result => result = .error (.bus (.noAcknowledgement message s.options.seconds))
  | _, some (.error e), result => result = .error (.bus e)
  | .subscribe .., some (.ok answer), result => result = grantedCodes answer
  | .publish _ topic .., some (.ok _), result => result = .ok (.published topic)
  | .unsubscribe _ topic clears, some (.ok _), result =>
      result = .ok .unsubscribed ∨ (topic ∉ s.topics ∧ result = .error .noKey) ∨
        clears = true ∧ ∃ e, result = .error (.label e)
  | _, _, _ => False

structure Ledger.Orderly (l : Ledger) : Prop where
  apart : (l.calls.map Call.id).Nodup
  pending : l.pending = l.calls.filterMap fun c => c.message.map (·, c.id)
  keys : (l.pending.map Prod.fst).Nodup
  attempt : ∀ c ∈ l.calls, l.connecting = some c.id → c.message = none
  running : ∀ c ∈ l.calls, c.ending = none
  awaits : ∀ c ∈ l.calls, c.message.isSome = c.purpose.acknowledged
  patient : l.pending ≠ [] → l.options.patience.fault? = none

namespace Ledger.Orderly

variable {l : Ledger} (orderly : l.Orderly)
include orderly

theorem sameCall {c other : Call} (here : c ∈ l.calls) (there : other ∈ l.calls)
    (same : c.id = other.id) : c = other :=
  List.inj_on_of_nodup_map orderly.apart here there same

theorem owner {message : Int} {id : CallId} :
    (message, id) ∈ l.pending ↔ ∃ c ∈ l.calls, c.message = some message ∧ c.id = id := by
  rw [orderly.pending, List.mem_filterMap]
  simp only [Option.map_eq_some_iff, Prod.mk.injEq]
  constructor
  · rintro ⟨c, member, m, awaited, rfl, rfl⟩
    exact ⟨c, member, awaited, rfl⟩
  · rintro ⟨c, member, awaited, rfl⟩
    exact ⟨c, member, message, awaited, rfl, rfl⟩

theorem sameMessage {c other : Call} {message : Int} (here : c ∈ l.calls) (there : other ∈ l.calls)
    (awaited : c.message = some message) (also : other.message = some message) : c = other := by
  have first := orderly.owner.mpr ⟨c, here, awaited, rfl⟩
  have second := orderly.owner.mpr ⟨other, there, also, rfl⟩
  have same := List.inj_on_of_nodup_map orderly.keys first second rfl
  exact orderly.sameCall here there (Prod.mk.inj same).2

end Ledger.Orderly

namespace State

variable {s : State}

theorem callMember {id : CallId} {c : Call} (found : s.call? id = some c) :
    c ∈ s.calls ∧ c.id = id :=
  ⟨List.mem_of_find?_eq_some found, by simpa using List.find?_some found⟩

def settled (answer : Except BusError Answer) (c : Call) : Call :=
  if c.future.isOpen then { c with future := .settled answer } else c

theorem settleChanges (orderly : s.ledger.Orderly) (id : CallId) (answer : Except BusError Answer) :
    (s.settle id answer).Changes s.ledger fun c => if c.id = id then settled answer c else c := by
  rw [settle]
  cases found : s.call? id with
  | none =>
    refine s.quietKeeps.changes.congr fun c member => ?_
    have other : c.id ≠ id := by simpa using List.find?_eq_none.mp found c member
    exact (if_neg other).symm
  | some c =>
    obtain ⟨member, rfl⟩ := callMember found
    by_cases opened : c.future.isOpen = true
    · simp only [opened, if_true]
      refine Turn.Changes.congr ⟨rfl, ?_⟩ fun other there => ?_
      · show List.filterMap _ (if _ then _ else _) = _
        split <;> rfl
      · by_cases same : other.id = c.id
        · cases orderly.sameCall there member same
          simp [settled, opened]
        · simp [same]
    · simp only [opened]
      refine s.quietKeeps.changes.congr fun other there => ?_
      by_cases same : other.id = c.id
      · cases orderly.sameCall there member same
        simp [settled, opened]
      · simp [same]

theorem settleMessageChanges (orderly : s.ledger.Orderly) (message : Int)
    (answer : Except BusError Answer) : (s.settleMessage message answer).Changes s.ledger fun c =>
      if c.message = some message then settled answer c else c := by
  rw [settleMessage]
  cases found : s.pending.find? (·.1 == message) with
  | none =>
    refine s.quietKeeps.changes.congr fun c member => ?_
    have other : c.message ≠ some message := by
      intro awaited
      have entry : (message, c.id) ∈ s.pending := orderly.owner.mpr ⟨c, member, awaited, rfl⟩
      simpa using List.find?_eq_none.mp found _ entry
    exact (if_neg other).symm
  | some entry =>
    obtain ⟨m, id⟩ := entry
    have same : m = message := by simpa using List.find?_some found
    subst same
    obtain ⟨c, member, awaited, rfl⟩ := orderly.owner.mp (List.mem_of_find?_eq_some found)
    refine (settleChanges orderly c.id answer).congr fun other there => ?_
    by_cases here : other = c
    · simp [here, awaited]
    · have apart : other.id ≠ c.id := fun same => here (orderly.sameCall there member same)
      have unasked : other.message ≠ some m :=
        fun also => here (orderly.sameMessage there member also awaited)
      rw [if_neg apart, if_neg unasked]

end State

structure Call.Advances (c after : Call) (action : Action) : Prop where
  id : after.id = c.id
  purpose : after.purpose = c.purpose
  message : after.message = c.message
  ending : after.ending = c.ending
  wait : ∀ m, c.message = some m → after.wait = c.wait.next m c.id action

theorem Call.unmoved {c : Call} {action : Action}
    (still : ∀ m, c.message = some m → c.wait.next m c.id action = c.wait) :
    c.Advances c action :=
  ⟨rfl, rfl, rfl, rfl, fun m awaited => (still m awaited).symm⟩

theorem Call.hears {c : Call} {m : Int} {signal : Broker.Signal} {answer : Except BusError Answer}
    (awaited : c.message = some m) (heard : answerTo m signal = some answer) :
    c.Advances (State.settled answer c) (.handle signal) := by
  obtain ⟨id, purpose, message, future, expired, ending⟩ := c
  cases awaited
  cases future <;> constructor <;>
    simp [State.settled, Future.isOpen, Call.wait, Future.wait, Wait.next, heard]

theorem Call.attempts {c : Call} (free : c.message = none) (answer : Except BusError Answer)
    (action : Action) : c.Advances (State.settled answer c) action := by
  have other : ∀ m, c.message ≠ some m := by simp [free]
  rw [State.settled]
  split
  · exact ⟨rfl, rfl, rfl, rfl, fun m awaited => absurd awaited (other m)⟩
  · exact Call.unmoved fun m awaited => absurd awaited (other m)

def Turn.Advances (t : Turn) (l : Ledger) (action : Action) : Prop :=
  ∃ f, t.Changes l f ∧ ∀ c ∈ l.calls, c.Advances (f c) action

theorem Turn.Keeps.advances {t : Turn} {l : Ledger} {action : Action} (keeps : t.Keeps l)
    (still : ∀ (w : Wait) m id, w.next m id action = w) : t.Advances l action :=
  ⟨id, keeps.changes, fun _ _ => Call.unmoved fun m _ => still _ m _⟩

theorem Turn.Keeps.orderly {t : Turn} {l : Ledger} (keeps : t.Keeps l) (orderly : l.Orderly) :
    t.state.ledger.Orderly := keeps.ledger.symm ▸ orderly

theorem Turn.Keeps.thenAdvances {t : Turn} {l : Ledger} {next : State → Turn} {action : Action}
    (keeps : t.Keeps l) (rest : (next t.state).Advances t.state.ledger action) :
    (t.andThen next).Advances l action := by
  obtain ⟨f, changes, advances⟩ := rest
  refine ⟨f, keeps.thenChanges changes, ?_⟩
  rwa [keeps.ledger] at advances

namespace State

variable {s : State}

theorem settleMessageAdvances (orderly : s.ledger.Orderly) {message : Int}
    {signal : Broker.Signal} {answer : Except BusError Answer}
    (own : answerTo message signal = some answer)
    (others : ∀ m, m ≠ message → answerTo m signal = none) :
    (s.settleMessage message answer).Advances s.ledger (.handle signal) := by
  refine ⟨_, settleMessageChanges orderly message answer, fun c _ => ?_⟩
  by_cases here : c.message = some message
  · rw [if_pos here]
    exact Call.hears here own
  · rw [if_neg here]
    refine Call.unmoved fun m awaited => Wait.nextUnheard (others m ?_) _ _
    rintro rfl
    exact here awaited

theorem settleAttemptAdvances (orderly : s.ledger.Orderly) {signal : Broker.Signal}
    (silent : ∀ m, answerTo m signal = none) (answer : Except BusError Answer) :
    (s.settleAttempt answer).Advances s.ledger (.handle signal) := by
  have quiet (w : Wait) (m : Int) (id : CallId) : w.next m id (.handle signal) = w :=
    Wait.nextUnheard (silent m) w id
  rw [settleAttempt]
  cases attempted : s.attempt? with
  | none => exact s.quietKeeps.advances quiet
  | some id =>
    have current : s.connecting = some id := (Option.filter_eq_some_iff.mp attempted).1
    refine ⟨_, settleChanges orderly id answer, fun c member => ?_⟩
    by_cases here : c.id = id
    · rw [if_pos here]
      exact Call.attempts (orderly.attempt c member (here ▸ current)) answer _
    · rw [if_neg here]
      exact Call.unmoved fun m _ => quiet _ m _

theorem resubscribeKeeps (s : State) : s.resubscribe.Keeps s.ledger := by
  refine showingKeeps ?_ s
  rintro output member id result rfl
  obtain ⟨entry, _, asked⟩ := List.mem_flatMap.mp member
  obtain ⟨n, _, same⟩ := Option.map_eq_some_iff.mp (Option.mem_toList.mp asked)
  contradiction

def routing (s : State) (behaviour : Router.Behaviour) (m : Message) (json : Option Value) :
    Router.Dispatched × Router.Scene :=
  Router.dispatch ⟨behaviour, s.routerLogger, true⟩ Router.depthLimit 0 s.router
    { m with json := json, retain := .bool !m.retain.isBlank }

/- All that a received message can come to. What its listeners have done stays when one of them
breaks off, but the message is not counted then. -/
inductive Receives (s : State) (behaviour : Router.Behaviour) (m : Message) : Prop
  | unread {e : Error} (fails : Payload.decode m.payload = .error e)
      (turn : s.handleReceived behaviour m = ⟨s, [.unhandled e]⟩)
  | routed {json : Option Value} {label : Option Label} {scene : Router.Scene}
      (decoded : Payload.decode m.payload = .ok json)
      (routing : s.routing behaviour m json = (.routed label, scene))
      (turn : s.handleReceived behaviour m =
        ⟨{ s with router := scene.router, metrics := s.metrics.receive label },
          scene.outputs.map .dispatched⟩)
  | broken {json : Option Value} {how : Router.Dispatched} {scene : Router.Scene} {e : Error}
      (decoded : Payload.decode m.payload = .ok json)
      (routing : s.routing behaviour m json = (how, scene))
      (breaks : how = .aborted ∧ e = .aborted ∨ how = .tooDeep ∧ e = .tooDeep)
      (turn : s.handleReceived behaviour m =
        ⟨{ s with router := scene.router },
          scene.outputs.map .dispatched ++ [.unhandled e]⟩)

theorem receives (s : State) (behaviour : Router.Behaviour) (m : Message) :
    s.Receives behaviour m := by
  cases decoded : Payload.decode m.payload with
  | error e => exact .unread decoded (by rw [handleReceived, decoded]; rfl)
  | ok json =>
    cases routed : s.routing behaviour m json with
    | mk how scene =>
      have turn := routed
      rw [routing] at turn
      cases how with
      | routed label =>
        refine .routed decoded routed ?_
        simp only [handleReceived, decoded, dispatch, turn, Turn.andThen, quiet, List.append_nil]
      | aborted =>
        refine .broken decoded routed (.inl ⟨rfl, rfl⟩) ?_
        simp only [handleReceived, decoded, dispatch, turn, Turn.andThen, showing]
      | tooDeep =>
        refine .broken decoded routed (.inr ⟨rfl, rfl⟩) ?_
        simp only [handleReceived, decoded, dispatch, turn, Turn.andThen, showing]

theorem dispatchedResults (s : State) (outputs : List Router.Output) :
    (s.showing (outputs.map .dispatched)).results = [] := by
  refine List.filterMap_eq_nil_iff.mpr fun output member => ?_
  obtain ⟨inner, _, rfl⟩ := List.mem_map.mp member
  rfl

theorem receivedKeeps (s : State) (behaviour : Router.Behaviour) (m : Message) :
    (s.handleReceived behaviour m).Keeps s.ledger := by
  cases s.receives behaviour m with
  | unread fails turn =>
    rw [turn]
    exact ⟨rfl, rfl⟩
  | routed decoded routing turn =>
    rw [turn]
    exact ⟨rfl, dispatchedResults s _⟩
  | broken decoded routing breaks turn =>
    rw [turn]
    exact ⟨rfl, List.filterMap_append.trans (congrArg (· ++ []) (dispatchedResults s _))⟩

theorem receivedAdvances (s : State) (behaviour : Router.Behaviour) (m : Message) :
    (s.handleReceived behaviour m).Advances s.ledger (.deliver m behaviour) :=
  (receivedKeeps s behaviour m).advances fun w n id => w.nextDelivered n id m behaviour

theorem reportThenSettle (orderly : s.ledger.Orderly) {signal : Broker.Signal}
    (silent : ∀ m, answerTo m signal = none) {t : Turn} (keeps : t.Keeps s.ledger)
    (severity : Severity) (message : Text) (fields : State → Dict)
    (answer : Except BusError Answer) :
    ((t.andThen fun s => s.say severity message (fields s)).andThen
      (·.settleAttempt answer)).Advances s.ledger (.handle signal) := by
  have said : (t.andThen fun s => s.say severity message (fields s)).Keeps s.ledger :=
    keeps.thenKeeps (sayKeeps _ _ _ _)
  exact said.thenAdvances (settleAttemptAdvances (said.orderly orderly) silent answer)

theorem handleAdvances (orderly : s.ledger.Orderly)
    (signal : Broker.Signal) : (s.handle signal).Advances s.ledger (.handle signal) := by
  have quiet (silent : ∀ m, answerTo m signal = none) (w : Wait) (m : Int) (id : CallId) :
      w.next m id (.handle signal) = w := Wait.nextUnheard (silent m) w id
  cases signal with
  | acknowledged message reasons =>
    exact settleMessageAdvances orderly (if_pos rfl) fun m other => if_neg (Ne.symm other)
  | published message reason =>
    exact settleMessageAdvances orderly (if_pos rfl) fun m other => if_neg (Ne.symm other)
  | disconnected reason =>
    refine Turn.Keeps.advances ?_ (quiet fun _ => rfl)
    rw [handle, handleDisconnected]
    split
    · exact setStatusKeeps s _ _
    · exact (setStatusKeeps s _ _).thenKeeps (sayKeeps _ _ _ _)
  | connectFailed =>
    exact reportThenSettle orderly (fun _ => rfl) (setStatusKeeps s _ _) _ _ _ _
  | connected reason =>
    rw [handle, handleConnected]
    split
    · exact reportThenSettle orderly (fun _ => rfl) (setStatusKeeps s _ _) _ _ _ _
    · have shown := setStatusKeeps s .connected none
      refine shown.thenAdvances ?_
      split
      · have said := sayKeeps (s.setStatus .connected none).state
        refine (said _ _ _).thenAdvances
          (settleAttemptAdvances ((said _ _ _).orderly (shown.orderly orderly)) (fun _ => rfl) _)
      · refine Turn.Keeps.advances ?_ (quiet fun _ => rfl)
        split
        · exact (sayKeeps _ _ _ _).thenKeeps (resubscribeKeeps _)
        · exact quietKeeps _

theorem expireAdvances (orderly : s.ledger.Orderly) (id : CallId) :
    (s.expire id).Advances s.ledger (.expire id) := by
  rw [expire]
  cases found : s.call? id with
  | none =>
    refine ⟨_, s.quietKeeps.changes, fun c member => Call.unmoved fun m _ => ?_⟩
    have other : id ≠ c.id := by
      rintro rfl
      simpa using List.find?_eq_none.mp found c member
    cases wait : c.wait <;> simp [Wait.next, other]
  | some c =>
    obtain ⟨member, rfl⟩ := callMember found
    have others {other : Call} (there : other ∈ s.calls) (apart : ¬ other.id = c.id) :
        other.Advances other (.expire c.id) := by
      refine Call.unmoved fun m _ => ?_
      cases other.wait <;> simp [Wait.next, Ne.symm apart]
    dsimp only
    split
    · rename_i runs
      refine ⟨_, ⟨rfl, rfl⟩, fun other there => ?_⟩
      by_cases same : other.id = c.id
      · cases orderly.sameCall there member same
        rw [if_pos (beq_self_eq_true _)]
        refine ⟨rfl, rfl, rfl, rfl, fun m _ => ?_⟩
        obtain ⟨id, purpose, message, future, expired, ending⟩ := c
        cases future <;> simp_all [Future.isOpen, Call.wait, Future.wait, Wait.next]
      · rw [if_neg (by simpa using same)]
        exact others there same
    · rename_i stands
      refine ⟨_, s.quietKeeps.changes, fun other there => ?_⟩
      by_cases same : other.id = c.id
      · cases orderly.sameCall there member same
        have running := orderly.running c member
        refine Call.unmoved fun m _ => ?_
        obtain ⟨id, purpose, message, future, expired, ending⟩ := c
        cases future <;> simp_all [Future.isOpen, Call.wait, Future.wait, Wait.next]
      · exact others there same

theorem routeKeeps (s : State) (command : Router.Command) :
    (step s (.route command)).Keeps s.ledger := by
  rw [step, route]
  cases s.router.run s.routerLogger command with
  | error e => exact quietKeeps s
  | ok result =>
    refine ⟨rfl, List.filterMap_eq_nil_iff.mpr fun output member => ?_⟩
    obtain ⟨record, _, rfl⟩ := List.mem_map.mp member
    rfl

theorem forgetLedger (s : State) (c : Call) : (s.forget c).ledger = { s.ledger with
    pending := match c.message with
      | some m => s.pending.filter (·.1 != m)
      | none => s.pending } := by
  rw [forget]
  cases c.message <;> rfl

theorem returnsError (m : Int) (purpose : Purpose) (e : BusError) :
    purpose.Returns s m (some (.error e)) (.error (.bus e)) := by
  cases purpose <;> rfl

theorem returnsNone (m : Int) (purpose : Purpose) :
    purpose.Returns s m none (.error (.bus (.noAcknowledgement m s.options.seconds))) := by
  cases purpose <;> rfl

theorem forgetUnasked {c : Call} (free : c.message = none) : s.forget c = s := by
  rw [forget, free]

theorem failEnds {c : Call} (awaits : c.message.isSome = c.purpose.acknowledged) (e : BusError)
    (runs : ¬ (s.fail c e).Stops) : ∃ result, (s.fail c e).Ends (s.forget c).ledger c.id result ∧
      ∀ m, c.message = some m → result = .error (.bus e) := by
  rw [fail.eq_def] at runs ⊢
  cases purpose : c.purpose with
  | connect =>
    have free : c.message = none := by simpa [purpose, Purpose.acknowledged] using awaits
    simp only [purpose] at runs
    obtain ⟨result, ends⟩ := (s.stopClientEnds c.id _).resolve_left runs
    exact ⟨result, by rwa [forgetUnasked free], by simp [free]⟩
  | close => exact ⟨_, finishEnds _ _ _, fun _ _ => rfl⟩
  | subscribe label topic qos => exact ⟨_, finishEnds _ _ _, fun _ _ => rfl⟩
  | unsubscribe label topic clears => exact ⟨_, finishEnds _ _ _, fun _ _ => rfl⟩
  | publish label topic qos retain => exact ⟨_, finishEnds _ _ _, fun _ _ => rfl⟩

theorem giveUpEnds {c : Call} (awaits : c.message.isSome = c.purpose.acknowledged)
    (runs : ¬ (s.giveUp c).Stops) : ∃ result, (s.giveUp c).Ends (s.forget c).ledger c.id result ∧
      ∀ m, c.message = some m →
        result = .error (.bus (.noAcknowledgement m s.options.seconds)) := by
  rw [giveUp.eq_def] at runs ⊢
  cases purpose : c.purpose with
  | connect =>
    have free : c.message = none := by simpa [purpose, Purpose.acknowledged] using awaits
    simp only [purpose] at runs
    obtain ⟨result, ends⟩ := (s.stopClientEnds c.id _).resolve_left runs
    exact ⟨result, by rwa [forgetUnasked free], by simp [free]⟩
  | _ =>
    simp only [purpose] at runs
    obtain ⟨result, ends, same⟩ := failEnds awaits _ runs
    refine ⟨result, ends, fun m awaited => ?_⟩
    rw [same m awaited, awaited, Option.getD_some]

theorem failReturns {c : Call} (asks : c.purpose.acknowledged = true) (e : BusError) :
    (s.fail c e).results = [(c.id, .error (.bus e))] := by
  rw [fail.eq_def]
  cases purpose : c.purpose with
  | connect => simp [purpose, Purpose.acknowledged] at asks
  | _ => rfl

theorem giveUpFails {c : Call} {m : Int} (asks : c.purpose.acknowledged = true) (awaited : c.message = some m) :
    s.giveUp c = s.fail c (.noAcknowledgement m s.options.seconds) := by
  rw [giveUp.eq_def, awaited]
  cases purpose : c.purpose with
  | connect => simp [purpose, Purpose.acknowledged] at asks
  | _ => rfl

theorem completeEnds {c : Call} (awaits : c.message.isSome = c.purpose.acknowledged)
    (answer : Answer) : ∃ result, (s.complete c answer).Ends (s.forget c).ledger c.id result ∧
      ∀ m, c.message = some m → c.purpose.Returns s m (some (.ok answer)) result := by
  have free (unasked : c.purpose.acknowledged = false) (m : Int) : c.message ≠ some m := by
    intro awaited
    rw [awaited, unasked] at awaits
    contradiction
  have topics : (s.forget c).topics = s.topics := by
    rw [forget]
    cases c.message <;> rfl
  rw [complete.eq_def]
  cases purpose : c.purpose with
  | connect =>
    have none := free (by rw [purpose]; rfl)
    cases answer with
    | connected reason =>
      exact ⟨_, finishAttemptEnds _ _ _, fun m awaited => absurd awaited (none m)⟩
    | acknowledged reasons =>
      exact ⟨_, finishAttemptEnds _ _ _, fun m awaited => absurd awaited (none m)⟩
    | published message =>
      exact ⟨_, finishAttemptEnds _ _ _, fun m awaited => absurd awaited (none m)⟩
  | close =>
    have none := free (by rw [purpose]; rfl)
    exact ⟨_, finishEnds _ _ _, fun m awaited => absurd awaited (none m)⟩
  | subscribe label topic qos =>
    refine ⟨grantedCodes answer, ?_, fun m _ => rfl⟩
    have said := sayKeeps ((s.forget c).setSubscriptions
      (putSubscription topic qos (s.forget c).subscriptions))
    exact (said _ _ _).thenEnds (finishEnds _ _ _)
  | unsubscribe label topic clears =>
    dsimp only
    split
    · rename_i missing
      refine ⟨_, finishEnds _ _ _, fun m _ => .inr (.inl ⟨?_, rfl⟩)⟩
      rw [← topics]
      simpa using missing
    · split
      · rename_i e failed
        refine ⟨_, finishEnds _ _ _, fun m _ => .inr (.inr ⟨?_, e, rfl⟩)⟩
        cases clears with
        | true => rfl
        | false => contradiction
      · rename_i router cleared
        refine ⟨.ok .unsubscribed, ?_, fun m _ => .inl rfl⟩
        have said := sayKeeps { (s.forget c).setSubscriptions
          ((s.forget c).subscriptions.filter (·.1 != topic)) with router := router }
        exact (said _ _ _).thenEnds (finishEnds _ _ _)
  | publish label topic qos retain =>
    refine ⟨.ok (.published topic), ?_, fun m _ => rfl⟩
    have said := sayKeeps { s.forget c with metrics := (s.forget c).metrics.publish label }
    exact (said _ _ _).thenEnds (finishEnds _ _ _)

end State

end TopicRouting.Bus
