import TopicRouting.Proofs.Overlapping
import TopicRouting.Proofs.Publishing

/-! The topics of a bus at rest, which has no client and no call under way that connects or closes.
A close empties the table as it ends, and nothing else does. So a topic is left where its
subscription was written with no close to come: at rest, or during an attempt that failed. -/
namespace TopicRouting.Bus

def oneByOne (s : State) : List Action → Bool
  | [] => true
  | action :: rest =>
      (!action.lasting || s.connection.calls.isEmpty) &&
        oneByOne (step s action).state rest

structure State.Resting (s : State) : Prop where
  unavailable : s.isAvailable = false
  idle : s.connection.calls = []

/- A subscription is written at rest, or during an attempt to connect that fails in the end. -/
def Strays (s : State) (actions : List Action) (topic : Text) : Prop :=
  ∃ front c back, actions = front ++ .resume c.id :: back ∧
    let u := (run s front).state
    u.Subscribes c topic ∧ (u.Resting ∨ ∃ a ∈ u.calls, a.purpose = .connect ∧
      ∃ e, .error e ∈ (run s actions).resultsOf a.id)

namespace Connection

variable {k : Connection} {c : Call} {action : Action}

/- One call at most connects or closes, and it has a client until that is to stop. -/
def Alone (k : Connection) : Prop :=
  k.calls = [] ∨ ∃ c, k.calls = [c] ∧ (c.ending = none → k.client.isSome = true)

inductive Passes (k : Connection) (action : Action) (shift : Shift) : Prop
  | rests (idle : k.calls = []) (still : shift.connection.calls = [])
      (client : shift.connection.client = k.client)
  | begins {c : Call} (idle : k.calls = []) (unavailable : k.client = none)
      (sole : shift.connection.calls = [c])
      (available : c.ending = none → shift.connection.client.isSome = true)
  | closes {c : Call} (idle : k.calls = []) (sole : shift.connection.calls = [c])
      (ended : c.ending = some .closed)
  | goesOn {c after : Call} (sole : k.calls = [c]) (stays : shift.connection.calls = [after])
      (same : after.id = c.id) (ending : after.ending = some .closed ↔ c.ending = some .closed)
      (available : after.ending = none → shift.connection.client.isSome = true)
  | returns {c : Call} {result : Except Error Reply} (resumed : action = .resume c.id)
      (sole : k.calls = [c]) (gone : shift.connection.calls = [])
      (returned : result ∈ shift.resultsOf c.id)
      (connected : c.ending ≠ some .closed →
        (∃ e, result = .error e) ∨ shift.connection.client.isSome = true)

theorem Passes.alone {shift : Shift} (passes : k.Passes action shift) : shift.connection.Alone := by
  cases passes with
  | rests idle still client => exact .inl still
  | begins idle unavailable sole available => exact .inr ⟨_, sole, available⟩
  | closes idle sole ended => exact .inr ⟨_, sole, fun running => by simp [ended] at running⟩
  | goesOn sole stays same ending available => exact .inr ⟨_, stays, available⟩
  | returns resumed sole gone returned connected => exact .inl gone

theorem Passes.busy {shift : Shift} {c : Call} (passes : k.Passes action shift)
    (sole : k.calls = [c]) :
    (∃ after : Call, shift.connection.calls = [after] ∧ after.id = c.id ∧
      (after.ending = some .closed ↔ c.ending = some .closed)) ∨
    ∃ result, action = .resume c.id ∧ shift.connection.calls = [] ∧
      result ∈ shift.resultsOf c.id ∧
      (c.ending ≠ some .closed →
        (∃ e, result = .error e) ∨ shift.connection.client.isSome = true) := by
  have busy : k.calls ≠ [] := by simp [sole]
  cases passes with
  | rests idle _ _ => exact absurd idle busy
  | begins idle _ _ _ => exact absurd idle busy
  | closes idle _ _ => exact absurd idle busy
  | goesOn known stays same ending _ =>
    cases known.symm.trans sole
    exact .inl ⟨_, stays, same, ending⟩
  | returns resumed known gone returned connected =>
    cases known.symm.trans sole
    exact .inr ⟨_, resumed, gone, returned, connected⟩

theorem Alone.found (alone : k.Alone) {id : CallId} (found : k.call? id = some c) :
    k.calls = [c] ∧ (c.ending = none → k.client.isSome = true) := by
  rcases alone with idle | ⟨other, sole, available⟩
  · simp [idleCall idle] at found
  · have same : other = c := by simpa [sole] using soleFound sole found
    exact ⟨same ▸ sole, same ▸ available⟩

theorem stopSole (sole : k.calls = [c]) {n : Nat} (client : k.client = some n) (ending : Ending) :
    (k.stop c.id ending).connection.calls = [{ c with ending := some ending }] := by
  simp [stop, client, change, sole]

theorem leaveReturns (k : Connection) (id : CallId) (result : Except Error Reply) :
    result ∈ (k.leave id result).resultsOf id := by simp [leave, Shift.resultsOf]

theorem Alone.concludes (alone : k.Alone) {ending : Ending} (found : k.call? c.id = some c)
    (ended : c.ending = some ending) :
    k.Passes (.resume c.id) (k.conclude c.id ending) := by
  have sole := (alone.found found).1
  by_cases closed : ending = .closed
  · cases closed
    refine .returns rfl sole ?_ (leaveReturns _ c.id _) fun goesOn => absurd ended goesOn
    exact dropSole (k := { k with status := .closed }) sole
  · obtain ⟨status, e, same, _⟩ := k.concludeOpen c.id closed
    rw [same]
    refine .returns rfl sole ?_ (leaveReturns _ c.id _) fun _ => .inl ⟨e, rfl⟩
    exact dropSole (k := { k with status := status, connecting := none }) sole

theorem Alone.passes (alone : k.Alone) (inTurn : action.lasting = true → k.calls = []) :
    k.Passes action (k.next action) := by
  have steps := k.nextSteps action
  generalize k.next action = shift at steps
  cases steps with
  | @kept f status alike reported =>
    rcases alone with idle | ⟨c, sole, available⟩
    · exact .rests idle (by rw [quiet, idle]; rfl) rfl
    · have stays : k.calls.map f = [f c] := by rw [sole]; rfl
      refine .goesOn sole stays (alike c).id ?_ ?_
      · rw [(alike c).ending]
      · rw [(alike c).ending]
        exact available
  | refused e begun lasting =>
    have idle := inTurn lasting
    rw [leave, dropIdle idle]
    exact .rests idle idle rfl
  | @attempted call answer future begun unavailable =>
    have idle := inTurn (by rw [begun]; rfl)
    have sole : (k.attempt call future).calls =
        [{ id := call, purpose := .connect, future := future }] := by
      rw [attempt, idle]
      rfl
    exact .begins idle unavailable sole fun _ => rfl
  | @attemptFailed call answer e begun unavailable =>
    have idle := inTurn (by rw [begun]; rfl)
    have sole : (k.attempt call .open).calls = [{ id := call, purpose := .connect }] := by
      rw [attempt, idle]
      rfl
    exact .begins idle unavailable (stopSole sole rfl (.failed e)) (by simp)
  | @closes call answer n begun client =>
    have idle := inTurn (by rw [begun]; rfl)
    let closing : Connection :=
      { k with closing := true, calls := k.calls ++ [{ id := call, purpose := .close }] }
    have sole : closing.calls = [{ id := call, purpose := .close }] := by simp [closing, idle]
    exact .closes idle (stopSole sole client .closed) rfl
  | concluded resumed found ended => exact resumed ▸ alone.concludes found ended
  | @answered c result resumed found running connects =>
    obtain ⟨sole, available⟩ := alone.found found
    refine .returns resumed sole ?_ (leaveReturns _ c.id _) fun _ => .inr (available running)
    exact dropSole (k := { k with connecting := none }) sole
  | @stopped c ending resumed found running goesOn =>
    obtain ⟨sole, available⟩ := alone.found found
    obtain ⟨n, client⟩ := Option.isSome_iff_exists.mp (available running)
    refine .goesOn sole (stopSole sole client ending) rfl ?_ (by simp)
    simp [running, goesOn]

end Connection

namespace State

variable {u : State} {topic : Text}

theorem restingClient : u.Resting ↔ u.client = none ∧ u.connection.calls = [] :=
  ⟨fun rests => ⟨unavailableClient.mp rests.unavailable, rests.idle⟩,
    fun ⟨client, idle⟩ => ⟨unavailableClient.mpr client, idle⟩⟩

theorem connects (consistent : u.Consistent) {c : Call} (member : c ∈ u.connection.calls)
    (goesOn : c.ending ≠ some .closed) : c ∈ u.calls ∧ c.purpose = .connect := by
  obtain ⟨inside, lasting⟩ := connectionCall.mp member
  refine ⟨inside, ?_⟩
  cases purpose : c.purpose with
  | connect => rfl
  | close => exact absurd (consistent.closes c inside purpose) goesOn
  | _ => simp [purpose, Purpose.acknowledged] at lasting

theorem closedEmpty (consistent : u.Consistent) {c : Call}
    (sole : u.connection.calls = [c]) (ended : c.ending = some .closed) :
    (step u (.resume c.id)).state.subscriptions = [] := by
  have found := foundConnection consistent (Connection.soleCall sole |>.trans (if_pos rfl))
  have resumed : step u (.resume c.id) = u.release.andThen (·.conclude c.id .closed) := by
    rw [step, resume, found]
    simp only [ended]
  rw [resumed]
  rfl

theorem subscribesAside (consistent : u.Consistent) {c : Call} (subscribes : u.Subscribes c topic) :
    (step u (.resume c.id)).state.connection = u.connection := by
  obtain ⟨label, qos, purpose⟩ := subscribes.purpose
  have unknown : u.connection.call? c.id = none := by
    rw [calledConnection consistent subscribes.found, purpose]
    rfl
  have begun : (Action.resume c.id).begun? = none := rfl
  have accords := stepAccords consistent (unbegunFresh begun)
  rw [accords.connection, Connection.next, Connection.resume, unknown]
  rfl

end State

section accounting

variable {s : State} {front : List Action} {action : Action} {topic : Text}

theorem Strays.next (strays : Strays s front topic) (action : Action) :
    Strays s (front ++ [action]) topic := by
  obtain ⟨early, c, late, rfl, subscribes, why⟩ := strays
  refine ⟨early, c, late ++ [action], by simp, subscribes, why.imp_right ?_⟩
  rintro ⟨a, inside, connects, e, ended⟩
  refine ⟨a, inside, connects, e, ?_⟩
  rw [runThen, Turn.resultsOfThen]
  exact List.mem_append_left _ ended

/- Why a topic is there: its subscription strays, or was written with a close to come, or during an
attempt to connect that has not ended yet. -/
inductive Accounted (s : State) (actions : List Action) (topic : Text) : Prop
  | strays (strays : Strays s actions topic)
  | connected (available : (run s actions).state.client.isSome = true)
      (idle : (run s actions).state.connection.calls = [])
  | closes {c : Call} (sole : (run s actions).state.connection.calls = [c])
      (ended : c.ending = some .closed)
  | attempted {c a w : Call} {front back : List Action}
      (sole : (run s actions).state.connection.calls = [c])
      (goesOn : c.ending ≠ some .closed) (split : actions = front ++ .resume w.id :: back)
      (subscribes : (run s front).state.Subscribes w topic)
      (inside : a ∈ (run s front).state.calls) (connects : a.purpose = .connect)
      (same : a.id = c.id)

variable (consistent : (run s front).state.Consistent)
  (alone : (run s front).state.connection.Alone)
include consistent alone

theorem accountedNew {w : Call} (subscribes : (run s front).state.Subscribes w topic) :
    Accounted s (front ++ [.resume w.id]) topic := by
  have same : (run s (front ++ [.resume w.id])).state.connection =
      (run s front).state.connection := by
    rw [runThen]
    exact State.subscribesAside consistent subscribes
  rcases alone with idle | ⟨c, sole, _⟩
  · cases client : (run s front).state.client with
    | none =>
      have rests := State.restingClient.mpr ⟨client, idle⟩
      exact .strays ⟨front, w, [], rfl, subscribes, .inl rests⟩
    | some n =>
      have still : (run s (front ++ [.resume w.id])).state.client = some n :=
        (congrArg Connection.client same).trans client
      exact .connected (by rw [still]; rfl) (by rwa [same])
  · have still := sole
    rw [← same] at still
    by_cases ended : c.ending = some .closed
    · exact .closes still ended
    · obtain ⟨inside, connects⟩ := State.connects consistent
        (by rw [sole]; exact List.mem_singleton_self c) ended
      exact .attempted still ended rfl subscribes inside connects rfl

omit alone in
theorem soleReturns {c : Call} {result : Except Error Reply}
    (sole : (run s front).state.connection.calls = [c])
    (returned : result ∈
      ((run s front).state.connection.next (.resume c.id)).resultsOf c.id) :
    result ∈ (run s (front ++ [.resume c.id])).resultsOf c.id := by
  have unasked : ¬ (run s front).state.Asks c.id := by
    rintro ⟨other, there, own, asks⟩
    have member : c ∈ (run s front).state.connection.calls := by
      rw [sole]
      exact List.mem_singleton_self c
    exact State.otherAsks consistent there asks c member own.symm
  have fresh : ∀ id, (Action.resume c.id).begun? = some id →
      ¬ (run s front).state.Uses id := fun _ begins => by cases begins
  rw [runThen, Turn.resultsOfThen, (State.stepAccords consistent fresh).results c.id
    unasked (by simp [Action.asks?])]
  exact List.mem_append_right _ returned

theorem Accounted.next (accounted : Accounted s front topic)
    (fresh : ∀ id, action.begun? = some id → ¬ (run s front).state.Uses id)
    (inTurn : action.lasting = true → (run s front).state.connection.calls = [])
    (member : topic ∈ (run s (front ++ [action])).state.topics) :
    Accounted s (front ++ [action]) topic := by
  have accords := State.stepAccords consistent fresh
  have after : (run s (front ++ [action])).state.connection =
      ((run s front).state.connection.next action).connection := by
    rw [runThen]
    exact accords.connection
  have client : (run s (front ++ [action])).state.client =
      ((run s front).state.connection.next action).connection.client :=
    congrArg Connection.client after
  have passes := alone.passes inTurn
  cases accounted with
  | strays strays => exact .strays (strays.next action)
  | connected available idle =>
    have rests {c : Call} (sole : (run s front).state.connection.calls = [c]) : False :=
      List.cons_ne_nil _ _ (sole.symm.trans idle)
    cases passes with
    | rests _ still same => exact .connected (by rwa [client, same]) (by rwa [after])
    | begins _ unavailable _ _ =>
      rw [show (run s front).state.client = none from unavailable] at available
      contradiction
    | closes _ sole ended => exact .closes (by rwa [after]) ended
    | goesOn sole _ _ _ _ => exact (rests sole).elim
    | returns _ sole _ _ _ => exact (rests sole).elim
  | @closes c sole ended =>
    rcases passes.busy sole with ⟨c', stays, _, ending⟩ | ⟨_, resumed, _⟩
    · exact .closes (by rwa [after]) (ending.mpr ended)
    · rw [resumed, runThen, State.topics, Turn.andThen,
        State.closedEmpty consistent sole ended] at member
      contradiction
  | @attempted c a w early late sole goesOn split subscribes inside connects same =>
    have later : front ++ [action] = early ++ .resume w.id :: (late ++ [action]) := by simp [split]
    rcases passes.busy sole with
      ⟨c', stays, still, ending⟩ | ⟨_, resumed, gone, returned, connected⟩
    · exact .attempted (by rwa [after]) (fun ended => goesOn (ending.mp ended)) later subscribes
        inside connects (same.trans still.symm)
    · rcases connected goesOn with ⟨e, rfl⟩ | available
      · refine .strays ⟨early, w, _, later, subscribes, .inr ⟨a, inside, connects, e, ?_⟩⟩
        subst resumed
        rw [same]
        exact soleReturns consistent sole returned
      · exact .connected (by rwa [client]) (by rwa [after])

end accounting

section resting

variable {s : State}

theorem oneByOneThen (s : State) (front : List Action) (action : Action) :
    oneByOne s (front ++ [action]) = (oneByOne s front &&
      (!action.lasting || (run s front).state.connection.calls.isEmpty)) := by
  induction front generalizing s with
  | nil => simp [oneByOne, run, State.quiet]
  | cons first rest ih => simp [oneByOne, ih, runCons, Turn.andThen, Bool.and_assoc]

theorem runAccounted (new : s.New) (empty : s.topics = []) {actions : List Action}
    (distinct : (begun actions).Nodup) (inTurn : oneByOne s actions = true) :
    (run s actions).state.connection.Alone ∧
      ∀ topic ∈ (run s actions).state.topics, Accounted s actions topic := by
  induction actions using List.reverseRecOn with
  | nil =>
    refine ⟨.inl (State.newIdle new), fun topic member => ?_⟩
    rw [show (run s []).state.topics = [] from empty] at member
    contradiction
  | append_singleton front action ih =>
    obtain ⟨consistent, numbered⟩ := runConsistent new.consistent (new.numbered distinct)
    rw [begunAppend, List.nodup_append] at distinct
    rw [oneByOneThen, Bool.and_eq_true] at inTurn
    obtain ⟨alone, accounted⟩ := ih distinct.1 inTurn.1
    have fresh : ∀ id, action.begun? = some id → ¬ (run s front).state.Uses id :=
      fun id begins => numbered.head begins
    have idle : action.lasting = true → (run s front).state.connection.calls = [] := by
      intro lasting
      simpa [lasting] using inTurn.2
    refine ⟨?_, fun topic member => ?_⟩
    · rw [runThen, Turn.andThen, (State.stepAccords consistent fresh).connection]
      exact (alone.passes idle).alone
    · have new := member
      rw [runThen] at new
      rcases State.stepNew new with before | ⟨w, rfl, subscribes⟩
      · exact (accounted topic before).next consistent alone fresh idle member
      · exact accountedNew consistent alone subscribes

theorem State.subscribeRequests {n : Nat} {label : Label} {p : Pattern}
    (available : s.client = some n) (registered : s.router.get label = .ok (some p))
    (absent : p.topic ∉ s.topics) (id : CallId) (qos : Option Value) (answer : Broker.Answer) :
    (s.subscribe id label qos answer).requests = [(n, .subscribe p.topic (s.quality qos))] := by
  have missing : s.topics.contains p.topic = false := by simpa using absent
  rw [subscribe, requireAvailable available registered]
  simp only [missing, showing, Turn.andThen, request, available, Option.map_some,
    Option.toList_some, List.singleton_append, Bool.false_eq_true, if_false]
  split
  · rfl
  · split
    · rfl
    · exact congrArg ((n, _) :: ·) (waitForOutputs s id _ answer.message).1

/- As many topics are counted as there are. At rest only those are left whose subscriptions stray,
and all others can be subscribed to on a later connection. -/
theorem restingTopics (new : s.New) (empty : s.table = ([], 0))
    {actions : List Action} (distinct : (begun actions).Nodup) (inTurn : oneByOne s actions = true) :
    let t := (run s actions).state
    t.metrics.subscriptions = t.topics.length ∧
    (t.Resting → ∀ topic ∈ t.topics, Strays s actions topic) ∧
    ∀ later label p n, let u := (run t later).state
      u.client = some n → u.router.get label = .ok (some p) → p.topic ∉ t.topics →
      (∀ front c back, later = front ++ .resume c.id :: back →
        ¬ (run t front).state.Subscribes c p.topic) →
      ∀ id qos answer, (u.begin id answer (.subscribe label qos)).requests =
        [(n, .subscribe p.topic (u.quality qos))] := by
  intro t
  have none : s.topics = [] := congrArg (·.1.map Prod.fst) empty
  refine ⟨runCounted ?_, fun rests topic member => ?_, ?_⟩
  · rw [none]
    exact congrArg Prod.snd empty
  · obtain ⟨client, idle⟩ := State.restingClient.mp rests
    cases (runAccounted new none distinct inTurn).2 topic member with
    | strays strays => exact strays
    | connected available _ =>
      rw [show (run s actions).state.client = .none from client] at available
      contradiction
    | closes sole _ => exact absurd (idle.symm.trans sole) (by simp)
    | attempted sole _ _ _ _ _ _ => exact absurd (idle.symm.trans sole) (by simp)
  · intro later label p n u available registered absent silent id qos answer
    refine State.subscribeRequests available registered (fun member => ?_) id qos answer
    rcases runNew member with before | ⟨front, c, back, split, subscribes⟩
    · exact absent before
    · exact silent front c back split subscribes

theorem restingTopicsLate :
    let p : Pattern := ⟨"a", [.raw "a"], rfl⟩
    let s : State :=
      { options := ⟨.text "c", .int 60, .int 0, .bool true, .null⟩
        settings := ⟨"localhost", 1883, none, none, false⟩
        logger := ⟨.text "bus", .text "ERROR"⟩
        routerLogger := ⟨.text "router", .text "ERROR"⟩
        router := ⟨[(.text "a", p)], [(.text "a", [])], 0⟩ }
    let actions : List Action :=
      [.begin 0 .connect {}, .handle (.connected (.code 0)), .resume 0,
        .begin 1 (.subscribe (.text "a") none) ⟨none, none, 0, 5⟩, .begin 2 .close {},
        .handle (.acknowledged 5 (some [.code 0])), .resume 2, .resume 1]
    let t := (run s actions).state
    (s.New ∧ s.table = ([], 0) ∧ (begun actions).Nodup ∧ oneByOne s actions = true) ∧
    t.Resting ∧ t.topics = ["a"] ∧ t.metrics.subscriptions = t.topics.length ∧
      Strays s actions p.topic := by
  intro p s actions t
  have new : s.New := ⟨rfl, rfl, rfl, rfl, rfl, rfl⟩
  have distinct : (begun actions).Nodup := by decide
  have inTurn : oneByOne s actions = true := by decide +kernel
  have unavailable : t.isAvailable = false := by decide +kernel
  have idle : t.connection.calls.isEmpty = true := by decide +kernel
  have topics : t.topics = ["a"] := by decide +kernel
  have rests : t.Resting := ⟨unavailable, List.isEmpty_iff.mp idle⟩
  obtain ⟨counted, strays, _⟩ := restingTopics new rfl distinct inTurn
  have counts : t.metrics.subscriptions = t.topics.length := by
    simp only [t]
    exact counted
  have member : p.topic ∈ t.topics := by
    rw [topics]
    exact List.mem_singleton_self _
  exact ⟨⟨new, rfl, distinct, inTurn⟩, rests, topics, counts, strays rests p.topic member⟩

end resting
end TopicRouting.Bus
