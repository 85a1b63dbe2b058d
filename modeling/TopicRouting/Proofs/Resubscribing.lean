import TopicRouting.Proofs.Completing

/-! Histories of calls one after another, each of which has returned before the next begins. What
is subscribed to then is what the history tells since the last attempt to connect that succeeded,
and exactly that a client is asked for anew whose connection comes back. -/
namespace TopicRouting.Bus

inductive Episode where
  | call (id : CallId) (command : Command) (answer : Broker.Answer) (during : List Action)
  | between (action : Action)

/- What a call has done that has returned without an error. -/
inductive Deed where
  | connected
  | subscribed (topic : Text) (qos : Value)
  | unsubscribed (topic : Text)

def Command.deed? (s : State) : Command → Option Deed
  | .connect => some .connected
  | .subscribe label qos =>
      match s.router.get label with
      | .ok (some p) => some (.subscribed p.topic (s.quality qos))
      | _ => none
  | .unsubscribe label _ =>
      match s.router.get label with
      | .ok (some p) => some (.unsubscribed p.topic)
      | _ => none
  | _ => none

namespace Episode

def actions : Episode → List Action
  | call id command answer during => .begin id command answer :: during
  | between action => [action]

def completed (s : State) : Episode → Bool
  | call id command answer during =>
      during.all (·.attends answer command) &&
        (run s (.begin id command answer :: during)).state.calls.isEmpty
  | between action => action.begun?.isNone

def deed? (s : State) : Episode → Option Deed
  | call id command answer during =>
      match (run s (.begin id command answer :: during)).resultsOf id with
      | [.ok _] => command.deed? s
      | _ => none
  | between _ => none

end Episode

def history (episodes : List Episode) : List Action := episodes.flatMap Episode.actions

def completed (s : State) : List Episode → Bool
  | [] => true
  | episode :: rest =>
      episode.completed s && completed (run s episode.actions).state rest

def deeds (s : State) : List Episode → List Deed
  | [] => []
  | episode :: rest =>
      (episode.deed? s).toList ++ deeds (run s episode.actions).state rest

/- Whether a deed overrides what has been done about a topic before. -/
def Deed.overrides (topic : Text) : Deed → Bool
  | .connected => true
  | .subscribed other _ | .unsubscribed other => topic == other

/- The subscriptions that nothing has overridden since, in their order. -/
def active : List Deed → List (Text × Value)
  | [] => []
  | .subscribed topic qos :: later =>
      if later.any (·.overrides topic) then active later else (topic, qos) :: active later
  | _ :: later => active later

section active

variable {deeds : List Deed} {topic : Text} {qos : Value}

theorem activeOverridden (member : topic ∈ (active deeds).map Prod.fst) :
    deeds.any (·.overrides topic) = true := by
  induction deeds with
  | nil => contradiction
  | cons deed later ih =>
    rw [List.any_cons, Bool.or_eq_true]
    cases deed with
    | subscribed other qos =>
      rw [active] at member
      split at member
      · exact .inr (ih member)
      · rcases List.mem_cons.mp member with rfl | after
        · exact .inl (beq_self_eq_true topic)
        · exact .inr (ih after)
    | _ => exact .inr (ih member)

theorem activeApart (deeds : List Deed) : ((active deeds).map Prod.fst).Nodup := by
  induction deeds with
  | nil => exact List.nodup_nil
  | cons deed later ih =>
    cases deed with
    | subscribed topic qos =>
      rw [active]
      split
      · exact ih
      · rename_i latest
        exact List.nodup_cons.mpr ⟨fun member => latest (activeOverridden member), ih⟩
    | _ => exact ih

theorem activeThen (deeds : List Deed) (deed : Deed) : active (deeds ++ [deed]) =
    (active deeds).filter (fun entry => !deed.overrides entry.1) ++ active [deed] := by
  induction deeds with
  | nil => rfl
  | cons first later ih =>
    cases first with
    | subscribed topic qos =>
      rw [List.cons_append, active, active, List.any_append, ih]
      cases later.any (·.overrides topic) with
      | true => rfl
      | false =>
        cases overridden : deed.overrides topic <;> simp [overridden]
    | _ => exact ih

end active

namespace State

structure Recalls (s : State) (deeds : List Deed) : Prop where
  consistent : s.Consistent
  idle : s.calls = []
  pending : s.pending = []
  topics : s.subscriptions = if s.isAvailable then active deeds else []

variable {s t : State} {told : List Deed}

theorem putAbsent {topic : Text} {subscriptions : List (Text × Value)}
    (absent : topic ∉ subscriptions.map Prod.fst) (qos : Value) :
    putSubscription topic qos subscriptions = subscriptions ++ [(topic, qos)] := by
  induction subscriptions with
  | nil => rfl
  | cons entry rest ih =>
    rw [List.map_cons, List.mem_cons, not_or] at absent
    rw [putSubscription, if_neg (Ne.symm absent.1), ih absent.2, List.cons_append]

namespace Recalls

variable (recalls : s.Recalls told)
include recalls

theorem unavailable (absent : s.client = none) : s.subscriptions = [] :=
  recalls.topics.trans (if_neg (by simp [isAvailable, absent]))

theorem written {command : Command} {purpose : Purpose} (available : s.isAvailable = true)
    (intends : s.Intends command purpose) :
    (s.written purpose).subscriptions = active (told ++ (command.deed? s).toList) := by
  have topics : s.subscriptions = active told := recalls.topics.trans (if_pos available)
  cases intends with
  | topic means finds =>
    cases means with
    | @subscribe label qos p known =>
      have absent : p.topic ∉ (active told).map Prod.fst := topics ▸ finds
      have kept : (active told).filter (fun entry => !(entry.1 == p.topic)) = active told := by
        refine List.filter_eq_self.mpr fun entry member => ?_
        have other : entry.1 ≠ p.topic := fun same => absent (same ▸ List.mem_map_of_mem member)
        simpa using other
      have deed : (Command.subscribe label qos).deed? s =
          some (.subscribed p.topic (s.quality qos)) := by
        rw [Command.deed?, known]
      rw [deed, Option.toList_some, activeThen]
      refine (congrArg (putSubscription _ _) topics).trans ((putAbsent absent _).trans ?_)
      exact congrArg (· ++ _) kept.symm
    | @unsubscribe label clears p known =>
      have present : s.topics.contains p.topic = true := by
        simpa using show p.topic ∈ s.topics from finds
      have deed : (Command.unsubscribe label clears).deed? s = some (.unsubscribed p.topic) := by
        rw [Command.deed?, known]
      rw [deed, Option.toList_some, activeThen, State.written, if_pos present, ← topics]
      exact (List.append_nil _).symm
  | publish => exact topics.trans (by simp [Command.deed?])

theorem still (idle : t.calls = []) (pending : t.pending = []) (consistent : t.Consistent)
    (topics : t.subscriptions = s.subscriptions) (client : t.client = s.client) :
    t.Recalls told where
  consistent := consistent
  idle := idle
  pending := pending
  topics := by rw [topics, recalls.topics, isAvailable, isAvailable, client]

theorem call {id : CallId} {command : Command} {answer : Broker.Answer} {during : List Action}
    (completed : (Episode.call id command answer during).completed s = true)
    (fresh : ¬ s.Uses id)
    (consistent : (run s (.begin id command answer :: during)).state.Consistent) :
    (run s (.begin id command answer :: during)).state.Recalls
      (told ++ ((Episode.call id command answer during).deed? s).toList) := by
  rw [Episode.completed, Bool.and_eq_true, List.all_eq_true, List.isEmpty_iff] at completed
  obtain ⟨attends, returns⟩ := completed
  obtain ⟨pending, outcome⟩ := callOutcome recalls.consistent fresh recalls.idle recalls.pending
    recalls.unavailable attends returns
  rw [Episode.deed?]
  generalize run s (.begin id command answer :: during) = u at *
  generalize u.resultsOf id = returned at outcome
  cases outcome with
  | failed e topics client =>
    rw [Option.toList_none, List.append_nil]
    exact recalls.still returns pending consistent topics client
  | connected reply connects topics =>
    subst connects
    refine ⟨consistent, returns, pending, topics.trans ?_⟩
    have none : active (told ++ [.connected]) = [] := by simp [activeThen, Deed.overrides, active]
    show [] = if u.state.isAvailable then active (told ++ [.connected]) else []
    rw [none, ite_self]
  | closed reply closes topics client =>
    refine ⟨consistent, returns, pending, topics.trans (if_neg ?_).symm⟩
    simp [isAvailable, client]
  | granted reply available intends topics client =>
    refine ⟨consistent, returns, pending, topics.trans ?_⟩
    rw [if_pos (by rw [isAvailable, client]; exact available)]
    exact recalls.written available intends

theorem episode {episode : Episode} {back : List Action}
    (completed : episode.completed s = true)
    (numbered : Numbered s (episode.actions ++ back)) :
    (run s episode.actions).state.Recalls (told ++ (episode.deed? s).toList) := by
  have consistent := (runConsistent recalls.consistent numbered).1
  cases episode with
  | call id command answer during => exact recalls.call completed (numbered.head rfl) consistent
  | between action =>
    have begun : action.begun? = none := by simpa [Episode.completed] using completed
    obtain ⟨calls, pending, topics, client, _⟩ :=
      restKeeps recalls.consistent recalls.idle recalls.pending begun
    rw [Episode.deed?, Option.toList_none, List.append_nil]
    exact recalls.still calls pending consistent topics client

end Recalls

theorem Recalls.episodes {episodes : List Episode} (recalls : s.Recalls told)
    (completes : completed s episodes = true) (numbered : Numbered s (history episodes)) :
    (run s (history episodes)).state.Recalls (told ++ deeds s episodes) := by
  induction episodes generalizing s told with
  | nil =>
    rw [deeds, List.append_nil]
    exact recalls
  | cons episode rest ih =>
    rw [completed, Bool.and_eq_true] at completes
    rw [history, List.flatMap_cons] at numbered ⊢
    rw [runAppend, deeds, ← List.append_assoc]
    exact ih (recalls.episode completes.1 numbered) completes.2
      (runConsistent recalls.consistent numbered).2

theorem New.recalls (new : s.New) (empty : s.subscriptions = []) : s.Recalls [] where
  consistent := new.consistent
  idle := new.calls
  pending := new.pending
  topics := by rw [empty, active, ite_self]

theorem sayRequests (s : State) (severity : Severity) (message : Text) (fields : Dict) :
    (s.say severity message fields).requests = [] := logRequestsNothing s severity message fields

theorem setStatusRequests (s : State) (status : Status) (error : Option BusError) :
    (s.setStatus status error).requests = [] := sayRequests _ _ _ _

theorem settleRequests (s : State) (id : CallId) (answer : Except BusError Answer) :
    (s.settle id answer).requests = [] := by
  rw [settle]
  split
  · rfl
  · split
    · rw [Turn.requests]
      dsimp only
      split <;> rfl
    · rfl

theorem settleAttemptRequests (s : State) (answer : Except BusError Answer) :
    (s.settleAttempt answer).requests = [] := by
  rw [settleAttempt]
  split
  · exact settleRequests s _ answer
  · rfl

theorem resubscribeRequests {n : Nat} (client : s.client = some n) : s.resubscribe.requests =
    s.subscriptions.map fun (topic, qos) => (n, .subscribe topic qos) := by
  have asks (request : Broker.Request) : s.request request = [.requested n request] := by
    rw [State.request, client]
    rfl
  rw [Turn.requests, resubscribe, showing]
  induction s.subscriptions with
  | nil => rfl
  | cons entry rest ih =>
    obtain ⟨topic, qos⟩ := entry
    rw [List.flatMap_cons, List.filterMap_append, ih]
    dsimp only
    rw [asks]
    rfl

theorem connectedRequests {n : Nat} (client : s.client = some n)
    (reason : Broker.Reason) : (step s (.handle (.connected reason))).requests =
      if reason.isFailure || s.attempt?.isSome then []
      else s.subscriptions.map fun (topic, qos) => (n, .subscribe topic qos) := by
  rw [step, handle, handleConnected]
  cases reason.isFailure with
  | true =>
    simp only [if_true, Bool.true_or, Turn.requestsThen, setStatusRequests, sayRequests,
      settleAttemptRequests, List.append_nil]
  | false =>
    have available : (s.setStatus .connected none).state.isAvailable = true := by
      rw [show (s.setStatus .connected none).state.isAvailable = s.isAvailable from rfl,
        isAvailable, client]
      rfl
    simp only [Bool.false_eq_true, if_false, Bool.false_or, Turn.requestsThen, setStatusRequests,
      List.nil_append]
    rw [show (s.setStatus .connected none).state.attempt? = s.attempt? from rfl, available]
    split
    · simp only [Turn.requestsThen, sayRequests, settleAttemptRequests, List.append_nil]
    · simp only [if_true, Turn.requestsThen, sayRequests, List.nil_append]
      exact resubscribeRequests client

theorem reconnectedState {n : Nat} (client : s.client = some n) (idle : s.attempt? = none)
    {reason : Broker.Reason} (success : reason.isFailure = false) :
    (step s (.handle (.connected reason))).state = { s with status := .connected } := by
  have available : (s.setStatus .connected none).state.isAvailable = true := by
    rw [show (s.setStatus .connected none).state.isAvailable = s.isAvailable from rfl, isAvailable,
      client]
    rfl
  have asks : (s.setStatus .connected none).state.attempt? = none := idle
  rw [step, handle, handleConnected, if_neg (by simp [success])]
  simp only [Turn.andThen, asks, available]
  rfl

end State

/- A client whose connection comes back after a history of calls that have returned is asked for
what the history has left subscribed to, in the order and with the quality of service of its last
subscriptions, and for nothing else. -/
theorem reconnectRestores {s : State} (new : s.New)
    (empty : s.subscriptions = []) {episodes : List Episode}
    (distinct : (begun (history episodes)).Nodup)
    (completes : completed s episodes = true) :
    let t := (run s (history episodes)).state
    let wanted := active (deeds s episodes)
    ∀ n, t.client = some n →
      (wanted.map Prod.fst).Nodup ∧ t.subscriptions = wanted ∧
      ∀ reason, let u := step t (.handle (.connected reason))
        (reason.isFailure = false →
          u.requests = wanted.map (fun (topic, qos) => (n, .subscribe topic qos)) ∧
          u.state = { t with status := .connected }) ∧
        (reason.isFailure = true → u.requests = []) := by
  intro t wanted n client
  have recalls : t.Recalls (deeds s episodes) :=
    (new.recalls empty).episodes completes (new.numbered distinct)
  have topics : t.subscriptions = wanted :=
    recalls.topics.trans (if_pos (by rw [State.isAvailable, client]; rfl))
  have idle : t.attempt? = .none := by
    rw [State.attempt?, Option.filter_eq_none_iff]
    intro id _
    simp [State.call?, recalls.idle]
  refine ⟨activeApart _, topics, fun reason => ?_⟩
  have requests := State.connectedRequests client reason
  rw [idle, topics] at requests
  constructor
  · intro success
    rw [success] at requests
    exact ⟨requests, State.reconnectedState client idle success⟩
  · intro refused
    rw [refused] at requests
    exact requests

theorem reconnectRestoresLater :
    let s : State :=
      { options := ⟨.text "c", .int 60, .int 0, .bool true, .null⟩
        settings := ⟨"localhost", 1883, none, none, false⟩
        logger := ⟨.text "bus", .text "ERROR"⟩
        routerLogger := ⟨.text "router", .text "ERROR"⟩ }
    let granted (message : Int) : Action := .handle (.acknowledged message (some [.code 0]))
    let episodes : List Episode :=
      [.between (.route (.set (.text "a") (.text "a"))),
        .between (.route (.set (.text "b") (.text "b"))),
        .call 0 .connect {} [.handle (.connected (.code 0)), .resume 0],
        .call 1 (.subscribe (.text "a") none) ⟨none, none, 0, 1⟩ [granted 1, .resume 1],
        .call 2 (.subscribe (.text "b") none) ⟨none, none, 0, 2⟩ [granted 2, .resume 2],
        .call 3 (.unsubscribe (.text "a") true) ⟨none, none, 0, 3⟩ [granted 3, .resume 3],
        .call 4 (.subscribe (.text "a") (some (.int 2))) ⟨none, none, 0, 4⟩ [granted 4, .resume 4],
        .between (.handle (.disconnected (.code 7)))]
    let t := (run s (history episodes)).state
    let wanted := active (deeds s episodes)
    (s.New ∧ (begun (history episodes)).Nodup ∧ completed s episodes = true ∧
      t.client = some 0) ∧
    (wanted.map Prod.fst = (["b", "a"] : List Text) ∧ wanted.map (·.2.whole?) = [some 0, some 2]) ∧
      (step t (.handle (.connected (.code 0)))).requests =
        wanted.map fun (topic, qos) => (0, .subscribe topic qos) := by
  intro s granted episodes t wanted
  have new : s.New := ⟨rfl, rfl, rfl, rfl, rfl, rfl⟩
  have distinct : (begun (history episodes)).Nodup := by decide
  have completes : completed s episodes = true := by decide +kernel
  have client : t.client = some 0 := by decide +kernel
  have topics : wanted.map Prod.fst = (["b", "a"] : List Text) := by decide +kernel
  have qualities : wanted.map (·.2.whole?) = [some 0, some 2] := by decide +kernel
  have restores := (reconnectRestores new rfl distinct completes 0 client).2.2 (.code 0)
  exact ⟨⟨new, distinct, completes, client⟩, ⟨topics, qualities⟩, (restores.1 (by decide)).1⟩

end TopicRouting.Bus
