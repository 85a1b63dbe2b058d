import Mathlib.Data.List.Pairwise
import TopicRouting.Proofs.Topics

/-! Calls that subscribe and unsubscribe while others do. Each looks at the table of topics when it
begins and writes to it when it goes on. As long as no write finds the table otherwise than its
call found it, the calls return what they would return one after another. -/
namespace TopicRouting.Bus

structure TopicCall where
  id : CallId
  command : Command
  answer : Broker.Answer
  reasons : Option (List Broker.Reason)

namespace TopicCall

def begin (r : TopicCall) : Action := .begin r.id r.command r.answer

def alone (r : TopicCall) : List Action :=
  [r.begin, .handle (.acknowledged r.answer.message r.reasons), .resume r.id]

end TopicCall

namespace State

def still (s : State) : State := { s with calls := [], pending := [] }

inductive Means (s : State) : Command → Purpose → Prop
  | subscribe {label : Label} {qos : Option Value} {pattern : Pattern}
      (known : s.router.get label = .ok (some pattern)) :
      s.Means (.subscribe label qos) (.subscribe label pattern.topic (s.quality qos))
  | unsubscribe {label : Label} {clears : Bool} {pattern : Pattern}
      (known : s.router.get label = .ok (some pattern)) :
      s.Means (.unsubscribe label clears) (.unsubscribe label pattern.topic clears)

/- Whether the table has what a call must find there: a topic to subscribe to is missing, one to
unsubscribe from is there. -/
def Finds (s : State) : Purpose → Prop
  | .subscribe _ topic _ => topic ∉ s.topics
  | .unsubscribe _ topic _ => topic ∈ s.topics
  | _ => True
instance (s : State) (purpose : Purpose) : Decidable (s.Finds purpose) := by
  unfold Finds
  split <;> infer_instance

inductive Admits (s : State) : Action → Prop
  | begins {id : CallId} {command : Command} {answer : Broker.Answer} {purpose : Purpose}
      (means : s.Means command purpose) (accepted : answer.subscribeError = none)
      (success : answer.code = Broker.ResultCode.success) : s.Admits (.begin id command answer)
  | acknowledges {message : Int} {reasons : Option (List Broker.Reason)}
      (success : ∀ reason ∈ reasons.getD [], reason.isFailure = false) :
      s.Admits (.handle (.acknowledged message reasons))
  | resumes (id : CallId) : s.Admits (.resume id)

end State

def Purpose.topic? : Purpose → Option Text
  | .subscribe _ topic _ | .unsubscribe _ topic _ => some topic
  | _ => none

def Purpose.refusal : Purpose → BusError
  | .subscribe _ topic _ => .alreadySubscribed topic
  | .unsubscribe _ topic _ => .notSubscribed topic
  | _ => .notAvailable

/- A run in which every write finds the table as its call found it. -/
def Unraced : State → List Action → Prop
  | _, [] => True
  | s, action :: rest =>
      (∀ c ∈ s.calls, Wait.goesOn c.id action = true → c.future.isOpen = false →
        s.Finds c.purpose) ∧ Unraced (step s action).state rest
instance decideUnraced : (s : State) → (actions : List Action) →
    Decidable (Unraced s actions)
  | _, [] => isTrue trivial
  | s, action :: rest => by
      have := decideUnraced (step s action).state rest
      unfold Unraced
      infer_instance

/- A run in which no two calls on one topic are under way at the same time. -/
def TopicsApart (s : State) (actions : List Action) : Prop :=
  ∀ front back, actions = front ++ back →
    ((run s front).state.calls.filterMap (·.purpose.topic?)).Nodup

namespace State

variable {s : State} {command : Command} {purpose : Purpose}

structure Alike (s t : State) : Prop where
  labels : ∀ label, t.router.get label = s.router.get label
  options : t.options = s.options
  client : t.client = s.client

theorem Alike.trans {t u : State} (first : s.Alike t) (second : t.Alike u) : s.Alike u where
  labels label := (second.labels label).trans (first.labels label)
  options := second.options.trans first.options
  client := second.client.trans first.client

theorem Alike.means {t : State} (alike : s.Alike t) (means : s.Means command purpose) :
    t.Means command purpose := by
  cases means with
  | @subscribe label qos pattern known =>
    have quality : s.quality qos = t.quality qos := by rw [quality, quality, alike.options]
    rw [quality]
    exact .subscribe ((alike.labels label).trans known)
  | unsubscribe known => exact .unsubscribe ((alike.labels _).trans known)

theorem stillAlike {t : State} (same : t.still = s.still) : s.Alike t where
  labels label := show t.still.router.get label = s.still.router.get label by rw [same]
  options := show t.still.options = s.still.options by rw [same]
  client := show t.still.client = s.still.client by rw [same]

theorem stillFinds {t : State} (same : t.still = s.still) (finds : s.Finds purpose) :
    t.Finds purpose := by
  have topics : t.topics = s.topics := show t.still.topics = s.still.topics by rw [same]
  rw [Finds.eq_def] at finds ⊢
  rwa [topics]

theorem relistedHas (r : Router) (f : Label → List Registration → List Registration)
    (other : Label) : ({ r with
      listeners := r.listeners.map fun (l, regs) => (l, f l regs) } : Router).has other =
        r.has other := List.any_map

theorem relistedGet (r : Router) (f : Label → List Registration → List Registration)
    (other : Label) : ({ r with
      listeners := r.listeners.map fun (l, regs) => (l, f l regs) } : Router).get other =
        r.get other := by
  rw [Router.get, Router.get, relistedHas]
  rfl

theorem clearGet {r cleared : Router} {label : Option Label} (clears : r.clearFor label = .ok cleared)
    (other : Label) : cleared.get other = r.get other := by
  cases label with
  | none =>
    cases clears
    exact relistedGet r (fun _ _ => []) other
  | some label =>
    rw [Router.clearFor, Router.clear] at clears
    split at clears
    · cases clears
      exact relistedGet r (fun l regs => if l.same label then [] else regs) other
    · contradiction

theorem contentRouter {t : State} (same : t.content = s.content) : t.router = s.router :=
  congrArg Prod.snd same

theorem completeGet (s : State) (c : Call) (answer : Answer) (label : Label) :
    (s.complete c answer).state.router.get label = s.router.get label := by
  have forgot := contentRouter (contentHeld (forgetHoldings s c))
  rw [← forgot, complete.eq_def]
  cases c.purpose with
  | connect => cases answer <;> rfl
  | unsubscribe l topic clears =>
    dsimp only
    split
    · rfl
    · split
      · rfl
      · rename_i cleared
        split at cleared
        · exact clearGet cleared label
        · cases cleared
          rfl
  | _ => rfl

theorem clearKnown {r : Router} {label : Label} {pattern : Pattern}
    (known : r.get label = .ok (some pattern)) :
    ∃ cleared, r.clearFor (if label = .null then none else some label) = .ok cleared := by
  split
  · exact ⟨_, rfl⟩
  · refine ⟨_, if_pos ?_⟩
    rw [Router.get] at known
    split at known
    · assumption
    · contradiction

def asked (id : CallId) (purpose : Purpose) (message : Int) (future : Future) : Call :=
  ⟨id, purpose, some message, future, false, none⟩

def Patient (s : State) : Prop :=
  s.options.patience = .endless ∨ s.options.patience = .limited

theorem waitForAppends (patient : s.Patient) (id : CallId) (purpose : Purpose) (message : Int) :
    (s.waitFor id purpose message).state = { s with
        pending := putPending message id s.pending
        calls := s.calls ++ [asked id purpose message .open] } ∧
      (s.waitFor id purpose message).results = [] := by
  rw [waitFor]
  rcases patient with patience | patience
  · simp only [patience, Patience.fault?, wait]
    exact ⟨rfl, rfl⟩
  · simp only [patience, Patience.fault?, wait]
    exact ⟨rfl, rfl⟩

theorem beginRefused (available : s.isAvailable = true) (means : s.Means command purpose)
    (misses : ¬ s.Finds purpose) (answer : Broker.Answer) (id : CallId)
    (unknown : ∀ c ∈ s.calls, c.id ≠ id) :
    s.begin id answer command = ⟨s, [.finished id (.error (.bus purpose.refusal))]⟩ := by
  have refuses (e : BusError) : s.finish id (.error (.bus e)) =
      ⟨s, [.finished id (.error (.bus e))]⟩ := by rw [finish, dropUnknown unknown]
  cases means with
  | @subscribe label qos pattern known =>
    have present : s.topics.contains pattern.topic = true := by
      simpa using not_not.mp misses
    rw [begin, subscribe, requireIff.mpr ⟨available, known⟩]
    simp only [present, if_true]
    exact refuses _
  | @unsubscribe label clears pattern known =>
    have missing : s.topics.contains pattern.topic = false := by
      simpa using show pattern.topic ∉ s.topics from misses
    rw [begin, unsubscribe, requireIff.mpr ⟨available, known⟩]
    simp only [missing, Bool.not_false, if_true]
    exact refuses _

theorem beginGranted (available : s.isAvailable = true) (patient : s.Patient)
    (means : s.Means command purpose) (finds : s.Finds purpose) {answer : Broker.Answer}
    (accepted : answer.subscribeError = none) (success : answer.code = Broker.ResultCode.success)
    (id : CallId) :
    (s.begin id answer command).state = { s with
        pending := putPending answer.message id s.pending
        calls := s.calls ++ [asked id purpose answer.message .open] } ∧
      (s.begin id answer command).results = [] := by
  have waits (request : Broker.Request) : ((s.showing (s.request request)).andThen
        (·.waitFor id purpose answer.message)).state = { s with
          pending := putPending answer.message id s.pending
          calls := s.calls ++ [asked id purpose answer.message .open] } ∧
      ((s.showing (s.request request)).andThen
        (·.waitFor id purpose answer.message)).results = [] := by
    have silent : (s.showing (s.request request)).results = [] := by
      rw [State.request]
      cases s.client <;> rfl
    have appends := waitForAppends patient id purpose answer.message
    exact ⟨appends.1, by rw [Turn.resultsThen, silent]; exact appends.2⟩
  cases means with
  | @subscribe label qos pattern known =>
    have missing : s.topics.contains pattern.topic = false := by
      simpa using show pattern.topic ∉ s.topics from finds
    rw [begin, subscribe, requireIff.mpr ⟨available, known⟩]
    simp only [missing, Bool.false_eq_true, if_false, accepted, success, ne_eq, not_true_eq_false]
    exact waits _
  | @unsubscribe label clears pattern known =>
    have present : s.topics.contains pattern.topic = true := by
      simpa using show pattern.topic ∈ s.topics from finds
    rw [begin, unsubscribe, requireIff.mpr ⟨available, known⟩]
    simp only [present, Bool.not_true, Bool.false_eq_true, if_false, success, ne_eq,
      not_true_eq_false]
    exact waits _

def Fulfils (s : State) (answer : Answer) : Purpose → Prop
  | .connect => ∃ reason, answer = .connected reason
  | .subscribe .. => ∃ codes, grantedCodes answer = .ok codes
  | .unsubscribe label topic _ => topic ∈ s.topics ∧ ∃ p, s.router.get label = .ok (some p)
  | _ => True

theorem completeRest (s : State) (c : Call) (answer : Answer) :
    let t := (s.complete c answer).state
    t.calls = s.calls.filter (·.id != c.id) ∧ t.pending = (s.forget c).pending ∧
      t.options = s.options ∧ t.client = s.client := by
  have forgot : (s.forget c).calls = s.calls ∧ (s.forget c).options = s.options ∧
      (s.forget c).client = s.client := by
    rw [forget]
    split <;> exact ⟨rfl, rfl, rfl⟩
  obtain ⟨calls, options, client⟩ := forgot
  rw [← calls, ← options, ← client, complete.eq_def]
  cases c.purpose with
  | connect => cases answer <;> exact ⟨rfl, rfl, rfl, rfl⟩
  | unsubscribe label topic clears =>
    dsimp only
    split
    · exact ⟨rfl, rfl, rfl, rfl⟩
    · split <;> exact ⟨rfl, rfl, rfl, rfl⟩
  | _ => exact ⟨rfl, rfl, rfl, rfl⟩

theorem completeResults {c : Call} {answer : Answer} (fulfils : s.Fulfils answer c.purpose) :
    ∃ reply, (s.complete c answer).results = [(c.id, .ok reply)] := by
  have said (u : State) (severity : Severity) (text : Text) (fields : Dict)
      (result : Except Error Reply) :
      ((u.say severity text fields).andThen (·.finish c.id result)).results = [(c.id, result)] := by
    rw [Turn.resultsThen, (sayKeeps u severity text fields).results]
    rfl
  have forgot : (s.forget c).topics = s.topics ∧ (s.forget c).router = s.router := by
    rw [forget]
    split <;> exact ⟨rfl, rfl⟩
  rw [complete.eq_def]
  cases purpose : c.purpose with
  | connect =>
    rw [purpose] at fulfils
    obtain ⟨reason, rfl⟩ := fulfils
    exact ⟨_, rfl⟩
  | close => exact ⟨_, rfl⟩
  | subscribe label topic qos =>
    rw [purpose] at fulfils
    obtain ⟨codes, granted⟩ := fulfils
    exact ⟨codes, (said _ _ _ _ _).trans (by rw [granted])⟩
  | unsubscribe label topic clears =>
    rw [purpose] at fulfils
    obtain ⟨member, p, known⟩ := fulfils
    have present : (s.forget c).topics.contains topic = true := by
      rw [forgot.1]
      simpa using member
    simp only [present, Bool.not_true, Bool.false_eq_true, if_false]
    split
    · rename_i refused
      split at refused
      · obtain ⟨cleared, clearing⟩ := clearKnown known
        rw [← forgot.2] at clearing
        cases clearing.symm.trans refused
      · contradiction
    · exact ⟨_, said _ _ _ _ _⟩
  | publish label topic qos retain => exact ⟨_, said _ _ _ _ _⟩

theorem completeGranted (means : s.Means command purpose) (finds : s.Finds purpose) (id : CallId)
    (message : Int) (future : Future) (reasons : Option (List Broker.Reason)) :
    let t := s.complete (asked id purpose message future) (.acknowledged reasons)
    s.Alike t.state ∧ t.state.calls = s.calls.filter (·.id != id) ∧
      t.state.pending = s.pending.filter (·.1 != message) ∧
      ∃ reply, t.results = [(id, .ok reply)] := by
  intro t
  obtain ⟨calls, pending, options, client⟩ :=
    completeRest s (asked id purpose message future) (.acknowledged reasons)
  have fulfils : s.Fulfils (.acknowledged reasons) purpose := by
    cases means with
    | subscribe known => exact ⟨_, rfl⟩
    | unsubscribe known => exact ⟨finds, _, known⟩
  exact ⟨⟨completeGet s _ _, options, client⟩, calls, pending, completeResults fulfils⟩

theorem completeStill {t : State} (same : t.still = s.still) (id : CallId) (purpose : Purpose)
    (message : Int) (future : Future) (answer : Answer) :
    let c := asked id purpose message future
    (t.complete c answer).state.still = (s.complete c answer).state.still ∧
      (t.complete c answer).results = (s.complete c answer).results := by
  have rebuilt : t = { s with calls := t.calls, pending := t.pending } := by
    cases s
    cases t
    simp only [still, State.mk.injEq] at same ⊢
    simp [same]
  rw [rebuilt]
  dsimp only [asked, complete, forget, dropPending]
  cases purpose with
  | connect => cases answer <;> exact ⟨rfl, rfl⟩
  | unsubscribe label topic clears =>
    dsimp only [topics, setSubscriptions]
    by_cases present : (s.subscriptions.map (·.1)).contains topic = true
    · simp only [present, Bool.not_true, Bool.false_eq_true, if_false]
      cases (if clears then
        s.router.clearFor (if label = .null then none else some label) else .ok s.router) <;>
          exact ⟨rfl, rfl⟩
    · simp only [present, Bool.not_false, if_true]
      exact ⟨rfl, rfl⟩
  | _ => exact ⟨rfl, rfl⟩

theorem stillIdle (calls : s.calls = []) (pending : s.pending = []) : s.still = s := by
  cases s
  cases calls
  cases pending
  rfl

theorem acknowledgesAll {reasons : Option (List Broker.Reason)}
    (success : ∀ reason ∈ reasons.getD [], reason.isFailure = false) :
    acknowledgement reasons = .ok (.acknowledged reasons) := by
  have none : (reasons.getD []).filter (·.isFailure) = [] :=
    List.filter_eq_nil_iff.mpr fun reason member => by simp [success reason member]
  rw [acknowledgement, none]

section alone

variable {r : TopicCall}

theorem aloneRun (s : State) : run s r.alone =
    (step s r.begin).andThen fun s =>
      (step s (.handle (.acknowledged r.answer.message r.reasons))).andThen fun s =>
        (step s (.resume r.id)).andThen quiet := by
  rw [TopicCall.alone, runCons]
  simp only [runCons]
  rfl

theorem aloneRefused (available : s.isAvailable = true) (means : s.Means r.command purpose)
    (misses : ¬ s.Finds purpose) : (run s.still r.alone).state = s.still ∧
      (run s.still r.alone).results = [(r.id, .error (.bus purpose.refusal))] := by
  have same : s.still.still = s.still := rfl
  have first := beginRefused (s := s.still) available ((stillAlike same).means means)
    (fun finds => misses (stillFinds same finds)) r.answer r.id (by simp [still])
  rw [aloneRun, TopicCall.begin, step, first]
  exact ⟨rfl, rfl⟩

theorem aloneGranted (available : s.isAvailable = true) (patient : s.Patient)
    (means : s.Means r.command purpose) (finds : s.Finds purpose)
    (accepted : r.answer.subscribeError = none)
    (success : r.answer.code = Broker.ResultCode.success)
    (acknowledged : acknowledgement r.reasons = .ok (.acknowledged r.reasons)) :
    let t := s.complete (asked r.id purpose r.answer.message
      (.settled (.ok (.acknowledged r.reasons)))) (.acknowledged r.reasons)
    (run s.still r.alone).state = t.state.still ∧
      (run s.still r.alone).results = t.results := by
  intro t
  have same : s.still.still = s.still := rfl
  have first := beginGranted (s := s.still) available patient ((stillAlike same).means means)
    (stillFinds same finds) accepted success r.id
  let waits : State := { s.still with
    pending := [(r.answer.message, r.id)]
    calls := [asked r.id purpose r.answer.message .open] }
  let answered : State := { s.still with
    pending := [(r.answer.message, r.id)]
    calls := [asked r.id purpose r.answer.message (.settled (.ok (.acknowledged r.reasons)))] }
  have second : (step waits (.handle (.acknowledged r.answer.message r.reasons))) =
      ⟨answered, [.woken r.id]⟩ := by
    simp [step, handle, acknowledged, settleMessage, settle, call?, changeCall, waits, answered,
      asked, Future.isOpen]
  have third : step answered (.resume r.id) = answered.complete
      (asked r.id purpose r.answer.message (.settled (.ok (.acknowledged r.reasons))))
      (.acknowledged r.reasons) := by
    simp [step, resume, call?, answered, asked]
  have begins : (step s.still r.begin).state = waits := first.1
  have silent : (step s.still r.begin).results = [] := first.2
  obtain ⟨alike, calls, pending, _⟩ := completeGranted (s := answered)
    ((stillAlike (t := answered) (s := s) rfl).means means)
    (stillFinds (t := answered) (s := s) rfl finds) r.id r.answer.message
    (.settled (.ok (.acknowledged r.reasons))) r.reasons
  have left := stillIdle (calls.trans (by simp [answered, asked]))
    (pending.trans (by simp [answered]))
  have completes := completeStill (t := answered) (s := s) rfl r.id purpose r.answer.message
    (.settled (.ok (.acknowledged r.reasons))) (.acknowledged r.reasons)
  rw [aloneRun]
  constructor
  · simp only [Turn.andThen, begins, second, third]
    exact left.symm.trans completes.1
  · rw [Turn.resultsThen, silent, begins, Turn.resultsThen, second, Turn.resultsThen, third]
    show [] ++ ([] ++ ((answered.complete _ _).results ++ [])) = _
    rw [List.append_nil]
    exact completes.2

end alone

end State

/- A turn on which calls return that return the same one after another in a given order. -/
structure Turn.InOrder (t : Turn) (s : State) (begun : List CallId)
    (order : List TopicCall) : Prop where
  alike : s.Alike t.state
  counted : (order.map TopicCall.id ++ t.state.calls.map Call.id).Perm (s.calls.map Call.id ++ begun)
  names : order.map TopicCall.id = t.results.map Prod.fst
  state : (run s.still (order.flatMap TopicCall.alone)).state = t.state.still
  results : (run s.still (order.flatMap TopicCall.alone)).results = t.results
  told : ∀ result ∈ t.results, (∃ reply, result.2 = .ok reply) ∨
    ∃ topic, result.2 = .error (.bus (.alreadySubscribed topic)) ∨
      result.2 = .error (.bus (.notSubscribed topic))

theorem Turn.InOrder.andThen {s : State} {t : Turn} {next : State → Turn}
    {begun later : List CallId} {order rest : List TopicCall} (first : t.InOrder s begun order)
    (second : (next t.state).InOrder t.state later rest) :
    (t.andThen next).InOrder s (begun ++ later) (order ++ rest) where
  alike := first.alike.trans second.alike
  counted := by
    have counted := (second.counted.append_left (order.map TopicCall.id)).trans
      (List.append_assoc .. ▸ first.counted.append_right later)
    rwa [List.map_append, List.append_assoc, ← List.append_assoc (s.calls.map Call.id)]
  names := by rw [List.map_append, first.names, second.names, resultsThen, List.map_append]
  state := by
    rw [List.flatMap_append, runAppend]
    show (run (run s.still _).state _).state = _
    rw [first.state]
    exact second.state
  results := by
    rw [List.flatMap_append, runAppend, resultsThen, first.state, first.results, second.results,
      resultsThen]
  told := by
    intro result member
    rw [resultsThen] at member
    exact (List.mem_append.mp member).elim (first.told result) (second.told result)

structure TopicCall.Flies (r : TopicCall) (s : State) (past : List Action) (purpose : Purpose)
    (c : Call) : Prop where
  begun : r.begin ∈ past
  means : s.Means r.command purpose
  accepted : r.answer.subscribeError = none
  success : r.answer.code = Broker.ResultCode.success
  acknowledged : acknowledgement r.reasons = .ok (.acknowledged r.reasons)
  waits : c = State.asked r.id purpose r.answer.message c.future
  future : c.future = .open ∨ c.future = .settled (.ok (.acknowledged r.reasons))

namespace State

variable {s : State}

def Flying (s : State) (past : List Action) (c : Call) : Prop :=
  ∃ (r : TopicCall) (purpose : Purpose), r.Flies s past purpose c

theorem Flying.later {t : State} {past : List Action} {c : Call} (flying : s.Flying past c)
    (alike : s.Alike t) (action : Action) : t.Flying (past ++ [action]) c := by
  obtain ⟨r, purpose, flies⟩ := flying
  exact ⟨r, purpose, { flies with
    begun := List.mem_append_left _ flies.begun
    means := alike.means flies.means }⟩

/- All that a step of calls on topics does: a call begins and waits, is refused, hears of its
acknowledgement, or returns. -/
inductive Takes (s : State) (past : List Action) (action : Action) (t : Turn) : Prop
  | waits {r : TopicCall} {purpose : Purpose} (begins : action = r.begin)
      (means : s.Means r.command purpose) (finds : s.Finds purpose)
      (accepted : r.answer.subscribeError = none)
      (success : r.answer.code = Broker.ResultCode.success) (same : t.state.still = s.still)
      (calls : t.state.calls = s.calls ++ [asked r.id purpose r.answer.message .open])
      (silent : t.results = [])
  | refused {r : TopicCall} {purpose : Purpose} (begins : action = r.begin)
      (means : s.Means r.command purpose) (misses : ¬ s.Finds purpose) (state : t.state = s)
      (results : t.results = [(r.id, .error (.bus purpose.refusal))])
  | hears {f : Call → Call} (started : action.begun? = none) (same : t.state.still = s.still)
      (calls : t.state.calls = s.calls.map f)
      (kept : ∀ c, (f c).id = c.id ∧ (f c).purpose = c.purpose)
      (flying : ∀ c ∈ s.calls, s.Flying past (f c)) (silent : t.results = [])
  | returns {c : Call} {r : TopicCall} {purpose : Purpose} (member : c ∈ s.calls)
      (resumes : action = .resume c.id) (flies : r.Flies s past purpose c)
      (finds : s.Finds purpose) (completes : t = s.complete (asked r.id purpose r.answer.message
        (.settled (.ok (.acknowledged r.reasons)))) (.acknowledged r.reasons))

section steps

variable {past : List Action}

theorem quietTakes {action : Action} (flying : ∀ c ∈ s.calls, s.Flying past c)
    (started : action.begun? = none) : s.Takes past action s.quiet :=
  .hears (f := id) started rfl (by rw [List.map_id]; rfl) (fun _ => ⟨rfl, rfl⟩) flying rfl

theorem beginTakes {id : CallId} {command : Command} {answer : Broker.Answer} {purpose : Purpose}
    (available : s.isAvailable = true) (patient : s.Patient) (means : s.Means command purpose)
    (accepted : answer.subscribeError = none) (success : answer.code = Broker.ResultCode.success)
    (unknown : ∀ c ∈ s.calls, c.id ≠ id) :
    s.Takes past (.begin id command answer) (s.begin id answer command) := by
  let r : TopicCall := ⟨id, command, answer, none⟩
  by_cases finds : s.Finds purpose
  · obtain ⟨state, silent⟩ := beginGranted available patient means finds accepted success id
    exact .waits (r := r) rfl means finds accepted success (by rw [state]; rfl) (by rw [state])
      silent
  · have refused := beginRefused available means finds answer id unknown
    exact .refused (r := r) rfl means finds (by rw [refused]) (by rw [refused]; rfl)

theorem settleStill (s : State) (id : CallId) (answer : Except BusError Answer) :
    (s.settle id answer).state.still = s.still := by
  rw [settle]
  split
  · rfl
  · split <;> rfl

theorem settledKeeps (answer : Except BusError Answer) (c : Call) :
    (settled answer c).id = c.id ∧ (settled answer c).purpose = c.purpose := by
  rw [settled]
  split <;> exact ⟨rfl, rfl⟩

theorem Flying.settled {c : Call} {reasons : Option (List Broker.Reason)}
    (flying : s.Flying past c)
    (acknowledged : acknowledgement reasons = .ok (.acknowledged reasons)) :
    s.Flying past (settled (.ok (.acknowledged reasons)) c) := by
  obtain ⟨r, purpose, flies⟩ := flying
  rcases flies.future with waits | answered
  · rw [State.settled, waits]
    refine ⟨{ r with reasons := reasons }, purpose, { flies with
      acknowledged := acknowledged
      waits := ?_
      future := .inr rfl }⟩
    rw [flies.waits]
    rfl
  · rw [State.settled, answered]
    exact ⟨r, purpose, flies⟩

theorem handleTakes {message : Int} {reasons : Option (List Broker.Reason)}
    (flying : ∀ c ∈ s.calls, s.Flying past c) (orderly : s.ledger.Orderly)
    (success : ∀ reason ∈ reasons.getD [], reason.isFailure = false) :
    s.Takes past (.handle (.acknowledged message reasons))
      (s.handle (.acknowledged message reasons)) := by
  have acknowledged := acknowledgesAll success
  rw [handle, acknowledged]
  have changes := settleMessageChanges orderly message (.ok (.acknowledged reasons))
  refine .hears rfl ?_ (congrArg Ledger.calls changes.ledger) (fun c => ?_) (fun c member => ?_)
    changes.results
  · rw [settleMessage]
    split
    · exact settleStill s _ _
    · rfl
  · split
    · exact settledKeeps _ c
    · exact ⟨rfl, rfl⟩
  · split
    · exact (flying c member).settled acknowledged
    · exact flying c member

theorem resumeTakes {id : CallId} (flying : ∀ c ∈ s.calls, s.Flying past c)
    (finds : ∀ c ∈ s.calls, c.id = id → c.future.isOpen = false → s.Finds c.purpose) :
    s.Takes past (.resume id) (s.resume id) := by
  cases found : s.call? id with
  | none =>
    rw [resume, found]
    exact quietTakes flying rfl
  | some c =>
    obtain ⟨member, rfl⟩ := callMember found
    obtain ⟨r, purpose, flies⟩ := flying c member
    have same := flies.waits
    rcases flies.future with waits | answered
    · have quiet : s.resume c.id = s.quiet := by
        rw [waits] at same
        rw [resume, found, same]
        rfl
      rw [quiet]
      exact quietTakes flying rfl
    · have own : c.purpose = purpose := by rw [same]; rfl
      refine .returns member rfl flies (own ▸ finds c member rfl (by rw [answered]; rfl)) ?_
      rw [answered] at same
      rw [resume, found, same]
      rfl

theorem stepTakes {action : Action} {rest : List Action} (flying : ∀ c ∈ s.calls, s.Flying past c)
    (orderly : s.ledger.Orderly) (awaits : s.ledger.Awaits (action :: rest))
    (available : s.isAvailable = true) (patient : s.Patient) (admits : s.Admits action)
    (finds : ∀ c ∈ s.calls, Wait.goesOn c.id action = true → c.future.isOpen = false →
      s.Finds c.purpose) : s.Takes past action (step s action) := by
  cases admits with
  | begins means accepted success =>
    exact beginTakes available patient means accepted success
      (awaits _ (by simp [begun, Action.begun?])).1
  | acknowledges success => exact handleTakes flying orderly success
  | resumes id =>
    exact resumeTakes flying fun c member own => finds c member (by simp [Wait.goesOn, own])

theorem leaveCounted (apart : (s.calls.map Call.id).Nodup) {c : Call} (member : c ∈ s.calls) :
    (c.id :: (s.calls.filter (·.id != c.id)).map Call.id).Perm (s.calls.map Call.id) := by
  have left : (s.calls.filter (·.id != c.id)).map Call.id = (s.calls.map Call.id).erase c.id := by
    rw [apart.erase_eq_filter, List.filter_map]
    rfl
  rw [left]
  exact (List.perm_cons_erase (List.mem_map_of_mem member)).symm

theorem silentInOrder {t : Turn} (same : t.state.still = s.still) (silent : t.results = [])
    {begun : List CallId}
    (counted : (t.state.calls.map Call.id).Perm (s.calls.map Call.id ++ begun)) :
    t.InOrder s begun [] where
  alike := stillAlike same
  counted := counted
  names := by rw [silent]; rfl
  state := same.symm
  results := silent.symm
  told := by rw [silent]; simp

namespace Takes

variable {action : Action} {t : Turn}

theorem alike (takes : s.Takes past action t) : s.Alike t.state := by
  cases takes with
  | waits _ _ _ _ _ same => exact stillAlike same
  | refused _ _ _ state => exact state ▸ ⟨fun _ => rfl, rfl, rfl⟩
  | hears _ same => exact stillAlike same
  | returns _ _ flies finds completes =>
    exact completes ▸ (completeGranted flies.means finds _ _ _ _).1

theorem flying (takes : s.Takes past action t) (before : ∀ c ∈ s.calls, s.Flying past c) :
    ∀ c ∈ t.state.calls, t.state.Flying (past ++ [action]) c := by
  have alike := takes.alike
  intro c member
  cases takes with
  | @waits r purpose begins means finds accepted success same calls =>
    rw [calls] at member
    rcases List.mem_append.mp member with old | new
    · exact (before c old).later alike action
    · cases List.mem_singleton.mp new
      exact ⟨{ r with reasons := none }, purpose, begins ▸ List.mem_append_right _ List.mem_cons_self,
        alike.means means, accepted, success, rfl, rfl, .inl rfl⟩
  | refused _ _ _ state => exact (before c (state ▸ member)).later alike action
  | hears _ _ calls _ flying =>
    rw [calls] at member
    obtain ⟨old, inside, rfl⟩ := List.mem_map.mp member
    exact (flying old inside).later alike action
  | @returns d r _ _ _ flies finds completes =>
    rw [completes, (completeGranted flies.means finds _ _ _ _).2.1] at member
    exact (before c (List.mem_filter.mp member).1).later alike action

theorem inOrder (takes : s.Takes past action t) (apart : (s.calls.map Call.id).Nodup)
    (available : s.isAvailable = true) (patient : s.Patient) :
    ∃ added : List TopicCall, (∀ r ∈ added, r.begin ∈ past ++ [action]) ∧
      t.InOrder s action.begun?.toList added := by
  have alike := takes.alike
  cases takes with
  | waits begins means finds accepted success same calls silent =>
    refine ⟨[], by simp, silentInOrder same silent ?_⟩
    rw [calls, begins]
    simp [asked, TopicCall.begin, Action.begun?]
  | @refused r purpose begins means misses state results =>
    have alone := aloneRefused available means misses
    refine ⟨[r], by simp [begins], alike, ?_, by rw [results]; rfl, ?_, ?_, ?_⟩
    · rw [state, begins]
      exact List.perm_append_comm
    · simpa [state] using alone.1
    · simpa [results] using alone.2
    · intro result member
      rw [results] at member
      cases List.mem_singleton.mp member
      cases purpose with
      | subscribe label topic qos => exact .inr ⟨topic, .inl rfl⟩
      | unsubscribe label topic clears => exact .inr ⟨topic, .inr rfl⟩
      | _ => exact absurd trivial misses
  | hears started same calls kept flying silent =>
    refine ⟨[], by simp, silentInOrder same silent ?_⟩
    rw [calls, started, List.map_map, Option.toList_none, List.append_nil]
    exact .of_eq (List.map_congr_left fun c _ => (kept c).1)
  | @returns c r purpose member resumes flies finds completes =>
    have named : c.id = r.id := by rw [flies.waits]; rfl
    have alone := aloneGranted available patient flies.means finds
      flies.accepted flies.success flies.acknowledged
    obtain ⟨_, calls, _, reply, results⟩ := completeGranted flies.means finds r.id
      r.answer.message (.settled (.ok (.acknowledged r.reasons))) r.reasons
    rw [← completes] at alone calls results
    refine ⟨[r], by simpa using Or.inl flies.begun, alike, ?_, by rw [results]; rfl, ?_, ?_, ?_⟩
    · rw [calls, resumes, show (Action.resume c.id).begun?.toList = [] from rfl, List.append_nil]
      show (r.id :: (s.calls.filter (·.id != r.id)).map Call.id).Perm _
      rw [← named]
      exact leaveCounted apart member
    · simpa using alone.1
    · simpa using alone.2
    · rw [results]
      exact fun result member => .inl ⟨reply, by rw [List.mem_singleton.mp member]⟩

end Takes

theorem Alike.admits {t : State} (alike : s.Alike t) {action : Action} (admits : s.Admits action) :
    t.Admits action := by
  cases admits with
  | begins means accepted success => exact .begins (alike.means means) accepted success
  | acknowledges success => exact .acknowledges success
  | resumes id => exact .resumes id

theorem Alike.available {t : State} (alike : s.Alike t) (available : s.isAvailable = true) :
    t.isAvailable = true := by
  rw [isAvailable, alike.client]
  exact available

theorem Alike.patient {t : State} (alike : s.Alike t) (patient : s.Patient) : t.Patient := by
  rw [Patient, alike.options]
  exact patient

theorem runInOrder {actions : List Action} (flying : ∀ c ∈ s.calls, s.Flying past c)
    (orderly : s.ledger.Orderly) (awaits : s.ledger.Awaits actions)
    (available : s.isAvailable = true) (patient : s.Patient)
    (admits : ∀ action ∈ actions, s.Admits action)
    (undisturbed : Undisturbed s actions) (unraced : Unraced s actions) :
    ∃ order : List TopicCall, (∀ r ∈ order, r.begin ∈ past ++ actions) ∧
      (run s actions).InOrder s (begun actions) order := by
  induction actions generalizing s past with
  | nil =>
    exact ⟨[], by simp, silentInOrder rfl rfl (by rw [begun, List.filterMap_nil, List.append_nil])⟩
  | cons action rest ih =>
    obtain ⟨_, orderlyNext, awaitsNext⟩ := undisturbedStep orderly awaits undisturbed
    have takes : s.Takes past action (step s action) := stepTakes flying orderly awaits
      available patient (admits action List.mem_cons_self) unraced.1
    obtain ⟨added, here, first⟩ := takes.inOrder orderly.apart available patient
    have alike := takes.alike
    obtain ⟨order, later, second⟩ := ih (takes.flying flying) orderlyNext awaitsNext
      (alike.available available) (alike.patient patient)
      (fun action member => alike.admits (admits action (List.mem_cons_of_mem _ member)))
      undisturbed.2.2 unraced.2
    refine ⟨added ++ order, fun r member => ?_, ?_⟩
    · rw [List.append_cons]
      exact (List.mem_append.mp member).elim (fun old => List.mem_append_left _ (here r old))
        (later r)
    · rw [runCons, begunCons]
      exact first.andThen second

theorem completeElsewhere (c : Call) (answer : Answer) {other : Text}
    (apart : c.purpose.topic? ≠ some other) :
    other ∈ (s.complete c answer).state.topics ↔ other ∈ s.topics := by
  rw [topicsAlike (completeTable s c answer)]
  cases purpose : c.purpose with
  | subscribe label topic qos =>
    have different : other ≠ topic := by
      rintro rfl
      exact apart (by rw [purpose]; rfl)
    exact putTopics.trans (or_iff_right different)
  | unsubscribe label topic clears =>
    have different : other ≠ topic := by
      rintro rfl
      exact apart (by rw [purpose]; rfl)
    rw [written]
    split
    · exact filterTopics.trans (and_iff_right different)
    · rfl
  | _ => rfl

theorem findsElsewhere {t : State} {purpose : Purpose} (same : ∀ topic,
    purpose.topic? = some topic → (topic ∈ t.topics ↔ topic ∈ s.topics))
    (finds : s.Finds purpose) : t.Finds purpose := by
  cases purpose with
  | subscribe label topic qos => exact fun present => finds ((same topic rfl).mp present)
  | unsubscribe label topic clears => exact (same topic rfl).mpr finds
  | _ => trivial

theorem onTopic {c other : Call} {topic : Text}
    (apart : (s.calls.filterMap (·.purpose.topic?)).Nodup) (here : c ∈ s.calls)
    (there : other ∈ s.calls) (own : c.purpose.topic? = some topic)
    (also : other.purpose.topic? = some topic) : c = other := by
  by_contra different
  have : Std.Symm fun c other : Call => ∀ topic, c.purpose.topic? = some topic →
      ∀ also, other.purpose.topic? = some also → topic ≠ also :=
    ⟨fun _ _ apart topic own also other => (apart also other topic own).symm⟩
  exact (List.pairwise_filterMap.mp apart).forall here there different topic own topic also rfl

theorem Takes.finds {action : Action} {t : Turn} (takes : s.Takes past action t)
    (apart : (s.calls.filterMap (·.purpose.topic?)).Nodup)
    (before : ∀ c ∈ s.calls, s.Finds c.purpose) : ∀ c ∈ t.state.calls, t.state.Finds c.purpose := by
  intro c member
  cases takes with
  | waits _ _ finds _ _ same calls =>
    rw [calls] at member
    rcases List.mem_append.mp member with old | new
    · exact stillFinds same (before c old)
    · cases List.mem_singleton.mp new
      exact stillFinds same finds
  | refused _ _ _ state =>
    rw [state] at member ⊢
    exact before c member
  | hears _ same calls kept =>
    rw [calls] at member
    obtain ⟨old, inside, rfl⟩ := List.mem_map.mp member
    rw [(kept old).2]
    exact stillFinds same (before old inside)
  | @returns d r purpose inside _ flies finds completes =>
    have own : d.purpose = purpose := by rw [flies.waits]; rfl
    have named : d.id = r.id := by rw [flies.waits]; rfl
    rw [completes] at member ⊢
    rw [(completeGranted flies.means finds _ _ _ _).2.1] at member
    obtain ⟨stays, other⟩ := List.mem_filter.mp member
    refine findsElsewhere (fun topic mine => completeElsewhere _ _ fun written => ?_)
      (before c stays)
    have same := onTopic apart stays inside mine (own ▸ written)
    simp [same, named] at other

theorem apartUnraced {actions : List Action} (flying : ∀ c ∈ s.calls, s.Flying past c)
    (orderly : s.ledger.Orderly) (awaits : s.ledger.Awaits actions)
    (available : s.isAvailable = true) (patient : s.Patient)
    (admits : ∀ action ∈ actions, s.Admits action)
    (undisturbed : Undisturbed s actions) (apart : TopicsApart s actions)
    (finds : ∀ c ∈ s.calls, s.Finds c.purpose) : Unraced s actions := by
  induction actions generalizing s past with
  | nil => exact trivial
  | cons action rest ih =>
    obtain ⟨_, orderlyNext, awaitsNext⟩ := undisturbedStep orderly awaits undisturbed
    have takes : s.Takes past action (step s action) := stepTakes flying orderly awaits
      available patient (admits action List.mem_cons_self) fun c member _ _ => finds c member
    have alike := takes.alike
    refine ⟨fun c member _ _ => finds c member, ?_⟩
    refine ih (takes.flying flying) orderlyNext awaitsNext (alike.available available)
      (alike.patient patient)
      (fun action member => alike.admits (admits action (List.mem_cons_of_mem _ member)))
      undisturbed.2.2 (fun front back split => ?_) (takes.finds (apart [] _ rfl) finds)
    have later := apart (action :: front) back (by rw [split, List.cons_append])
    rwa [runCons] at later

end steps

/- While no two calls on one topic are under way at the same time, every write finds the table as
its call found it. Where every write does, calls that subscribe and unsubscribe at the same time
return what they return one after another, and leave the same table. -/
theorem requestsInOrder (idle : s.Idle) (available : s.isAvailable = true)
    (patient : s.options.patience = .endless ∨ s.options.patience = .limited)
    {actions : List Action} (admits : ∀ action ∈ actions, s.Admits action)
    (undisturbed : Undisturbed s actions) :
    (TopicsApart s actions → Unraced s actions) ∧
    (Unraced s actions →
      let t := run s actions
      ∃ order : List TopicCall, (∀ r ∈ order, r.begin ∈ actions) ∧
        order.map TopicCall.id = t.results.map Prod.fst ∧
        (order.map TopicCall.id ++ t.state.calls.map Call.id).Perm (begun actions) ∧
        (run s (order.flatMap TopicCall.alone)).state = t.state.still ∧
        (run s (order.flatMap TopicCall.alone)).results = t.results ∧
        ∀ result ∈ t.results, (∃ reply, result.2 = .ok reply) ∨
          ∃ topic, result.2 = .error (.bus (.alreadySubscribed topic)) ∨
            result.2 = .error (.bus (.notSubscribed topic))) := by
  have flying : ∀ c ∈ s.calls, s.Flying [] c := by simp [idle.calls]
  constructor
  · exact fun apart => apartUnraced flying idle.orderly (idle.awaits actions) available patient
      admits undisturbed apart (by simp [idle.calls])
  · intro unraced t
    obtain ⟨order, here, inOrder⟩ := runInOrder flying idle.orderly (idle.awaits actions) available
      patient admits undisturbed unraced
    have same := stillIdle idle.calls idle.pending
    have counted := inOrder.counted
    have state := inOrder.state
    have results := inOrder.results
    rw [same] at state results
    rw [idle.calls] at counted
    exact ⟨order, here, inOrder.names, counted, state, results, inOrder.told⟩

theorem requestsInOrderOfTwo :
    let p : Pattern := ⟨"a", [.raw "a"], rfl⟩
    let q : Pattern := ⟨"b", [.raw "b"], rfl⟩
    let s : State :=
      { options := ⟨.text "c", .int 60, .int 0, .bool true, .null⟩
        settings := ⟨"localhost", 1883, none, none, false⟩
        logger := ⟨.text "bus", .text "ERROR"⟩
        routerLogger := ⟨.text "router", .text "ERROR"⟩
        router := ⟨[(.text "a", p), (.text "b", q)], [(.text "a", []), (.text "b", [])], 0⟩
        client := some 0
        subscriptions := [("a", .int 0)] }
    let actions : List Action :=
      [.begin 0 (.unsubscribe (.text "a") true) ⟨none, none, 0, 5⟩,
        .begin 1 (.subscribe (.text "b") none) ⟨none, none, 0, 6⟩,
        .handle (.acknowledged 6 (some [.code 1])), .handle (.acknowledged 5 none),
        .resume 1, .resume 0]
    (s.Idle ∧ s.isAvailable = true ∧ s.options.patience = .endless ∧
      (∀ action ∈ actions, s.Admits action) ∧ Undisturbed s actions ∧
      Unraced s actions) ∧
    ∃ order : List TopicCall, order.map TopicCall.id = [1, 0] ∧
      (run s (order.flatMap TopicCall.alone)).results =
        [(1, .ok (.granted [.int 1])), (0, .ok .unsubscribed)] := by
  intro p q s actions
  have idle : s.Idle := ⟨rfl, rfl, rfl⟩
  have undisturbed : Undisturbed s actions := by decide +kernel
  have unraced : Unraced s actions := by decide +kernel
  have admits : ∀ action ∈ actions, s.Admits action := by
    have a : s.router.get (.text "a") = .ok (some p) := rfl
    have b : s.router.get (.text "b") = .ok (some q) := rfl
    simp only [actions, List.forall_mem_cons]
    exact ⟨.begins (.unsubscribe a) rfl rfl, .begins (.subscribe b) rfl rfl,
      .acknowledges (by simp [Broker.Reason.isFailure, Broker.Reason.firstFailure]),
      .acknowledges (by simp), .resumes 1, .resumes 0, by simp⟩
  obtain ⟨order, _, names, _, _, results, _⟩ :=
    (requestsInOrder idle rfl (.inl rfl) admits undisturbed).2 unraced
  have returned : (run s actions).results =
      [(1, .ok (.granted [.int 1])), (0, .ok .unsubscribed)] := by
    simp only [s, actions, p, q]
    rfl
  refine ⟨⟨idle, rfl, rfl, admits, undisturbed, unraced⟩, order, ?_, results.trans returned⟩
  rw [names, returned]
  rfl

end State
end TopicRouting.Bus
