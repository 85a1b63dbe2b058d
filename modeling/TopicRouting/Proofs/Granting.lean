import TopicRouting.Proofs.Completing
import TopicRouting.Proofs.Starting
import TopicRouting.Proofs.Table

/-! What a bus does whose client grants what it is asked for, while no one else asks it for anything
and no one listens. It connects, and it subscribes what it has not subscribed before. -/
namespace TopicRouting.Router

variable {r : Router} {label : Label} {pattern : Pattern}

structure Unlistened (r : Router) : Prop where
  listeners : r.listeners = r.entries.map fun (label, _) => (label, [])
  apart : r.entries.Pairwise fun first later => first.1.same later.1 = false

theorem Unlistened.known (plain : r.Unlistened) (label : Label) :
    r.has label = r.entries.any (·.1.same label) := by
  rw [has, plain.listeners, List.any_map]
  rfl

theorem Unlistened.set {after : Router} (plain : r.Unlistened)
    (set : r.set label pattern = .ok after) :
    after.Unlistened ∧ after.entries = r.entries ++ [(label, pattern)] := by
  rw [Router.set] at set
  split at set
  · contradiction
  · rename_i fresh
    cases set
    refine ⟨⟨by simp [plain.listeners], ?_⟩, rfl⟩
    have other : ∀ entry ∈ r.entries, entry.1.same label = false := by
      simpa [plain.known] using fresh
    exact List.pairwise_append.mpr ⟨plain.apart, List.pairwise_singleton .., by simpa using other⟩

theorem findEntry {entries : List (Label × Pattern)} (member : (label, pattern) ∈ entries)
    (apart : entries.Pairwise fun first later => first.1.same later.1 = false) :
    entries.find? (·.1.same label) = some (label, pattern) := by
  induction entries with
  | nil => contradiction
  | cons entry rest ih =>
    rcases List.mem_cons.mp member with same | later
    · rw [← same]
      exact List.find?_cons_of_pos (Label.sameRefl label)
    · obtain ⟨other, others⟩ := List.pairwise_cons.mp apart
      rw [List.find?_cons_of_neg (by simp [other _ later])]
      exact ih later others

theorem Unlistened.get (plain : r.Unlistened) (member : (label, pattern) ∈ r.entries) :
    r.get label = .ok (some pattern) := by
  have here : r.has label = true := by
    rw [plain.known]
    exact List.any_eq_true.mpr ⟨_, member, Label.sameRefl label⟩
  rw [Router.get, here, pattern?, findEntry member plain.apart]
  rfl

theorem Unlistened.dispatch (plain : r.Unlistened) (env : Surroundings) (depth calls : Nat)
    (m : Message) : (r.dispatch env depth calls m).2.router = r := by
  have alone (label : Label) : r.registrations label = [] := by
    rw [registrations, plain.listeners, List.find?_map]
    generalize List.find? _ r.entries = found
    cases found <;> rfl
  have still (label : Label) : (r.take label).2 = r := by
    have same : (r.take label).2.listeners = r.listeners := by
      rw [take, change, plain.listeners, List.map_map]
      refine List.map_congr_left fun entry _ => ?_
      simp
    calc (r.take label).2 = { r with listeners := (r.take label).2.listeners } := rfl
      _ = r := by rw [same]
  cases depth with
  | zero => rfl
  | succ depth =>
    rw [Router.dispatch]
    split
    · rfl
    · rename_i found _
      have taken : r.take found.label = ([], r) := Prod.ext (alone _) (still _)
      rw [taken]
      rfl

end TopicRouting.Router

namespace TopicRouting.Bus

def Names (given : Value × Value) (entry : Label × Pattern) : Prop :=
  Label.ofValue? given.1 = some entry.1 ∧ Pattern.ofValue given.2 = .ok entry.2

theorem routeSets {s : State} {label : Label} {source : Value} {reply : Router.Reply} {t : Turn}
    (plain : s.router.Unlistened) (routed : s.route (.set label source) = .ok (reply, t)) :
    t.state.router.Unlistened ∧ ∃ pattern, Pattern.ofValue source = .ok pattern ∧
      t.state.router.entries = s.router.entries ++ [(label, pattern)] := by
  obtain ⟨⟨_, after, _⟩, ran, same⟩ := bindOk.mp routed
  cases same
  obtain ⟨⟨set, pattern⟩, valued, same⟩ := bindOk.mp ran
  cases same
  rw [Router.setValue] at valued
  split at valued
  · contradiction
  · obtain ⟨compiled, given, rest⟩ := bindOk.mp valued
    obtain ⟨grown, added, same⟩ := bindOk.mp rest
    cases same
    cases made : s.router.set label pattern with
    | error e =>
      rw [made] at added
      contradiction
    | ok router =>
      rw [made] at added
      cases added
      obtain ⟨still, entries⟩ := plain.set made
      exact ⟨still, pattern, given, entries⟩

theorem setPatternsNames {s : State} {patterns : Dict} {t : Turn} (plain : s.router.Unlistened)
    (set : setPatterns s patterns = (t, .ok ())) : t.state.router.Unlistened ∧
      ∃ added, t.state.router.entries = s.router.entries ++ added ∧
        List.Forall₂ Names patterns added := by
  induction patterns generalizing s t with
  | nil =>
    cases set
    exact ⟨plain, [], by simp [State.quiet], .nil⟩
  | cons entry rest ih =>
    rw [setPatterns] at set
    split at set
    · cases set
    · rename_i label known
      split at set
      · cases set
      · rename_i turn routed
        obtain ⟨grown, pattern, given, entries⟩ := routeSets plain routed
        obtain ⟨later, result⟩ : ∃ later, setPatterns turn.state rest = (later, .ok ()) := by
          cases made : setPatterns turn.state rest with
          | mk later result =>
            rw [made] at set
            cases set
            exact ⟨later, rfl⟩
        rw [result] at set
        cases set
        obtain ⟨plainLater, added, all, names⟩ := ih grown result
        refine ⟨plainLater, (label, pattern) :: added, ?_, .cons ⟨known, given⟩ names⟩
        rw [all, entries, List.append_assoc]
        rfl

theorem createdPlain {setup : Setup} {env : Environment} {generated : Text} {s : State}
    (created : setup.create env generated = .ok s) (own : setup.router = none) :
    s.router = {} ∧ s.options.timeout = setup.timeout := by
  obtain ⟨_, _, _, _, timeout, empty, rfl⟩ := createdMakes created
  refine ⟨?_, timeout⟩
  rw [own]
  exact empty

structure Configured (c : Config) (s : State) : Prop where
  new : s.New
  plain : s.router.Unlistened
  patient : s.options.patience = .limited
  topics : s.subscriptions = []
  names : List.Forall₂ Names c.patterns s.router.entries

theorem builtConfigured {c : Config} {env : Environment} {generated : Text} {t : Turn}
    (built : ofConfig c { url := .null } false env generated = .ok t) : Configured c t.state := by
  obtain ⟨setup, s, created, set, timeout, own⟩ := builtFrom built
  obtain ⟨router, same⟩ := setPatternsKeeps s c.patterns
  rw [set] at same
  obtain ⟨empty, waits⟩ := createdPlain created own
  have plain : s.router.Unlistened := by
    rw [empty]
    exact ⟨rfl, .nil⟩
  obtain ⟨grown, added, entries, names⟩ := setPatternsNames plain set
  rw [empty] at entries
  refine ⟨builtNew built, grown, ?_, ?_, ?_⟩
  · rw [same]
    change Patience.ofSeconds s.options.timeout = .limited
    rw [waits, timeout]
    rfl
  · rw [same]
    exact congrArg Prod.fst (createdEmpty created)
  · rw [entries]
    exact names

def Action.stands : Action → Bool
  | .begin .. | .route _ => false
  | _ => true

theorem standsUnbegun {action : Action} (stands : action.stands = true) :
    action.begun? = none := by
  cases action with
  | begin id command answer => contradiction
  | _ => rfl

theorem standsSingle {action : Action} (stands : action.stands = true) :
    action.lasting = false := by
  cases action with
  | begin id command answer => contradiction
  | _ => rfl

namespace State

variable {s u v : State} {action : Action}

theorem plainReceived (plain : s.router.Unlistened) (behaviour : Router.Behaviour) (m : Message) :
    (s.handleReceived behaviour m).state.content = s.content := by
  have kept {json : Option Value} {how : Router.Dispatched} {scene : Router.Scene}
      (routing : s.routing behaviour m json = (how, scene)) : scene.router = s.router := by
    have same : (s.routing behaviour m json).2.router = s.router := plain.dispatch _ _ _ _
    rwa [routing] at same
  refine Prod.ext (receivedTable s behaviour m) ?_
  cases s.receives behaviour m with
  | unread fails turn => rw [turn]
  | routed decoded routing turn =>
    rw [turn]
    exact kept routing
  | broken decoded routing breaks turn =>
    rw [turn]
    exact kept routing

structure Asking (u : State) (label : Label) (topic : Text) (qos : Value) (message : Int)
    (v : State) (c : Call) : Prop where
  ledger : v.ledger = { u.ledger with calls := [c], pending := [(message, c.id)] }
  asks : c.purpose = .subscribe label topic qos
  awaited : c.message = some message
  running : c.ending = none
  content : v.content = u.content

inductive Subscribing (u : State) (id : CallId) (label : Label) (topic : Text) (qos : Value)
    (message : Int) (v : State) : Wait → List (CallId × Except Error Reply) → Prop
  | waits {c : Call} (asking : u.Asking label topic qos message v c) (own : c.id = id) :
      Subscribing u id label topic qos message v c.wait []
  | granted {reasons : Option (List Broker.Reason)} (reply : Reply) (ledger : v.ledger = u.ledger)
      (written : v.content = (u.written (.subscribe label topic qos)).content) :
      Subscribing u id label topic qos message v
        (.finished (some (.ok (.acknowledged reasons)))) [(id, .ok reply)]
  | otherwise {outcome : Option (Except BusError Answer)}
      {returned : List (CallId × Except Error Reply)}
      (other : ∀ reasons, outcome ≠ some (.ok (.acknowledged reasons))) :
      Subscribing u id label topic qos message v (.finished outcome) returned

theorem idleAlike (ledger : v.ledger = u.ledger) (idle : u.Idle) : v.Idle :=
  ⟨(congrArg Ledger.calls ledger).trans idle.calls,
    (congrArg Ledger.pending ledger).trans idle.pending,
    (congrArg Ledger.connecting ledger).trans idle.connecting⟩

theorem idleStays (idle : s.Idle) (plain : s.router.Unlistened) (stands : action.stands = true) :
    let t := step s action
    t.state.ledger = s.ledger ∧ t.state.content = s.content ∧ t.results = [] := by
  have unknown (id : CallId) : s.call? id = none := by simp [call?, idle.calls]
  cases action with
  | begin id command answer => contradiction
  | route command => contradiction
  | handle signal =>
    obtain ⟨f, changes, -⟩ := handleAdvances idle.orderly signal
    refine ⟨?_, contentHeld (handleHoldings s signal), changes.results⟩
    rw [step, changes.ledger]
    simp [ledger, idle.calls]
  | deliver m behaviour =>
    obtain ⟨ledger, results⟩ := receivedKeeps s behaviour m
    exact ⟨ledger, plainReceived plain behaviour m, results⟩
  | expire id =>
    rw [step, expire, unknown]
    exact ⟨rfl, rfl, rfl⟩
  | resume id =>
    rw [step, resume, unknown]
    exact ⟨rfl, rfl, rfl⟩

theorem idleRun {during : List Action} (idle : s.Idle) (plain : s.router.Unlistened)
    (stands : ∀ action ∈ during, action.stands = true) :
    let t := Bus.run s during
    t.state.ledger = s.ledger ∧ t.state.content = s.content ∧ t.results = [] := by
  induction during generalizing s with
  | nil => exact ⟨rfl, rfl, rfl⟩
  | cons action rest ih =>
    obtain ⟨here, others⟩ := List.forall_mem_cons.mp stands
    obtain ⟨ledger, content, silent⟩ := idleStays idle plain here
    obtain ⟨same, kept, none⟩ := ih (idleAlike ledger idle) (contentRouter content ▸ plain) others
    rw [runCons]
    exact ⟨same.trans ledger, kept.trans content, by rw [Turn.resultsThen, silent, none]; rfl⟩

variable {id : CallId} {label : Label} {topic : Text} {qos : Value} {message : Int} {w : Wait}
  {returned : List (CallId × Except Error Reply)} {c : Call}

namespace Asking

variable (asking : u.Asking label topic qos message v c)
include asking

theorem calls : v.calls = [c] := congrArg Ledger.calls asking.ledger

theorem found : v.call? c.id = some c := by simp [call?, asking.calls]

theorem plain (plain : u.router.Unlistened) : v.router.Unlistened := by
  rw [contentRouter asking.content]
  exact plain

theorem orderly (idle : u.Idle) (patient : u.options.patience.fault? = none) :
    v.ledger.Orderly := by
  rw [asking.ledger]
  exact
    { apart := by simp
      pending := by simp [asking.awaited]
      keys := by simp
      attempt := by simp [State.ledger, idle.connecting]
      running := by simpa using asking.running
      awaits := by simp [asking.awaited, asking.asks, Purpose.acknowledged]
      patient := fun _ => patient }

theorem advanced {t : Turn} (advances : t.Advances v.ledger action)
    (same : t.state.content = v.content) :
    u.Subscribing c.id label topic qos message t.state (c.wait.next message c.id action)
      t.results := by
  obtain ⟨f, changes, each⟩ := advances
  have moved := each c (by simp [State.ledger, asking.calls])
  rw [changes.results, ← moved.wait message asking.awaited]
  refine .waits (c := f c) ⟨?_, moved.purpose.trans asking.asks, moved.message.trans asking.awaited,
    moved.ending.trans asking.running, same.trans asking.content⟩ moved.id
  rw [changes.ledger, asking.ledger, moved.id]
  rfl

theorem completes (idle : u.Idle) (reasons : Option (List Broker.Reason)) :
    let t := v.complete c (.acknowledged reasons)
    t.state.ledger = u.ledger ∧
      t.state.content = (u.written (.subscribe label topic qos)).content ∧
      ∃ reply, t.results = [(c.id, .ok reply)] := by
  intro t
  have subscribes : t.state = ((v.dropPending message).setSubscriptions
      (putSubscription topic qos v.subscriptions)).dropCall c.id := by
    simp only [t, complete, asking.asks, forget, asking.awaited]
    rfl
  have fulfils : v.Fulfils (.acknowledged reasons) c.purpose := by
    rw [asking.asks]
    exact ⟨_, rfl⟩
  refine ⟨?_, ?_, completeResults fulfils⟩
  · have parts := asking.ledger
    simp only [State.ledger, Ledger.mk.injEq] at parts
    obtain ⟨calls, pending, connecting, client, options⟩ := parts
    rw [subscribes]
    simp [State.ledger, dropCall, setSubscriptions, dropPending, calls, pending, connecting, client,
      options, idle.calls, idle.pending]
  · have topics : v.subscriptions = u.subscriptions := congrArg (·.1.1) asking.content
    have router : v.router = u.router := contentRouter asking.content
    rw [subscribes]
    change (((putSubscription topic qos v.subscriptions), _), v.router) =
      (((putSubscription topic qos u.subscriptions), _), u.router)
    rw [topics, router]
    rfl

theorem settles (idle : u.Idle) {answer : Except BusError Answer}
    (future : c.future = .settled answer) :
    let t := step v (.resume c.id)
    u.Subscribing c.id label topic qos message t.state (.finished (some answer)) t.results := by
  intro t
  by_cases granted : ∃ reasons, answer = .ok (.acknowledged reasons)
  · obtain ⟨reasons, rfl⟩ := granted
    have whole : t = v.complete c (.acknowledged reasons) := by
      simp only [t, step, resume, asking.found, asking.running, future]
    obtain ⟨ledger, written, reply, results⟩ := asking.completes idle reasons
    rw [whole, results]
    exact .granted reply ledger written
  · exact .otherwise fun reasons same => granted ⟨reasons, Option.some.inj same⟩

theorem givesUp (future : c.future = .open) (expired : c.expired = true) :
    let t := step v (.resume c.id)
    u.Subscribing c.id label topic qos message t.state (c.wait.next message c.id (.resume c.id))
      t.results := by
  intro t
  have gives : t = ⟨v.changeCall c.id fun c => { c with future := .cancelled },
      [.woken c.id]⟩ := by
    simp only [t, step, resume, asking.found, asking.running, future, expired, if_true]
  rw [gives]
  refine asking.advanced ⟨_, ⟨rfl, rfl⟩, fun other there => ?_⟩ rfl
  have same : other = c := by simpa [State.ledger, asking.calls] using there
  rw [same, if_pos (beq_self_eq_true _)]
  exact ⟨rfl, rfl, rfl, rfl, fun m _ => by
    simp [Call.wait, future, expired, Future.wait, Wait.next]⟩

theorem resumes (idle : u.Idle) (call : CallId) :
    let t := step v (.resume call)
    u.Subscribing c.id label topic qos message t.state (c.wait.next message c.id (.resume call))
      t.results := by
  intro t
  have still (same : t = v.quiet) (unmoved : c.wait.next message c.id (.resume call) = c.wait) :
      u.Subscribing c.id label topic qos message t.state
        (c.wait.next message c.id (.resume call)) t.results := by
    rw [same, unmoved]
    exact .waits asking rfl
  by_cases own : call = c.id
  · subst own
    cases future : c.future with
    | settled answer =>
      have next : c.wait.next message c.id (.resume c.id) = .finished (some answer) := by
        simp [Call.wait, future, Future.wait, Wait.next]
      rw [next]
      exact asking.settles idle future
    | cancelled =>
      have next : c.wait.next message c.id (.resume c.id) = .finished none := by
        simp [Call.wait, future, Future.wait, Wait.next]
      rw [next]
      exact .otherwise (by simp)
    | «open» =>
      by_cases expired : c.expired = true
      · exact asking.givesUp future expired
      · refine still ?_ ?_
        · simp only [t, step, resume, asking.found, asking.running, future, expired]
          rfl
        · simp [Call.wait, future, expired, Future.wait, Wait.next]
  · refine still ?_ (Wait.nextOther own _ _)
    have unknown : v.call? call = none := by simp [call?, asking.calls, Ne.symm own]
    simp [t, step, resume, unknown]

end Asking

theorem Subscribing.next (subscribing : u.Subscribing id label topic qos message v w returned)
    (idle : u.Idle) (patient : u.options.patience.fault? = none) (plain : u.router.Unlistened)
    (stands : action.stands = true) :
    let t := step v action
    u.Subscribing id label topic qos message t.state (w.next message id action)
      (returned ++ t.results) := by
  intro t
  cases subscribing with
  | waits asking own =>
    subst own
    rw [List.nil_append]
    cases action with
    | begin id command answer => contradiction
    | route command => contradiction
    | handle signal =>
      exact asking.advanced (handleAdvances (asking.orderly idle patient) signal)
        (contentHeld (handleHoldings v signal))
    | deliver m behaviour =>
      exact asking.advanced (receivedAdvances v behaviour m)
        (plainReceived (asking.plain plain) behaviour m)
    | expire call =>
      exact asking.advanced (expireAdvances (asking.orderly idle patient) call)
        (contentHeld (expireHoldings v call))
    | resume call => exact asking.resumes idle call
  | granted reply ledger written =>
    have router : v.router = u.router := congrArg Prod.snd written
    obtain ⟨same, kept, silent⟩ :=
      idleStays (idleAlike ledger idle) (router ▸ plain) stands
    have returned : [(id, .ok reply)] ++ t.results = [(id, .ok reply)] := by
      rw [silent, List.append_nil]
    rw [returned]
    exact .granted reply (same.trans ledger) (kept.trans written)
  | otherwise other => exact .otherwise other

theorem Subscribing.run {during : List Action}
    (subscribing : u.Subscribing id label topic qos message v w returned)
    (idle : u.Idle) (patient : u.options.patience.fault? = none) (plain : u.router.Unlistened)
    (stands : ∀ action ∈ during, action.stands = true) :
    let t := Bus.run v during
    u.Subscribing id label topic qos message t.state (during.foldl (Wait.next message id) w)
      (returned ++ t.results) := by
  induction during generalizing v w returned with
  | nil =>
    intro t
    rw [show t.results = [] from rfl, List.append_nil]
    exact subscribing
  | cons action rest ih =>
    obtain ⟨here, others⟩ := List.forall_mem_cons.mp stands
    have later := ih (subscribing.next idle patient plain here) others
    intro t
    have split : t = (step v action).andThen fun s => Bus.run s rest :=
      runCons v action rest
    rw [split, Turn.resultsThen, ← List.append_assoc]
    exact later

theorem Subscribing.ends {reasons : Option (List Broker.Reason)}
    (subscribing : u.Subscribing id label topic qos message v
      (.finished (some (.ok (.acknowledged reasons)))) returned) :
    v.ledger = u.ledger ∧ v.content = (u.written (.subscribe label topic qos)).content ∧
      ∃ reply, returned = [(id, .ok reply)] := by
  generalize ends : Wait.finished (some (.ok (.acknowledged reasons))) = w at subscribing
  cases subscribing with
  | @waits c asking own =>
    rw [Call.wait] at ends
    cases future : c.future <;> simp [future, Future.wait] at ends
  | granted reply ledger written => exact ⟨ledger, written, reply, rfl⟩
  | otherwise other => exact absurd (Wait.finished.inj ends).symm (other reasons)

section calling

variable {n : Nat} {p : Pattern} {answer : Broker.Answer} {during : List Action}
  (idle : u.Idle) (client : u.client = some n) (plain : u.router.Unlistened)
  (known : u.router.get label = .ok (some p)) (id : CallId)
  (stands : ∀ action ∈ during, action.stands = true)
include idle client plain known stands

theorem subscribeGranted (patient : u.options.patience = .limited) (missing : p.topic ∉ u.topics)
    (accepted : answer.subscribeError = none) (success : answer.code = Broker.ResultCode.success)
    {reasons : Option (List Broker.Reason)}
    (granted : during.foldl (Wait.next answer.message id) (.waiting false) =
      .finished (some (.ok (.acknowledged reasons)))) :
    let t := Bus.run u (.begin id (.subscribe label none) answer :: during)
    t.state.ledger = u.ledger ∧
      t.state.content = (u.written (.subscribe label p.topic u.options.qos)).content ∧
      ∃ reply, t.results = [(id, .ok reply)] := by
  intro t
  have available : u.isAvailable = true := by simp [isAvailable, client]
  have means : u.Means (.subscribe label none) (.subscribe label p.topic u.options.qos) :=
    .subscribe known
  obtain ⟨begun, silent⟩ :=
    beginGranted available (.inr patient) means missing accepted success id
  let c := asked id (.subscribe label p.topic u.options.qos) answer.message .open
  have asking : u.Asking label p.topic u.options.qos answer.message
      (u.begin id answer (.subscribe label none)).state c := by
    refine ⟨?_, rfl, rfl, rfl, contentHeld (beginHoldings u id _ answer)⟩
    rw [begun, idle.pending, idle.calls]
    rfl
  have waits : u.Subscribing id label p.topic u.options.qos answer.message
      (u.begin id answer (.subscribe label none)).state (.waiting false) [] := .waits asking rfl
  have patience : u.options.patience.fault? = none := by rw [patient]; rfl
  have ends := waits.run idle patience plain stands
  rw [granted] at ends
  have split : t = (u.begin id answer (.subscribe label none)).andThen
      fun s => Bus.run s during := runCons u _ during
  rw [split, Turn.resultsThen, silent]
  exact ends.ends

theorem subscribeRefused (present : p.topic ∈ u.topics) :
    let t := Bus.run u (.begin id (.subscribe label none) answer :: during)
    t.state.ledger = u.ledger ∧ t.state.content = u.content ∧
      t.results = [(id, .error (.bus (.alreadySubscribed p.topic)))] := by
  intro t
  have available : u.isAvailable = true := by simp [isAvailable, client]
  have means : u.Means (.subscribe label none) (.subscribe label p.topic u.options.qos) :=
    .subscribe known
  have refused := beginRefused available means (fun missing => missing present) answer id
    (by simp [idle.calls])
  have split : t = (u.begin id answer (.subscribe label none)).andThen
      fun s => Bus.run s during := runCons u _ during
  obtain ⟨ledger, content, silent⟩ := idleRun idle plain stands
  rw [split, refused]
  refine ⟨ledger, content, ?_⟩
  rw [Turn.resultsThen, silent]
  rfl

end calling

end State

def asks : State → List Action → List (Nat × Broker.Request)
  | _, [] => []
  | s, action :: rest =>
      let t := step s action
      (if action.begun?.isSome then t.requests else []) ++ asks t.state rest

section asks

variable {s : State}

theorem asksAppend (s : State) (front back : List Action) :
    asks s (front ++ back) = asks s front ++ asks (run s front).state back := by
  induction front generalizing s with
  | nil => rfl
  | cons action rest ih =>
    rw [List.cons_append, asks, asks, ih, List.append_assoc, runCons]
    rfl

theorem asksNone {during : List Action} (stands : ∀ action ∈ during, action.stands = true) :
    asks s during = [] := by
  induction during generalizing s with
  | nil => rfl
  | cons action rest ih =>
    obtain ⟨here, others⟩ := List.forall_mem_cons.mp stands
    rw [asks, standsUnbegun here, ih others]
    rfl

end asks

namespace State

variable {u : State} {n : Nat} {label : Label} {p : Pattern} {answer : Broker.Answer}

theorem putSubscriptionFresh {subscriptions : List (Text × Value)} {topic : Text}
    (fresh : topic ∉ subscriptions.map (·.1)) (qos : Value) :
    putSubscription topic qos subscriptions = subscriptions ++ [(topic, qos)] := by
  induction subscriptions with
  | nil => rfl
  | cons entry rest ih =>
    rw [List.map_cons, List.mem_cons, not_or] at fresh
    rw [putSubscription, if_neg (Ne.symm fresh.1), ih fresh.2, List.cons_append]

theorem requestAsks (client : u.client = some n) (request : Broker.Request) :
    (u.showing (u.request request)).requests = [(n, request)] := by
  rw [State.request, client]
  rfl

theorem refusedAsks (idle : u.Idle) (client : u.client = some n)
    (known : u.router.get label = .ok (some p)) (present : p.topic ∈ u.topics) (id : CallId) :
    (u.begin id answer (.subscribe label none)).requests = [] := by
  have available : u.isAvailable = true := by simp [isAvailable, client]
  have means : u.Means (.subscribe label none) (.subscribe label p.topic u.options.qos) :=
    .subscribe known
  rw [beginRefused available means (fun missing => missing present) answer id
    (by simp [idle.calls])]
  rfl

theorem subscribeAsks (client : u.client = some n) (known : u.router.get label = .ok (some p))
    (patient : u.options.patience = .limited) (missing : p.topic ∉ u.topics)
    (accepted : answer.subscribeError = none) (success : answer.code = Broker.ResultCode.success)
    (id : CallId) : (u.begin id answer (.subscribe label none)).requests =
      [(n, .subscribe p.topic u.options.qos)] := by
  have available : u.isAvailable = true := by simp [isAvailable, client]
  have absent : u.topics.contains p.topic = false := by simpa using missing
  rw [begin, subscribe, requireIff.mpr ⟨available, known⟩]
  simp only [absent, Bool.false_eq_true, if_false, accepted, success, ne_eq, not_true_eq_false]
  rw [Turn.requestsThen, requestAsks client, waitFor]
  simp only [showing, patient, Patience.fault?, wait]
  rfl

end State

theorem Connection.Phase.goesOn {k : Connection} {n : Nat} {id : CallId} {c : Call}
    {returned : List (CallId × Except Error Reply)} {stopped : List Nat}
    (phase : k.Phase n id false returned stopped) (member : c ∈ k.calls) :
    c.ending ≠ some .closed := by
  cases phase with
  | waits sole own running =>
    rw [sole] at member
    rw [List.mem_singleton.mp member, running]
    simp
  | gives sole own ended goesOn =>
    rw [sole] at member
    rw [List.mem_singleton.mp member, ended]
    simpa using goesOn
  | gave e idle => simp [idle] at member
  | stays result idle => simp [idle] at member

namespace State

structure Opening (u : State) (id : CallId) (v : State) : Prop where
  phase : ∃ returned stopped, v.connection.Phase u.created id false returned stopped
  unasked : v.Unasked
  consistent : v.Consistent
  content : v.content = u.content

section opening

variable {s u v : State} {id : CallId} {action : Action}

theorem Opening.resumes (opening : u.Opening id v) (call : CallId) :
    (v.resume call).state.content = v.content := by
  obtain ⟨⟨returned, stopped, phase⟩, unasked, consistent, -⟩ := opening
  rw [resume]
  cases found : v.call? call with
  | none => rfl
  | some c =>
    have member := (callMember found).1
    have goesOn := phase.goesOn (unasked.connectionCalls ▸ member)
    have connects : c.purpose = .connect := by
      have lasting := unasked.only c member
      cases purpose : c.purpose with
      | connect => rfl
      | close => exact absurd (consistent.closes c member purpose) goesOn
      | _ => simp [purpose, Purpose.acknowledged] at lasting
    dsimp only
    split
    · rename_i ending _ ended
      refine contentHeld ((concludeHoldings fun closed => goesOn ?_).trans (releaseHoldings v))
      rw [ended, closed]
    · rename_i answer _ _
      rw [complete.eq_def, connects]
      cases answer <;> exact contentHeld (forgetHoldings v c)
    · exact contentHeld (failHoldings v c _)
    · exact contentHeld (giveUpHoldings v c)
    · split <;> rfl

theorem Opening.next (opening : u.Opening id v) (plain : u.router.Unlistened)
    (stands : action.stands = true) :
    u.Opening id (step v action).state := by
  have begun := standsUnbegun stands
  have router : v.router.Unlistened := contentRouter opening.content ▸ plain
  have kept : (step v action).state.content = v.content := by
    cases action with
    | begin id command answer => contradiction
    | route command => contradiction
    | handle signal => exact contentHeld (handleHoldings v signal)
    | deliver m behaviour => exact plainReceived router behaviour m
    | expire call => exact contentHeld (expireHoldings v call)
    | resume call => exact opening.resumes call
  obtain ⟨⟨returned, stopped, phase⟩, unasked, consistent, content⟩ := opening
  obtain ⟨after, connection, -⟩ :=
    unasked.next consistent (unbegunFresh begun) (unbegunAsks begun)
  exact ⟨⟨_, _, connection ▸ phase.next (standsSingle stands)⟩, after,
    (stepConsistent consistent (unbegunFresh begun)).1, kept.trans content⟩

theorem Opening.run {actions : List Action} (opening : u.Opening id v)
    (plain : u.router.Unlistened)
    (stands : ∀ action ∈ actions, action.stands = true) :
    u.Opening id (Bus.run v actions).state := by
  induction actions generalizing v with
  | nil => exact opening
  | cons action rest ih =>
    obtain ⟨here, others⟩ := List.forall_mem_cons.mp stands
    rw [runCons]
    exact ih (opening.next plain here) others

theorem Opening.begins (new : s.New) (id : CallId) (answer : Broker.Answer) :
    s.Opening id (step s (.begin id .connect answer)).state := by
  have fresh := beginFresh (new.unused id) .connect answer
  have unasked : s.Unasked := ⟨by simp [new.calls], new.pending⟩
  obtain ⟨after, connection, -⟩ := unasked.next new.consistent fresh rfl
  have phase := Connection.Phase.begins id new.client (newIdle new) answer
  dsimp only at phase
  rw [← connection] at phase
  exact ⟨⟨_, _, phase⟩, after, (stepConsistent new.consistent fresh).1,
    contentHeld (beginHoldings s id .connect answer)⟩

theorem attemptStands {window gap teardown : List Action}
    (passive : ∀ action ∈ window ++ gap ++ teardown, action.passive id = true) :
    ∀ action ∈ attemptSteps id window gap teardown, action.stands = true := by
  intro action member
  have own := attemptOwn passive action member
  cases action with
  | begin call command answer => simp [Action.passive] at own
  | route command => simp [Action.passive] at own
  | _ => rfl

theorem connectGranted (new : s.New) (plain : s.router.Unlistened)
    {answer : Broker.Answer} {window gap teardown : List Action} {reason : Broker.Reason}
    (accepts : answer.connectError = none) (patient : s.options.patience = .limited)
    (passive : ∀ action ∈ window ++ gap ++ teardown, action.passive id = true)
    (told : firstVerdict s.settings window = some (.ok reason)) :
    let t := Bus.run s (.begin id .connect answer :: attemptSteps id window gap teardown)
    t.state.Idle ∧ t.state.client = some s.created ∧ t.state.options = s.options ∧
      t.state.content = s.content ∧ t.resultsOf id = [.ok (.connected reason)] ∧
      ∀ other, other ≠ id → t.resultsOf other = [] := by
  intro t
  have own := attemptOwn passive
  have stands := attemptStands passive
  have single : ∀ action ∈ attemptSteps id window gap teardown, action.lasting = false :=
    fun action member => standsSingle (stands action member)
  have opened : s.Opening id t.state := by
    rw [show t = _ from runCons ..]
    exact (Opening.begins new id answer).run plain stands
  have numbered := attemptNumbered (new.unused id) answer passive
  obtain ⟨connection, -, results⟩ := runAccords new.consistent numbered
  have comes := Connection.attemptComes (k := s.connection) new.client
    (Connection.idleCall (newIdle new)) accepts passive (.inl (by
      rw [show s.connection.settings = s.settings from rfl, told]
      rfl))
  have accepted : attemptOutcome s.connection.options s.connection.settings window =
      .ok reason := by
    rw [attemptOutcome, show s.connection.options.patience = .limited from patient,
      show s.connection.settings = s.settings from rfl, told]
    rfl
  rw [accepted] at comes
  obtain ⟨rests, answered, -⟩ := comes
  have phase := (Connection.Phase.begins id new.client (newIdle new) answer).run single
  obtain ⟨all, calls, -⟩ := phase.connected (Shift.returned answered)
  have silent (call : CallId) : t.resultsOf call =
      (s.connection.run (.begin id .connect answer ::
        attemptSteps id window gap teardown)).resultsOf call := by
    refine results call (by simp [Asks, new.calls]) ?_
    exact List.forall_mem_cons.mpr ⟨by simp [Action.asks?, Command.acknowledged],
      fun action member => ownAsks (own action member) call⟩
  refine ⟨⟨?_, opened.unasked.pending, ?_⟩, ?_, ?_, opened.content, ?_, fun other apart => ?_⟩
  · rw [← opened.unasked.connectionCalls, connection]
    exact calls
  · exact (congrArg Connection.connecting connection).trans rests.connecting
  · exact (congrArg Connection.client connection).trans rests.client
  · exact (congrArg Connection.options connection).trans rests.options
  · rw [silent, answered]
  · have whole : (s.connection.run (.begin id .connect answer ::
        attemptSteps id window gap teardown)).results = [(id, .ok (.connected reason))] := all
    rw [silent, Shift.resultsOf, whole]
    simp [Ne.symm apart]

end opening

end State
end TopicRouting.Bus
