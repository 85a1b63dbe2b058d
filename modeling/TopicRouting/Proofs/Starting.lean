import TopicRouting.Proofs.Building
import TopicRouting.Proofs.Overlapping
import TopicRouting.Startup

/-! A start on a bus whose client may answer as it likes, and whose server may end as it likes. What
the start does to the connection of its bus: it connects once, and once it has served it closes. -/
namespace TopicRouting.Bus

/- How far a connection has come that is made once and closed at most once: whether it is to be
closed yet, what the calls for this have returned and the clients that have been stopped. -/
inductive Connection.Phase (n : Nat) (id : CallId) (k : Connection) :
    Bool → List (CallId × Except Error Reply) → List Nat → Prop
  | waits {c : Call} (sole : k.calls = [c]) (own : c.id = id) (running : c.ending = none)
      (client : k.client = some n) : Phase n id k false [] []
  | gives {c : Call} {ending : Ending} (sole : k.calls = [c]) (own : c.id = id)
      (ended : c.ending = some ending) (goesOn : ending ≠ .closed) (client : k.client = none) :
      Phase n id k false [] [n]
  | gave (e : Error) (idle : k.calls = []) (client : k.client = none) :
      Phase n id k false [(id, .error e)] [n]
  | stays (result : Except Error Reply) (idle : k.calls = []) (client : k.client = some n) :
      Phase n id k false [(id, result)] []
  | closes {c : Call} (result : Except Error Reply) (sole : k.calls = [c])
      (ended : c.ending = some .closed) (client : k.client = none) :
      Phase n id k true [(id, result)] [n]
  | closed (result : Except Error Reply) (other : CallId) (idle : k.calls = [])
      (client : k.client = none) : Phase n id k true [(id, result), (other, .ok .closed)] [n]

namespace Connection.Phase

variable {n : Nat} {id : CallId} {k : Connection} {closing : Bool} {action : Action}
  {returned : List (CallId × Except Error Reply)} {stopped : List Nat}

theorem alike (phase : k.Phase n id closing returned stopped) {f : Call → Call} {status : Status}
    (alike : ∀ c : Call, c.Alike (f c)) :
    ({ k with status := status, calls := k.calls.map f } : Connection).Phase n id closing returned
      stopped := by
  cases phase with
  | @waits c sole own running client =>
    exact .waits (c := f c) (by simp [sole]) ((alike c).id.trans own)
      ((alike c).ending.trans running) client
  | @gives c ending sole own ended goesOn client =>
    exact .gives (c := f c) (by simp [sole]) ((alike c).id.trans own) ((alike c).ending.trans ended)
      goesOn client
  | gave e idle client => exact .gave e (by simp [idle]) client
  | stays result idle client => exact .stays result (by simp [idle]) client
  | @closes c result sole ended client =>
    exact .closes (c := f c) result (by simp [sole]) ((alike c).ending.trans ended) client
  | closed result other idle client => exact .closed result other (by simp [idle]) client

theorem found {c : Call} (phase : k.Phase n id closing returned stopped)
    (found : k.call? c.id = some c) : k.calls = [c] := by
  have member := List.mem_of_find?_eq_some found
  cases phase with
  | waits sole => exact soleFound sole found
  | gives sole => exact soleFound sole found
  | gave _ idle => simp [idle] at member
  | stays _ idle => simp [idle] at member
  | closes _ sole => exact soleFound sole found
  | closed _ _ idle => simp [idle] at member

theorem running {c : Call} (phase : k.Phase n id closing returned stopped)
    (known : k.call? c.id = some c) (running : c.ending = none) :
    k.calls = [c] ∧ c.id = id ∧ k.client = some n ∧ closing = false ∧ returned = [] ∧
      stopped = [] := by
  have only := phase.found known
  cases phase with
  | waits sole own _ client =>
    cases only.symm.trans sole
    exact ⟨only, own, client, rfl, rfl, rfl⟩
  | gives sole _ ended =>
    cases only.symm.trans sole
    simp [running] at ended
  | gave _ idle => simp [idle] at only
  | stays _ idle => simp [idle] at only
  | closes _ sole ended =>
    cases only.symm.trans sole
    simp [running] at ended
  | closed _ _ idle => simp [idle] at only

theorem concludes {c : Call} {ending : Ending} (phase : k.Phase n id closing returned stopped)
    (known : k.call? c.id = some c) (ended : c.ending = some ending) :
    (k.conclude c.id ending).connection.Phase n id closing
      (returned ++ (k.conclude c.id ending).results)
      (stopped ++ (k.conclude c.id ending).stopped) := by
  have only := phase.found known
  have idle (k : Connection) (sole : k.calls = [c]) : (k.drop c.id).calls = [] := dropSole sole
  cases phase with
  | waits sole own running =>
    cases only.symm.trans sole
    simp [running] at ended
  | gives sole own given goesOn client =>
    cases only.symm.trans sole
    cases given.symm.trans ended
    cases ending with
    | closed => contradiction
    | timedOut => exact own ▸ .gave _ (idle _ only) client
    | failed e => exact own ▸ .gave e (idle _ only) client
  | gave _ none => simp [none] at only
  | stays _ none => simp [none] at only
  | closes result sole given client =>
    cases only.symm.trans sole
    cases given.symm.trans ended
    exact .closed result c.id (idle _ only) client
  | closed _ _ none => simp [none] at only

theorem next (phase : k.Phase n id closing returned stopped) (single : action.lasting = false) :
    (k.next action).connection.Phase n id closing (returned ++ (k.next action).results)
      (stopped ++ (k.next action).stopped) := by
  have steps := k.nextSteps action
  generalize k.next action = shift at steps
  cases steps with
  | kept same reported =>
    rw [show (quiet _).results = [] from rfl, show (quiet _).stopped = [] from rfl,
      List.append_nil, List.append_nil]
    exact phase.alike same
  | refused e begun lasting => simp [single] at lasting
  | attempted begun unavailable => simp [begun, Action.lasting, Command.acknowledged] at single
  | attemptFailed begun unavailable => simp [begun, Action.lasting, Command.acknowledged] at single
  | closes begun client => simp [begun, Action.lasting, Command.acknowledged] at single
  | concluded resumed known ended => exact phase.concludes known ended
  | @answered c result resumed known running connects =>
    obtain ⟨only, own, client, rfl, rfl, rfl⟩ := phase.running known running
    exact own ▸ .stays result (dropSole (k := { k with connecting := none }) only) client
  | @stopped c ending resumed known running goesOn =>
    obtain ⟨only, own, client, rfl, rfl, rfl⟩ := phase.running known running
    rw [stop, client]
    exact .gives (c := { c with ending := some ending }) (by simp [change, only]) own rfl goesOn rfl

theorem run {actions : List Action} (phase : k.Phase n id closing returned stopped)
    (single : ∀ action ∈ actions, action.lasting = false) :
    (k.run actions).connection.Phase n id closing (returned ++ (k.run actions).results)
      (stopped ++ (k.run actions).stopped) := by
  induction actions generalizing k returned stopped with
  | nil =>
    rw [Connection.run, show k.quiet.results = [] from rfl, show k.quiet.stopped = [] from rfl,
      List.append_nil, List.append_nil]
    exact phase
  | cons action rest ih =>
    obtain ⟨here, others⟩ := List.forall_mem_cons.mp single
    have later := ih (phase.next here) others
    rw [List.append_assoc, List.append_assoc] at later
    exact later

theorem begins (id : CallId) (unavailable : k.client = none) (idle : k.calls = [])
    (answer : Broker.Answer) :
    let shift := k.next (.begin id .connect answer)
    shift.connection.Phase k.created id false shift.results shift.stopped := by
  have failing (e : Error) :
      ((k.attempt id .open).stop id (.failed e)).connection.Phase k.created id false
        ((k.attempt id .open).stop id (.failed e)).results
        ((k.attempt id .open).stop id (.failed e)).stopped := by
    rw [stop, attempt]
    exact .gives (c := ⟨id, .connect, none, .open, false, some (.failed e)⟩)
      (by simp [change, idle]) rfl rfl (by simp) rfl
  rw [Connection.next, connect, unavailable]
  cases answer.connectError with
  | some text => exact failing _
  | none =>
    cases k.options.patience.fault? with
    | some e => exact failing e
    | none =>
      let c : Call := ⟨id, .connect, none, k.options.patience.future, false, none⟩
      exact .waits (c := c) (by simp [c, attempt, quiet, idle]) rfl rfl rfl

theorem ends (id other : CallId) (result : Except Error Reply) (client : k.client = some n)
    (idle : k.calls = []) (answer : Broker.Answer) :
    let shift := k.next (.begin other .close answer)
    shift.connection.Phase n id true ([(id, result)] ++ shift.results) ([] ++ shift.stopped) := by
  have moved : k.next (.begin other .close answer) =
      { connection := { k with
          client := none
          closing := true
          calls := [{ id := other, purpose := .close, ending := some .closed }] }
        stopped := [n] } := by
    simp [Connection.next, close, client, stop, change, idle]
  rw [moved]
  exact .closes (c := ⟨other, .close, none, .open, false, some .closed⟩) result rfl rfl rfl

theorem connected {reply : Reply} (phase : k.Phase n id false returned stopped)
    (connected : (id, .ok reply) ∈ returned) :
    returned = [(id, .ok reply)] ∧ k.calls = [] ∧ k.client = some n ∧ stopped = [] := by
  cases phase with
  | waits => contradiction
  | gives => contradiction
  | gave e => simp at connected
  | stays result idle client =>
    cases List.mem_singleton.mp connected
    exact ⟨rfl, idle, client, rfl⟩

theorem finishes {other : CallId} {result : Except Error Reply}
    (phase : k.Phase n id true returned stopped) (returns : (other, result) ∈ returned)
    (apart : other ≠ id) : result = .ok .closed ∧ k.client = none ∧ stopped = [n] := by
  cases phase with
  | closes first =>
    cases List.mem_singleton.mp returns
    exact absurd rfl apart
  | closed first call idle client =>
    rcases List.mem_cons.mp returns with same | same
    · cases same
      exact absurd rfl apart
    · cases List.mem_singleton.mp same
      exact ⟨rfl, client, rfl⟩

end Connection.Phase

section closing

variable {s : State} {id other : CallId} {answer again : Broker.Answer}

theorem distinctFront {front back : List Action} (distinct : (begun (front ++ back)).Nodup) :
    (begun front).Nodup :=
  distinct.sublist (by rw [begunAppend]; exact List.sublist_append_left ..)

theorem Shift.returned {shift : Shift} {result : Except Error Reply}
    {later : List (Except Error Reply)} (returns : shift.resultsOf id = result :: later) :
    (id, result) ∈ shift.results := by
  have member : result ∈ shift.resultsOf id := returns ▸ List.mem_cons_self
  obtain ⟨⟨call, other⟩, inside, same⟩ := List.mem_filterMap.mp member
  simp only [Option.ite_none_right_eq_some, Option.some.injEq] at same
  exact same.1 ▸ same.2 ▸ inside

theorem connectedStays (new : s.New) {front back : List Action} {reply : Reply}
    {later : List (Except Error Reply)}
    (distinct : (begun (.begin id .connect answer :: (front ++ back))).Nodup)
    (single : ∀ action ∈ front ++ back, action.lasting = false)
    (connected : (run s (.begin id .connect answer :: front)).resultsOf id = .ok reply :: later) :
    let shift := s.connection.run (.begin id .connect answer :: (front ++ back))
    shift.results = [(id, .ok reply)] ∧ shift.connection.calls = [] ∧
      shift.connection.client = some s.created ∧ shift.stopped = [] := by
  have early : (begun (.begin id .connect answer :: front)).Nodup := by
    rw [← List.cons_append] at distinct
    exact distinctFront distinct
  rw [State.courseResults new early rfl List.mem_cons_self] at connected
  have first : (id, .ok reply) ∈ (s.connection.run (.begin id .connect answer :: front)).results :=
    Shift.returned connected
  have opened := Connection.Phase.begins id new.client (State.newIdle new) answer
  refine (opened.run single).connected ?_
  change _ ∈ (s.connection.run (.begin id .connect answer :: front ++ back)).results
  rw [Connection.runAppend]
  exact List.mem_append_left _ first

theorem closedReturns (new : s.New) {front middle back : List Action} {reply : Reply}
    {result : Except Error Reply} {returned later : List (Except Error Reply)}
    (distinct : (begun (.begin id .connect answer :: (front ++ middle) ++
      .begin other .close again :: back)).Nodup)
    (single : ∀ action ∈ front ++ middle, action.lasting = false)
    (singleBack : ∀ action ∈ back, action.lasting = false)
    (connected : (run s (.begin id .connect answer :: front)).resultsOf id =
      .ok reply :: returned) :
    let t := run s
      (.begin id .connect answer :: (front ++ middle) ++ .begin other .close again :: back)
    t.resultsOf other = result :: later →
      result = .ok .closed ∧ t.state.isAvailable = false ∧ t.stopped = [s.created] := by
  intro t returns
  have apart : other ≠ id := by
    rintro rfl
    rw [begunAppend, List.nodup_append] at distinct
    exact distinct.2.2 other List.mem_cons_self other List.mem_cons_self rfl
  obtain ⟨first, idle, client, running⟩ :=
    connectedStays new (distinctFront distinct) single connected
  have closes := (Connection.Phase.ends id other (.ok reply) client idle again).run singleBack
  obtain ⟨connection, stopped, -⟩ := runAccords new.consistent (new.numbered distinct)
  have member : .begin other .close again ∈ .begin id .connect answer :: (front ++ middle) ++
      .begin other .close again :: back := by simp
  rw [State.courseResults new distinct rfl member] at returns
  have last := Shift.returned returns
  rw [Connection.runAppend] at connection stopped last
  rw [← first, ← running] at closes
  simp only [List.append_assoc] at closes
  obtain ⟨closed, unavailable, all⟩ := closes.finishes last apart
  refine ⟨closed, State.unavailableClient.mpr ?_, stopped.trans all⟩
  rw [← unavailable]
  exact congrArg Connection.client connection

end closing

theorem setPatternsKeeps (s : State) (patterns : Dict) :
    ∃ router, (setPatterns s patterns).1.state = { s with router := router } := by
  induction patterns generalizing s with
  | nil => exact ⟨s.router, rfl⟩
  | cons entry rest ih =>
    rw [setPatterns]
    split
    · exact ⟨s.router, rfl⟩
    · split
      · exact ⟨s.router, rfl⟩
      · rename_i routed
        obtain ⟨⟨_, router, _⟩, _, same⟩ := bindOk.mp routed
        cases same
        exact ih { s with router := router }

theorem builtFrom {c : Config} {given : Setup} {givesMore : Bool} {env : Environment}
    {generated : Text} {t : Turn} (built : ofConfig c given givesMore env generated = .ok t) :
    ∃ (setup : Setup) (s : State), setup.create env generated = .ok s ∧
      setPatterns s c.patterns = (t, .ok ()) ∧
      setup.timeout = given.timeout ∧ setup.router = given.router := by
  obtain ⟨⟨turn, result⟩, made, set⟩ := bindOk.mp built
  cases result with
  | error e => contradiction
  | ok =>
    cases set
    obtain ⟨problems, _, made⟩ := bindOk.mp made
    split at made
    · contradiction
    · obtain ⟨logger, _, made⟩ := bindOk.mp made
      split at made
      · contradiction
      · obtain ⟨s, created, same⟩ := bindOk.mp made
        exact ⟨_, s, created, Except.ok.inj same, rfl, rfl⟩

theorem builtNew {c : Config} {given : Setup} {givesMore : Bool} {env : Environment}
    {generated : Text} {t : Turn} (built : ofConfig c given givesMore env generated = .ok t) :
    t.state.New := by
  obtain ⟨setup, s, created, set, -, -⟩ := builtFrom built
  obtain ⟨router, same⟩ := setPatternsKeeps s c.patterns
  obtain ⟨calls, pending, connecting, client, closing, status⟩ := createdNew created
  rw [set] at same
  rw [same]
  exact ⟨calls, pending, connecting, client, closing, status⟩

def Action.closes : Action → Bool
  | .begin _ .close _ => true
  | _ => false

theorem singleCloses {action : Action} (single : action.lasting = false) :
    action.closes = false := by
  cases action with
  | begin id command answer =>
    cases command with
    | close => simp [Action.lasting, Command.acknowledged] at single
    | _ => rfl
  | _ => rfl

end TopicRouting.Bus

namespace TopicRouting.Startup
open Bus (Action CallId Command)

/- How a call of a start goes: what the client answers to it at once, and all that the bus does
besides until the start goes on. -/
structure Stretch where
  id : CallId
  answer : Broker.Answer
  during : List Action

/- What a start meets with: its bus, how each of its calls goes, what the bus does while the server
runs, and how the server ends. -/
structure World where
  bus : Bus.State
  stretch : Nat → Stretch
  serving : List Action
  failure : Option Error

/- How far a start has come, with all that its bus has done. What is done after a call that has not
returned is of no account. -/
structure Course where
  actions : List Action := []
  made : Nat := 0
  isAttached : Bool := false
  hasServed : Bool := false
  isStuck : Bool := false

theorem failsWith {result : Except Error Unit} {e : BusError}
    (fails : (match result with | .error (.bus e) => some e | _ => none) = some e) :
    result = .error (.bus e) := by
  split at fails
  · rw [Option.some.inj fails]
  · contradiction

theorem serveConnected {σ : Type} {o : Operations σ} {s : σ} (connects : (o.connect s).1 = .ok ())
    (after : σ) :
    let connected := o.attach (o.connect s).2
    let subscribed := o.subscribeAll (o.labels connected) connected
    (subscribed = (.ok (), after) → o.serve s = o.runAndClose after) ∧
      ∀ e, subscribed = (.error e, after) → o.serve s = (.error e, after) := by
  intro connected subscribed
  have made : o.connect s = (.ok (), (o.connect s).2) := Prod.ext connects rfl
  have stands : o.subscribeAll (o.labels (o.attach (o.connect s).2)) (o.attach (o.connect s).2) =
    subscribed := rfl
  rw [Operations.serve, made]
  dsimp only
  rw [stands]
  exact ⟨fun all => by rw [all], fun e fails => by rw [fails]⟩

namespace World

def turn (w : World) (c : Course) : Bus.Turn := Bus.run w.bus c.actions

def begin (w : World) (command : Command) (c : Course) : Course :=
  let stretch := w.stretch c.made
  { c with
    actions := c.actions ++ .begin stretch.id command stretch.answer :: stretch.during
    made := c.made + 1 }

def call (w : World) (command : Command) (c : Course) : Except Error Unit × Course :=
  match (w.turn (w.begin command c)).resultsOf (w.stretch c.made).id with
  | [] => (.ok (), { w.begin command c with isStuck := true })
  | result :: _ => (result.map fun _ => (), w.begin command c)

def ended (w : World) : Except Error Unit :=
  match w.failure with
  | some e => .error e
  | none => .ok ()

def operations (w : World) : Operations Course where
  connect := w.call .connect
  attach c := { c with isAttached := true }
  labels c := (w.turn c).state.router.labels
  subscribe label := w.call (.subscribe label none)
  run c := (w.ended, { c with actions := c.actions ++ w.serving, hasServed := true })
  close := w.call .close

structure Alone (w : World) : Prop where
  calls : ∀ n, ∀ action ∈ (w.stretch n).during, action.lasting = false
  serving : ∀ action ∈ w.serving, action.lasting = false

section calls

variable {w : World} {c : Course} {command : Command}

theorem callReturns (goesOn : (w.call command c).2.isStuck = false) :
    (w.call command c).2 = w.begin command c ∧ c.isStuck = false ∧ ∃ result later,
      (w.turn (w.begin command c)).resultsOf (w.stretch c.made).id = result :: later ∧
      (w.call command c).1 = result.map fun _ => () := by
  rw [call] at goesOn ⊢
  split at goesOn
  · contradiction
  · rename_i result later returned
    rw [returned]
    exact ⟨rfl, goesOn, result, later, rfl, rfl⟩

theorem callServes (command : Command) (c : Course) :
    (w.call command c).2.hasServed = c.hasServed := by
  rw [call]
  split <;> rfl

structure Adds (c after : Course) : Prop where
  actions : ∃ added, after.actions = c.actions ++ added ∧ ∀ action ∈ added, action.lasting = false
  hasServed : after.hasServed = c.hasServed
  goesOn : after.isStuck = false → c.isStuck = false

theorem Adds.refl (c : Course) : Adds c c := ⟨⟨[], by simp, by simp⟩, rfl, id⟩

theorem Adds.trans {between after : Course} (first : Adds c between) (later : Adds between after) :
    Adds c after := by
  obtain ⟨⟨added, same, single⟩, served, goesOn⟩ := first
  obtain ⟨⟨more, also, others⟩, stillServed, stillGoesOn⟩ := later
  refine ⟨⟨added ++ more, by rw [also, same, List.append_assoc], ?_⟩, stillServed.trans served,
    fun on => goesOn (stillGoesOn on)⟩
  exact List.forall_mem_append.mpr ⟨single, others⟩

theorem callAdds (alone : w.Alone) (asks : command.acknowledged = true) (c : Course) :
    Adds c (w.call command c).2 := by
  have begun : Adds c (w.begin command c) := by
    refine ⟨⟨_, rfl, List.forall_mem_cons.mpr ⟨?_, alone.calls c.made⟩⟩, rfl, id⟩
    simp [Action.lasting, asks]
  rw [call]
  split
  · exact ⟨begun.actions, begun.hasServed, fun stuck => Bool.noConfusion stuck⟩
  · exact begun

theorem subscribeAllAdds (alone : w.Alone) (labels : List Label) (c : Course) :
    Adds c (w.operations.subscribeAll labels c).2 := by
  induction labels generalizing c with
  | nil => exact .refl c
  | cons label labels ih =>
    have first : Adds c (w.operations.subscribe label c).2 := callAdds alone rfl c
    rw [Operations.subscribeAll]
    split
    · rename_i after subscribed
      rw [subscribed] at first
      exact first.trans (ih after)
    · exact first

end calls

def Serves (w : World) (c : Config) (env : Environment) (generated : Text) : Prop :=
  ∃ turn metrics, Bus.ofConfig c { url := .null } false env generated = .ok turn ∧
    w.bus = { turn.state with metrics := metrics }

section starting

variable {w : World} {config : Config} {env : Environment} {generated : Text}

theorem servesBuilt {turn : Bus.Turn}
    (built : Bus.ofConfig config { url := .null } false env generated = .ok turn)
    (same : w.bus = turn.state) : w.Serves config env generated :=
  ⟨turn, turn.state.metrics, built, same⟩

theorem Serves.new (serves : w.Serves config env generated) : w.bus.New := by
  obtain ⟨turn, metrics, built, same⟩ := serves
  obtain ⟨calls, pending, connecting, client, closing, status⟩ := Bus.builtNew built
  rw [same]
  exact ⟨calls, pending, connecting, client, closing, status⟩

structure Connected (w : World) (since : List Action) (c : Course) : Prop where
  actions : c.actions = .begin (w.stretch 0).id .connect (w.stretch 0).answer ::
    ((w.stretch 0).during ++ since)
  single : ∀ action ∈ (w.stretch 0).during ++ since, action.lasting = false
  answered : ∃ reply later, (Bus.run w.bus (.begin (w.stretch 0).id .connect
    (w.stretch 0).answer :: (w.stretch 0).during)).resultsOf (w.stretch 0).id = .ok reply :: later

theorem connectsFirst (alone : w.Alone) (connects : (w.operations.connect {}).1 = .ok ())
    (goesOn : (w.operations.connect {}).2.isStuck = false) :
    w.Connected [] (w.operations.attach (w.operations.connect {}).2) := by
  obtain ⟨same, -, result, later, returned, told⟩ := callReturns goesOn
  have connected := told.symm.trans connects
  have whole : (w.operations.attach (w.operations.connect {}).2).actions =
      (w.begin .connect {}).actions := by
    rw [← same]
    rfl
  refine ⟨by rw [whole, List.append_nil]; rfl, by simpa using alone.calls 0, ?_⟩
  cases result with
  | error e => contradiction
  | ok reply => exact ⟨reply, later, returned⟩

theorem Connected.then {since added : List Action} {c after : Course}
    (connected : w.Connected since c) (actions : after.actions = c.actions ++ added)
    (single : ∀ action ∈ added, action.lasting = false) :
    w.Connected (since ++ added) after where
  actions := by rw [actions, connected.actions, List.cons_append, List.append_assoc]
  single := by
    rw [← List.append_assoc]
    exact List.forall_mem_append.mpr ⟨connected.single, single⟩
  answered := connected.answered

theorem Connected.stays {since : List Action} {c : Course} (connected : w.Connected since c)
    (new : w.bus.New) (distinct : (Bus.begun c.actions).Nodup) :
    (w.turn c).state.client = some w.bus.created ∧ (w.turn c).stopped = [] ∧
      c.actions.countP Action.closes = 0 := by
  obtain ⟨reply, later, answered⟩ := connected.answered
  have accords := Bus.runAccords new.consistent (new.numbered distinct)
  rw [connected.actions] at distinct
  obtain ⟨-, -, client, running⟩ := Bus.connectedStays new distinct connected.single answered
  rw [← connected.actions] at client running
  refine ⟨(congrArg Bus.Connection.client accords.1).trans client, accords.2.1.trans running, ?_⟩
  rw [connected.actions, List.countP_cons_of_neg (by simp [Action.closes])]
  exact List.countP_eq_zero.mpr fun action member => by
    simp [Bus.singleCloses (connected.single action member)]

theorem Connected.closes {since : List Action} {c : Course} (connected : w.Connected since c)
    (alone : w.Alone) (new : w.bus.New)
    (distinct : (Bus.begun (w.call .close c).2.actions).Nodup)
    (goesOn : (w.call .close c).2.isStuck = false) :
    (w.call .close c).1 = .ok () ∧ (w.call .close c).2.hasServed = c.hasServed ∧
      (w.call .close c).2.actions.countP Action.closes = 1 ∧
      (w.turn (w.call .close c).2).state.isAvailable = false ∧
      (w.turn (w.call .close c).2).stopped = [w.bus.created] := by
  obtain ⟨same, -, result, later, returned, told⟩ := callReturns goesOn
  obtain ⟨reply, others, answered⟩ := connected.answered
  rw [same] at distinct ⊢
  have unclosed := (connected.stays new (Bus.distinctFront distinct)).2.2
  have whole : (w.begin .close c).actions =
      .begin (w.stretch 0).id .connect (w.stretch 0).answer :: ((w.stretch 0).during ++ since) ++
        .begin (w.stretch c.made).id .close (w.stretch c.made).answer ::
          (w.stretch c.made).during := by
    rw [← connected.actions]
    rfl
  rw [turn, whole] at returned
  have closing := Bus.closedReturns new (whole ▸ distinct) connected.single (alone.calls c.made)
    answered returned
  rw [← whole] at closing
  refine ⟨by rw [told, closing.1]; rfl, rfl, ?_, closing.2⟩
  have single : (w.stretch c.made).during.countP Action.closes = 0 :=
    List.countP_eq_zero.mpr fun action member => by
      simp [Bus.singleCloses (alone.calls c.made action member)]
  rw [begin, List.countP_append, unclosed, List.countP_cons_of_pos rfl, single]

theorem closingGoesOn {c : Course} (goesOn : (w.operations.runAndClose c).2.isStuck = false) :
    c.isStuck = false := by
  obtain ⟨-, before, -⟩ := callReturns goesOn
  exact before

theorem closingAdds (w : World) (c : Course) :
    ∃ rest, (w.operations.runAndClose c).2.actions = c.actions ++ rest := by
  let served : Course := { c with actions := c.actions ++ w.serving, hasServed := true }
  have added : (w.call .close served).2.actions = (w.begin .close served).actions := by
    rw [call]
    split <;> rfl
  exact ⟨_, added.trans (List.append_assoc ..)⟩

theorem Connected.serves {since : List Action} {c : Course} (connected : w.Connected since c)
    (alone : w.Alone) (new : w.bus.New)
    (distinct : (Bus.begun (w.operations.runAndClose c).2.actions).Nodup)
    (goesOn : (w.operations.runAndClose c).2.isStuck = false) :
    (w.operations.runAndClose c).1 = w.ended ∧ (w.operations.runAndClose c).2.hasServed = true ∧
      (w.operations.runAndClose c).2.actions.countP Action.closes = 1 ∧
      (w.turn (w.operations.runAndClose c).2).state.isAvailable = false ∧
      (w.turn (w.operations.runAndClose c).2).stopped = [w.bus.created] := by
  let served : Course := { c with actions := c.actions ++ w.serving, hasServed := true }
  have whole : w.operations.runAndClose c =
      ((w.call .close served).1.bind fun _ => w.ended, (w.call .close served).2) := rfl
  rw [whole] at distinct goesOn ⊢
  have serving : w.Connected _ served := connected.then rfl alone.serving
  obtain ⟨closed, left⟩ := serving.closes alone new distinct goesOn
  rw [closed]
  exact ⟨rfl, left⟩

/- What a start makes of its bus, and how the bus is left: it is closed, and closed once, just if
all labels have been subscribed. Where one of them fails, nothing closes it. -/
theorem closedUnlessSubscribingFails (serves : w.Serves config env generated) (alone : w.Alone)
    (connects : (w.operations.connect {}).1 = .ok ())
    (numbered : (Bus.begun (w.operations.serve {}).2.actions).Nodup)
    (returns : (w.operations.serve {}).2.isStuck = false) :
    let connected := w.operations.attach (w.operations.connect {}).2
    let subscribed := (w.operations.subscribeAll (w.operations.labels connected) connected).1
    let result := (w.operations.serve {}).1
    let c := (w.operations.serve {}).2
    ∃ n, (w.turn connected).state.client = some n ∧
      (subscribed = .ok () → result = w.ended ∧ c.hasServed = true ∧
        c.actions.countP Action.closes = 1 ∧ (w.turn c).state.isAvailable = false ∧
        (w.turn c).stopped = [n]) ∧
      ∀ e, subscribed = .error e → result = .error e ∧ c.hasServed = false ∧
        c.actions.countP Action.closes = 0 ∧ (w.turn c).state.client = some n ∧
        (w.turn c).stopped = [] := by
  intro connected subscribed result c
  have new := serves.new
  obtain ⟨reached, subscribes⟩ : ∃ reached, w.operations.subscribeAll
      (w.operations.labels connected) connected = (subscribed, reached) := ⟨_, rfl⟩
  obtain ⟨allMade, failMade⟩ := serveConnected connects reached
  have added : Adds connected reached := by
    have adds := subscribeAllAdds alone (w.operations.labels connected) connected
    rwa [subscribes] at adds
  obtain ⟨front, actions, single⟩ := added.actions
  have opened (goesOn : reached.isStuck = false) : w.Connected [] connected :=
    connectsFirst alone connects (added.goesOn goesOn)
  have early (distinct : (Bus.begun reached.actions).Nodup) :
      (Bus.begun connected.actions).Nodup := Bus.distinctFront (actions ▸ distinct)
  cases told : subscribed with
  | error e =>
    rw [told] at subscribes
    have made := failMade e subscribes
    rw [made] at returns numbered
    have start := opened returns
    refine ⟨w.bus.created, (start.stays new (early numbered)).1, nofun, fun other same => ?_⟩
    cases same
    obtain ⟨client, running, unclosed⟩ := (start.then actions single).stays new numbered
    simp only [result, c, made]
    exact ⟨trivial, added.hasServed.trans (callServes .connect {}), unclosed, client, running⟩
  | ok =>
    rw [told] at subscribes
    have made := allMade subscribes
    rw [made] at returns numbered
    have start := opened (closingGoesOn returns)
    obtain ⟨rest, whole⟩ := closingAdds w reached
    have before : (Bus.begun reached.actions).Nodup := Bus.distinctFront (whole ▸ numbered)
    refine ⟨w.bus.created, (start.stays new (early before)).1, fun _ => ?_, nofun⟩
    simp only [result, c, made]
    exact (start.then actions single).serves alone new numbered returns

theorem refusedLeavesConnected :
    let config : Config := (Config.set ⟨"topicbus.yaml", Config.defaults⟩ (.text "patterns")
      (.text "a") (.text "x/+id")).set (.text "patterns") (.text "b") (.text "y")
    ∃ turn, Bus.ofConfig config { url := .null } false [] "served" = .ok turn ∧
      let w : World :=
        { bus := turn.state
          stretch := fun
            | 0 => ⟨0, {}, [.handle (.connected (.code 0)), .resume 0]⟩
            | 1 => ⟨1, { message := 1 }, [.handle (.acknowledged 1 none), .resume 1]⟩
            | _ => ⟨2, { code := 1 }, []⟩
          serving := []
          failure := none }
      (w.Serves config [] "served" ∧ w.Alone ∧ (w.operations.connect {}).1 = .ok () ∧
        (Bus.begun (w.operations.serve {}).2.actions).Nodup ∧
        (w.operations.serve {}).2.isStuck = false) ∧
      (w.operations.serve {}).1 = .error (.bus (.requestFailed .subscribe 1)) ∧
      (w.operations.serve {}).2.hasServed = false ∧
      (w.operations.serve {}).2.actions.countP Action.closes = 0 ∧
      (w.turn (w.operations.serve {}).2).state.client = some 0 ∧
      (w.turn (w.operations.serve {}).2).stopped = [] := by
  intro config
  refine ⟨_, rfl, ?_⟩
  intro w
  have serves : w.Serves config [] "served" := servesBuilt rfl rfl
  have alone : w.Alone := by
    constructor
    · intro n
      match n with
      | 0 => simp [w, Action.lasting]
      | 1 => simp [w, Action.lasting]
      | n + 2 => simp [w]
    · simp [w]
  have connects : (w.operations.connect {}).1 = .ok () := rfl
  have numbered : (Bus.begun (w.operations.serve {}).2.actions).Nodup := by decide +kernel
  have returns : (w.operations.serve {}).2.isStuck = false := by decide +kernel
  have first : (w.turn (w.operations.attach (w.operations.connect {}).2)).state.client =
      some 0 := by decide +kernel
  obtain ⟨n, client, -, fails⟩ :=
    closedUnlessSubscribingFails serves alone connects numbered returns
  cases first.symm.trans client
  have left := fails _ (failsWith (e := .requestFailed .subscribe 1) (by decide +kernel))
  exact ⟨⟨serves, alone, connects, numbered, returns⟩, left⟩

end starting

end World
end TopicRouting.Startup
