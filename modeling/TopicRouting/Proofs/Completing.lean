import TopicRouting.Proofs.Asking
import TopicRouting.Proofs.Resting

/-! A call by itself, from its beginning until it has returned. An error leaves the topics and the
client as they were; without one the call has done what it is for, and nothing else. -/
namespace TopicRouting.Bus

/- What may come while a call is under way by itself: no other call, no message for a listener, and
nothing that the router is asked for. Nor does a client tell that it has published what it was asked
to subscribe to. -/
def Action.attends (answer : Broker.Answer) : Command → Action → Bool
  | _, .begin .. | _, .route _ | _, .deliver .. => false
  | .subscribe .., .handle (.published message _) => message != answer.message
  | _, _ => true

namespace State

/- What has become of a bus by a call, and what the call has returned. -/
inductive Outcome (u : State) (command : Command) (v : State) : List (Except Error Reply) → Prop
  | failed (e : Error) (topics : v.subscriptions = u.subscriptions) (client : v.client = u.client) :
      u.Outcome command v [.error e]
  | connected (reply : Reply) (connects : command = .connect) (topics : v.subscriptions = []) :
      u.Outcome command v [.ok reply]
  | closed (reply : Reply) (closes : command = .close) (topics : v.subscriptions = [])
      (client : v.client = none) : u.Outcome command v [.ok reply]
  | granted {purpose : Purpose} (reply : Reply) (available : u.isAvailable = true)
      (intends : u.Intends command purpose)
      (topics : v.subscriptions = (u.written purpose).subscriptions)
      (client : v.client = u.client) : u.Outcome command v [.ok reply]

structure Unasked (v : State) : Prop where
  only : ∀ c ∈ v.calls, c.purpose.acknowledged = false
  pending : v.pending = []

inductive Progress (u : State) (id : CallId) (command : Command) (message : Int) (v : State)
    (told : CallId → List (Except Error Reply)) : Prop
  | waits {c : Call} (sole : v.Sole c message) (own : c.id = id) (available : u.isAvailable = true)
      (intends : u.Intends command c.purpose) (content : v.content = u.content)
      (client : v.client = u.client)
      (granted : ∀ answer, c.future = .settled (.ok answer) → ∀ label qos,
        command = .subscribe label qos → ∃ codes, grantedCodes answer = .ok codes)
      (silent : told id = [])
  | connects {since : List Action} (connects : command = .connect) (unasked : v.Unasked)
      (busy : v.connection.calls ≠ []) (passive : ∀ action ∈ since, action.begun? = none)
      (tells : v.connection.Tells u.options u.settings id since told)
      (unavailable : u.client = none) (none : u.subscriptions = []) (topics : v.subscriptions = [])
  | closes {c : Call} (closes : command = .close) (unasked : v.Unasked)
      (sole : v.connection.calls = [c]) (own : c.id = id) (ended : c.ending = some .closed)
      (client : v.client = none) (silent : told id = [])
  | finished (idle : v.calls = []) (pending : v.pending = []) (outcome : u.Outcome command v (told id))

variable {u v : State} {id : CallId} {command : Command} {action : Action}
  {answer : Broker.Answer} {told : CallId → List (Except Error Reply)}

theorem attendsBegun (attends : action.attends answer command = true) : action.begun? = none := by
  cases action with
  | begin id command answer => simp [Action.attends] at attends
  | _ => rfl

theorem unbegunAsks (begun : action.begun? = none) : action.asks? = none := by
  cases action with
  | begin id command answer => contradiction
  | _ => rfl

theorem Unasked.connectionCalls (unasked : v.Unasked) : v.connection.calls = v.calls :=
  List.filter_eq_self.mpr fun c member => by simp [unasked.only c member]

theorem Unasked.asks (unasked : v.Unasked) (id : CallId) : ¬ v.Asks id := by
  rintro ⟨c, member, _, asks⟩
  simp [unasked.only c member] at asks

theorem Unasked.descends {t : State} (unasked : v.Unasked) (descends : v.Descends t) :
    t.Unasked where
  only := by
    intro c member
    obtain ⟨old, inside, _, purpose, _⟩ := descends.calls c member
    rw [purpose]
    exact unasked.only old inside
  pending := by
    refine List.eq_nil_iff_forall_not_mem.mpr fun entry member => ?_
    have before := descends.pending entry member
    rw [unasked.pending] at before
    contradiction

theorem Unasked.adds {t : State} {c : Call} (unasked : v.Unasked) (adds : v.Adds t c)
    (lasting : c.purpose.acknowledged = false) : t.Unasked where
  only := by
    rw [adds.calls]
    exact List.forall_mem_append.mpr ⟨unasked.only, by simpa using lasting⟩
  pending := by
    refine List.eq_nil_iff_forall_not_mem.mpr fun entry member => ?_
    rcases adds.pending entry member with before | ⟨_, asks⟩
    · rw [unasked.pending] at before
      contradiction
    · rw [lasting] at asks
      contradiction

theorem Unasked.next (unasked : v.Unasked) (consistent : v.Consistent)
    (fresh : ∀ id, action.begun? = some id → ¬ v.Uses id) (lasting : action.asks? = none) :
    let t := step v action
    t.state.Unasked ∧ t.state.connection = (v.connection.next action).connection ∧
      ∀ id, t.resultsOf id = (v.connection.next action).resultsOf id := by
  intro t
  have accords := stepAccords consistent fresh
  have unbegun (id : CallId) : action.asks? ≠ some id := by simp [lasting]
  refine ⟨?_, accords.connection, fun id => accords.results id (unasked.asks id) (unbegun id)⟩
  cases begun : action.begun? with
  | none => exact unasked.descends (stepDescends consistent begun)
  | some id =>
    cases action with
    | begin id command answer =>
      have apart : ∀ c ∈ v.calls, c.id ≠ id :=
        fun c member same => fresh id rfl (.inl ⟨c, member, same⟩)
      rcases beginBegins apart command answer with descends | ⟨c, _, kind, adds⟩
      · exact unasked.descends descends
      · refine unasked.adds adds ?_
        rw [kind]
        simpa [Action.asks?] using lasting
    | _ => contradiction

theorem restKeeps (consistent : v.Consistent) (idle : v.calls = []) (pending : v.pending = [])
    (begun : action.begun? = none) :
    let t := step v action
    t.state.calls = [] ∧ t.state.pending = [] ∧ t.state.subscriptions = v.subscriptions ∧
      t.state.client = v.client ∧ ∀ id, t.resultsOf id = [] := by
  intro t
  have unasked : v.Unasked := ⟨by simp [idle], pending⟩
  have free : v.connection.calls = [] := unasked.connectionCalls.trans idle
  obtain ⟨after, connection, results⟩ :=
    unasked.next consistent (unbegunFresh begun) (unbegunAsks begun)
  obtain ⟨calls, client, silent⟩ := Connection.idleRests free begun
  refine ⟨?_, after.pending, ?_, ?_, fun id => (results id).trans (silent id)⟩
  · rw [← after.connectionCalls, connection, calls]
  · have unknown {c : Call} (found : v.call? c.id = some c) : False := by
      simp [call?, idle] at found
    cases stepWrites v action with
    | kept same => exact congrArg Prod.fst same
    | answered _ found _ _ _ => exact (unknown found).elim
    | cleared _ found _ _ => exact (unknown found).elim
  · exact (congrArg Connection.client connection).trans client

theorem Sole.proceeds {c : Call} {message : Int} (sole : v.Sole c message)
    (attends : action.attends answer command = true) :
    v.Proceeds c message action (step v action) := by
  cases action with
  | begin id command answer => simp [Action.attends] at attends
  | route command => simp [Action.attends] at attends
  | resume id => exact sole.resumeProceeds id
  | expire id => exact sole.expireProceeds id
  | handle signal => exact sole.handleProceeds signal
  | deliver m behaviour => simp [Action.attends] at attends

theorem heardGranted {signal : Broker.Signal}
    (attends : (Action.handle signal).attends answer command = true) {label : Label}
    {qos : Option Value} (subscribes : command = .subscribe label qos) {reply : Answer}
    (heard : answerTo answer.message signal = some (.ok reply)) :
    ∃ codes, grantedCodes reply = .ok codes := by
  subst subscribes
  cases signal with
  | acknowledged m reasons =>
    rw [answerTo] at heard
    split at heard
    · have granted : acknowledgement reasons = .ok reply := Option.some.inj heard
      rw [acknowledgement] at granted
      split at granted
      · cases granted
        exact ⟨_, rfl⟩
      · contradiction
    · contradiction
  | published m reason =>
    have other : m ≠ answer.message := by simpa [Action.attends] using attends
    rw [answerTo, if_neg other] at heard
    contradiction
  | _ => contradiction

theorem Outcome.still {t : State} {returned : List (Except Error Reply)}
    (outcome : u.Outcome command v returned) (topics : t.subscriptions = v.subscriptions)
    (client : t.client = v.client) : u.Outcome command t returned := by
  cases outcome with
  | failed e same stays => exact .failed e (topics.trans same) (client.trans stays)
  | connected reply connects none => exact .connected reply connects (topics.trans none)
  | closed reply closes none absent =>
    exact .closed reply closes (topics.trans none) (client.trans absent)
  | granted reply available intends written stays =>
    exact .granted reply available intends (topics.trans written) (client.trans stays)

namespace Progress

theorem waitsNext {c : Call} (sole : v.Sole c answer.message) (own : c.id = id)
    (available : u.isAvailable = true) (intends : u.Intends command c.purpose)
    (content : v.content = u.content) (client : v.client = u.client)
    (granted : ∀ reply, c.future = .settled (.ok reply) → ∀ label qos,
      command = .subscribe label qos → ∃ codes, grantedCodes reply = .ok codes)
    (silent : told id = []) (attends : action.attends answer command = true) :
    let t := step v action
    u.Progress id command answer.message t.state fun call => told call ++ t.resultsOf call := by
  intro t
  have topics : v.subscriptions = u.subscriptions := congrArg (·.1.1) content
  have stays : t.state.client = u.client := (sole.clientStays (attendsBegun attends)).trans client
  have returned {result : Except Error Reply} (results : t.results = [(c.id, result)]) :
      told id ++ t.resultsOf id = [result] := by
    rw [silent, Turn.resultsOf, results]
    simp [own]
  cases sole.proceeds attends with
  | @waits after still same purpose kept future results =>
    refine .waits still (same.trans own) available (purpose ▸ intends) (kept.trans content) stays
      ?_ ?_
    · intro reply settled label qos subscribes
      rcases future with same | cancelled | ⟨signal, heard, rfl, answers, same⟩
      · exact granted reply (same ▸ settled) label qos subscribes
      · rw [cancelled] at settled
        contradiction
      · cases same.symm.trans settled
        exact heardGranted attends subscribes answers
    · rw [silent, Turn.resultsOfNone results]
      rfl
  | fails calls pending kept results =>
    refine .finished calls pending ?_
    rw [returned results]
    exact .failed _ ((congrArg (·.1.1) kept).trans topics) stays
  | @completes reply settled turn =>
    obtain ⟨calls, pending, table, codes, results⟩ :=
      sole.completeReturns (intends.fulfils content (granted reply settled))
    rw [← turn] at calls pending table results
    refine .finished calls pending ?_
    rw [returned results]
    refine .granted codes available intends ?_ stays
    exact congrArg Prod.fst (table.trans (writtenAlike (congrArg Prod.fst content) c.purpose))

theorem reached {since : List Action} {message : Int} (connects : command = .connect)
    (unasked : v.Unasked) (passive : ∀ action ∈ since, action.begun? = none)
    (tells : v.connection.Tells u.options u.settings id since told) (unavailable : u.client = none)
    (none : u.subscriptions = []) (topics : v.subscriptions = []) :
    u.Progress id command message v told := by
  have goesOn (busy : v.connection.calls ≠ []) : u.Progress id command message v told :=
    .connects connects unasked busy passive tells unavailable none topics
  have finished (idle : v.connection.calls = []) (outcome : u.Outcome command v (told id)) :
      u.Progress id command message v told :=
    .finished (unasked.connectionCalls.symm.trans idle) unasked.pending outcome
  cases tells with
  | waits _ sole _ _ _ _ _ => exact goesOn (by simp [sole])
  | fails _ sole _ _ _ _ _ _ => exact goesOn (by simp [sole])
  | failed stands idle ended _ =>
    refine finished idle ?_
    rw [ended]
    exact .failed _ (topics.trans none.symm) (stands.client.trans unavailable.symm)
  | stays _ idle connected =>
    refine finished idle ?_
    rw [connected]
    exact .connected _ connects topics
  | closes _ _ _ begins _ _ => cases passive _ begins
  | closed _ _ begins _ _ _ => cases passive _ begins

theorem connectsNext {since : List Action} (connects : command = .connect) (unasked : v.Unasked)
    (consistent : v.Consistent) (busy : v.connection.calls ≠ [])
    (passive : ∀ action ∈ since, action.begun? = none)
    (tells : v.connection.Tells u.options u.settings id since told) (unavailable : u.client = none)
    (none : u.subscriptions = []) (topics : v.subscriptions = [])
    (begun : action.begun? = .none) :
    let t := step v action
    u.Progress id command answer.message t.state fun call => told call ++ t.resultsOf call := by
  intro t
  obtain ⟨after, connection, results⟩ :=
    unasked.next consistent (unbegunFresh begun) (unbegunAsks begun)
  have still : t.state.subscriptions = [] := by
    cases stepWrites v action with
    | kept same => exact (congrArg Prod.fst same).trans topics
    | @answered c _ _ found _ _ written =>
      have lasting := unasked.only c (callMember found).1
      refine (congrArg Prod.fst written).trans ?_
      cases purpose : c.purpose with
      | connect => exact topics
      | close => exact topics
      | _ => simp [purpose, Purpose.acknowledged] at lasting
    | cleared _ _ _ empty => exact congrArg Prod.fst empty
  have allowed : v.connection.allows action = true := by
    cases action with
    | begin id command answer => contradiction
    | _ => simp [Connection.allows, busy]
  have next := tells.next allowed (by simp [begun]) (by rintro call answer rfl; contradiction)
  have same : (fun call => told call ++ (v.connection.next action).resultsOf call) =
      fun call => told call ++ t.resultsOf call := funext fun call => by rw [results call]
  rw [Connection.TellsNext, same, ← connection] at next
  exact reached connects after (List.forall_mem_append.mpr ⟨passive, by simpa using begun⟩) next
    unavailable none still

theorem closesNext {c : Call} (closes : command = .close) (unasked : v.Unasked)
    (consistent : v.Consistent) (sole : v.connection.calls = [c]) (own : c.id = id)
    (ended : c.ending = some .closed) (client : v.client = none) (silent : told id = [])
    (begun : action.begun? = .none) :
    let t := step v action
    u.Progress id command answer.message t.state fun call => told call ++ t.resultsOf call := by
  intro t
  obtain ⟨after, connection, results⟩ :=
    unasked.next consistent (unbegunFresh begun) (unbegunAsks begun)
  have steps := v.connection.nextSteps action
  generalize v.connection.next action = shift at steps connection results
  have found {other : Call} (found : v.connection.call? other.id = some other) : other = c := by
    simpa [sole] using (Connection.soleFound sole found).symm
  cases steps with
  | @kept f status alike reported =>
    have stays : t.state.connection.calls = [f c] := by
      rw [connection, Connection.quiet, sole]
      rfl
    refine .closes closes after stays ((alike c).id.trans own) ((alike c).ending.trans ended) ?_ ?_
    · exact (congrArg Connection.client connection).trans client
    · rw [silent, results]
      rfl
  | refused e begins lasting => simp [begun] at begins
  | attempted begins unavailable => simp [begins, Action.begun?] at begun
  | attemptFailed begins unavailable => simp [begins, Action.begun?] at begun
  | closes begins client => simp [begins, Action.begun?] at begun
  | @concluded other ending resumed known ends =>
    cases found known
    cases ended.symm.trans ends
    refine .finished ?_ after.pending ?_
    · rw [← after.connectionCalls, connection]
      exact Connection.dropSole (k := { v.connection with status := .closed }) sole
    · have returned : told id ++ t.resultsOf id = [.ok .closed] := by
        rw [silent, results, ← own]
        simp [Connection.conclude, Connection.leave, Shift.resultsOf]
      rw [returned]
      refine .closed _ closes ?_ ((congrArg Connection.client connection).trans client)
      simp only [t, resumed]
      exact closedEmpty consistent sole ended
  | answered resumed known running connects =>
    cases found known
    simp [running] at ended
  | stopped resumed known running goesOn =>
    cases found known
    simp [running] at ended

theorem next (progress : u.Progress id command answer.message v told) (consistent : v.Consistent)
    (attends : action.attends answer command = true) :
    let t := step v action
    u.Progress id command answer.message t.state fun call => told call ++ t.resultsOf call := by
  intro t
  have begun := attendsBegun attends
  cases progress with
  | waits sole own available intends content client granted silent =>
    exact waitsNext sole own available intends content client granted silent attends
  | connects connects unasked busy passive tells unavailable none topics =>
    exact connectsNext connects unasked consistent busy passive tells unavailable none topics begun
  | closes closes unasked sole own ended client silent =>
    exact closesNext closes unasked consistent sole own ended client silent begun
  | finished idle pending outcome =>
    obtain ⟨calls, empty, topics, client, results⟩ :=
      restKeeps consistent idle pending begun
    refine .finished calls empty ?_
    rw [results id, List.append_nil]
    exact outcome.still topics client

theorem run {during : List Action} (progress : u.Progress id command answer.message v told)
    (consistent : v.Consistent)
    (attends : ∀ action ∈ during, action.attends answer command = true) :
    let t := Bus.run v during
    u.Progress id command answer.message t.state fun call => told call ++ t.resultsOf call := by
  induction during generalizing v told with
  | nil =>
    intro t
    have none : (fun call => told call ++ t.resultsOf call) = told :=
      funext fun call => List.append_nil _
    rw [none]
    exact progress
  | cons action rest ih =>
    obtain ⟨here, others⟩ := List.forall_mem_cons.mp attends
    have later := ih (progress.next consistent here)
      (stepConsistent consistent (unbegunFresh (attendsBegun here))).1 others
    intro t
    have split : t = (step v action).andThen fun s => Bus.run s rest :=
      runCons v action rest
    have joined : (fun call => told call ++ t.resultsOf call) = fun call =>
        (told call ++ (step v action).resultsOf call) ++
          (Bus.run (step v action).state rest).resultsOf call :=
      funext fun call => by rw [split, Turn.resultsOfThen, List.append_assoc]
    rw [joined, split]
    exact later

end Progress

section beginning

variable (consistent : u.Consistent) (fresh : ¬ u.Uses id) (idle : u.calls = [])
  (pending : u.pending = [])

theorem beginFresh (fresh : ¬ u.Uses id) (command : Command) (answer : Broker.Answer) :
    ∀ new, (Action.begin id command answer).begun? = some new → ¬ u.Uses new := by
  rintro new same
  cases Option.some.inj same
  exact fresh

include consistent fresh idle pending

theorem beginAsks (asks : command.acknowledged = true) :
    let t := step u (.begin id command answer)
    u.Progress id command answer.message t.state t.resultsOf := by
  intro t
  have begins := beginFresh fresh command answer
  have client : t.state.client = u.client := by
    have accords := stepAccords consistent begins
    refine (congrArg Connection.client accords.connection).trans ?_
    cases command with
    | connect => contradiction
    | close => contradiction
    | _ => rfl
  cases beginBegun asks id answer with
  | @refused e calls entries content results =>
    refine .finished ?_ ?_ ?_
    · exact calls.trans (by rw [idle]; rfl)
    · exact List.sublist_nil.mp (pending ▸ entries)
    · have returned : t.resultsOf id = [.error e] := by
        rw [Turn.resultsOf, show t.results = _ from results]
        simp
      rw [returned]
      exact .failed e (congrArg (·.1.1) content) client
  | @waits purpose available intends calls entries content results =>
    refine .waits (c := ⟨id, purpose, some answer.message, u.options.patience.future, false, none⟩)
      ⟨(stepConsistent consistent begins).1, ?_, ?_, rfl, intends.asks⟩ rfl
      available intends content client ?_ (Turn.resultsOfNone results id)
    · exact calls.trans (by rw [idle]; rfl)
    · exact entries.trans (by rw [pending]; rfl)
    · intro reply settled
      cases patience : u.options.patience <;> simp [patience, Patience.future] at settled

theorem beginLasts (command : Command) (answer : Broker.Answer)
    (lasts : command.acknowledged = false) :
    let action := Action.begin id command answer
    let t := step u action
    (t.state.Unasked ∧ t.state.connection = (u.connection.next action).connection ∧
      ∀ id, t.resultsOf id = (u.connection.next action).resultsOf id) ∧
    (∀ e, u.connection.next action = u.connection.leave id (.error e) →
      u.Progress id command answer.message t.state t.resultsOf) := by
  intro action t
  have unasked : u.Unasked := ⟨by simp [idle], pending⟩
  have accords := unasked.next consistent
    (beginFresh fresh command answer) (by simp [Action.asks?, lasts])
  refine ⟨accords, fun e refuses => ?_⟩
  obtain ⟨after, connection, results⟩ := accords
  rw [refuses] at connection results
  have free : u.connection.calls = [] := unasked.connectionCalls.trans idle
  refine .finished ?_ after.pending ?_
  · rw [← after.connectionCalls, connection, Connection.leave, Connection.dropIdle free]
    exact free
  · have returned : t.resultsOf id = [.error e] := by
      rw [results]
      simp [Connection.leave, Shift.resultsOf]
    rw [returned]
    refine .failed e (congrArg Prod.fst (tableHeld (beginHoldings u id command answer))) ?_
    exact congrArg Connection.client connection

theorem beginConnects (empty : u.client = none → u.subscriptions = []) :
    let t := step u (.begin id .connect answer)
    u.Progress id .connect answer.message t.state t.resultsOf := by
  intro t
  obtain ⟨⟨after, connection, results⟩, refused⟩ :=
    beginLasts consistent fresh idle pending .connect answer rfl
  cases client : u.client with
  | some n =>
    refine refused (.bus .alreadyAvailable) (if_pos ?_)
    rw [show u.connection.client = some n from client]
    rfl
  | none =>
    have free : u.connection.calls = [] := by simp [State.connection, idle]
    have kept : t.state.subscriptions = u.subscriptions :=
      congrArg Prod.fst (tableHeld (beginHoldings u id .connect answer))
    have tells : (u.connection.connect id answer).connection.Tells u.options u.settings id []
        fun call => [] ++ (u.connection.connect id answer).resultsOf call :=
      (Connection.attemptTells answer client free rfl).2
    have told : (fun call => [] ++ (u.connection.connect id answer).resultsOf call) = t.resultsOf :=
      funext fun call => (results call).symm
    rw [told, ← show t.state.connection = (u.connection.connect id answer).connection from
      connection] at tells
    exact .reached rfl after (by simp) tells client (empty client) (kept.trans (empty client))

theorem beginCloses :
    let t := step u (.begin id .close answer)
    u.Progress id .close answer.message t.state t.resultsOf := by
  intro t
  obtain ⟨⟨after, connection, results⟩, refused⟩ :=
    beginLasts consistent fresh idle pending .close answer rfl
  cases client : u.client with
  | some n =>
    have free : u.connection.calls = [] := by simp [State.connection, idle]
    have closes : u.connection.next (.begin id .close answer) =
        { connection := { u.connection with
            client := none
            closing := true
            calls := [{ id := id, purpose := .close, ending := some .closed }] }
          stopped := [n] } := by
      simp [Connection.next, Connection.close, show u.connection.client = some n from client,
        Connection.stop, Connection.change, free]
    rw [closes] at connection results
    exact .closes (c := { id := id, purpose := .close, ending := some .closed }) rfl after
      (congrArg Connection.calls connection) rfl rfl (congrArg Connection.client connection)
      (results id)
  | none =>
    refine refused (.bus .notAvailable) (if_neg ?_)
    simp [show u.connection.client = none from client]

theorem beginProgress (empty : u.client = none → u.subscriptions = [])
    (command : Command) (answer : Broker.Answer) :
    let t := step u (.begin id command answer)
    u.Progress id command answer.message t.state t.resultsOf := by
  cases command with
  | connect => exact beginConnects consistent fresh idle pending empty
  | close => exact beginCloses consistent fresh idle pending
  | _ => exact beginAsks consistent fresh idle pending rfl

theorem callOutcome (empty : u.client = none → u.subscriptions = [])
    {during : List Action} (attends : ∀ action ∈ during, action.attends answer command = true)
    (returns : (run u (.begin id command answer :: during)).state.calls = []) :
    let t := run u (.begin id command answer :: during)
    t.state.pending = [] ∧ u.Outcome command t.state (t.resultsOf id) := by
  intro t
  have begins := beginProgress consistent fresh idle pending empty command answer
  have after := (stepConsistent consistent (beginFresh fresh command answer)).1
  have split : t = (step u (.begin id command answer)).andThen fun s =>
      run s during := runCons ..
  have progress : u.Progress id command answer.message t.state t.resultsOf := by
    have later := begins.run after attends
    have told (call : CallId) := Turn.resultsOfThen (step u (.begin id command answer))
      (fun s => run s during) call
    rw [← split] at told
    rw [funext told, split]
    exact later
  have none : t.state.calls = [] := returns
  cases progress with
  | waits sole _ _ _ _ _ _ _ => exact absurd (sole.calls.symm.trans none) (by simp)
  | connects _ unasked busy _ _ _ _ _ => exact absurd (unasked.connectionCalls.trans none) busy
  | closes _ unasked sole _ _ _ _ =>
    exact absurd (sole.symm.trans (unasked.connectionCalls.trans none)) (by simp)
  | finished _ pending outcome => exact ⟨pending, outcome⟩

end beginning
end State
end TopicRouting.Bus
