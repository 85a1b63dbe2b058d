import Mathlib.Tactic.ByContra
import TopicRouting.Proofs.Waiting

/-! All that a step of a bus can do to the calls that wait, as long as no client is stopped: it
changes how far they have come, lets a call join them, or lets one leave. -/
namespace TopicRouting.Bus

/- All that a step can do to the calls: change how far they have come, refuse a call that begins,
let it join the others, or let one leave them that goes on. -/
inductive Moves (s : State) (action : Action) (t : Turn) : Prop where
  | advanced (advances : t.Advances s.ledger action)
  | refused {id : CallId} {command : Command} {answer : Broker.Answer} {result : Except Error Reply}
      (begun : action = .begin id command answer) (ends : t.Ends s.ledger id result)
  | joined {c : Call} {command : Command} {answer : Broker.Answer} {l : Ledger}
      (begun : action = .begin c.id command answer) (joins : t.Joins l c)
      (running : c.ending = none) (awaits : c.message.isSome = c.purpose.acknowledged)
      (start : c.wait = .start s.options.patience) (patient : s.options.patience.fault? = none)
      (calls : l.calls = s.calls)
      (pending : l.pending =
        (c.message.map fun m => State.putPending m c.id s.pending).getD s.pending)
      (connecting : l.connecting = if c.message = none then some c.id else s.connecting)
      (options : l.options = s.options)
  | left {c : Call} {result : Except Error Reply} (member : c ∈ s.calls)
      (resumed : action = .resume c.id) (ends : t.Ends (s.forget c).ledger c.id result)
      (returns : ∀ m, c.message = some m → ∃ outcome,
        c.wait.next m c.id action = .finished outcome ∧ c.purpose.Returns s m outcome result)

namespace State

variable {s : State}

theorem waitJoins (s : State) (id : CallId) (purpose : Purpose) (message : Option Int) :
    ∃ future, (s.wait ⟨id, purpose, message, .open, false, none⟩).Joins s.ledger
        ⟨id, purpose, message, future, false, none⟩ ∧
      future.wait false = .start s.options.patience := by
  rw [wait]
  cases s.options.patience <;> exact ⟨_, ⟨rfl, rfl⟩, rfl⟩

theorem resumeMoves (orderly : s.ledger.Orderly) (id : CallId) (runs : ¬ (s.resume id).Stops) :
    Moves s (.resume id) (s.resume id) := by
  have stays {other : Call} (apart : other.id ≠ id) : other.Advances other (.resume id) := by
    refine Call.unmoved fun m _ => ?_
    cases other.wait <;> simp [Wait.next, Ne.symm apart]
  rw [resume] at runs ⊢
  cases found : s.call? id with
  | none =>
    refine .advanced ⟨_, s.quietKeeps.changes, fun c member => stays ?_⟩
    simpa using List.find?_eq_none.mp found c member
  | some c =>
    obtain ⟨member, rfl⟩ := callMember found
    have running := orderly.running c member
    have awaits := orderly.awaits c member
    simp only [found, running] at runs ⊢
    cases future : c.future with
    | settled answer =>
      have next (m : Int) : c.wait.next m c.id (.resume c.id) = .finished (some answer) := by
        simp [Call.wait, future, Future.wait, Wait.next]
      cases answer with
      | ok answer =>
        obtain ⟨result, ends, returns⟩ := s.completeEnds awaits answer
        exact .left member rfl ends fun m awaited => ⟨_, next m, returns m awaited⟩
      | error e =>
        simp only [future] at runs
        obtain ⟨result, ends, same⟩ := s.failEnds awaits e runs
        refine .left member rfl ends fun m awaited => ⟨_, next m, ?_⟩
        rw [same m awaited]
        exact returnsError m c.purpose e
    | cancelled =>
      simp only [future] at runs
      obtain ⟨result, ends, same⟩ := s.giveUpEnds awaits runs
      refine .left member rfl ends fun m awaited => ⟨none, ?_, ?_⟩
      · simp [Call.wait, future, Future.wait, Wait.next]
      · rw [same m awaited]
        exact returnsNone m c.purpose
    | «open» =>
      dsimp only
      split
      · rename_i expired
        refine .advanced ⟨_, ⟨rfl, rfl⟩, fun other there => ?_⟩
        by_cases same : other.id = c.id
        · cases orderly.sameCall there member same
          rw [if_pos (beq_self_eq_true _)]
          exact ⟨rfl, rfl, rfl, rfl, fun m _ => by
            simp [Call.wait, future, expired, Future.wait, Wait.next]⟩
        · rw [if_neg (by simpa using same)]
          exact stays same
      · rename_i unexpired
        refine .advanced ⟨_, s.quietKeeps.changes, fun other there => ?_⟩
        by_cases same : other.id = c.id
        · cases orderly.sameCall there member same
          exact Call.unmoved fun m _ => by
            simp [Call.wait, future, unexpired, Future.wait, Wait.next]
        · exact stays same

theorem waitForMoves {s : State} {id : CallId} {purpose : Purpose} {message : Int}
    (orderly : s.ledger.Orderly) (asked : purpose.acknowledged = true) (command : Command)
    (answer : Broker.Answer) :
    Moves s (.begin id command answer) (s.waitFor id purpose message) := by
  rw [waitFor]
  cases fault : s.options.patience.fault? with
  | some e =>
    have none : s.pending = [] := by
      by_contra some
      have patient := orderly.patient some
      exact absurd (fault.symm.trans patient) (by simp)
    have same : s.dropPending message = s := by
      rw [dropPending, none, List.filter_nil, ← none]
    rw [same]
    exact .refused rfl (finishEnds s id _)
  | none =>
    obtain ⟨future, joins, start⟩ :=
      waitJoins { s with pending := putPending message id s.pending } id purpose (some message)
    exact .joined rfl joins rfl asked.symm start fault rfl rfl rfl rfl

theorem Moves.shown {s : State} {action : Action} {outputs : List Output} {next : State → Turn}
    (none : ∀ output ∈ outputs, ∀ id result, output ≠ .finished id result)
    (moves : Moves s action (next s)) : Moves s action ((s.showing outputs).andThen next) := by
  have keeps := showingKeeps none s
  have results : ((s.showing outputs).andThen next).results = (next s).results := by
    rw [Turn.resultsThen, keeps.results]
    rfl
  cases moves with
  | advanced advances => exact .advanced (keeps.thenAdvances advances)
  | refused begun ends => exact .refused begun (keeps.thenEnds ends)
  | joined begun joins running awaits start patient calls pending connecting options =>
    exact .joined begun ⟨joins.ledger, results.trans joins.results⟩ running awaits start patient
      calls pending connecting options
  | left member resumed ends returns =>
    exact .left member resumed ⟨ends.ledger, ends.attempt, results.trans ends.results⟩ returns

theorem requested (s : State) (r : Broker.Request) : ∀ output ∈ s.request r, ∀ id result,
    output ≠ .finished id result := by
  rintro output member id result rfl
  obtain ⟨n, _, same⟩ := Option.map_eq_some_iff.mp (Option.mem_toList.mp member)
  contradiction

theorem subscribeMoves {s : State} (orderly : s.ledger.Orderly) (id : CallId) (label : Label)
    (qos : Option Value) (answer : Broker.Answer) :
    Moves s (.begin id (.subscribe label qos) answer) (s.subscribe id label qos answer) := by
  have ends (result : Except Error Reply) :
      Moves s (.begin id (.subscribe label qos) answer) (s.finish id result) :=
    .refused rfl (finishEnds s id result)
  rw [subscribe]
  cases s.require label with
  | error e => exact ends _
  | ok pattern =>
    dsimp only
    split
    · exact ends _
    · refine Moves.shown (requested s _) ?_
      split
      · exact ends _
      · split
        · exact ends _
        · exact waitForMoves orderly rfl _ _

theorem unsubscribeMoves {s : State} (orderly : s.ledger.Orderly) (id : CallId) (label : Label)
    (clears : Bool) (answer : Broker.Answer) :
    Moves s (.begin id (.unsubscribe label clears) answer)
      (s.unsubscribe id label clears answer) := by
  have ends (result : Except Error Reply) :
      Moves s (.begin id (.unsubscribe label clears) answer) (s.finish id result) :=
    .refused rfl (finishEnds s id result)
  rw [unsubscribe]
  cases s.require label with
  | error e => exact ends _
  | ok pattern =>
    dsimp only
    split
    · exact ends _
    · refine Moves.shown (requested s _) ?_
      split
      · exact ends _
      · exact waitForMoves orderly rfl _ _

theorem publishMoves {s : State} (orderly : s.ledger.Orderly) (id : CallId) (label : Label)
    (params payload : Value) (qos : Option Value) (retain : Value) (answer : Broker.Answer) :
    Moves s (.begin id (.publish label params payload qos retain) answer)
      (s.publish id label params payload qos retain answer) := by
  have ends (result : Except Error Reply) :
      Moves s (.begin id (.publish label params payload qos retain) answer) (s.finish id result) :=
    .refused rfl (finishEnds s id result)
  rw [publish]
  cases s.require label with
  | error e => exact ends _
  | ok pattern =>
    dsimp only
    split
    · exact .refused rfl ((sayKeeps (s.countFailure label) _ _ _).thenEnds (finishEnds _ _ _))
    · exact ends _
    · cases Payload.encode payload with
      | error e => exact ends _
      | ok bytes =>
        refine Moves.shown (requested s _) ?_
        split
        · exact .refused rfl (finishEnds (s.countFailure label) id _)
        · exact waitForMoves orderly rfl _ _

theorem closeMoves {s : State} (id : CallId) (answer : Broker.Answer)
    (runs : ¬ (s.close id).Stops) : Moves s (.begin id .close answer) (s.close id) := by
  rw [close] at runs ⊢
  split
  · rename_i available
    rw [if_pos available] at runs
    refine absurd (Turn.stopsThen (stopClientStops ?_ id .closed)) runs
    exact available
  · exact .refused rfl (finishEnds s id _)

def reaching (id : CallId) (n : Nat) (answer : Broker.Answer) (s : State) : Turn :=
  let c : Call := { id := id, purpose := .connect }
  let give (e : Error) (s : State) : Turn :=
    stopClient { s with calls := s.calls ++ [c] } id (.failed e)
  match answer.connectError with
  | some text => give (.value (.other text)) s
  | none =>
      (s.showing [.requested n .start]).andThen fun s =>
        match s.options.patience.fault? with
        | some e => give e s
        | none => s.wait c

theorem connectReaches {s : State} (unavailable : ¬ s.isAvailable = true) (id : CallId)
    (answer : Broker.Answer) : ∃ (t : Turn) (n : Nat),
      t.Keeps { s.ledger with connecting := some id, client := some n } ∧
        s.connect id answer = t.andThen (reaching id n answer) := by
  have silent : ∀ output ∈ s.preparation s.created, ∀ id result,
      output ≠ .finished id result := by
    rintro output member id result rfl
    obtain ⟨request, _, same⟩ := List.mem_map.mp member
    contradiction
  refine ⟨_, s.created, ?_, by rw [connect, if_neg unavailable]; rfl⟩
  refine Turn.Keeps.thenKeeps ?_ (showingKeeps (by simp [reach]) _)
  refine Turn.Keeps.thenKeeps ?_ (sayKeeps _ _ _ _)
  refine Turn.Keeps.thenKeeps ?_ (setStatusKeeps _ _ _)
  exact showingKeeps silent _

theorem connectMoves {s : State} (id : CallId) (answer : Broker.Answer)
    (runs : ¬ (s.connect id answer).Stops) :
    Moves s (.begin id .connect answer) (s.connect id answer) := by
  by_cases available : s.isAvailable = true
  · rw [connect, if_pos available]
    exact .refused rfl (finishEnds s id _)
  · obtain ⟨t, n, keeps, same⟩ := connectReaches available id answer
    rw [same] at runs ⊢
    have client : t.state.client.isSome = true := by
      rw [show t.state.client = some n from congrArg Ledger.client keeps.ledger]
      rfl
    have options : t.state.options = s.options := congrArg Ledger.options keeps.ledger
    cases refusal : answer.connectError with
    | some text =>
      refine absurd (Turn.stopsThen ?_) runs
      rw [reaching, refusal]
      refine stopClientStops ?_ id _
      exact client
    | none =>
      have shown : (t.state.showing [.requested n .start]).Keeps t.state.ledger :=
        showingKeeps (by simp) _
      cases fault : t.state.options.patience.fault? with
      | some e =>
        refine absurd (Turn.stopsThen ?_) runs
        rw [reaching, refusal]
        refine Turn.stopsThen ?_
        dsimp only [showing]
        rw [fault]
        refine stopClientStops ?_ id _
        exact client
      | none =>
        obtain ⟨future, joins, start⟩ := waitJoins t.state id .connect none
        have joined : (reaching id n answer t.state).Joins t.state.ledger
            ⟨id, .connect, none, future, false, none⟩ := by
          rw [reaching, refusal]
          refine shown.thenJoins ?_
          dsimp only [showing]
          rw [fault]
          exact joins
        rw [options] at start fault
        exact .joined rfl (keeps.thenJoins joined) rfl rfl start fault rfl rfl rfl rfl

theorem stepMoves {s : State} (orderly : s.ledger.Orderly)
    (action : Action) (runs : ¬ (step s action).Stops) :
    Moves s action (step s action) := by
  cases action with
  | begin id command answer =>
    cases command with
    | connect => exact connectMoves id answer runs
    | close => exact closeMoves id answer runs
    | subscribe label qos => exact subscribeMoves orderly id label qos answer
    | unsubscribe label clears => exact unsubscribeMoves orderly id label clears answer
    | publish label params payload qos retain =>
      exact publishMoves orderly id label params payload qos retain answer
  | handle signal => exact .advanced (handleAdvances orderly signal)
  | deliver m behaviour => exact .advanced (receivedAdvances s behaviour m)
  | expire id => exact .advanced (expireAdvances orderly id)
  | resume id => exact resumeMoves orderly id runs
  | route command =>
    refine .advanced ((routeKeeps s command).advances fun w m id => ?_)
    cases w <;> rfl

end State
def Action.begun? : Action → Option CallId
  | .begin id _ _ => some id
  | _ => none

namespace Moves

variable {s : State} {action : Action} {t : Turn}

theorem calls (moves : Moves s action t) : ∀ c ∈ t.state.calls,
    (∃ old ∈ s.calls, old.id = c.id) ∨ action.begun? = some c.id := by
  intro c member
  cases moves with
  | advanced advances =>
    obtain ⟨f, changes, each⟩ := advances
    rw [show t.state.calls = s.calls.map f from congrArg Ledger.calls changes.ledger] at member
    obtain ⟨old, inside, rfl⟩ := List.mem_map.mp member
    exact .inl ⟨old, inside, (each old inside).id.symm⟩
  | refused begun ends =>
    rw [show t.state.calls = _ from congrArg Ledger.calls ends.ledger] at member
    exact .inl ⟨c, (List.mem_filter.mp member).1, rfl⟩
  | joined begun joins running awaits start patient calls =>
    rw [show t.state.calls = _ from congrArg Ledger.calls joins.ledger, calls] at member
    rcases List.mem_append.mp member with old | new
    · exact .inl ⟨c, old, rfl⟩
    · rw [List.mem_singleton.mp new, begun]
      exact .inr rfl
  | left inside resumed ends returns =>
    rw [show t.state.calls = _ from congrArg Ledger.calls ends.ledger] at member
    have old := (List.mem_filter.mp member).1
    rw [State.forgetLedger] at old
    exact .inl ⟨c, old, rfl⟩

theorem options (moves : Moves s action t) : t.state.options = s.options := by
  cases moves with
  | advanced advances =>
    obtain ⟨f, changes, _⟩ := advances
    exact congrArg Ledger.options changes.ledger
  | refused begun ends => exact congrArg Ledger.options ends.ledger
  | joined begun joins running awaits start patient calls pending connecting options =>
    exact (congrArg Ledger.options joins.ledger).trans options
  | left inside resumed ends returns =>
    refine (congrArg Ledger.options ends.ledger).trans ?_
    rw [State.forgetLedger]
    rfl

theorem connecting (moves : Moves s action t) : t.state.connecting = none ∨
    t.state.connecting = s.connecting ∨ t.state.connecting = action.begun? := by
  cases moves with
  | advanced advances =>
    obtain ⟨f, changes, _⟩ := advances
    exact .inr (.inl (congrArg Ledger.connecting changes.ledger))
  | refused begun ends => exact ends.attempt.imp_right .inl
  | joined begun joins running awaits start patient calls pending connecting =>
    have same := (congrArg Ledger.connecting joins.ledger).trans connecting
    split at same
    · exact .inr (.inr (by rw [begun]; exact same))
    · exact .inr (.inl same)
  | left inside resumed ends returns =>
    rw [State.forgetLedger] at ends
    exact ends.attempt.imp_right .inl

theorem begins (moves : Moves s action t) {c : Call}
    (member : c ∈ t.state.calls) (fresh : ∀ old ∈ s.calls, old.id ≠ c.id) :
    c.wait = .start s.options.patience := by
  cases moves with
  | advanced advances =>
    obtain ⟨f, changes, each⟩ := advances
    rw [show t.state.calls = s.calls.map f from congrArg Ledger.calls changes.ledger] at member
    obtain ⟨old, inside, rfl⟩ := List.mem_map.mp member
    exact absurd (each old inside).id.symm (fresh old inside)
  | refused started ends =>
    rw [show t.state.calls = _ from congrArg Ledger.calls ends.ledger] at member
    exact absurd rfl (fresh c (List.mem_filter.mp member).1)
  | joined started joins running awaits start patient known =>
    rw [show t.state.calls = _ from congrArg Ledger.calls joins.ledger, known] at member
    rcases List.mem_append.mp member with old | new
    · exact absurd rfl (fresh c old)
    · rw [List.mem_singleton.mp new]
      exact start
  | left inside resumed ends returns =>
    rw [show t.state.calls = _ from congrArg Ledger.calls ends.ledger] at member
    have old := (List.mem_filter.mp member).1
    rw [State.forgetLedger] at old
    exact absurd rfl (fresh c old)

theorem leftLedger (orderly : s.ledger.Orderly) {c : Call} (member : c ∈ s.calls) :
    (s.forget c).ledger = { s.ledger with pending := s.pending.filter (·.2 != c.id) } := by
  cases message : c.message with
  | none =>
    have kept : s.pending.filter (·.2 != c.id) = s.pending := by
      refine List.filter_eq_self.mpr fun entry inside => ?_
      obtain ⟨other, there, awaited, same⟩ := orderly.owner.mp inside
      have apart : entry.2 ≠ c.id := by
        intro also
        rw [orderly.sameCall there member (same.trans also), message] at awaited
        contradiction
      simpa using apart
    rw [State.forgetUnasked message, kept]
    rfl
  | some m =>
    have dropped : s.pending.filter (·.1 != m) = s.pending.filter (·.2 != c.id) := by
      refine List.filter_congr fun entry inside => ?_
      obtain ⟨other, there, awaited, same⟩ := orderly.owner.mp inside
      have agree : entry.1 = m ↔ entry.2 = c.id := by
        constructor
        · rintro rfl
          rw [← same, orderly.sameMessage there member awaited message]
        · intro also
          rw [orderly.sameCall there member (same.trans also), message] at awaited
          exact (Option.some.inj awaited).symm
      show (entry.1 != m) = (entry.2 != c.id)
      by_cases here : entry.1 = m
      · rw [here, agree.mp here, bne_self_eq_false, bne_self_eq_false]
      · rw [bne_iff_ne.mpr here, bne_iff_ne.mpr fun also => here (agree.mpr also)]
    rw [State.forgetLedger, message, ← dropped]

end Moves

end TopicRouting.Bus
