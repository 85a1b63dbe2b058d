import TopicRouting.Proofs.Course

/-! One attempt to connect. The first answer that the client gives to it decides, if the attempt has
any time for answers, and whoever goes on without one has to stop the client that it has made. -/
namespace TopicRouting.Bus

def verdict (settings : Broker.Settings) : Broker.Signal → Option (Except BusError Broker.Reason)
  | .connected reason => some (if reason.isFailure then .error (.refused reason.text) else .ok reason)
  | .connectFailed => some (.error (.unreachable settings.host settings.port))
  | _ => none

def firstVerdict (settings : Broker.Settings) (actions : List Action) :
    Option (Except BusError Broker.Reason) :=
  actions.findSome? fun
    | .handle signal => verdict settings signal
    | _ => none

def reported (o : Options) (closing : Bool) : Broker.Signal → Option Status
  | .connected reason => some (if reason.isFailure then .error else .connected)
  | .connectFailed => some .error
  | .disconnected _ =>
      some (if closing then .closed else if o.reconnect.isBlank then .offline else .reconnecting)
  | _ => none

def Call.answered (c : Call) (answer : Except BusError Answer) : Call :=
  if c.future.isOpen then { c with future := .settled answer } else c

def Call.told (settings : Broker.Settings) (id : CallId) (c : Call) : Action → Call
  | .handle signal =>
      match verdict settings signal with
      | some answer => c.answered (answer.map .connected)
      | none => c
  | .expire other =>
      if other = id ∧ c.future.isOpen ∧ ¬ c.expired ∧ c.ending = none then
        { c with expired := true }
      else c
  | _ => c

structure Call.Alike (c other : Call) : Prop where
  id : other.id = c.id
  purpose : other.purpose = c.purpose
  ending : other.ending = c.ending

def Action.passive (id : CallId) : Action → Bool
  | .handle _ | .deliver .. => true
  | .expire other => other == id
  | _ => false

def Ending.failure? (o : Options) : Ending → Option Error
  | .closed => none
  | .timedOut => some (.bus (.connectTimedOut o.seconds))
  | .failed e => some e

/- The steps of an attempt after its first. It goes on at most three times: with an answer or as its
waiting time is over, when it has given the answer up, and when its client has stopped. -/
def attemptSteps (id : CallId) (window gap teardown : List Action) : List Action :=
  window ++ .resume id :: (gap ++ .resume id :: (teardown ++ [.resume id]))

/- What an attempt returns over whose wait there are these actions. -/
def attemptOutcome (o : Options) (w : Broker.Settings) (window : List Action) :
    Except Error Broker.Reason :=
  match o.patience.fault?, if o.patience = .none then none else firstVerdict w window with
  | some e, _ => .error e
  | none, some answer => answer.mapError .bus
  | none, none => .error (.bus (.connectTimedOut o.seconds))

section told

variable {w : Broker.Settings} {id : CallId} {c : Call}

theorem toldEnding (action : Action) : (c.told w id action).ending = c.ending := by
  rw [Call.told.eq_def]
  split
  · split
    · rw [Call.answered]
      split <;> rfl
    · rfl
  · split <;> rfl
  · rfl

theorem toldAllEnding (actions : List Action) :
    (actions.foldl (Call.told w id) c).ending = c.ending := by
  induction actions generalizing c with
  | nil => rfl
  | cons action rest ih => exact ih.trans (toldEnding action)

theorem toldShut (shut : c.future.isOpen = false) (actions : List Action) :
    actions.foldl (Call.told w id) c = c := by
  induction actions with
  | nil => rfl
  | cons action rest ih =>
    have same : c.told w id action = c := by
      cases action with
      | handle signal =>
        rw [Call.told]
        split
        · simp [Call.answered, shut]
        · rfl
      | expire other => simp [Call.told, shut]
      | _ => rfl
    rw [List.foldl_cons, same, ih]

theorem toldOpen (waits : c.future = .open) (running : c.ending = none) (actions : List Action) :
    match firstVerdict w actions with
    | some answer => (actions.foldl (Call.told w id) c).future = .settled (answer.map .connected)
    | none => (actions.foldl (Call.told w id) c).future = .open ∧
        (c.expired = true ∨ .expire id ∈ actions →
          (actions.foldl (Call.told w id) c).expired = true) := by
  induction actions generalizing c with
  | nil => simp [firstVerdict, waits]
  | cons action rest ih =>
    cases action with
    | handle signal =>
      simp only [List.foldl_cons, Call.told, firstVerdict, List.findSome?_cons]
      cases verdict w signal with
      | some answer =>
        simp only [Call.answered, waits, Future.isOpen, if_true]
        rw [toldShut rfl]
      | none => simpa [firstVerdict] using ih waits running
    | expire other =>
      by_cases own : other = id ∧ ¬ c.expired
      · obtain ⟨rfl, unexpired⟩ := own
        have later := ih (c := { c with expired := true }) waits running
        simpa [Call.told, waits, running, unexpired, Future.isOpen, firstVerdict] using later
      · have same : c.told w id (.expire other) = c := by
          rw [Call.told, if_neg]
          tauto
        have later := ih waits running
        rw [List.foldl_cons, same]
        simp only [firstVerdict, List.findSome?_cons] at later ⊢
        split
        · rename_i decided
          simpa [decided] using later
        · rename_i undecided
          simp only [undecided] at later
          refine ⟨later.1, fun ends => later.2 ?_⟩
          simp only [List.mem_cons, Action.expire.injEq] at ends
          by_cases expired : c.expired = true
          · exact .inl expired
          · tauto
    | _ => simpa [Call.told, firstVerdict] using ih waits running

end told

namespace Connection

variable {k : Connection} {id other : CallId}

theorem callMapped {f : Call → Call} (kept : ∀ c, (f c).id = c.id) :
    ({ k with calls := k.calls.map f } : Connection).call? id = (k.call? id).map f := by
  have same : ((fun c => c.id == id) ∘ f) = fun c => c.id == id := by
    funext c
    rw [Function.comp, kept]
  rw [call?, List.find?_map, same, ← call?]

theorem callChanged {f : Call → Call} (kept : ∀ c, (f c).id = c.id) :
    (k.change id f).call? other = if other = id then (k.call? other).map f else k.call? other := by
  rw [change, callMapped]
  · cases found : k.call? other with
    | none => simp
    | some c =>
      have own : c.id = other := by simpa using List.find?_some found
      split
      · rename_i here
        simp [own, here]
      · rename_i away
        simp [own, away]
  · intro c
    split
    · exact kept c
    · rfl

theorem callDropped : (k.drop id).call? other = if other = id then none else k.call? other := by
  rw [call?, drop, List.find?_filter]
  split
  · rename_i here
    refine List.find?_eq_none.mpr fun c _ => ?_
    simp [here]
  · rename_i away
    congr 1
    funext c
    by_cases own : c.id = other <;> simp [own, away]

theorem callJoined {c : Call} (fresh : k.call? c.id = none) :
    ({ k with calls := k.calls ++ [c] }).call? other =
      if other = c.id then some c else k.call? other := by
  rw [call?, List.find?_append, ← call?]
  split
  · rename_i here
    simp [here, fresh]
  · rename_i away
    simp [Ne.symm away]

theorem hears (k : Connection) (signal : Broker.Signal) : k.hear signal =
    let status := (reported k.options k.closing signal).getD k.status
    match verdict k.settings signal with
    | some answer => { k with status := status }.settleAttempt (answer.map .connected)
    | none => { k with status := status } := by
  cases signal with
  | connected reason =>
    by_cases failure : reason.isFailure = true
    · simp [hear, reported, verdict, failure, Except.map]
    · simp [hear, reported, verdict, failure, Except.map]
  | _ => rfl

theorem settleAlike (k : Connection) (answer : Except BusError Answer) :
    ∃ f : Call → Call, (∀ c : Call, c.Alike (f c)) ∧
      k.settleAttempt answer = { k with calls := k.calls.map f } := by
  rw [settleAttempt]
  split
  · refine ⟨_, fun c => ?_, rfl⟩
    dsimp only
    split <;> exact ⟨rfl, rfl, rfl⟩
  · exact ⟨fun c => c, fun _ => ⟨rfl, rfl, rfl⟩, by simp⟩

theorem hearAlike (k : Connection) (signal : Broker.Signal) :
    ∃ f : Call → Call, (∀ c : Call, c.Alike (f c)) ∧ k.hear signal = { k with
      status := (reported k.options k.closing signal).getD k.status
      calls := k.calls.map f } := by
  rw [hears]
  dsimp only
  split
  · exact settleAlike _ _
  · exact ⟨fun c => c, fun _ => ⟨rfl, rfl, rfl⟩, by simp⟩

theorem expireAlike (k : Connection) (id : CallId) :
    ∃ f : Call → Call, (∀ c : Call, c.Alike (f c)) ∧
      k.expire id = { k with calls := k.calls.map f } := by
  have same : ∃ f : Call → Call, (∀ c : Call, c.Alike (f c)) ∧ k = { k with calls := k.calls.map f } :=
    ⟨fun c => c, fun _ => ⟨rfl, rfl, rfl⟩, by simp⟩
  rw [expire]
  split
  · exact same
  · split
    · refine ⟨_, fun c => ?_, rfl⟩
      dsimp only
      split <;> exact ⟨rfl, rfl, rfl⟩
    · exact same

end Connection

structure Connection.Stands (k : Connection) (o : Options) (w : Broker.Settings) (id : CallId)
    (client : Option Nat) (call : Option Call) : Prop where
  options : k.options = o
  settings : k.settings = w
  client : k.client = client
  found : k.call? id = call
  connecting : k.connecting = call.map fun _ => id

structure Shift.Brings (shift : Shift) (o : Options) (w : Broker.Settings) (id : CallId)
    (client : Option Nat) (call : Option Call) (results : List (Except Error Reply))
    (stopped : List Nat) : Prop where
  stands : shift.connection.Stands o w id client call
  results : shift.resultsOf id = results
  stopped : shift.stopped = stopped

section attempt

variable {o : Options} {w : Broker.Settings} {id : CallId} {client : Option Nat}
  {call : Option Call} {k : Connection}

theorem Shift.Brings.andThen {shift : Shift} {next : Connection → Shift} {after : Option Nat}
    {last : Option Call} {results later : List (Except Error Reply)} {stopped more : List Nat}
    (first : shift.Brings o w id client call results stopped)
    (rest : ∀ k : Connection, k.Stands o w id client call →
      (next k).Brings o w id after last later more) :
    (shift.andThen next).Brings o w id after last (results ++ later) (stopped ++ more) := by
  have brings := rest shift.connection first.stands
  refine ⟨brings.stands, ?_, ?_⟩
  · rw [← first.results, ← brings.results]
    exact List.filterMap_append
  · rw [← first.stopped, ← brings.stopped]
    rfl

namespace Connection.Stands

theorem quietBrings (stands : k.Stands o w id client call) :
    k.quiet.Brings o w id client call [] [] := ⟨stands, rfl, rfl⟩

theorem settleAttemptStands (stands : k.Stands o w id client call) (answer : Except BusError Answer) :
    (k.settleAttempt answer).Stands o w id client (call.map (·.answered answer)) := by
  obtain ⟨options, settings, client, found, connecting⟩ := stands
  cases call with
  | none =>
    have unasked : k.attempt? = none := by rw [attempt?, connecting]; rfl
    rw [settleAttempt, unasked]
    exact ⟨options, settings, client, found, connecting⟩
  | some c =>
    by_cases waits : c.future.isOpen = true
    · have asked : k.attempt? = some id := by
        rw [attempt?, connecting]
        simp [Option.filter, found, waits]
      rw [settleAttempt, asked]
      refine ⟨options, settings, client, ?_, connecting⟩
      dsimp only
      rw [callChanged, if_pos rfl, found]
      · simp [Call.answered, waits]
      · exact fun _ => rfl
    · have unasked : k.attempt? = none := by
        rw [attempt?, connecting]
        simp [Option.filter, found, waits]
      rw [settleAttempt, unasked]
      refine ⟨options, settings, client, ?_, connecting⟩
      simp [found, Call.answered, waits]

theorem passiveBrings (stands : k.Stands o w id client call) {action : Action}
    (passive : action.passive id = true) :
    (k.next action).Brings o w id client (call.map (·.told w id action)) [] [] := by
  cases action with
  | handle signal =>
    refine Connection.Stands.quietBrings ?_
    have reported (status : Status) : { k with status := status }.Stands o w id client call :=
      ⟨stands.options, stands.settings, stands.client, stands.found, stands.connecting⟩
    have same : verdict k.settings signal = verdict w signal := by rw [stands.settings]
    simp only [hears, same, Call.told]
    cases verdict w signal with
    | none => simpa using reported _
    | some answer => exact (reported _).settleAttemptStands _
  | expire other =>
    have own : other = id := by simpa [Action.passive] using passive
    cases own
    refine Connection.Stands.quietBrings ?_
    obtain ⟨options, settings, client, found, connecting⟩ := stands
    rw [expire, found]
    cases call with
    | none => exact ⟨options, settings, client, found, connecting⟩
    | some c =>
      dsimp only [Option.map_some, Call.told]
      split
      · rename_i waits
        rw [if_pos (by simpa [and_assoc] using waits)]
        refine ⟨options, settings, client, ?_, connecting⟩
        rw [callChanged, if_pos rfl, found]
        · rfl
        · exact fun _ => rfl
      · rename_i waits
        rw [if_neg (by simpa [and_assoc] using waits)]
        exact ⟨options, settings, client, found, connecting⟩
  | deliver m behaviour => cases call <;> exact stands.quietBrings
  | _ => contradiction

theorem passiveRunBrings {actions : List Action} (stands : k.Stands o w id client call)
    (passive : ∀ action ∈ actions, action.passive id = true) :
    (k.run actions).Brings o w id client (call.map (actions.foldl (Call.told w id))) [] [] := by
  induction actions generalizing k call with
  | nil => simpa [run] using stands.quietBrings
  | cons action rest ih =>
    obtain ⟨here, others⟩ := List.forall_mem_cons.mp passive
    have brings := (stands.passiveBrings here).andThen fun k stands => ih stands others
    rwa [Option.map_map] at brings

theorem leaveBrings (stands : k.Stands o w id client call) (result : Except Error Reply) :
    (k.leaveAttempt id result).Brings o w id client none [result] [] := by
  obtain ⟨options, settings, client, _, _⟩ := stands
  refine ⟨⟨options, settings, client, ?_, rfl⟩, ?_, rfl⟩
  · exact callDropped.trans (if_pos rfl)
  · simp [Shift.resultsOf, leaveAttempt, leave]

theorem stopBrings {n : Nat} {c : Call} (stands : k.Stands o w id (some n) (some c)) (ending : Ending) :
    (k.stop id ending).Brings o w id none (some { c with ending := some ending }) [] [n] := by
  obtain ⟨options, settings, client, found, connecting⟩ := stands
  rw [stop, client]
  refine ⟨⟨options, settings, rfl, ?_, connecting⟩, rfl, rfl⟩
  rw [callChanged, if_pos rfl]
  · exact congrArg _ found
  · exact fun _ => rfl

theorem returnedRunBrings {actions : List Action} (stands : k.Stands o w id client none)
    (idle : ∀ action ∈ actions, action.passive id = true ∨ action = .resume id) :
    (k.run actions).Brings o w id client none [] [] := by
  induction actions generalizing k with
  | nil => exact stands.quietBrings
  | cons action rest ih =>
    obtain ⟨here, others⟩ := List.forall_mem_cons.mp idle
    have brings : (k.next action).Brings o w id client none [] [] := by
      rcases here with passive | rfl
      · exact stands.passiveBrings passive
      · rw [next, resume, stands.found]
        exact stands.quietBrings
    exact brings.andThen fun k stands => ih stands others

theorem teardownReturns {c : Call} {ending : Ending} {e : Error} (stands : k.Stands o w id client (some c))
    (ended : c.ending = some ending) (fails : ending.failure? o = some e) :
    (k.resume id).Brings o w id client none [.error e] [] := by
  rw [resume, stands.found]
  simp only [ended]
  cases ending with
  | closed => contradiction
  | timedOut =>
    cases fails
    have reported : { k with status := .error }.Stands o w id client (some c) :=
      ⟨stands.options, stands.settings, stands.client, stands.found, stands.connecting⟩
    rw [conclude, show k.options.seconds = o.seconds by rw [stands.options]]
    exact reported.leaveBrings _
  | failed e =>
    cases fails
    exact stands.leaveBrings _

end Connection.Stands

theorem Connection.runAppend (k : Connection) (front back : List Action) :
    k.run (front ++ back) = (k.run front).andThen (·.run back) := by
  induction front generalizing k with
  | nil => simp [run, Shift.andThen, quiet]
  | cons action front ih => simp [run, Shift.andThen, ih]

theorem Connection.runThen (k : Connection) (front : List Action) (action : Action) :
    k.run (front ++ [action]) = (k.run front).andThen (·.next action) := by
  rw [runAppend]
  simp [run, Shift.andThen, quiet]

theorem Connection.Stands.teardownRunReturns {c : Call} {ending : Ending} {e : Error}
    {teardown back : List Action} (stands : k.Stands o w id none (some c))
    (ended : c.ending = some ending) (fails : ending.failure? o = some e)
    (passive : ∀ action ∈ teardown, action.passive id = true)
    (idle : ∀ action ∈ back, action.passive id = true ∨ action = .resume id) :
    (k.run (teardown ++ .resume id :: back)).Brings o w id none none [.error e] [] := by
  rw [Connection.runAppend]
  refine (stands.passiveRunBrings passive).andThen fun k stands => ?_
  exact (stands.teardownReturns ((toldAllEnding teardown).trans ended) fails).andThen fun k stands =>
    stands.returnedRunBrings idle

theorem Connection.Stands.stoppedRunReturns {c : Call} {n : Nat} (ending : Ending) {e : Error}
    {teardown back : List Action} (stands : k.Stands o w id (some n) (some c))
    (stops : k.resume id = k.stop id ending) (fails : ending.failure? o = some e)
    (passive : ∀ action ∈ teardown, action.passive id = true)
    (idle : ∀ action ∈ back, action.passive id = true ∨ action = .resume id) :
    (k.run (.resume id :: (teardown ++ .resume id :: back))).Brings o w id none none
      [.error e] [n] := by
  rw [Connection.run, Connection.next, stops]
  exact (stands.stopBrings ending).andThen fun k stands => stands.teardownRunReturns rfl fails passive idle

theorem Connection.attemptStands (fresh : k.call? id = none) (future : Future) :
    (k.attempt id future).Stands k.options k.settings id (some k.created)
      (some { id := id, purpose := .connect, future := future }) :=
  ⟨rfl, rfl, rfl, (callJoined fresh).trans (if_pos rfl), rfl⟩

theorem Connection.attemptBegins {answer : Broker.Answer} (unavailable : k.client = none)
    (fresh : k.call? id = none) (accepts : answer.connectError = none) :
    match k.options.patience.fault? with
    | some e => ∃ c : Call, c.ending = some (.failed e) ∧
        (k.connect id answer).Brings k.options k.settings id none (some c) [] [k.created]
    | none => (k.connect id answer).Brings k.options k.settings id (some k.created)
        (some { id := id, purpose := .connect, future := k.options.patience.future }) [] [] := by
  rw [connect, unavailable, accepts]
  cases k.options.patience.fault? with
  | some e => exact ⟨_, rfl, (attemptStands fresh .open).stopBrings (.failed e)⟩
  | none => exact (attemptStands fresh _).quietBrings

theorem Connection.Stands.resumeGivesUp {c : Call} (stands : k.Stands o w id client (some c))
    (running : c.ending = none) (future : c.future = .open) (expired : c.expired = true) :
    (k.resume id).Brings o w id client (some { c with future := .cancelled }) [] [] := by
  obtain ⟨options, settings, client, found, connecting⟩ := stands
  have moved : k.resume id = (k.change id fun c => { c with future := .cancelled }).quiet := by
    rw [resume, found]
    simp only [running, future, expired, if_true]
  rw [moved]
  refine ⟨⟨options, settings, client, ?_, connecting⟩, rfl, rfl⟩
  dsimp only [quiet]
  rw [callChanged, if_pos rfl]
  · exact congrArg _ found
  · exact fun _ => rfl

def Shift.Settles (shift : Shift) (o : Options) (w : Broker.Settings) (id : CallId) (n : Nat) :
    Except Error Broker.Reason → Prop
  | .ok reason => shift.Brings o w id (some n) none [.ok (.connected reason)] []
  | .error e => shift.Brings o w id none none [.error e] [n]

theorem Shift.Brings.settles {shift : Shift} {next : Connection → Shift} {n : Nat}
    {outcome : Except Error Broker.Reason} (first : shift.Brings o w id client call [] [])
    (rest : ∀ k : Connection, k.Stands o w id client call → (next k).Settles o w id n outcome) :
    (shift.andThen next).Settles o w id n outcome := by
  cases outcome with
  | ok reason => exact first.andThen rest
  | error e => exact first.andThen rest

section outcome

variable {n : Nat} {c : Call} {window gap teardown : List Action}

theorem Connection.Stands.attemptRunSettles (stands : k.Stands o w id (some n) (some c))
    (running : c.ending = none) (future : c.future = o.patience.future)
    (faultless : o.patience.fault? = none)
    (passive : ∀ action ∈ window ++ gap ++ teardown, action.passive id = true)
    (decided : (firstVerdict w window).isSome ∨ .expire id ∈ window ∨ o.patience = .none) :
    (k.run (attemptSteps id window gap teardown)).Settles o w id n
      (attemptOutcome o w window) := by
  simp only [List.mem_append, or_assoc] at passive
  have inGap : ∀ action ∈ gap, action.passive id = true :=
    fun action member => passive action (.inr (.inl member))
  have inTeardown : ∀ action ∈ teardown, action.passive id = true :=
    fun action member => passive action (.inr (.inr member))
  have idleLast : ∀ action ∈ teardown ++ [.resume id],
      action.passive id = true ∨ action = .resume id := by
    intro action member
    exact (List.mem_append.mp member).imp (inTeardown action) List.mem_singleton.mp
  have waited := stands.passiveRunBrings fun action member => passive action (.inl member)
  have ended : (window.foldl (Call.told w id) c).ending = none :=
    (toldAllEnding window).trans running
  rw [attemptSteps, runAppend]
  refine waited.settles fun k stands => ?_
  by_cases impatient : o.patience = .none
  · rw [Option.map_some, toldShut (by rw [future, impatient]; rfl)] at stands
    have outcome : attemptOutcome o w window = .error (.bus (.connectTimedOut o.seconds)) := by
      rw [attemptOutcome, faultless, if_pos impatient]
    rw [outcome]
    refine stands.stoppedRunReturns .timedOut ?_ rfl inGap idleLast
    rw [resume, stands.found]
    simp only [running, future, impatient, Patience.future]
  · have waits : c.future = .open := by
      rw [future]
      cases same : o.patience with
      | none => contradiction
      | _ => rfl
    have told := @toldOpen w id c waits running window
    rw [Option.map_some] at stands
    rw [attemptOutcome, faultless, if_neg impatient]
    generalize window.foldl (Call.told w id) c = last at told ended stands
    cases first : firstVerdict w window with
    | some verdict =>
      simp only [first] at told
      cases verdict with
      | ok reason =>
        show Shift.Settles _ o w id n (.ok reason)
        have leaves : k.resume id = k.leaveAttempt id (.ok (.connected reason)) := by
          rw [resume, stands.found]
          simp only [ended, told, Except.map]
        rw [run, next, leaves]
        refine (stands.leaveBrings _).andThen fun k stands => stands.returnedRunBrings fun action member => ?_
        rcases List.mem_append.mp member with gone | later
        · exact .inl (inGap action gone)
        · exact (List.mem_cons.mp later).elim .inr (idleLast action)
      | error e =>
        show Shift.Settles _ o w id n (.error (.bus e))
        refine stands.stoppedRunReturns (.failed (.bus e)) ?_ rfl inGap idleLast
        rw [resume, stands.found]
        simp only [ended, told, Except.map]
    | none =>
      simp only [first] at told
      have expired := told.2 (.inr (by simpa [first, impatient] using decided))
      show Shift.Settles _ o w id n (.error (.bus (.connectTimedOut o.seconds)))
      rw [run, next]
      refine (stands.resumeGivesUp ended told.1 expired).settles fun k stands => ?_
      have gone := stands.passiveRunBrings inGap
      rw [Option.map_some, toldShut rfl] at gone
      rw [runAppend]
      refine gone.settles fun k stands => stands.stoppedRunReturns .timedOut ?_ rfl inTeardown (by simp)
      rw [resume, stands.found]
      simp only [ended]

theorem Connection.attemptComes {answer : Broker.Answer} (unavailable : k.client = none)
    (fresh : k.call? id = none) (accepts : answer.connectError = none)
    (passive : ∀ action ∈ window ++ gap ++ teardown, action.passive id = true)
    (decided : (firstVerdict k.settings window).isSome ∨ .expire id ∈ window ∨
      k.options.patience ≠ .endless ∧ k.options.patience ≠ .limited) :
    (k.run (.begin id .connect answer :: attemptSteps id window gap teardown)).Settles
      k.options k.settings id k.created (attemptOutcome k.options k.settings window) := by
  have begun := attemptBegins unavailable fresh accepts
  rw [run, next]
  cases fault : k.options.patience.fault? with
  | some e =>
    simp only [fault] at begun
    obtain ⟨c, ended, begins⟩ := begun
    rw [attemptOutcome, fault]
    refine begins.andThen fun k stands => stands.teardownRunReturns ended rfl ?_ ?_
    · exact fun action member => passive action (by simp [member])
    · intro action member
      simp only [List.mem_append, List.mem_cons, List.not_mem_nil, or_false] at member passive
      rcases member with gone | rfl | later | rfl
      · exact .inl (passive action (.inl (.inr gone)))
      · exact .inr rfl
      · exact .inl (passive action (.inr later))
      · exact .inr rfl
  | none =>
    simp only [fault] at begun
    have waited : (firstVerdict k.settings window).isSome ∨ .expire id ∈ window ∨
        k.options.patience = .none := by
      refine decided.imp_right (Or.imp_right fun decided => ?_)
      cases same : k.options.patience <;> simp [same, Patience.fault?] at decided fault ⊢
    exact begun.settles fun k stands => stands.attemptRunSettles rfl rfl fault passive waited

end outcome
end attempt

/- The client is in use, or the call waits for it to stop. -/
def Connection.Holds (k : Connection) (id : CallId) : Prop :=
  k.client.isSome = true ∨ ∃ c, k.call? id = some c ∧ c.ending.isSome = true

section holding

variable {k : Connection} {id : CallId}

theorem Connection.holdsAlike {f : Call → Call} {status : Status} (holds : k.Holds id)
    (alike : ∀ c : Call, c.Alike (f c)) :
    ({ k with status := status, calls := k.calls.map f } : Connection).Holds id := by
  refine holds.imp_right fun ⟨c, found, ended⟩ => ⟨f c, ?_, by rwa [(alike c).ending]⟩
  exact (callMapped fun c => (alike c).id).trans (congrArg _ found)

theorem Connection.holdsPassive (holds : k.Holds id) {action : Action}
    (passive : action.passive id = true) : (k.next action).connection.Holds id := by
  cases action with
  | handle signal =>
    obtain ⟨f, alike, same⟩ := k.hearAlike signal
    rw [next, same]
    exact holdsAlike holds alike
  | expire other =>
    obtain ⟨f, alike, same⟩ := k.expireAlike other
    rw [next, same]
    exact holdsAlike holds alike
  | deliver m behaviour => exact holds
  | _ => contradiction

theorem Connection.holdsResumed (holds : k.Holds id)
    (running : ∀ c, k.call? id = some c → c.ending = none) :
    (k.resume id).connection.Holds id := by
  have used : k.client.isSome = true := by
    refine holds.resolve_right fun ⟨c, found, ended⟩ => ?_
    rw [running c found] at ended
    contradiction
  obtain ⟨n, client⟩ := Option.isSome_iff_exists.mp used
  cases found : k.call? id with
  | none =>
    rw [resume, found]
    exact holds
  | some c =>
    have stops (ending : Ending) : (k.stop id ending).connection.Holds id := by
      rw [stop, client]
      refine .inr ⟨{ c with ending := some ending }, ?_, rfl⟩
      refine Eq.trans (callChanged ?_) ((if_pos rfl).trans (congrArg _ found))
      exact fun _ => rfl
    rw [resume, found]
    simp only [running c found]
    split
    · contradiction
    · exact .inl used
    · exact .inl used
    · exact stops _
    · exact stops _
    · split
      · exact .inl used
      · exact holds

theorem Connection.attemptHolds {answer : Broker.Answer} (unavailable : k.client = none)
    (fresh : k.call? id = none) (accepts : answer.connectError = none) :
    (k.connect id answer).connection.Holds id := by
  have begun := attemptBegins unavailable fresh accepts
  cases fault : k.options.patience.fault? with
  | none =>
    simp only [fault] at begun
    exact .inl (Option.isSome_iff_exists.mpr ⟨_, begun.stands.client⟩)
  | some e =>
    simp only [fault] at begun
    obtain ⟨c, ended, begins⟩ := begun
    exact .inr ⟨c, begins.stands.found, Option.isSome_iff_exists.mpr ⟨_, ended⟩⟩

end holding

namespace State

variable {s : State} {id : CallId}

theorem unavailableClient : s.isAvailable = false ↔ s.connection.client = none := by
  cases client : s.client <;> simp [isAvailable, connection, client]

theorem foundConnection (consistent : s.Consistent) {c : Call}
    (found : s.connection.call? id = some c) : s.call? id = some c := by
  cases known : s.call? id with
  | none =>
    rw [uncalledConnection known] at found
    contradiction
  | some other =>
    rw [calledConnection consistent known] at found
    split at found
    · contradiction
    · exact found

theorem resumeReleases (consistent : s.Consistent) {c : Call}
    (found : s.connection.call? id = some c) (ended : c.ending.isSome = true) :
    (s.resume id).state.pending = [] := by
  obtain ⟨ending, ended⟩ := Option.isSome_iff_exists.mp ended
  rw [resume, foundConnection consistent found]
  simp only [ended]
  have descends : s.release.state.Descends ((s.release.state).conclude id ending).state :=
    concludeDescends id ending (.same rfl rfl rfl)
  exact List.eq_nil_iff_forall_not_mem.mpr fun entry member =>
    List.not_mem_nil (descends.pending entry member)

theorem ownBegun {action : Action} (own : action.passive id = true ∨ action = .resume id)
    (new : CallId) : action.begun? ≠ some new := by
  cases action with
  | begin call command answer => simp [Action.passive] at own
  | _ => nofun

theorem stepReleases (consistent : s.Consistent) {action : Action}
    (own : action.passive id = true ∨ action = .resume id)
    (held : s.pending = [] ∨ s.connection.Holds id) :
    (step s action).state.pending = [] ∨
      (step s action).state.connection.Holds id := by
  have begun := ownBegun own
  rcases held with empty | holds
  · have descends := stepDescends consistent (Option.eq_none_iff_forall_ne_some.mpr begun)
    refine .inl (List.eq_nil_iff_forall_not_mem.mpr fun entry member => ?_)
    have before := descends.pending entry member
    rw [empty] at before
    contradiction
  · rw [(stepAccords consistent fun new same => absurd same (begun new)).connection]
    rcases own with passive | rfl
    · exact .inr (Connection.holdsPassive holds passive)
    · by_cases ended : ∃ c, s.connection.call? id = some c ∧ c.ending.isSome = true
      · obtain ⟨c, found, ended⟩ := ended
        exact .inl (resumeReleases consistent found ended)
      · refine .inr (Connection.holdsResumed holds fun c found => ?_)
        by_contra other
        exact ended ⟨c, found, Option.isSome_iff_ne_none.mpr other⟩

theorem runReleases {actions : List Action} (consistent : s.Consistent)
    (own : ∀ action ∈ actions, action.passive id = true ∨ action = .resume id)
    (held : s.pending = [] ∨ s.connection.Holds id) :
    (run s actions).state.pending = [] ∨
      (run s actions).state.connection.Holds id := by
  induction actions generalizing s with
  | nil => exact held
  | cons action rest ih =>
    obtain ⟨here, others⟩ := List.forall_mem_cons.mp own
    rw [runCons]
    exact ih
      (stepConsistent consistent fun new same => absurd same (ownBegun here new)).1
      others (stepReleases consistent here held)

theorem ownAsks {action : Action} (own : action.passive id = true ∨ action = .resume id)
    (new : CallId) : action.asks? ≠ some new := by
  cases action with
  | begin call command answer => simp [Action.passive] at own
  | _ => nofun

section connecting

variable {window gap teardown : List Action}

theorem attemptOwn (passive : ∀ action ∈ window ++ gap ++ teardown, action.passive id = true) :
    ∀ action ∈ attemptSteps id window gap teardown,
      action.passive id = true ∨ action = .resume id := by
  intro action member
  have passive := passive action
  simp only [attemptSteps, List.mem_append, List.mem_cons, List.not_mem_nil,
    or_false] at member passive
  tauto

theorem attemptNumbered (fresh : ¬ s.Uses id) (answer : Broker.Answer)
    (passive : ∀ action ∈ window ++ gap ++ teardown, action.passive id = true) :
    Numbered s (.begin id .connect answer :: attemptSteps id window gap teardown) := by
  have silent : begun (attemptSteps id window gap teardown) = [] :=
    List.filterMap_eq_nil_iff.mpr fun action member =>
      Option.eq_none_iff_forall_ne_some.mpr (ownBegun (attemptOwn passive action member))
  have alone : begun (.begin id .connect answer :: attemptSteps id window gap teardown) = [id] := by
    rw [begunCons, silent]
    rfl
  constructor
  · rw [alone]
    exact List.nodup_singleton id
  · rw [alone]
    rintro used member
    rwa [List.mem_singleton.mp member]

theorem connectOutcome (reached : s.Reachable)
    (unavailable : s.isAvailable = false) (fresh : ¬ s.Uses id) {answer : Broker.Answer}
    (accepts : answer.connectError = none)
    (passive : ∀ action ∈ window ++ gap ++ teardown, action.passive id = true)
    (decided : (firstVerdict s.settings window).isSome ∨ .expire id ∈ window ∨
      s.options.patience ≠ .endless ∧ s.options.patience ≠ .limited) :
    let t := run s (.begin id .connect answer :: attemptSteps id window gap teardown)
    t.state.connecting = none ∧
    (match attemptOutcome s.options s.settings window with
    | .ok reason => t.resultsOf id = [.ok (.connected reason)] ∧
        t.state.client = some s.created ∧ t.stopped = []
    | .error e => t.resultsOf id = [.error e] ∧
        t.state.isAvailable = false ∧ t.stopped = [s.created] ∧ t.state.pending = []) ∧
    ∀ (busy : State) other again, busy.isAvailable = true → (∀ c ∈ busy.calls, c.id ≠ other) →
      step busy (.begin other .connect again) =
        ⟨busy, [.finished other (.error (.bus .alreadyAvailable))]⟩ := by
  intro t
  have consistent := reached.consistent
  have absent := unavailableClient.mp unavailable
  have unknown : s.connection.call? id = none := Connection.unknownCall fun c member same =>
    fresh (.inl ⟨c, (connectionCall.mp member).1, same⟩)
  have numbered := attemptNumbered fresh answer passive
  obtain ⟨connection, stopped, results⟩ := runAccords consistent numbered
  have own := attemptOwn passive
  have returned := results id (fun ⟨c, member, same, _⟩ => fresh (.inl ⟨c, member, same⟩))
    (List.forall_mem_cons.mpr ⟨nofun, fun action member => ownAsks (own action member) id⟩)
  have comes := Connection.attemptComes absent unknown accepts passive decided
  have released : t.state.pending = [] ∨ t.state.connection.Holds id := by
    have fresh : ∀ call, Action.begun? (.begin id .connect answer) = some call → ¬ s.Uses call :=
      fun call same => numbered.head same
    have accords := stepAccords consistent fresh
    rw [show t = _ from runCons ..]
    refine runReleases (stepConsistent consistent fresh).1 own (.inr ?_)
    rw [accords.connection]
    exact Connection.attemptHolds absent unknown accepts
  rw [connection] at released
  rw [show t.state.connecting = _ from congrArg Connection.connecting connection,
    show t.state.client = _ from congrArg Connection.client connection]
  refine and_assoc.mp ⟨?_, ?_⟩
  · rw [show attemptOutcome s.options s.settings window =
      attemptOutcome s.connection.options s.connection.settings window from rfl]
    cases outcome : attemptOutcome s.connection.options s.connection.settings window with
    | ok reason =>
      rw [outcome] at comes
      obtain ⟨stands, settled, idle⟩ := comes
      exact ⟨stands.connecting, returned.trans settled, stands.client, stopped.trans idle⟩
    | error e =>
      rw [outcome] at comes
      obtain ⟨stands, settled, once⟩ := comes
      refine ⟨stands.connecting, returned.trans settled, ?_, stopped.trans once,
        released.resolve_right ?_⟩
      · exact unavailableClient.mpr ((congrArg Connection.client connection).trans stands.client)
      · rintro (used | ⟨c, found, _⟩)
        · rw [stands.client] at used
          contradiction
        · rw [stands.found] at found
          contradiction
  · intro busy other again available apart
    rw [step, begin, connect, if_pos available, finish, dropUnknown apart]

end connecting

theorem connectOutcomeRefused :
    let s : State :=
      { options := ⟨.text "c", .int 60, .int 0, .bool true, .int 10⟩
        settings := ⟨"localhost", 1883, none, none, false⟩
        logger := ⟨.text "bus", .text "INFO"⟩
        routerLogger := ⟨.text "router", .text "INFO"⟩ }
    let window : List Action :=
      [.handle (.connected (.code 135)), .handle (.connected (.code 0)), .expire 0]
    let gap : List Action := [.handle (.disconnected (.code 135))]
    let t := run s (.begin 0 .connect {} :: attemptSteps 0 window gap [])
    (s.Reachable ∧ s.isAvailable = false ∧ ¬ s.Uses 0 ∧
      (∀ action ∈ window ++ gap ++ [], action.passive 0 = true) ∧
      (firstVerdict s.settings window).isSome) ∧
    t.resultsOf 0 = [.error (.bus (.refused "135"))] ∧ t.state.isAvailable = false ∧
      t.stopped = [0] ∧ t.state.pending = [] := by
  intro s window gap t
  have new : s.New := ⟨rfl, rfl, rfl, rfl, rfl, rfl⟩
  have reached : s.Reachable := ⟨s, [], new, List.nodup_nil, rfl⟩
  have passive : ∀ action ∈ window ++ gap ++ [], action.passive 0 = true := by
    simp [window, gap, Action.passive]
  have outcome := connectOutcome reached rfl (new.unused 0)
    (rfl : ({} : Broker.Answer).connectError = none) passive (.inl rfl)
  exact ⟨⟨reached, rfl, new.unused 0, passive, rfl⟩, outcome.2.1⟩

theorem acceptedGivenUp :
    let s : State :=
      { options := ⟨.text "c", .int 60, .int 0, .bool true, .int 0⟩
        settings := ⟨"localhost", 1883, none, none, false⟩
        logger := ⟨.text "bus", .text "INFO"⟩
        routerLogger := ⟨.text "router", .text "INFO"⟩ }
    let window : List Action := [.handle (.connected (.code 0))]
    let t := run s (.begin 0 .connect {} :: attemptSteps 0 window [] [])
    s.New ∧ firstVerdict s.settings window = some (.ok (.code 0)) ∧
      t.resultsOf 0 = [.error (.bus (.connectTimedOut "0"))] ∧ t.state.isAvailable = false :=
  ⟨⟨rfl, rfl, rfl, rfl, rfl, rfl⟩, rfl, rfl, rfl⟩

end State
end TopicRouting.Bus
