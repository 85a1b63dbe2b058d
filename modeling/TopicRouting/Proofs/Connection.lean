import TopicRouting.Proofs.Waiting

/-! The connection of a bus as a machine of its own: its client, its status, and the calls that
connect or close. No other call and no message moves it. -/
namespace TopicRouting.Bus

structure Connection where
  options : Options
  settings : Broker.Settings
  client : Option Nat
  created : Nat
  connecting : Option CallId
  closing : Bool
  status : Status
  calls : List Call

structure Shift where
  connection : Connection
  results : List (CallId × Except Error Reply) := []
  stopped : List Nat := []

def Patience.future : Patience → Future
  | .none => .cancelled
  | _ => .open

namespace Connection

def call? (k : Connection) (id : CallId) : Option Call := k.calls.find? (·.id == id)

def change (k : Connection) (id : CallId) (f : Call → Call) : Connection :=
  { k with calls := k.calls.map fun c => if c.id == id then f c else c }

def drop (k : Connection) (id : CallId) : Connection :=
  { k with calls := k.calls.filter (·.id != id) }

def quiet (k : Connection) : Shift := { connection := k }

def leave (k : Connection) (id : CallId) (result : Except Error Reply) : Shift :=
  { connection := k.drop id, results := [(id, result)] }

def leaveAttempt (k : Connection) (id : CallId) (result : Except Error Reply) : Shift :=
  ({ k with connecting := none }).leave id result

def conclude (k : Connection) (id : CallId) : Ending → Shift
  | .closed => ({ k with status := .closed }).leave id (.ok .closed)
  | .timedOut =>
      ({ k with status := .error }).leaveAttempt id
        (.error (.bus (.connectTimedOut k.options.seconds)))
  | .failed e => k.leaveAttempt id (.error e)

def stop (k : Connection) (id : CallId) (ending : Ending) : Shift :=
  match k.client with
  | none => k.conclude id ending
  | some n =>
      { connection := ({ k with client := none }).change id fun c => { c with ending := some ending }
        stopped := [n] }

def attempt (k : Connection) (id : CallId) (future : Future) : Connection :=
  { k with
    client := some k.created
    created := k.created + 1
    connecting := some id
    closing := false
    status := .connecting
    calls := k.calls ++ [{ id := id, purpose := .connect, future := future }] }

def connect (k : Connection) (id : CallId) (answer : Broker.Answer) : Shift :=
  if k.client.isSome then k.leave id (.error (.bus .alreadyAvailable))
  else
    match answer.connectError with
    | some text => (k.attempt id .open).stop id (.failed (.value (.other text)))
    | none =>
        match k.options.patience.fault? with
        | some e => (k.attempt id .open).stop id (.failed e)
        | none => (k.attempt id k.options.patience.future).quiet

def close (k : Connection) (id : CallId) : Shift :=
  if k.client.isSome then
    let c : Call := { id := id, purpose := .close }
    ({ k with closing := true, calls := k.calls ++ [c] }).stop id .closed
  else k.leave id (.error (.bus .notAvailable))

def attempt? (k : Connection) : Option CallId :=
  k.connecting.filter fun id => (k.call? id).any (·.future.isOpen)

def settleAttempt (k : Connection) (answer : Except BusError Answer) : Connection :=
  match k.attempt? with
  | some id => k.change id fun c => { c with future := .settled answer }
  | none => k

def hear (k : Connection) : Broker.Signal → Connection
  | .connected reason =>
      if reason.isFailure then
        ({ k with status := .error }).settleAttempt (.error (.refused reason.text))
      else ({ k with status := .connected }).settleAttempt (.ok (.connected reason))
  | .connectFailed =>
      ({ k with status := .error }).settleAttempt
        (.error (.unreachable k.settings.host k.settings.port))
  | .disconnected _ =>
      { k with status :=
          if k.closing then .closed
          else if k.options.reconnect.isBlank then .offline else .reconnecting }
  | _ => k

def expire (k : Connection) (id : CallId) : Connection :=
  match k.call? id with
  | none => k
  | some c =>
      if c.future.isOpen && !c.expired && c.ending.isNone then
        k.change id fun c => { c with expired := true }
      else k

def resume (k : Connection) (id : CallId) : Shift :=
  match k.call? id with
  | none => k.quiet
  | some c =>
      match c.ending, c.future with
      | some ending, _ => k.conclude id ending
      | none, .settled (.ok (.connected reason)) => k.leaveAttempt id (.ok (.connected reason))
      | none, .settled (.ok _) => k.leaveAttempt id (.error .wrongType)
      | none, .settled (.error e) => k.stop id (.failed (.bus e))
      | none, .cancelled => k.stop id .timedOut
      | none, .open =>
          if c.expired then (k.change id fun c => { c with future := .cancelled }).quiet
          else k.quiet

def next (k : Connection) : Action → Shift
  | .begin id .connect answer => k.connect id answer
  | .begin id .close _ => k.close id
  | .handle signal => (k.hear signal).quiet
  | .expire id => (k.expire id).quiet
  | .resume id => k.resume id
  | _ => k.quiet

end Connection

def State.connection (s : State) : Connection where
  options := s.options
  settings := s.settings
  client := s.client
  created := s.created
  connecting := s.connecting
  closing := s.closing
  status := s.status
  calls := s.calls.filter fun c => !c.purpose.acknowledged

def Turn.stopped (t : Turn) : List Nat :=
  t.outputs.filterMap fun
    | .requested n .stop => some n
    | _ => none

structure Turn.Follows (t : Turn) (shift : Shift) : Prop where
  connection : t.state.connection = shift.connection
  results : t.results = shift.results
  stopped : t.stopped = shift.stopped

def Output.isSilent : Output → Bool
  | .finished .. | .requested _ .stop => false
  | _ => true

theorem Turn.stoppedThen (t : Turn) (next : State → Turn) :
    (t.andThen next).stopped = t.stopped ++ (next t.state).stopped := List.filterMap_append

theorem Turn.Follows.andThen {t : Turn} {k : Connection} {next : State → Turn} {shift : Shift}
    (first : t.Follows k.quiet) (rest : (next t.state).Follows shift) :
    (t.andThen next).Follows shift where
  connection := rest.connection
  results := by rw [resultsThen, first.results, rest.results]; rfl
  stopped := by rw [stoppedThen, first.stopped, rest.stopped]; rfl

theorem Turn.Follows.thenQuiet {t : Turn} {k : Connection} {next : State → Turn}
    (first : t.Follows k.quiet) (rest : (next t.state).Follows t.state.connection.quiet) :
    (t.andThen next).Follows k.quiet := by
  have same : t.state.connection = k := first.connection
  rw [same] at rest
  exact first.andThen rest

namespace State

theorem showingFollows {outputs : List Output} (silent : ∀ output ∈ outputs, output.isSilent)
    (s : State) : (s.showing outputs).Follows s.connection.quiet where
  connection := rfl
  results := by
    refine List.filterMap_eq_nil_iff.mpr fun output member => ?_
    cases output with
    | finished id result => exact absurd (silent _ member) (by simp [Output.isSilent])
    | _ => rfl
  stopped := by
    refine List.filterMap_eq_nil_iff.mpr fun output member => ?_
    cases output with
    | requested n request =>
      cases request with
      | stop => exact absurd (silent _ member) (by simp [Output.isSilent])
      | _ => rfl
    | _ => rfl

theorem quietFollows (s : State) : s.quiet.Follows s.connection.quiet := ⟨rfl, rfl, rfl⟩

theorem sayFollows (s : State) (severity : Severity) (message : Text) (fields : Dict) :
    (s.say severity message fields).Follows s.connection.quiet := by
  refine showingFollows (fun output member => ?_) s
  obtain ⟨record, _, rfl⟩ := List.mem_map.mp member
  rfl

theorem setStatusFollows (s : State) (status : Status) (error : Option BusError) :
    (s.setStatus status error).Follows { s.connection with status := status }.quiet :=
  sayFollows _ _ _ _

theorem dropConnection (s : State) (id : CallId) :
    (s.dropCall id).connection = s.connection.drop id := by
  simp only [connection, Connection.drop, dropCall, List.filter_filter, Bool.and_comm]

theorem changeConnection (s : State) (id : CallId) {f : Call → Call}
    (kept : ∀ c, (f c).purpose = c.purpose) :
    (s.changeCall id f).connection = s.connection.change id f := by
  have same (c : Call) : (!(if c.id == id then f c else c).purpose.acknowledged) =
      !c.purpose.acknowledged := by
    split
    · rw [kept]
    · rfl
  simp only [connection, Connection.change, changeCall, List.filter_map, Function.comp_def, same]

theorem finishFollows (s : State) (id : CallId) (result : Except Error Reply) :
    (s.finish id result).Follows (s.connection.leave id result) :=
  ⟨dropConnection s id, rfl, rfl⟩

theorem finishAttemptFollows (s : State) (id : CallId) (result : Except Error Reply) :
    (s.finishAttempt id result).Follows (s.connection.leaveAttempt id result) :=
  finishFollows _ _ _

theorem concludeFollows (s : State) (id : CallId) (ending : Ending) :
    (s.conclude id ending).Follows (s.connection.conclude id ending) := by
  rw [conclude.eq_def]
  cases ending with
  | closed =>
    have said : (((s.setSubscriptions []).setStatus .closed none).andThen fun s =>
        s.say .info "Connection closed" [(.text "client_id", s.options.clientId)]).Follows
          { s.connection with status := .closed }.quiet :=
      (setStatusFollows _ _ _).andThen (sayFollows _ _ _ _)
    exact said.andThen (finishFollows _ id _)
  | timedOut => exact (setStatusFollows s .error _).andThen (finishAttemptFollows _ id _)
  | failed e => exact finishAttemptFollows s id _

theorem stopFollows (s : State) (id : CallId) (ending : Ending) :
    (s.stopClient id ending).Follows (s.connection.stop id ending) := by
  cases client : s.client with
  | none =>
    have same : s.connection.stop id ending = s.connection.conclude id ending := by
      rw [Connection.stop, show s.connection.client = none from client]
    rw [stopClient, client, same]
    exact concludeFollows s id ending
  | some n =>
    rw [stopClient, client, Connection.stop, show s.connection.client = some n from client]
    exact ⟨changeConnection _ id fun _ => rfl, rfl, rfl⟩

end State
end TopicRouting.Bus
