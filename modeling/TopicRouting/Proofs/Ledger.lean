import TopicRouting.Bus.Step

/-! The parts of a bus that the waiting of calls rests on. Reports, changes of the status and
requests leave them as they are; what is left says which calls change, join or leave. -/
namespace TopicRouting.Bus

structure Ledger where
  calls : List Call
  pending : List (Int × CallId)
  connecting : Option CallId
  client : Option Nat
  options : Options

def State.ledger (s : State) : Ledger := ⟨s.calls, s.pending, s.connecting, s.client, s.options⟩

def Output.isStopping : Output → Bool
  | .stopping _ => true
  | _ => false

namespace Turn

def results (t : Turn) : List (CallId × Except Error Reply) :=
  t.outputs.filterMap fun
    | .finished id result => some (id, result)
    | _ => none

def Stops (t : Turn) : Prop := ∃ output ∈ t.outputs, output.isStopping = true
instance (t : Turn) : Decidable t.Stops := by unfold Stops; infer_instance

structure Keeps (t : Turn) (l : Ledger) : Prop where
  ledger : t.state.ledger = l
  results : t.results = []

structure Changes (t : Turn) (l : Ledger) (f : Call → Call) : Prop where
  ledger : t.state.ledger = { l with calls := l.calls.map f }
  results : t.results = []

structure Joins (t : Turn) (l : Ledger) (c : Call) : Prop where
  ledger : t.state.ledger = { l with calls := l.calls ++ [c] }
  results : t.results = []

structure Ends (t : Turn) (l : Ledger) (id : CallId) (result : Except Error Reply) : Prop where
  ledger : t.state.ledger =
    { l with calls := l.calls.filter (·.id != id), connecting := t.state.connecting }
  attempt : t.state.connecting = none ∨ t.state.connecting = l.connecting
  results : t.results = [(id, result)]

variable {t : Turn} {l : Ledger} {next : State → Turn}

theorem resultsThen (t : Turn) (next : State → Turn) :
    (t.andThen next).results = t.results ++ (next t.state).results := List.filterMap_append

theorem stopsThen (stops : (next t.state).Stops) : (t.andThen next).Stops := by
  obtain ⟨output, member, stopping⟩ := stops
  exact ⟨output, List.mem_append_right _ member, stopping⟩

theorem Keeps.thenKeeps (keeps : t.Keeps l) (rest : (next t.state).Keeps t.state.ledger) :
    (t.andThen next).Keeps l :=
  ⟨rest.ledger.trans keeps.ledger, by rw [resultsThen, keeps.results, rest.results, List.append_nil]⟩

theorem Keeps.thenChanges {f : Call → Call} (keeps : t.Keeps l)
    (rest : (next t.state).Changes t.state.ledger f) : (t.andThen next).Changes l f := by
  rw [keeps.ledger] at rest
  exact ⟨rest.ledger, by rw [resultsThen, keeps.results, rest.results, List.append_nil]⟩

theorem Keeps.thenJoins {c : Call} (keeps : t.Keeps l)
    (rest : (next t.state).Joins t.state.ledger c) : (t.andThen next).Joins l c := by
  rw [keeps.ledger] at rest
  exact ⟨rest.ledger, by rw [resultsThen, keeps.results, rest.results, List.append_nil]⟩

theorem Keeps.thenEnds {id : CallId} {result : Except Error Reply} (keeps : t.Keeps l)
    (rest : (next t.state).Ends t.state.ledger id result) : (t.andThen next).Ends l id result := by
  rw [keeps.ledger] at rest
  exact ⟨rest.ledger, rest.attempt,
    by rw [resultsThen, keeps.results, rest.results, List.nil_append]⟩

theorem Changes.congr {f g : Call → Call} (changes : t.Changes l f)
    (same : ∀ c ∈ l.calls, f c = g c) : t.Changes l g :=
  ⟨by rw [changes.ledger, List.map_congr_left same], changes.results⟩

theorem Keeps.changes (keeps : t.Keeps l) : t.Changes l id :=
  ⟨by rw [keeps.ledger, List.map_id], keeps.results⟩

end Turn

namespace State

theorem noResults {outputs : List Output} (none : ∀ output ∈ outputs, ∀ id result,
    output ≠ .finished id result) (s : State) : (s.showing outputs).results = [] := by
  refine List.filterMap_eq_nil_iff.mpr fun output member => ?_
  cases output with
  | finished id result => exact absurd rfl (none _ member id result)
  | _ => rfl

theorem showingKeeps {outputs : List Output} (none : ∀ output ∈ outputs, ∀ id result,
    output ≠ .finished id result) (s : State) : (s.showing outputs).Keeps s.ledger :=
  ⟨rfl, noResults none s⟩

theorem quietKeeps (s : State) : s.quiet.Keeps s.ledger := ⟨rfl, rfl⟩

theorem sayKeeps (s : State) (severity : Severity) (message : Text) (fields : Dict) :
    (s.say severity message fields).Keeps s.ledger := by
  refine showingKeeps ?_ s
  rintro output member id result rfl
  obtain ⟨record, _, same⟩ := List.mem_map.mp member
  contradiction

theorem setStatusKeeps (s : State) (status : Status) (error : Option BusError) :
    (s.setStatus status error).Keeps s.ledger := sayKeeps _ _ _ _

theorem finishEnds (s : State) (id : CallId) (result : Except Error Reply) :
    (s.finish id result).Ends s.ledger id result := ⟨rfl, .inr rfl, rfl⟩

theorem finishAttemptEnds (s : State) (id : CallId) (result : Except Error Reply) :
    (s.finishAttempt id result).Ends s.ledger id result := ⟨rfl, .inl rfl, rfl⟩

theorem concludeEnds (s : State) (id : CallId) (ending : Ending) :
    ∃ result, (s.conclude id ending).Ends s.ledger id result := by
  rw [conclude.eq_def]
  cases ending with
  | closed =>
    have status := setStatusKeeps (s.setSubscriptions []) .closed none
    exact ⟨_, (status.thenKeeps (sayKeeps _ _ _ _)).thenEnds (finishEnds _ _ _)⟩
  | timedOut =>
    have status := setStatusKeeps s .error (some (.connectTimedOut s.options.seconds))
    exact ⟨_, status.thenEnds (finishAttemptEnds _ _ _)⟩
  | failed e => exact ⟨_, finishAttemptEnds s id _⟩

theorem stopClientStops {s : State} (available : s.client.isSome = true) (id : CallId)
    (ending : Ending) : (s.stopClient id ending).Stops := by
  obtain ⟨n, client⟩ := Option.isSome_iff_exists.mp available
  rw [stopClient, client]
  exact ⟨.stopping id, by simp, rfl⟩

theorem stopClientEnds (s : State) (id : CallId) (ending : Ending) :
    (s.stopClient id ending).Stops ∨ ∃ result, (s.stopClient id ending).Ends s.ledger id result := by
  cases available : s.client with
  | none =>
    rw [stopClient, available]
    exact .inr (concludeEnds s id ending)
  | some n => exact .inl (stopClientStops (by rw [available]; rfl) id ending)

end State
end TopicRouting.Bus
