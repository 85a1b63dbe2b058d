import TopicRouting.Proofs.Runs

/-! Any number of calls that wait at once, over any order of steps. A call ends as the steps about
its own message and itself say, whatever comes between them. -/
namespace TopicRouting.Bus

def Turn.resultsOf (t : Turn) (id : CallId) : List (Except Error Reply) :=
  t.results.filterMap fun (call, result) => if call = id then some result else none

theorem Turn.resultsOfThen (t : Turn) (next : State → Turn) (id : CallId) :
    (t.andThen next).resultsOf id = t.resultsOf id ++ (next t.state).resultsOf id := by
  rw [resultsOf, resultsThen, List.filterMap_append]
  rfl

theorem Turn.resultsOfNone {t : Turn} (none : t.results = []) (id : CallId) :
    t.resultsOf id = [] := by
  rw [resultsOf, none]
  rfl

theorem Turn.Ends.resultsOf {t : Turn} {l : Ledger} {call : CallId} {result : Except Error Reply}
    (ends : t.Ends l call result) (id : CallId) :
    t.resultsOf id = if call = id then [result] else [] := by
  rw [Turn.resultsOf, ends.results]
  by_cases same : call = id <;> simp [same]

namespace Moves

variable {s : State} {action : Action} {t : Turn}

end Moves
section runs

variable {s : State}

/- What has become of the waiting of a call over a run: it goes on, or the call has gone on with an
outcome and returned. -/
def Becomes (s : State) (id : CallId) (m : Int) (purpose : Purpose)
    (actions : List Action) : Wait → Prop
  | .finished outcome => (∀ c ∈ (run s actions).state.calls, c.id ≠ id) ∧
      ∃ front back result, actions = front ++ .resume id :: back ∧
        purpose.Returns (run s front).state m outcome result ∧
        (run s actions).resultsOf id = [result]
  | wait => (run s actions).resultsOf id = [] ∧
      ∃ c ∈ (run s actions).state.calls,
        c.id = id ∧ c.message = some m ∧ c.purpose = purpose ∧ c.wait = wait

theorem becomesWaiting {id : CallId} {m : Int} {purpose : Purpose} {actions : List Action}
    {c : Call} (results : (run s actions).resultsOf id = [])
    (member : c ∈ (run s actions).state.calls) (same : c.id = id)
    (awaited : c.message = some m) (asked : c.purpose = purpose) :
    Becomes s id m purpose actions c.wait := by
  have waits : ∃ other ∈ (run s actions).state.calls, other.id = id ∧
      other.message = some m ∧ other.purpose = purpose ∧ other.wait = c.wait :=
    ⟨c, member, same, awaited, asked, rfl⟩
  have shape : c.wait = c.future.wait c.expired := rfl
  rw [shape] at waits ⊢
  generalize c.future = future at waits ⊢
  cases future <;> exact ⟨results, waits⟩

theorem becomesAfter {id : CallId} {m : Int} {purpose : Purpose} {before rest : List Action}
    {wait : Wait} (results : (run s before).resultsOf id = [])
    (later : Becomes (run s before).state id m purpose rest wait) :
    Becomes s id m purpose (before ++ rest) wait := by
  have same : (run s (before ++ rest)).resultsOf id =
      (run (run s before).state rest).resultsOf id := by
    rw [runAppend, Turn.resultsOfThen, results, List.nil_append]
  have state (rest : List Action) : (run s (before ++ rest)).state =
      (run (run s before).state rest).state := by
    rw [runAppend]
    rfl
  cases wait with
  | finished outcome =>
    obtain ⟨absent, front, back, result, split, returns, ended⟩ := later
    refine ⟨by rwa [state], before ++ front, back, result, by rw [split, List.append_assoc], ?_,
      same.trans ended⟩
    rw [state]
    exact returns
  | waiting expired => exact ⟨same.trans later.1, state rest ▸ later.2⟩
  | answered answer => exact ⟨same.trans later.1, state rest ▸ later.2⟩
  | gaveUp => exact ⟨same.trans later.1, state rest ▸ later.2⟩

end runs

end TopicRouting.Bus
