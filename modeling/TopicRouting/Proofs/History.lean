import TopicRouting.Proofs.Deliveries

/-! What a router has become after any number of commands and messages, from a fresh one on, is a
table, and goes on as the table does. -/
namespace TopicRouting.Router

inductive Turn where
  | command (logger : Logger) (command : Command)
  | dispatch (env : Surroundings) (depth : Nat) (message : Message)

def turn (r : Router) : Turn → Router
  | .command logger command =>
      match r.run logger command with
      | .ok (_, after, _) => after
      | .error _ => r
  | .dispatch env depth message => (r.dispatch env depth 0 message).2.router

def after (turns : List Turn) : Router := turns.foldl turn {}

variable {r : Router} {t : Table}

theorem turnRepresents (represents : Represents r t) (next : Turn) :
    ∃ t, Represents (r.turn next) t := by
  cases next with
  | command logger command =>
    rw [turn]
    cases expected : t.run command with
    | error e =>
      rw [refusesAsTable represents logger expected]
      exact ⟨t, represents⟩
    | ok result =>
      obtain ⟨after, records, ran, represents⟩ := runsAsTable represents logger expected
      rw [ran]
      exact ⟨result.2, represents⟩
  | dispatch env depth message =>
    rw [turn]
    rcases dispatchSound env depth 0 message represents with tooDeep | ⟨after, served, represents⟩
    · rw [tooDeep]
      exact ⟨t, represents⟩
    · exact ⟨after, represents⟩

theorem turnsRepresent (turns : List Turn) (represents : Represents r t) :
    ∃ t, Represents (turns.foldl turn r) t := by
  induction turns generalizing r t with
  | nil => exact ⟨t, represents⟩
  | cons next turns ih =>
    obtain ⟨middle, between⟩ := turnRepresents represents next
    exact ih between

theorem afterRepresents (turns : List Turn) : ∃ t, Represents (after turns) t :=
  turnsRepresent turns representsFresh

theorem historyIsTable (turns : List Turn) :
    ∃ t, Represents (after turns) t ∧ (∀ other, Represents (after turns) other → other = t) ∧
      (after turns).entries.map Prod.fst = (after turns).listeners.map Prod.fst ∧
      (after turns).labels = t.rows.map Row.label ∧
      (after turns).size = t.rows.length ∧
      (∀ label, (after turns).has label = t.has label) ∧
      (∀ label, (after turns).get label = match t.row? label with
        | some row => .ok (some row.pattern)
        | none => .error (.unknown label)) ∧
      (∀ logger command, match t.run command with
        | .ok (reply, next) => ∃ r records,
            (after turns).run logger command = .ok (reply, r, records) ∧
            (Assigning.program command).run (after turns) = .ok reply r ∧ Represents r next
        | .error e => (after turns).run logger command = .error e ∧
            (Assigning.program command).run (after turns) = .error e (after turns)) ∧
      (∀ env depth calls message, ∃ next,
        Serves env (t.takers message.topic) (t.deliver message.topic) next ∧
        Represents ((after turns).dispatch env (depth + 1) calls message).2.router next) ∧
      ∀ env depth calls message,
        (∀ calls listener message, (env.behaviour calls listener message).Quiet) →
        Represents ((after turns).dispatch env (depth + 1) calls message).2.router
          (t.deliver message.topic) := by
  obtain ⟨t, represents⟩ := afterRepresents turns
  refine ⟨t, represents, fun other => oneTable represents, sameLabels represents, ?_, ?_,
    hasRow represents, getRow represents, ?_, ?_, ?_⟩
  · rw [labels, represents.entries, List.map_map]
    rfl
  · rw [size, represents.entries, List.length_map]
  · intro logger command
    have program := Assigning.programRuns logger command (after turns)
    cases expected : t.run command with
    | error e =>
      have refused := refusesAsTable represents logger expected
      rw [refused] at program
      exact ⟨refused, program⟩
    | ok result =>
      obtain ⟨r, records, ran, represents⟩ := runsAsTable represents logger expected
      rw [ran] at program
      exact ⟨r, records, ran, program, represents⟩
  · intro env depth calls message
    exact dispatchServes (dispatchSound env depth) represents calls message
  · intro env depth calls message quiet
    exact dispatchQuiet quiet depth represents calls message

end TopicRouting.Router
