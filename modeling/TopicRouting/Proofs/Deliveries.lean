import TopicRouting.Proofs.Refinement

/-! Dispatching a message. The first row that takes it loses the registrations that were made for
one message, and then its listeners are called; whatever else happens to the table is what they do
to it, one after the other. -/
namespace TopicRouting.Router
open Table (Distinct alone replaceNone replaceAt firstOfKind)

def Finish.stops : Finish → Bool
  | .aborted => true
  | _ => false

mutual

/-- What a listener may do to a table, by commands and by dispatching further messages, and
whether it breaks off. -/
inductive Performs (env : Surroundings) : Reaction → Table → Bool → Table → Prop where
  | done {t} : Performs env .done t false t
  | fail {error t} : Performs env (.fail error) t false t
  | abort {t} : Performs env .abort t true t
  | leave {work t} : Performs env (.leave work) t false t
  | note {what next before stops after} (rest : Performs env next before stops after) :
      Performs env (.note what next) before stops after
  | edit {change next before stops after} (rest : Performs env next before stops after) :
      Performs env (.edit change next) before stops after
  | run {command next reply before middle stops after}
      (ran : before.run command = .ok (reply, middle))
      (rest : Performs env (next (.ok reply)) middle stops after) :
      Performs env (.run command next) before stops after
  | refused {command next error before stops after} (ran : before.run command = .error error)
      (rest : Performs env (next (.error error)) before stops after) :
      Performs env (.run command next) before stops after
  | dispatch {message next how seen before middle stops after}
      (served : Serves env (before.takers message.topic) (before.deliver message.topic) middle)
      (rest : Performs env (next how seen) middle stops after) :
      Performs env (.dispatch message next) before stops after
  | tooDeep {message next before stops after}
      (rest : Performs env (next .tooDeep message) before stops after) :
      Performs env (.dispatch message next) before stops after

/-- What the listeners of registrations do to a table when they are called in order, up to the
first that breaks off. -/
inductive Serves (env : Surroundings) : List Registration → Table → Table → Prop where
  | nil {t} : Serves env [] t t
  | cons {g registrations calls message before middle after}
      (first : Performs env (env.behaviour calls g.listener message) before false middle)
      (rest : Serves env registrations middle after) : Serves env (g :: registrations) before after
  | stopped {g registrations calls message before after}
      (last : Performs env (env.behaviour calls g.listener message) before true after) :
      Serves env (g :: registrations) before after

end

variable {r : Router} {t : Table}

def Sound (env : Surroundings) (nested : Nested) : Prop :=
  ∀ {r t} (calls : Nat) (m : Message), Represents r t →
    (nested calls r m = (.tooDeep, ⟨r, m, [], calls⟩)) ∨
      ∃ after, Serves env (t.takers m.topic) (t.deliver m.topic) after ∧
        Represents (nested calls r m).2.router after

theorem performSound {env : Surroundings} {nested : Nested} (sound : Sound env nested)
    (reaction : Reaction) {s : Scene} (represents : Represents s.router t) :
    ∃ after, Performs env reaction t (perform env.logger nested reaction s).1.stops after ∧
      Represents (perform env.logger nested reaction s).2.router after := by
  induction reaction generalizing s t with
  | done => exact ⟨t, .done, represents⟩
  | fail error => exact ⟨t, .fail, represents⟩
  | abort => exact ⟨t, .abort, represents⟩
  | leave work => exact ⟨t, .leave, represents⟩
  | note what next ih =>
    obtain ⟨after, rest, represents⟩ := ih (s := s.add [.noted what]) represents
    exact ⟨after, .note rest, represents⟩
  | edit change next ih =>
    obtain ⟨after, rest, represents⟩ := ih (s := { s with message := change s.message }) represents
    exact ⟨after, .edit rest, represents⟩
  | run command next ih =>
    rw [perform]
    cases expected : t.run command with
    | error error =>
      have refused := refusesAsTable represents env.logger expected
      obtain ⟨after, rest, represents⟩ := ih (.error error) represents
      rw [refused]
      exact ⟨after, .refused expected rest, represents⟩
    | ok result =>
      obtain ⟨reply, middle⟩ := result
      obtain ⟨r, records, ran, between⟩ := runsAsTable represents env.logger expected
      obtain ⟨after, rest, represents⟩ := ih (.ok reply)
        (s := { s.add (records.map .logged) with router := r }) between
      rw [ran]
      exact ⟨after, .run expected rest, represents⟩
  | dispatch message next ih =>
    rcases sound s.calls message represents with tooDeep | ⟨middle, served, between⟩
    · obtain ⟨after, rest, represents⟩ := ih .tooDeep message
        (s := s.after ⟨s.router, message, [], s.calls⟩) represents
      rw [perform, tooDeep]
      exact ⟨after, .tooDeep rest, represents⟩
    · rw [perform]
      generalize nested s.calls s.router message = outcome at between
      obtain ⟨how, inner⟩ := outcome
      obtain ⟨after, rest, represents⟩ := ih how inner.message
        (s := s.after inner) between
      exact ⟨after, .dispatch served rest, represents⟩

theorem callAllSound {env : Surroundings} {nested : Nested} (sound : Sound env nested)
    (label : Label) (registrations : List Registration) {s : Scene}
    (represents : Represents s.router t) :
    ∃ after, Serves env registrations t after ∧
      Represents (callAll env nested label registrations s).2.router after := by
  induction registrations generalizing s t with
  | nil => exact ⟨t, .nil, represents⟩
  | cons g registrations ih =>
    obtain ⟨middle, first, between⟩ := performSound sound
      (env.behaviour s.calls g.listener s.message) (s := s.call g) represents
    rw [callAll]
    generalize perform env.logger nested (env.behaviour s.calls g.listener s.message)
      (s.call g) = outcome at first between
    obtain ⟨finish, called⟩ := outcome
    cases finish with
    | aborted => exact ⟨middle, .stopped first, between⟩
    | done =>
      obtain ⟨after, rest, represents⟩ := ih between
      exact ⟨after, .cons first rest, represents⟩
    | failed error =>
      obtain ⟨after, rest, represents⟩ := ih (s := called.add _) between
      exact ⟨after, .cons first rest, represents⟩
    | left work =>
      obtain ⟨after, rest, represents⟩ := ih (s := called.add _) between
      exact ⟨after, .cons first rest, represents⟩

theorem takeRepresents (represents : Represents r t) (topic : Text) :
    match r.match? topic with
    | none => t.takers topic = [] ∧ t.deliver topic = t
    | some found => (r.take found.label).1 = t.takers topic ∧
        Represents (r.take found.label).2 (t.deliver topic) := by
  rw [matchRow represents]
  rcases firstOfKind (Row.takes topic) t.rows with missing | ⟨front, row, back, rows, before, here⟩
  · have unmatched : ∀ row ∈ t.rows, row.pattern.match? topic = none := fun row member =>
      Option.isSome_eq_false_iff.mp (missing row member) |> Option.isNone_iff_eq_none.mp
    have nothing : t.found? topic = none :=
      List.findSome?_eq_none_iff.mpr fun row member => by simp [unmatched row member]
    have nowhere : t.rows.find? (Row.takes topic) = none :=
      List.find?_eq_none.mpr fun row member => by simp [missing row member]
    rw [nothing]
    simp [Table.takers, nowhere, Table.deliver, replaceNone missing]
  · obtain ⟨params, matched⟩ := Option.isSome_iff_exists.mp here
    have found : t.found? topic = some ⟨row.label, row.pattern, params⟩ := by
      have earlier : (front.findSome? fun row => (row.pattern.match? topic).map fun params =>
          (⟨row.label, row.pattern, params⟩ : Found)) = none :=
        List.findSome?_eq_none_iff.mpr fun other member => by
          simpa [Row.takes] using before other member
      rw [Table.found?, rows, List.findSome?_append, earlier, List.findSome?_cons, matched]
      rfl
    have first : t.rows.find? (Row.takes topic) = some row :=
      List.find?_eq_some_iff_append.mpr ⟨here, front, back, rows, by simpa using before⟩
    have distinct := represents.distinct
    rw [rows] at distinct
    have stands : Stands t row.label front row back :=
      ⟨rows, (alone distinct).1, Label.sameRefl row.label, (alone distinct).2⟩
    rw [found]
    refine ⟨?_, ?_⟩
    · rw [take, registrationsOfRow represents, stands.row?, Table.takers, first]
    · rw [Table.deliver, rows, replaceAt before here]
      exact changeStanding represents stands _

theorem dispatchServes {env : Surroundings} {depth : Nat} (sound : Sound env (dispatch env depth))
    (represents : Represents r t) (calls : Nat) (message : Message) :
    ∃ after, Serves env (t.takers message.topic) (t.deliver message.topic) after ∧
      Represents (dispatch env (depth + 1) calls r message).2.router after := by
  have taken := takeRepresents represents message.topic
  rw [dispatch]
  cases matched : r.match? message.topic with
  | none =>
    rw [matched] at taken
    refine ⟨t, ?_, represents⟩
    rw [taken.1, taken.2]
    exact .nil
  | some found =>
    rw [matched] at taken
    obtain ⟨called, kept⟩ := taken
    rw [← called]
    exact callAllSound sound found.label (r.take found.label).1 kept

theorem dispatchSound (env : Surroundings) (depth : Nat) : Sound env (dispatch env depth) := by
  induction depth with
  | zero => exact fun calls message _ => .inl rfl
  | succ depth ih =>
    exact fun calls message represents => .inr (dispatchServes ih represents calls message)

def Reaction.Quiet : Reaction → Prop
  | .note _ next | .edit _ next => next.Quiet
  | .run _ _ | .dispatch _ _ => False
  | .done | .fail _ | .abort | .leave _ => True

theorem quietPerforms {env : Surroundings} {reaction : Reaction} (quiet : reaction.Quiet)
    {before after : Table} {stops : Bool} (performs : Performs env reaction before stops after) :
    after = before := by
  induction reaction with
  | note what next ih =>
    cases performs with
    | note rest => exact ih quiet rest
  | edit change next ih =>
    cases performs with
    | edit rest => exact ih quiet rest
  | run command next ih => contradiction
  | dispatch message next ih => contradiction
  | _ =>
    cases performs
    rfl

theorem quietServes {env : Surroundings}
    (quiet : ∀ calls listener message, (env.behaviour calls listener message).Quiet)
    {registrations : List Registration} {before after : Table}
    (serves : Serves env registrations before after) : after = before := by
  induction registrations generalizing before with
  | nil =>
    cases serves
    rfl
  | cons g registrations ih =>
    cases serves with
    | cons first rest => exact (ih rest).trans (quietPerforms (quiet _ g.listener _) first)
    | stopped last => exact quietPerforms (quiet _ g.listener _) last

theorem dispatchQuiet {env : Surroundings}
    (quiet : ∀ calls listener message, (env.behaviour calls listener message).Quiet) (depth : Nat)
    (represents : Represents r t) (calls : Nat) (message : Message) :
    Represents (dispatch env (depth + 1) calls r message).2.router (t.deliver message.topic) := by
  obtain ⟨after, served, represents⟩ :=
    dispatchServes (dispatchSound env depth) represents calls message
  exact quietServes quiet served ▸ represents

end TopicRouting.Router
