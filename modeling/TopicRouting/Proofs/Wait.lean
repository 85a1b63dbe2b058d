import TopicRouting.Bus.Step

/-! The waiting of a call for the acknowledgement of its message, told by the steps that a bus
takes. Only steps about the message or the call matter: the handling of an acknowledgement, the
end of the waiting time, and the going on of the call. -/
namespace TopicRouting.Bus

/- How far a call has come with its waiting for the acknowledgement of a message. -/
inductive Wait where
  | waiting (expired : Bool)
  | answered (answer : Except BusError Answer)
  | gaveUp
  | finished (outcome : Option (Except BusError Answer))

def answerTo (message : Int) : Broker.Signal → Option (Except BusError Answer)
  | .acknowledged m reasons => if m = message then some (acknowledgement reasons) else none
  | .published m reason => if m = message then some (publication m reason) else none
  | _ => none

namespace Wait

def start : Patience → Wait
  | .none => .gaveUp
  | _ => .waiting false

def next (message : Int) (id : CallId) : Wait → Action → Wait
  | .waiting expired, .handle signal =>
      match answerTo message signal with
      | some answer => .answered answer
      | none => .waiting expired
  | .waiting expired, .expire call => .waiting (expired || call == id)
  | .waiting expired, .resume call =>
      if call = id && expired then .gaveUp else .waiting expired
  | .answered answer, .resume call =>
      if call = id then .finished (some answer) else .answered answer
  | .gaveUp, .resume call => if call = id then .finished none else .gaveUp
  | wait, _ => wait

theorem nextUnheard {m : Int} {signal : Broker.Signal} (silent : answerTo m signal = none)
    (w : Wait) (id : CallId) : w.next m id (.handle signal) = w := by
  cases w <;> simp [next, silent]

theorem nextBegun {id call : CallId} {command : Command} {answer : Broker.Answer} (w : Wait)
    (m : Int) : w.next m id (.begin call command answer) = w := by
  cases w <;> rfl

theorem nextDelivered (w : Wait) (m : Int) (id : CallId) (message : Message)
    (behaviour : Router.Behaviour) : w.next m id (.deliver message behaviour) = w := by
  cases w <;> rfl

theorem nextOther {id call : CallId} (other : call ≠ id) (w : Wait) (m : Int) :
    w.next m id (.resume call) = w := by
  cases w <;> simp [next, other]

theorem nextOtherTime {id call : CallId} (other : call ≠ id) (w : Wait) (m : Int) :
    w.next m id (.expire call) = w := by
  have apart : (call == id) = false := by simpa using other
  cases w <;> simp [next, apart]

theorem staysFinished (m : Int) (id : CallId) (outcome : Option (Except BusError Answer))
    (actions : List Action) :
    actions.foldl (next m id) (.finished outcome) = .finished outcome := by
  induction actions with
  | nil => rfl
  | cons action rest ih => exact ih

variable {m : Int} {id : CallId}

def goesOn (id : CallId) : Action → Bool
  | .resume call => call == id
  | _ => false

theorem answeredStays (answer : Except BusError Answer) (actions : List Action) :
    actions.foldl (next m id) (.answered answer) =
      if actions.any (goesOn id) then .finished (some answer) else .answered answer := by
  induction actions with
  | nil => rfl
  | cons action rest ih =>
    cases action with
    | resume call =>
      by_cases same : call = id
      · simp [next, goesOn, same, staysFinished]
      · simpa [next, goesOn, same] using ih
    | _ => simpa [next, goesOn] using ih

theorem firstAnswer {w : Wait} {front back : List Action} {signal : Broker.Signal}
    {answer : Except BusError Answer} {expired : Bool}
    (unanswered : front.foldl (next m id) w = .waiting expired)
    (heard : answerTo m signal = some answer) :
    (front ++ .handle signal :: back).foldl (next m id) w =
      if back.any (goesOn id) then .finished (some answer) else .answered answer := by
  have answered : next m id (.waiting expired) (.handle signal) = .answered answer := by
    simp [next, heard]
  rw [List.foldl_append, unanswered, List.foldl_cons, answered, answeredStays]

def remaining (id : CallId) : Wait → List Action
  | .waiting false => [.expire id, .resume id, .resume id]
  | .waiting true => [.resume id, .resume id]
  | .gaveUp => [.resume id]
  | _ => []

def Unanswered : Wait → Prop
  | .answered _ | .finished (some _) => False
  | _ => True

def Silent (m : Int) : Action → Prop
  | .handle signal => answerTo m signal = none
  | _ => True

theorem unansweredNext {w : Wait} {action : Action} (before : w.Unanswered)
    (silent : Silent m action) : (w.next m id action).Unanswered := by
  cases w with
  | waiting expired =>
    cases action with
    | handle signal =>
      have none : answerTo m signal = none := silent
      simp [next, none, Unanswered]
    | resume call => by_cases on : (call = id && expired) = true <;> simp [next, on, Unanswered]
    | _ => trivial
  | gaveUp =>
    cases action with
    | resume call => by_cases on : call = id <;> simp [next, on, Unanswered]
    | _ => trivial
  | answered answer => contradiction
  | finished outcome => exact before

theorem remainingNext {w : Wait} {action : Action} (before : w.Unanswered)
    (silent : Silent m action) :
    remaining id w = action :: remaining id (w.next m id action) ∨
      (remaining id (w.next m id action) = remaining id w ∧
        ∀ needed, remaining id w ≠ action :: needed) := by
  cases w with
  | waiting expired =>
    cases action with
    | handle signal =>
      have none : answerTo m signal = none := silent
      cases expired <;> simp [next, none, remaining]
    | expire call =>
      by_cases same : call = id
      · cases expired <;> simp [next, same, remaining]
      · rw [nextOtherTime same]
        cases expired <;> simp [remaining, Ne.symm same]
    | resume call =>
      by_cases same : call = id
      · cases expired <;> simp [next, same, remaining]
      · rw [nextOther same]
        cases expired <;> simp [remaining, Ne.symm same]
    | _ => cases expired <;> simp [next, remaining]
  | gaveUp =>
    cases action with
    | resume call =>
      by_cases same : call = id
      · simp [next, same, remaining]
      · rw [nextOther same]
        simp [remaining, Ne.symm same]
    | _ => simp [next, remaining]
  | answered answer => contradiction
  | finished outcome => exact .inr ⟨rfl, by simp [remaining]⟩

theorem remainingInside {w : Wait} {action : Action} {rest : List Action} (before : w.Unanswered)
    (silent : Silent m action) (inside : (remaining id w).Sublist (action :: rest)) :
    (remaining id (w.next m id action)).Sublist rest := by
  rcases remainingNext before silent with done | ⟨same, other⟩
  · rw [done] at inside
    exact List.cons_sublist_cons.mp inside
  · rw [same]
    generalize remaining id w = needed at inside other
    cases inside with
    | cons _ later => exact later
    | cons_cons _ later => exact absurd rfl (other _)

theorem withoutAnswer (id : CallId) {w : Wait} {actions : List Action}
    (before : w.Unanswered) (silent : ∀ action ∈ actions, Silent m action) :
    (actions.foldl (next m id) w).Unanswered ∧
      ((remaining id w).Sublist actions → actions.foldl (next m id) w = .finished none) := by
  induction actions generalizing w with
  | nil =>
    refine ⟨before, fun inside => ?_⟩
    have nothing := List.sublist_nil.mp inside
    cases w with
    | waiting expired => cases expired <;> contradiction
    | gaveUp => contradiction
    | answered answer => contradiction
    | finished outcome =>
      cases outcome with
      | none => rfl
      | some answer => contradiction
  | cons action rest ih =>
    obtain ⟨here, others⟩ := List.forall_mem_cons.mp silent
    obtain ⟨unanswered, ends⟩ := ih (unansweredNext before here) others
    exact ⟨unanswered, fun inside => ends (remainingInside before here inside)⟩

theorem gaveUpStays (actions : List Action) : actions.foldl (next m id) .gaveUp =
    if actions.any (goesOn id) then .finished none else .gaveUp := by
  induction actions with
  | nil => rfl
  | cons action rest ih =>
    cases action with
    | resume call =>
      by_cases same : call = id
      · simp [next, goesOn, same, staysFinished]
      · simpa [next, goesOn, same] using ih
    | _ => simpa [next, goesOn] using ih

theorem startUnanswered (patience : Patience) : (start patience).Unanswered := by
  cases patience <;> trivial

theorem stillWaits {w : Wait} {actions : List Action} (before : w.Unanswered)
    (silent : ∀ action ∈ actions, Silent m action) :
    (∃ expired, actions.foldl (next m id) w = .waiting expired) ↔
      ¬ (remaining id w).dropLast.Sublist actions := by
  induction actions generalizing w with
  | nil =>
    cases w with
    | waiting expired => cases expired <;> simp [remaining]
    | gaveUp => simp [remaining]
    | answered answer => contradiction
    | finished outcome => simp [remaining]
  | cons action rest ih =>
    obtain ⟨here, others⟩ := List.forall_mem_cons.mp silent
    rw [List.foldl_cons, ih (unansweredNext before here) others]
    rcases remainingNext before here with done | ⟨same, other⟩
    · rw [done]
      cases remaining id (w.next m id action) with
      | nil => simp
      | cons first later => rw [List.dropLast_cons_cons, List.cons_sublist_cons]
    · rw [same]
      generalize remaining id w = needed at other
      match needed with
      | [] | [_] => simp
      | first :: second :: later =>
        have apart : first ≠ action := fun own => other _ (by rw [own])
        rw [List.dropLast_cons_cons]
        refine not_congr ⟨.cons _, fun inside => ?_⟩
        cases inside with
        | cons _ later => exact later
        | cons_cons _ later => exact absurd rfl apart

theorem timeEnds (w : Wait) : ∃ outcome,
    [.expire id, .resume id, .resume id].foldl (next m id) w = .finished outcome := by
  cases w with
  | waiting expired => exact ⟨none, by simp [next]⟩
  | answered answer => exact ⟨some answer, by simp [next]⟩
  | gaveUp => exact ⟨none, by simp [next]⟩
  | finished outcome => exact ⟨outcome, staysFinished m id outcome _⟩

theorem firstHeard (m : Int) (actions : List Action) :
    (∀ action ∈ actions, Silent m action) ∨
      ∃ front signal answer back, actions = front ++ .handle signal :: back ∧
        (∀ action ∈ front, Silent m action) ∧ answerTo m signal = some answer := by
  induction actions with
  | nil => exact .inl (by simp)
  | cons action rest ih =>
    by_cases here : Silent m action
    · rcases ih with silent | ⟨front, signal, answer, back, rfl, silent, heard⟩
      · exact .inl (List.forall_mem_cons.mpr ⟨here, silent⟩)
      · exact .inr ⟨action :: front, signal, answer, back, rfl,
          List.forall_mem_cons.mpr ⟨here, silent⟩, heard⟩
    · cases action with
      | handle signal =>
        obtain ⟨answer, heard⟩ := Option.ne_none_iff_exists'.mp here
        exact .inr ⟨[], signal, answer, rest, rfl, by simp, heard⟩
      | _ => exact absurd trivial here

/- An answer grants what a call waits for if it is the first, is none that fails, and comes in time,
and the call goes on with it. -/
def Granted (m : Int) (id : CallId) (patience : Patience) (actions : List Action) : Prop :=
  patience ≠ .none ∧ ∃ front signal answer back, actions = front ++ .handle signal :: back ∧
    (∀ action ∈ front, Silent m action) ∧ ¬ [.expire id, .resume id].Sublist front ∧
    answerTo m signal = some (.ok answer) ∧ .resume id ∈ back

theorem anyGoesOn {actions : List Action} :
    actions.any (goesOn id) = true ↔ .resume id ∈ actions := by
  rw [List.any_eq_true]
  constructor
  · rintro ⟨action, member, on⟩
    cases action with
    | resume call =>
      have own : call = id := by simpa [goesOn] using on
      exact own ▸ member
    | _ => contradiction
  · exact fun member => ⟨_, member, by simp [goesOn]⟩

theorem grantedIff (patience : Patience) (actions : List Action) :
    (∃ answer, actions.foldl (next m id) (start patience) = .finished (some (.ok answer))) ↔
      Granted m id patience actions := by
  have unanswered := startUnanswered patience
  constructor
  · rintro ⟨answer, ended⟩
    rcases firstHeard m actions with silent | ⟨front, signal, reply, back, rfl, silent, heard⟩
    · have last := (withoutAnswer id unanswered silent).1
      rw [ended] at last
      contradiction
    · have early := (withoutAnswer id unanswered silent).1
      by_cases waits : ∃ expired, front.foldl (next m id) (start patience) = .waiting expired
      · have inTime := (stillWaits unanswered silent).mp waits
        obtain ⟨expired, waits⟩ := waits
        rw [firstAnswer waits heard] at ended
        split at ended
        · rename_i on
          cases ended
          refine ⟨?_, front, signal, answer, back, rfl, silent, ?_, heard, anyGoesOn.mp on⟩
          · rintro rfl
            exact inTime (List.nil_sublist front)
          · cases patience with
            | none => exact absurd (List.nil_sublist front) inTime
            | _ => exact inTime
        · contradiction
      · rw [List.foldl_append] at ended
        generalize front.foldl (next m id) (start patience) = w at early waits ended
        cases w with
        | waiting expired => exact absurd ⟨expired, rfl⟩ waits
        | answered answer => contradiction
        | gaveUp =>
          rw [gaveUpStays] at ended
          split at ended <;> cases ended
        | finished outcome =>
          rw [staysFinished] at ended
          cases ended
          contradiction
  · rintro ⟨patient, front, signal, answer, back, rfl, silent, inTime, heard, on⟩
    have begins : start patience = .waiting false := by
      cases patience with
      | none => contradiction
      | _ => rfl
    rw [begins] at unanswered ⊢
    obtain ⟨expired, waits⟩ := (stillWaits unanswered silent).mpr inTime
    exact ⟨answer, by rw [firstAnswer waits heard, if_pos (anyGoesOn.mpr on)]⟩

end Wait

end TopicRouting.Bus
