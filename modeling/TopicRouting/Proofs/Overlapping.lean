import TopicRouting.Proofs.Sequential
import TopicRouting.Proofs.Topics

/-! Calls that connect or close while others still do. What a call does after its client has
stopped, it does to whatever the bus has become meanwhile. -/
namespace TopicRouting.Bus

def Action.lasting : Action → Bool
  | .begin _ command _ => !command.acknowledged
  | _ => false

/- A call that closes the bus, or that may still stop a client as it gives up. -/
def Call.Pursues (c : Call) : Prop := c.purpose = .close ∨ c.purpose = .connect ∧ c.ending = none

namespace Connection

inductive Steps (k : Connection) (action : Action) : Shift → Prop
  | kept {f : Call → Call} {status : Status} (alike : ∀ c : Call, c.Alike (f c))
      (reported : status = .closed → k.closing = true ∨ k.status = .closed) :
      Steps k action (quiet { k with status := status, calls := k.calls.map f })
  | refused {call : CallId} (e : Error) (begun : action.begun? = some call)
      (lasting : action.lasting = true) : Steps k action (k.leave call (.error e))
  | attempted {call : CallId} {answer : Broker.Answer} {future : Future}
      (begun : action = .begin call .connect answer) (unavailable : k.client = none) :
      Steps k action (k.attempt call future).quiet
  | attemptFailed {call : CallId} {answer : Broker.Answer} {e : Error}
      (begun : action = .begin call .connect answer) (unavailable : k.client = none) :
      Steps k action ((k.attempt call .open).stop call (.failed e))
  | closes {call : CallId} {answer : Broker.Answer} {n : Nat}
      (begun : action = .begin call .close answer) (client : k.client = some n) :
      Steps k action (({ k with
        closing := true
        calls := k.calls ++ [{ id := call, purpose := .close }] } : Connection).stop call .closed)
  | concluded {c : Call} {ending : Ending} (resumed : action = .resume c.id)
      (found : k.call? c.id = some c) (ended : c.ending = some ending) :
      Steps k action (k.conclude c.id ending)
  | answered {c : Call} {result : Except Error Reply} (resumed : action = .resume c.id)
      (found : k.call? c.id = some c) (running : c.ending = none)
      (connects : ∀ reply, result = .ok reply → ∃ reason, reply = .connected reason) :
      Steps k action (k.leaveAttempt c.id result)
  | stopped {c : Call} {ending : Ending} (resumed : action = .resume c.id)
      (found : k.call? c.id = some c) (running : c.ending = none) (goesOn : ending ≠ .closed) :
      Steps k action (k.stop c.id ending)

variable {k : Connection}

theorem stillSteps (k : Connection) (action : Action) : k.Steps action k.quiet := by
  have kept : k.Steps action (quiet { k with status := k.status, calls := k.calls.map fun c => c }) :=
    .kept (fun _ => ⟨rfl, rfl, rfl⟩) .inr
  simpa using kept

theorem resumeSteps (k : Connection) (call : CallId) :
    k.Steps (.resume call) (k.resume call) := by
  rw [resume]
  cases found : k.call? call with
  | none => exact stillSteps k _
  | some c =>
    cases foundId found
    dsimp only
    split
    · rename_i ended
      exact .concluded rfl found ended
    · rename_i running _
      exact .answered rfl found running fun reply same => ⟨_, (Except.ok.inj same).symm⟩
    · rename_i running _
      exact .answered rfl found running (by simp)
    · rename_i running _
      exact .stopped rfl found running (by simp)
    · rename_i running _
      exact .stopped rfl found running (by simp)
    · split
      · exact .kept (fun c => by split <;> exact ⟨rfl, rfl, rfl⟩) .inr
      · exact stillSteps k _

theorem nextSteps (k : Connection) (action : Action) : k.Steps action (k.next action) := by
  cases action with
  | begin call command answer =>
    cases command with
    | connect =>
      rw [next, connect]
      split
      · exact .refused _ rfl rfl
      · rename_i absent
        have unavailable : k.client = none := by simpa using absent
        split
        · exact .attemptFailed rfl unavailable
        · split
          · exact .attemptFailed rfl unavailable
          · exact .attempted rfl unavailable
    | close =>
      rw [next, close]
      split
      · rename_i available
        obtain ⟨n, client⟩ := Option.isSome_iff_exists.mp available
        exact .closes rfl client
      · exact .refused _ rfl rfl
    | _ => exact stillSteps k _
  | handle signal =>
    obtain ⟨f, alike, same⟩ := k.hearAlike signal
    rw [next, same]
    refine .kept alike fun closed => ?_
    cases signal with
    | connected reason =>
      simp only [reported, Option.getD_some] at closed
      split at closed <;> contradiction
    | connectFailed => contradiction
    | disconnected reason =>
      simp only [reported, Option.getD_some] at closed
      split at closed
      · exact .inl ‹_›
      · split at closed <;> contradiction
    | _ => exact .inr closed
  | expire call =>
    obtain ⟨f, alike, same⟩ := k.expireAlike call
    rw [next, same]
    exact .kept alike .inr
  | resume call => exact resumeSteps k call
  | deliver | route command => exact stillSteps k _

structure Vouched (k : Connection) (p : Nat → Prop) : Prop where
  goesOn : ∀ n, k.client = some n → k.closing = false
  closed : ∀ n, k.client = some n → k.status = .closed ∨ (∃ c ∈ k.calls, c.purpose = .close) → p n
  endings : ∀ c ∈ k.calls, c.ending = some .closed → c.purpose = .close

section vouched

variable {p : Nat → Prop} {id : CallId} (vouched : k.Vouched p)
include vouched

theorem Vouched.wider {q : Nat → Prop} (wider : ∀ n, p n → q n) : k.Vouched q :=
  ⟨vouched.goesOn, fun n client told => wider n (vouched.closed n client told), vouched.endings⟩

theorem Vouched.drop : (k.drop id).Vouched p where
  goesOn := vouched.goesOn
  closed := fun n client told => vouched.closed n client <|
    told.imp_right fun ⟨c, member, closes⟩ => ⟨c, (List.mem_filter.mp member).1, closes⟩
  endings := fun c member => vouched.endings c (List.mem_filter.mp member).1

theorem Vouched.freed : ({ k with connecting := none } : Connection).Vouched p :=
  ⟨vouched.goesOn, vouched.closed, vouched.endings⟩

theorem Vouched.concludeOpen {ending : Ending} (goesOn : ending ≠ .closed) :
    (k.conclude id ending).connection.Vouched p := by
  cases ending with
  | closed => contradiction
  | timedOut =>
    have reported : ({ k with status := .error } : Connection).Vouched p :=
      ⟨vouched.goesOn, fun n client told => vouched.closed n client (told.imp_left (by simp)),
        vouched.endings⟩
    exact reported.freed.drop
  | failed e => exact vouched.freed.drop

theorem Vouched.conclude {c : Call} {ending : Ending} (found : k.call? c.id = some c)
    (ended : c.ending = some ending) : (k.conclude c.id ending).connection.Vouched p := by
  by_cases closes : ending = .closed
  · have member := List.mem_of_find?_eq_some found
    have own := vouched.endings c member (closes ▸ ended)
    have reported : ({ k with status := .closed } : Connection).Vouched p :=
      ⟨vouched.goesOn, fun n client _ => vouched.closed n client (.inr ⟨c, member, own⟩),
        vouched.endings⟩
    rw [closes]
    exact reported.drop
  · exact vouched.concludeOpen closes

theorem Vouched.alike {f : Call → Call} {status : Status} (alike : ∀ c : Call, c.Alike (f c))
    (reported : status = .closed → k.closing = true ∨ k.status = .closed) :
    ({ k with status := status, calls := k.calls.map f } : Connection).Vouched p where
  goesOn := vouched.goesOn
  closed := by
    intro n client told
    refine vouched.closed n client ?_
    rcases told with closed | ⟨c, member, closes⟩
    · refine .inl ((reported closed).resolve_left ?_)
      simp [vouched.goesOn n client]
    · obtain ⟨old, inside, rfl⟩ := List.mem_map.mp member
      exact .inr ⟨old, inside, (alike old).purpose ▸ closes⟩
  endings := by
    intro c member ended
    obtain ⟨old, inside, rfl⟩ := List.mem_map.mp member
    rw [(alike old).purpose]
    exact vouched.endings old inside ((alike old).ending ▸ ended)

theorem Vouched.stop {ending : Ending} (goesOn : ending ≠ .closed) :
    (k.stop id ending).connection.Vouched p := by
  cases client : k.client with
  | none =>
    rw [Connection.stop, client]
    exact vouched.concludeOpen goesOn
  | some n =>
    rw [Connection.stop, client]
    refine ⟨fun n none => absurd none.symm (Option.some_ne_none n),
      fun n none => absurd none.symm (Option.some_ne_none n), fun c member ended => ?_⟩
    obtain ⟨old, inside, rfl⟩ := List.mem_map.mp member
    split at ended
    · exact absurd (Option.some.inj ended) goesOn
    · rename_i other
      rw [if_neg other]
      exact vouched.endings old inside ended

theorem Vouched.attempt {future : Future}
    (overtaken : (∃ c ∈ k.calls, c.purpose = .close) → p k.created) :
    (k.attempt id future).Vouched p where
  goesOn := fun _ _ => rfl
  closed := by
    intro n client told
    cases Option.some.inj client
    rcases told with closed | ⟨c, member, closes⟩
    · contradiction
    · rcases List.mem_append.mp member with old | new
      · exact overtaken ⟨c, old, closes⟩
      · rw [List.mem_singleton.mp new] at closes
        contradiction
  endings := by
    intro c member ended
    rcases List.mem_append.mp member with old | new
    · exact vouched.endings c old ended
    · rw [List.mem_singleton.mp new] at ended
      contradiction

theorem Vouched.close {n : Nat} (client : k.client = some n) (fresh : ∀ c ∈ k.calls, c.id ≠ id) :
    (({ k with closing := true, calls := k.calls ++ [{ id := id, purpose := .close }] } :
      Connection).stop id .closed).connection.Vouched p := by
  rw [Connection.stop, client]
  refine ⟨fun n none => absurd none.symm (Option.some_ne_none n),
    fun n none => absurd none.symm (Option.some_ne_none n), fun c member ended => ?_⟩
  obtain ⟨old, inside, rfl⟩ := List.mem_map.mp member
  rcases List.mem_append.mp inside with old | new
  · have other := fresh _ old
    rw [if_neg (by simpa using other)] at ended ⊢
    exact vouched.endings _ old ended
  · rw [List.mem_singleton.mp new]
    simp

theorem Vouched.next {q : Nat → Prop} {action : Action} (wider : ∀ n, p n → q n)
    (fresh : ∀ call, action.begun? = some call → ∀ c ∈ k.calls, c.id ≠ call)
    (overtaken : ∀ call answer, action = .begin call .connect answer → k.client = none →
      (∃ c ∈ k.calls, c.purpose = .close) → q k.created) :
    (k.next action).connection.Vouched q := by
  have steps := k.nextSteps action
  generalize k.next action = shift at steps
  have vouched := vouched.wider wider
  cases steps with
  | kept alike reported => exact vouched.alike alike reported
  | refused e begun lasting => exact vouched.drop
  | attempted begun unavailable => exact vouched.attempt (overtaken _ _ begun unavailable)
  | attemptFailed begun unavailable =>
    exact (vouched.attempt (overtaken _ _ begun unavailable)).stop (by simp)
  | closes begun client => exact vouched.close client (fresh _ (by rw [begun]; rfl))
  | concluded resumed found ended => exact vouched.conclude found ended
  | answered resumed found running connects => exact vouched.freed.drop
  | stopped resumed found running goesOn => exact vouched.stop goesOn

end vouched

/- A client that an attempt has made while a call that closes the bus went on. -/
def Overtaken (k : Connection) (actions : List Action) (n : Nat) : Prop :=
  ∃ before id answer since, actions = before ++ .begin id .connect answer :: since ∧
    (k.run before).connection.client = none ∧ (k.run before).connection.created = n ∧
    ∃ c ∈ (k.run before).connection.calls, c.purpose = .close

theorem runVouched (client : k.client = none) (idle : k.calls = []) {actions : List Action}
    (distinct : (begun actions).Nodup) :
    (k.run actions).connection.Vouched (k.Overtaken actions) := by
  induction actions using List.reverseRecOn with
  | nil => exact ⟨by simp [run, quiet, client], by simp [run, quiet, client], by simp [run, quiet, idle]⟩
  | append_singleton front action ih =>
    rw [begunAppend, List.nodup_append] at distinct
    obtain ⟨before, _, apart⟩ := distinct
    have within : (k.run front).Within k.options k.settings (· ∈ begun front) :=
      runWithin ⟨rfl, rfl, by simp [quiet, idle], by simp [quiet]⟩ fun _ member => member
    rw [runThen]
    refine (ih before).next ?_ ?_ ?_
    · rintro n ⟨early, id, answer, since, rfl, rest⟩
      exact ⟨early, id, answer, since ++ [action], by simp, rest⟩
    · rintro call new c member rfl
      exact apart c.id (within.calls c member) c.id (begunMember (List.mem_singleton.mpr rfl) new) rfl
    · rintro call answer rfl unavailable closing
      exact ⟨front, call, answer, [], rfl, unavailable, rfl, closing⟩

/- No other call that connects or closes goes on, unless its client is stopping already. -/
def Clear (k : Connection) (id : CallId) : Prop :=
  ∀ c ∈ k.calls, c.id ≠ id → ∃ ending, c.ending = some ending ∧ ending ≠ .closed

/- How far an attempt to connect has come that no other call disturbs. -/
inductive Runs (k : Connection) (id : CallId) (n : Nat) (returned : List (Except Error Reply)) : Prop
  | waits {c : Call} (client : k.client = some n) (goesOn : k.closing = false)
      (status : k.status ≠ .closed) (found : k.call? id = some c) (running : c.ending = none)
      (silent : returned = [])
  | stays {reason : Broker.Reason} (client : k.client = some n) (goesOn : k.closing = false)
      (status : k.status ≠ .closed) (gone : k.call? id = none)
      (connected : returned = [.ok (.connected reason)])
  | fails {c : Call} {ending : Ending} (found : k.call? id = some c)
      (ended : c.ending = some ending) (goesOn : ending ≠ .closed) (silent : returned = [])
  | failed {e : Error} (gone : k.call? id = none) (ended : returned = [.error e])

section clear

variable {id : CallId} {n : Nat} {returned : List (Except Error Reply)}

theorem Clear.unclosed (clear : k.Clear id) (runs : k.Runs id n returned) :
    ∀ c ∈ k.calls, (k.call? c.id = some c) → c.ending ≠ some .closed := by
  intro c member found closed
  by_cases own : c.id = id
  · rw [own] at found
    cases runs with
    | waits client goesOn status known running silent =>
      cases Option.some.inj (found.symm.trans known)
      rw [running] at closed
      contradiction
    | stays client goesOn status gone connected => simp [gone] at found
    | fails known ended goesOn silent =>
      cases Option.some.inj (found.symm.trans known)
      exact goesOn (Option.some.inj (ended.symm.trans closed))
    | failed gone ended => simp [gone] at found
  · obtain ⟨ending, ended, goesOn⟩ := clear c member own
    exact goesOn (Option.some.inj (ended.symm.trans closed))

theorem Clear.alike (clear : k.Clear id) {f : Call → Call} {status : Status}
    (alike : ∀ c : Call, c.Alike (f c)) :
    ({ k with status := status, calls := k.calls.map f } : Connection).Clear id := by
  intro c member other
  obtain ⟨old, inside, rfl⟩ := List.mem_map.mp member
  rw [(alike old).ending]
  exact clear old inside ((alike old).id ▸ other)

theorem Clear.drop (clear : k.Clear id) (call : CallId) : (k.drop call).Clear id :=
  fun c member => clear c (List.mem_filter.mp member).1

theorem Runs.alike (runs : k.Runs id n returned) {f : Call → Call} {status : Status}
    (alike : ∀ c : Call, c.Alike (f c))
    (reported : status = .closed → k.closing = true ∨ k.status = .closed) :
    ({ k with status := status, calls := k.calls.map f } : Connection).Runs id n returned := by
  have found : ({ k with status := status, calls := k.calls.map f } : Connection).call? id =
      (k.call? id).map f := callMapped (k := { k with status := status }) fun c => (alike c).id
  have unclosed (goesOn : k.closing = false) (before : k.status ≠ .closed) : status ≠ .closed :=
    fun closed => before ((reported closed).resolve_left (by simp [goesOn]))
  cases runs with
  | waits client goesOn before known running silent =>
    exact .waits client goesOn (unclosed goesOn before) (found.trans (congrArg _ known))
      ((alike _).ending.trans running) silent
  | stays client goesOn before gone connected =>
    exact .stays client goesOn (unclosed goesOn before) (found.trans (congrArg _ gone)) connected
  | fails known ended goesOn silent =>
    exact .fails (found.trans (congrArg _ known)) ((alike _).ending.trans ended) goesOn silent
  | failed gone ended => exact .failed (found.trans (congrArg _ gone)) ended

theorem concludeOpen (k : Connection) (id : CallId) {ending : Ending} (goesOn : ending ≠ .closed) :
    ∃ status e,
    k.conclude id ending = ({ k with status := status } : Connection).leaveAttempt id (.error e) ∧
      (status = .closed → k.status = .closed) := by
  cases ending with
  | closed => contradiction
  | timedOut => exact ⟨_, _, rfl, by simp⟩
  | failed e => exact ⟨k.status, e, rfl, fun closed => closed⟩

theorem Runs.left (runs : k.Runs id n returned) {call : CallId} (other : call ≠ id)
    {status : Status} (reported : status = .closed → k.status = .closed)
    (result : Except Error Reply) :
    let shift := ({ k with status := status } : Connection).leaveAttempt call result
    shift.connection.Runs id n (returned ++ shift.resultsOf id) := by
  have kept : (({ k with status := status, connecting := none } : Connection).drop call).call? id =
      k.call? id := callDropped.trans (if_neg (Ne.symm other))
  have same : returned ++ (({ k with status := status } : Connection).leaveAttempt call
      result).resultsOf id = returned := by simp [Shift.resultsOf, leaveAttempt, leave, other]
  intro shift
  rw [same]
  cases runs with
  | waits client goesOn before known running silent =>
    exact .waits client goesOn (fun closed => before (reported closed)) (kept.trans known) running
      silent
  | stays client goesOn before gone connected =>
    exact .stays client goesOn (fun closed => before (reported closed)) (kept.trans gone) connected
  | fails known ended goesOn silent => exact .fails (kept.trans known) ended goesOn silent
  | failed gone ended => exact .failed (kept.trans gone) ended

theorem Runs.silent (runs : k.Runs id n returned) {c : Call} (found : k.call? id = some c) :
    returned = [] := by
  cases runs with
  | waits client goesOn status known running silent => exact silent
  | stays client goesOn status gone connected => simp [gone] at found
  | fails known ended goesOn silent => exact silent
  | failed gone ended => simp [gone] at found

theorem Runs.ended (runs : k.Runs id n returned) {c : Call} (found : k.call? id = some c)
    (status : Status) (e : Error) :
    let shift := ({ k with status := status } : Connection).leaveAttempt id (.error e)
    shift.connection.Runs id n (returned ++ shift.resultsOf id) := by
  refine .failed (e := e) (callDropped.trans (if_pos rfl)) ?_
  simp [runs.silent found, Shift.resultsOf, leaveAttempt, leave]

theorem Runs.answered (runs : k.Runs id n returned) {c : Call} (found : k.call? id = some c)
    (running : c.ending = none) {result : Except Error Reply}
    (connects : ∀ reply, result = .ok reply → ∃ reason, reply = .connected reason) :
    (k.leaveAttempt id result).connection.Runs id n
      (returned ++ (k.leaveAttempt id result).resultsOf id) := by
  cases result with
  | error e => exact runs.ended found k.status e
  | ok reply =>
    obtain ⟨reason, rfl⟩ := connects reply rfl
    cases runs with
    | waits client goesOn status known _ silent =>
      have gone : (({ k with connecting := none } : Connection).drop id).call? id = none :=
        callDropped.trans (if_pos rfl)
      have connected : returned ++ (k.leaveAttempt id (.ok (.connected reason))).resultsOf id =
          [.ok (.connected reason)] := by
        simp [silent, Shift.resultsOf, leaveAttempt, leave]
      exact .stays client goesOn status gone connected
    | stays client goesOn status gone connected => simp [gone] at found
    | fails known ended goesOn silent =>
      cases Option.some.inj (found.symm.trans known)
      rw [running] at ended
      contradiction
    | failed gone ended => simp [gone] at found

theorem Runs.stopped (runs : k.Runs id n returned) (clear : k.Clear id) {c : Call}
    (found : k.call? id = some c) (running : c.ending = none) {ending : Ending}
    (goesOn : ending ≠ .closed) : (k.stop id ending).connection.Clear id ∧
      (k.stop id ending).connection.Runs id n (returned ++ (k.stop id ending).resultsOf id) := by
  cases runs with
  | waits client _ _ known _ silent =>
    rw [stop, client]
    constructor
    · intro after member other
      obtain ⟨old, inside, rfl⟩ := List.mem_map.mp member
      split at other
      · rename_i own
        exact absurd (by simpa using own) other
      · rename_i apart
        rw [if_neg apart]
        exact clear old inside other
    · refine .fails (c := { c with ending := some ending }) ?_ rfl goesOn ?_
      · refine Eq.trans (callChanged ?_) ((if_pos rfl).trans (congrArg _ found))
        exact fun _ => rfl
      · rw [silent]
        rfl
  | stays client _ _ gone _ => simp [gone] at found
  | fails known ended _ _ =>
    cases Option.some.inj (found.symm.trans known)
    rw [running] at ended
    contradiction
  | failed gone _ => simp [gone] at found

theorem Runs.next (runs : k.Runs id n returned) (clear : k.Clear id) {action : Action}
    (lasting : action.lasting = false) :
    (k.next action).connection.Clear id ∧
      (k.next action).connection.Runs id n (returned ++ (k.next action).resultsOf id) := by
  have steps := k.nextSteps action
  generalize k.next action = shift at steps
  have own {c : Call} (found : k.call? c.id = some c) (running : c.ending = none) : c.id = id := by
    by_contra apart
    obtain ⟨ending, ended, _⟩ := clear c (List.mem_of_find?_eq_some found) apart
    rw [running] at ended
    contradiction
  cases steps with
  | kept alike reported =>
    refine ⟨clear.alike alike, ?_⟩
    have same := runs.alike alike reported
    rwa [← List.append_nil returned] at same
  | refused e begun asked => rw [lasting] at asked; contradiction
  | attempted begun => rw [begun] at lasting; contradiction
  | attemptFailed begun => rw [begun] at lasting; contradiction
  | closes begun => rw [begun] at lasting; contradiction
  | @concluded c ending resumed found ended =>
    have goesOn : ending ≠ .closed := by
      rintro rfl
      exact clear.unclosed runs c (List.mem_of_find?_eq_some found) found ended
    obtain ⟨status, e, same, reported⟩ := k.concludeOpen c.id goesOn
    rw [same]
    refine ⟨clear.drop c.id, ?_⟩
    by_cases own : c.id = id
    · rw [own] at found ⊢
      exact runs.ended found status e
    · exact runs.left own reported _
  | @answered c result resumed found running connects =>
    have same := own found running
    rw [same] at found ⊢
    exact ⟨clear.drop id, runs.answered found running connects⟩
  | @stopped c ending resumed found running goesOn =>
    have same := own found running
    rw [same] at found ⊢
    exact runs.stopped clear found running goesOn

theorem attemptRuns (answer : Broker.Answer) (fresh : k.call? id = none)
    (clear : ∀ c ∈ k.calls, ∃ ending, c.ending = some ending ∧ ending ≠ .closed) :
    (k.connect id answer).connection.Clear id ∧
      (k.connect id answer).connection.Runs id k.created ((k.connect id answer).resultsOf id) := by
  have begun (future : Future) : (k.attempt id future).Clear id := by
    intro c member other
    rcases List.mem_append.mp member with old | new
    · exact clear c old
    · rw [List.mem_singleton.mp new] at other
      contradiction
  have waits (future : Future) : (k.attempt id future).Runs id k.created [] :=
    .waits rfl rfl (by simp [attempt]) (attemptStands fresh future).found rfl rfl
  have fails (e : Error) := (waits .open).stopped (begun .open) (attemptStands fresh .open).found rfl
    (show Ending.failed e ≠ .closed by simp)
  rw [connect]
  split
  · refine ⟨fun c member _ => clear c (List.mem_filter.mp member).1, ?_⟩
    refine .failed (e := .bus .alreadyAvailable) (callDropped.trans (if_pos rfl)) ?_
    simp [Shift.resultsOf, leave]
  · split
    · exact fails _
    · split
      · exact fails _
      · exact ⟨begun _, waits _⟩

theorem Runs.run {since : List Action} (runs : k.Runs id n returned) (clear : k.Clear id)
    (lasting : ∀ action ∈ since, action.lasting = false) :
    (k.run since).connection.Clear id ∧
      (k.run since).connection.Runs id n (returned ++ (k.run since).resultsOf id) := by
  induction since generalizing k returned with
  | nil => exact ⟨clear, (List.append_nil returned).symm ▸ runs⟩
  | cons action rest ih =>
    obtain ⟨here, others⟩ := List.forall_mem_cons.mp lasting
    obtain ⟨clearNext, runsNext⟩ := runs.next clear here
    have same : (k.run (action :: rest)).resultsOf id = (k.next action).resultsOf id ++
        ((k.next action).connection.run rest).resultsOf id := List.filterMap_append
    rw [same, ← List.append_assoc]
    exact ih runsNext clearNext others

theorem Runs.connected {reason : Broker.Reason}
    (runs : k.Runs id n [.ok (.connected reason)]) : k.client = some n ∧ k.status ≠ .closed := by
  cases runs with
  | waits client goesOn status known running silent => contradiction
  | stays client goesOn status gone connected => exact ⟨client, status⟩
  | fails known ended goesOn silent => contradiction
  | failed gone ended => simp at ended

end clear
end Connection

namespace State

variable {s : State}

theorem attemptCourse (new : s.New) {before since : List Action} {id : CallId}
    {answer : Broker.Answer}
    (distinct : (begun (before ++ .begin id .connect answer :: since)).Nodup)
    (lasting : ∀ action ∈ since, action.lasting = false)
    (clear : ∀ c ∈ (run s before).state.calls, ¬ c.Pursues) :
    let k := (s.connection.run (before ++ .begin id .connect answer :: since)).connection
    k.Clear id ∧ k.Runs id (run s before).state.created
      ((s.connection.run (before ++ .begin id .connect answer :: since)).resultsOf id) := by
  have course := runCourse new distinct
  have numbered := runConsistent new.consistent (new.numbered distinct)
  have fresh : (s.connection.run before).connection.call? id = none := by
    rw [← course]
    refine Connection.unknownCall fun c member same => ?_
    have unused := numbered.2.unused id (by rw [begunCons]; exact List.mem_cons_self)
    exact unused (.inl ⟨c, (connectionCall.mp member).1, same⟩)
  have early : (begun before).Nodup :=
    distinct.sublist (by rw [begunAppend]; exact List.sublist_append_left ..)
  have unused : id ∉ begun before := by
    intro old
    rw [begunAppend, List.nodup_append] at distinct
    exact distinct.2.2 id old id (by rw [begunCons]; exact List.mem_cons_self) rfl
  have stopping : ∀ c ∈ (s.connection.run before).connection.calls,
      ∃ ending, c.ending = some ending ∧ ending ≠ .closed := by
    intro c member
    have vouched := Connection.runVouched new.client (newIdle new) early
    have inside : c ∈ (run s before).state.calls ∧ c.purpose.acknowledged = false :=
      connectionCall.mp (course ▸ member)
    have pursues := clear c inside.1
    rw [Call.Pursues, not_or, not_and] at pursues
    have connects : c.purpose = .connect := by
      cases purpose : c.purpose with
      | connect => rfl
      | close => exact absurd purpose pursues.1
      | _ => simp [purpose, Purpose.acknowledged] at inside
    obtain ⟨ending, ended⟩ := Option.ne_none_iff_exists'.mp (pursues.2 connects)
    refine ⟨ending, ended, fun closed => pursues.1 ?_⟩
    exact vouched.endings c member (closed ▸ ended)
  obtain ⟨begunClear, begunRuns⟩ := Connection.attemptRuns answer fresh stopping
  have last := begunRuns.run begunClear lasting
  have split : s.connection.run (before ++ .begin id .connect answer :: since) =
      (s.connection.run before).andThen fun k =>
        (k.connect id answer).andThen (·.run since) := Connection.runAppend ..
  have results : (s.connection.run (before ++ .begin id .connect answer :: since)).resultsOf id =
      ((s.connection.run before).connection.connect id answer).resultsOf id ++
        (((s.connection.run before).connection.connect id answer).connection.run since).resultsOf
          id := by
    have none := Connection.runSilent (newIdle new) unused
    rw [split]
    rw [← List.nil_append (_ ++ _), ← none]
    exact List.filterMap_append.trans (congrArg _ List.filterMap_append)
  rw [results, split, show (run s before).state.created = _ from congrArg Connection.created course]
  exact last

theorem attemptUnclosed (new : s.New) {before since back : List Action} {id : CallId}
    {answer : Broker.Answer}
    (distinct : (begun (before ++ .begin id .connect answer :: (since ++ back))).Nodup)
    (lasting : ∀ action ∈ since, action.lasting = false)
    (clear : ∀ c ∈ (run s before).state.calls, ¬ c.Pursues) :
    ∀ c ∈ (run s (before ++ .begin id .connect answer :: since)).state.calls,
      c.ending ≠ some .closed := by
  intro c inside closed
  have whole : before ++ .begin id .connect answer :: (since ++ back) =
      (before ++ .begin id .connect answer :: since) ++ back := by simp
  rw [whole] at distinct
  have course := runCourse new distinct
  have consistent := (runConsistent new.consistent (new.numbered distinct)).1
  have connects : c.purpose.acknowledged = false := by
    by_contra asks
    have running := consistent.running c inside (by simpa using asks)
    rw [running] at closed
    contradiction
  have early : (begun (before ++ .begin id .connect answer :: since)).Nodup :=
    distinct.sublist (by rw [begunAppend _ back]; exact List.sublist_append_left ..)
  obtain ⟨clearNow, runs⟩ := attemptCourse new early lasting clear
  rw [← course] at clearNow runs
  exact clearNow.unclosed runs c (connectionCall.mpr ⟨inside, connects⟩)
    (foundCall consistent inside connects) closed

theorem overlapping (new : s.New) {actions : List Action} (distinct : (begun actions).Nodup) :
    let t := run s actions
    (∀ n, t.state.status = .closed → t.state.client = some n →
      ∃ before id answer since, actions = before ++ .begin id .connect answer :: since ∧
        (run s before).state.isAvailable = false ∧
        (run s before).state.created = n ∧
        ∃ c ∈ (run s before).state.calls, c.purpose = .close) ∧
    ∀ before id answer since reason, actions = before ++ .begin id .connect answer :: since →
      (∀ action ∈ since, action.lasting = false) → t.resultsOf id = [.ok (.connected reason)] →
      (∀ c ∈ (run s before).state.calls, ¬ c.Pursues) →
      t.state.client = some (run s before).state.created ∧ t.state.status ≠ .closed ∧
      ∀ middle later, since = middle ++ later →
        let reached := (run s (before ++ .begin id .connect answer :: middle)).state
        ∀ topic ∈ reached.topics, topic ∈ t.state.topics ∨
          ∃ first call rest, later = first ++ .resume call :: rest ∧
            ∃ c ∈ (run reached first).state.calls, c.id = call ∧
              ∃ label clears, c.purpose = .unsubscribe label topic clears := by
  intro t
  constructor
  · intro n closed client
    have whole : t.state.connection = (s.connection.run actions).connection :=
      (runAccords new.consistent (new.numbered distinct)).1
    have vouched := Connection.runVouched new.client (newIdle new) distinct
    rw [← whole] at vouched
    obtain ⟨before, id, answer, since, rfl, absent, made, c, member, closes⟩ :=
      vouched.closed n client (.inl closed)
    have course := runCourse new distinct
    rw [← course] at absent made member
    exact ⟨before, id, answer, since, rfl, unavailableClient.mpr absent, made, c,
      (connectionCall.mp member).1, closes⟩
  · rintro before id answer since reason rfl lasting connected clear
    have member : .begin id .connect answer ∈ before ++ .begin id .connect answer :: since := by simp
    have whole : t.state.connection = _ :=
      (runAccords new.consistent (new.numbered distinct)).1
    have runs := (attemptCourse new distinct lasting clear).2
    rw [← courseResults new distinct rfl member, connected] at runs
    obtain ⟨client, status⟩ := runs.connected
    rw [← whole] at client status
    refine ⟨client, status, ?_⟩
    rintro middle later rfl reached topic subscribed
    have split : t = (run s (before ++ .begin id .connect answer :: middle)).andThen
        fun s => run s later := by
      rw [← runAppend]
      simp [t]
    rw [split]
    refine runTopics subscribed fun front back apart => ?_
    have lastingNow : ∀ action ∈ middle ++ front, action.lasting = false := by
      intro action member
      refine lasting action ?_
      rw [apart, ← List.append_assoc]
      exact List.mem_append_left _ member
    rw [apart, ← List.append_assoc] at distinct
    have unclosed := attemptUnclosed new distinct lastingNow clear
    rwa [← List.cons_append, ← List.append_assoc, runAppend] at unclosed

theorem overlappingRefused :
    let s : State :=
      { options := ⟨.text "c", .int 60, .int 0, .bool true, .null⟩
        settings := ⟨"localhost", 1883, none, none, false⟩
        logger := ⟨.text "bus", .text "INFO"⟩
        routerLogger := ⟨.text "router", .text "INFO"⟩ }
    let before : List Action :=
      [.begin 0 .connect {}, .handle (.connected (.code 135)), .resume 0]
    let since : List Action := [.handle (.connected (.code 0)), .resume 1, .resume 0]
    let t := run s (before ++ .begin 1 .connect {} :: since)
    (s.New ∧ (begun (before ++ .begin 1 .connect {} :: since)).Nodup ∧
      (∀ action ∈ since, action.lasting = false) ∧
      t.resultsOf 1 = [.ok (.connected (.code 0))] ∧
      ∀ c ∈ (run s before).state.calls, ¬ c.Pursues) ∧
    t.state.client = some 1 ∧ t.state.status ≠ .closed := by
  intro s before since t
  have new : s.New := ⟨rfl, rfl, rfl, rfl, rfl, rfl⟩
  have distinct : (begun (before ++ .begin 1 .connect {} :: since)).Nodup := by
    decide
  have lasting : ∀ action ∈ since, action.lasting = false := by
    simp [since, Action.lasting, Command.acknowledged]
  have member : .begin 1 .connect {} ∈ before ++ .begin 1 .connect {} :: since :=
    List.mem_append_right _ List.mem_cons_self
  have connected : t.resultsOf 1 = [.ok (.connected (.code 0))] := by
    rw [courseResults new distinct rfl member]
    simp only [s, before, since]
    rfl
  have clear : ∀ c ∈ (run s before).state.calls, ¬ c.Pursues := by
    have calls : (run s before).state.calls =
        [⟨0, .connect, none, .settled (.error (.refused "135")), false,
          some (.failed (.bus (.refused "135")))⟩] := rfl
    simp [calls, Call.Pursues]
  have reaches := (overlapping new distinct).2 before 1 {} since _ rfl lasting connected clear
  exact ⟨⟨new, distinct, lasting, connected, clear⟩, reaches.1, reaches.2.1⟩

end State
end TopicRouting.Bus
