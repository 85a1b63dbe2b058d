import Mathlib.Data.List.Induction
import TopicRouting.Proofs.Attempting

/-! Calls that connect or close, one after another. What the status of a bus without a client is
then, the last attempt to connect decides: how it ended, whether a close followed it, and which
signals came while it lasted. -/
namespace TopicRouting.Bus

def Action.reports (o : Options) (closing : Bool) : Action → Option Status
  | .handle signal => reported o closing signal
  | _ => none

/- What may come next where no call that connects or closes begins before the last one has
returned, and where no client tells anything once it has stopped. -/
def Connection.allows (k : Connection) : Action → Bool
  | .begin _ command _ => command.acknowledged || k.calls.isEmpty
  | action =>
      (action.reports k.options k.closing).isNone || k.client.isSome || !k.calls.isEmpty

def sequential (s : State) : List Action → Bool
  | [] => true
  | action :: rest =>
      s.connection.allows action && sequential (step s action).state rest

def Connection.sequential (k : Connection) : List Action → Bool
  | [] => true
  | action :: rest => k.allows action && (k.next action).connection.sequential rest

def lastReport (o : Options) (since : List Action) : Status :=
  since.foldl (fun status action => (action.reports o false).getD status) .connecting

/- How far things have come since an attempt to connect has begun, where calls come one after
another. -/
inductive Connection.Tells (o : Options) (w : Broker.Settings) (id : CallId) (k : Connection)
    (since : List Action) (returned : CallId → List (Except Error Reply)) : Prop
  | waits {n : Nat} {c : Call} (stands : k.Stands o w id (some n) (some c)) (sole : k.calls = [c])
      (running : c.ending = none)
      (heard : ∀ answer, c.future = .settled answer →
        ∃ signal told, verdict w signal = some told ∧ answer = told.map .connected)
      (goesOn : k.closing = false) (status : k.status = lastReport o since)
      (silent : returned id = [])
  | fails {c : Call} {ending : Ending} {e : Error} (stands : k.Stands o w id none (some c))
      (sole : k.calls = [c]) (ended : c.ending = some ending) (fails : ending.failure? o = some e)
      (timed : e = .bus (.connectTimedOut o.seconds) → ending = .timedOut)
      (goesOn : k.closing = false) (status : k.status = lastReport o since)
      (silent : returned id = [])
  | failed {e : Error} (stands : k.Stands o w id none none) (idle : k.calls = [])
      (ended : returned id = [.error e])
      (status : e = .bus (.connectTimedOut o.seconds) ∧ k.status = .error ∨
        e ≠ .bus (.connectTimedOut o.seconds) ∧ k.status = lastReport o since)
  | stays {n : Nat} {reason : Broker.Reason} (stands : k.Stands o w id (some n) none)
      (idle : k.calls = []) (connected : returned id = [.ok (.connected reason)])
  | closes {c : Call} {reason : Broker.Reason} {answer : Broker.Answer}
      (stands : k.Stands o w id none none) (sole : k.calls = [c])
      (ended : c.ending = some .closed) (begun : .begin c.id .close answer ∈ since)
      (connected : returned id = [.ok (.connected reason)]) (silent : returned c.id = [])
  | closed {other : CallId} {reason : Broker.Reason} {answer : Broker.Answer}
      (stands : k.Stands o w id none none) (idle : k.calls = [])
      (begun : .begin other .close answer ∈ since)
      (connected : returned id = [.ok (.connected reason)])
      (closed : returned other = [.ok .closed]) (status : k.status = .closed)

section telling

variable {o : Options} {w : Broker.Settings} {id : CallId} {k : Connection} {since : List Action}
  {returned : CallId → List (Except Error Reply)}

theorem lastReportThen (o : Options) (since : List Action) (action : Action) :
    lastReport o (since ++ [action]) = (action.reports o false).getD (lastReport o since) := by
  rw [lastReport, List.foldl_append]
  rfl

theorem unreported {p : Options} {action : Action} {closing other : Bool}
    (quiet : action.reports o closing = none) : action.reports p other = none := by
  cases action with
  | handle signal =>
    cases signal with
    | connected reason => contradiction
    | connectFailed => contradiction
    | disconnected reason => contradiction
    | _ => rfl
  | _ => rfl

theorem activeReports {action : Action} (active : ¬ action.passive id = true) :
    action.reports o false = none := by
  cases action with
  | handle signal => exact absurd rfl active
  | _ => rfl

theorem verdictTimely {signal : Broker.Signal} {e : BusError}
    (told : verdict w signal = some (.error e)) (seconds : Text) :
    e ≠ .connectTimedOut seconds := by
  rintro rfl
  cases signal with
  | connected reason =>
    simp only [verdict, Option.some.injEq] at told
    split at told <;> simp at told
  | connectFailed => simp [verdict] at told
  | _ => contradiction

theorem verdictReported {signal : Broker.Signal} {closing : Bool}
    (quiet : reported o closing signal = none) : verdict w signal = none := by
  cases signal with
  | connected reason => contradiction
  | connectFailed => contradiction
  | _ => rfl

namespace Connection

theorem idleCall (idle : k.calls = []) : k.call? id = none := by rw [call?, idle]; rfl

theorem soleCall {c : Call} (sole : k.calls = [c]) : k.call? id = if id = c.id then some c else none := by
  rw [call?, sole, List.find?_singleton]
  by_cases same : id = c.id
  · simp [same]
  · simp [same, Ne.symm same]

theorem hearQuiet {signal : Broker.Signal} (quiet : reported k.options k.closing signal = none) :
    k.hear signal = k := by
  rw [hears, verdictReported quiet, quiet]
  rfl

theorem Tells.still {action : Action} (tells : k.Tells o w id since returned)
    (quiet : action.reports o false = none) : k.Tells o w id (since ++ [action]) returned := by
  have same : lastReport o (since ++ [action]) = lastReport o since := by
    rw [lastReportThen, quiet]
    rfl
  cases tells with
  | waits stands sole running heard goesOn status silent =>
    exact .waits stands sole running heard goesOn (same ▸ status) silent
  | fails stands sole ended fails timed goesOn status silent =>
    exact .fails stands sole ended fails timed goesOn (same ▸ status) silent
  | failed stands idle ended status => exact .failed stands idle ended (same ▸ status)
  | stays stands idle connected => exact .stays stands idle connected
  | closes stands sole ended begun connected silent =>
    exact .closes stands sole ended (List.mem_append_left _ begun) connected silent
  | closed stands idle begun connected closed status =>
    exact .closed stands idle (List.mem_append_left _ begun) connected closed status

theorem restingNext {action : Action} (idle : k.calls = [])
    (quiet : action.reports k.options k.closing = none)
    (asks : ∀ call command answer, action = .begin call command answer →
      command.acknowledged = true) : k.next action = k.quiet := by
  cases action with
  | begin call command answer =>
    have asks := asks call command answer rfl
    cases command with
    | connect => contradiction
    | close => contradiction
    | _ => rfl
  | handle signal => rw [next, hearQuiet quiet]
  | expire call => rw [next, expire, idleCall idle]
  | resume call => rw [next, resume, idleCall idle]
  | deliver | route command => rfl

theorem otherNext {c : Call} {action : Action} (sole : k.calls = [c])
    (allowed : k.allows action = true) (other : ¬ action.passive c.id = true)
    (unresumed : action ≠ .resume c.id) : k.next action = k.quiet := by
  cases action with
  | begin call command answer =>
    cases command with
    | connect => simp [allows, Command.acknowledged, sole] at allowed
    | close => simp [allows, Command.acknowledged, sole] at allowed
    | _ => rfl
  | handle signal => exact absurd rfl other
  | expire call =>
    have away : call ≠ c.id := fun same => other (by simpa [Action.passive] using same)
    rw [next, expire, soleCall sole, if_neg away]
  | resume call =>
    have away : call ≠ c.id := fun same => unresumed (same ▸ rfl)
    rw [next, resume, soleCall sole, if_neg away]
  | deliver | route command => rfl

theorem soleFound {c d : Call} (sole : k.calls = [c]) (found : k.call? id = some d) :
    k.calls = [d] := by
  rw [soleCall sole] at found
  split at found
  · rw [sole, Option.some.inj found]
  · contradiction

theorem foundId {c : Call} (found : k.call? id = some c) : c.id = id := by
  simpa using List.find?_some found

theorem dropSole {c : Call} (sole : k.calls = [c]) : (k.drop c.id).calls = [] := by
  simp [drop, sole]

theorem dropIdle (idle : k.calls = []) : k.drop id = k := dropUnknown (by simp [idle])

end Connection

theorem toldHeard {c : Call} {action : Action} {answer : Except BusError Answer}
    (settled : (c.told w id action).future = .settled answer) : c.future = .settled answer ∨
      ∃ signal told, verdict w signal = some told ∧ answer = told.map .connected := by
  cases action with
  | handle signal =>
    rw [Call.told] at settled
    split at settled
    · rename_i told heard
      rw [Call.answered] at settled
      split at settled
      · cases settled
        exact .inr ⟨signal, told, heard, rfl⟩
      · exact .inl settled
    · exact .inl settled
  | expire call =>
    rw [Call.told] at settled
    split at settled
    · exact .inl settled
    · exact .inl settled
  | _ => exact .inl settled

abbrev Connection.TellsNext (o : Options) (w : Broker.Settings) (id : CallId) (k : Connection)
    (since : List Action) (returned : CallId → List (Except Error Reply)) (action : Action) : Prop :=
  (k.next action).connection.Tells o w id (since ++ [action])
    fun call => returned call ++ (k.next action).resultsOf call

namespace Connection

theorem Tells.quietNext {action : Action} (tells : k.Tells o w id since returned)
    (quiet : k.next action = k.quiet) (unreported : action.reports o false = none) :
    k.TellsNext o w id since returned action := by
  have none (call : CallId) : returned call ++ k.quiet.resultsOf call = returned call :=
    List.append_nil _
  simp only [TellsNext, quiet, none]
  exact tells.still unreported

theorem passiveNext {action : Action} (passive : action.passive id = true) :
    ∃ f : Call → Call, (∀ c : Call, c.Alike (f c)) ∧ k.next action = quiet { k with
      status := (action.reports k.options k.closing).getD k.status
      calls := k.calls.map f } := by
  cases action with
  | handle signal =>
    obtain ⟨f, alike, same⟩ := k.hearAlike signal
    exact ⟨f, alike, congrArg quiet same⟩
  | expire call =>
    obtain ⟨f, alike, same⟩ := k.expireAlike call
    exact ⟨f, alike, congrArg quiet same⟩
  | deliver m behaviour =>
    exact ⟨fun c => c, fun c => ⟨rfl, rfl, rfl⟩, by simp [next, Action.reports]⟩
  | _ => contradiction

theorem passiveSole {c : Call} {action : Action} {client : Option Nat}
    (stands : k.Stands o w id client (some c)) (sole : k.calls = [c]) (goesOn : k.closing = false)
    (status : k.status = lastReport o since) (passive : action.passive id = true) :
    let after := (k.next action).connection
    after.Stands o w id client (some (c.told w id action)) ∧
      after.calls = [c.told w id action] ∧ after.closing = false ∧
      after.status = lastReport o (since ++ [action]) ∧ (k.next action).resultsOf id = [] := by
  obtain ⟨standsNext, results, _⟩ := stands.passiveBrings passive
  obtain ⟨f, alike, same⟩ := passiveNext (k := k) passive
  rw [same] at standsNext results ⊢
  refine ⟨standsNext, soleFound (c := f c) ?_ standsNext.found, goesOn, ?_, results⟩
  · rw [quiet, sole]
    rfl
  · rw [lastReportThen, ← status, ← stands.options, ← goesOn]
    rfl

theorem waitsResumes {n : Nat} {c : Call} (stands : k.Stands o w id (some n) (some c))
    (sole : k.calls = [c]) (running : c.ending = none)
    (heard : ∀ answer, c.future = .settled answer →
      ∃ signal told, verdict w signal = some told ∧ answer = told.map .connected)
    (goesOn : k.closing = false) (status : k.status = lastReport o since)
    (silent : returned id = []) : k.TellsNext o w id since returned (.resume id) := by
  have own := foundId stands.found
  have same : k.status = lastReport o (since ++ [.resume id]) := by
    rw [status, lastReportThen]
    rfl
  have stops (ending : Ending) {e : Error} (asks : k.resume id = k.stop id ending)
      (fails : ending.failure? o = some e)
      (timed : e = .bus (.connectTimedOut o.seconds) → ending = .timedOut) :
      k.TellsNext o w id since returned (.resume id) := by
    obtain ⟨standsNext, results, _⟩ := stands.stopBrings ending
    have moved : (k.stop id ending).connection =
        ({ k with client := none }).change id fun c => { c with ending := some ending } := by
      rw [stop, stands.client]
    rw [TellsNext, next, asks]
    refine .fails standsNext ?_ rfl fails timed ?_ ?_ (by rw [silent, results, List.append_nil])
    · rw [moved, change, sole]
      simp [own]
    · rw [moved]
      exact goesOn
    · rw [moved]
      exact same
  rw [TellsNext, next]
  cases future : c.future with
  | settled answer =>
    obtain ⟨signal, told, verdict, rfl⟩ := heard answer future
    cases told with
    | ok reason =>
      have leaves : k.resume id = k.leaveAttempt id (.ok (.connected reason)) := by
        rw [resume, stands.found]
        simp only [running, future, Except.map]
      obtain ⟨standsNext, results, _⟩ := stands.leaveBrings (.ok (.connected reason))
      rw [leaves]
      refine .stays standsNext ?_ (by rw [silent, results, List.nil_append])
      exact own ▸ dropSole (k := { k with connecting := none }) sole
    | error e =>
      refine stops (.failed (.bus e)) ?_ rfl ?_
      · rw [resume, stands.found]
        simp only [running, future, Except.map]
      · exact fun timed => absurd (Error.bus.inj timed) (verdictTimely verdict o.seconds)
  | cancelled =>
    refine stops .timedOut ?_ rfl fun _ => rfl
    rw [resume, stands.found]
    simp only [running, future]
  | «open» =>
    by_cases expired : c.expired = true
    · obtain ⟨standsNext, results, _⟩ := stands.resumeGivesUp running future expired
      have moved : k.resume id = (k.change id fun c => { c with future := .cancelled }).quiet := by
        rw [resume, stands.found]
        simp only [running, future, expired, if_true]
      refine .waits standsNext ?_ running (by simp) ?_ ?_ (by rw [silent, results, List.append_nil])
      · rw [moved, quiet, change, sole]
        simp [own]
      · rw [moved]
        exact goesOn
      · rw [moved]
        exact same
    · show k.TellsNext o w id since returned (.resume id)
      refine (Tells.waits stands sole running heard goesOn status silent).quietNext ?_ rfl
      rw [next, resume, stands.found]
      simp only [running, future, expired]
      rfl

theorem waitsNext {n : Nat} {c : Call} {action : Action}
    (stands : k.Stands o w id (some n) (some c)) (sole : k.calls = [c]) (running : c.ending = none)
    (heard : ∀ answer, c.future = .settled answer →
      ∃ signal told, verdict w signal = some told ∧ answer = told.map .connected)
    (goesOn : k.closing = false) (status : k.status = lastReport o since)
    (silent : returned id = []) (allowed : k.allows action = true) :
    k.TellsNext o w id since returned action := by
  have own := foundId stands.found
  by_cases passive : action.passive id = true
  · obtain ⟨standsNext, soleNext, goesOnNext, statusNext, results⟩ :=
      passiveSole stands sole goesOn status passive
    refine .waits standsNext soleNext ((toldEnding action).trans running) (fun answer settled => ?_)
      goesOnNext statusNext (by rw [silent, results, List.append_nil])
    exact (toldHeard settled).elim (heard answer) fun told => told
  · by_cases resumed : action = .resume id
    · rw [resumed]
      exact waitsResumes stands sole running heard goesOn status silent
    · have quiet := otherNext sole allowed (own.symm ▸ passive) (own.symm ▸ resumed)
      refine (Tells.waits stands sole running heard goesOn status silent).quietNext quiet
        (activeReports passive)

theorem failsNext {c : Call} {ending : Ending} {e : Error} {action : Action}
    (stands : k.Stands o w id none (some c)) (sole : k.calls = [c])
    (ended : c.ending = some ending) (fails : ending.failure? o = some e)
    (timed : e = .bus (.connectTimedOut o.seconds) → ending = .timedOut)
    (goesOn : k.closing = false) (status : k.status = lastReport o since)
    (silent : returned id = []) (allowed : k.allows action = true) :
    k.TellsNext o w id since returned action := by
  have own := foundId stands.found
  by_cases passive : action.passive id = true
  · obtain ⟨standsNext, soleNext, goesOnNext, statusNext, results⟩ :=
      passiveSole stands sole goesOn status passive
    exact .fails standsNext soleNext ((toldEnding action).trans ended) fails timed goesOnNext
      statusNext (by rw [silent, results, List.append_nil])
  · by_cases resumed : action = .resume id
    · obtain ⟨standsNext, results, _⟩ := stands.teardownReturns ended fails
      have concludes : k.resume id = k.conclude id ending := by
        rw [resume, stands.found]
        simp only [ended]
      rw [resumed, TellsNext, next]
      refine .failed standsNext ?_ (by rw [silent, results, List.nil_append]) ?_
      · rw [concludes]
        cases ending with
        | closed => contradiction
        | timedOut => exact own ▸ dropSole (k := { k with status := .error, connecting := none }) sole
        | failed e => exact own ▸ dropSole (k := { k with connecting := none }) sole
      · rw [concludes]
        cases ending with
        | closed => contradiction
        | timedOut =>
          cases fails
          exact .inl ⟨rfl, rfl⟩
        | failed e =>
          cases fails
          refine .inr ⟨fun same => absurd (timed same) (by simp), ?_⟩
          rw [lastReportThen]
          exact status
    · have quiet := otherNext sole allowed (own.symm ▸ passive) (own.symm ▸ resumed)
      refine (Tells.fails stands sole ended fails timed goesOn status silent).quietNext quiet
        (activeReports passive)

theorem Tells.refused {action : Action} {call : CallId} (result : Except Error Reply)
    (tells : k.Tells o w id since returned) (idle : k.calls = [])
    (leaves : k.next action = k.leave call result) (fresh : returned call = [])
    (quiet : action.reports o false = none) : k.TellsNext o w id since returned action := by
  have kept {other : CallId} {results : List (Except Error Reply)} (told : returned other = results)
      (some : results ≠ []) : returned other ++ (k.leave call result).resultsOf other = results := by
    have apart : call ≠ other := by
      rintro rfl
      exact some (told.symm.trans fresh)
    simp [told, Shift.resultsOf, leave, apart]
  have same : (k.leave call result).connection = k := dropIdle idle
  rw [TellsNext, leaves, same]
  cases tells.still quiet with
  | waits stands sole => simp [idle] at sole
  | fails stands sole => simp [idle] at sole
  | closes stands sole => simp [idle] at sole
  | failed stands idle ended status => exact .failed stands idle (kept ended (by simp)) status
  | stays stands idle connected => exact .stays stands idle (kept connected (by simp))
  | closed stands idle begun connected closed status =>
    exact .closed stands idle begun (kept connected (by simp)) (kept closed (by simp)) status

theorem idleNext {action : Action} (tells : k.Tells o w id since returned) (idle : k.calls = [])
    (quiet : action.reports o false = none)
    (fresh : ∀ call, action.begun? = some call → returned call = [])
    (refusedConnect : ∀ call answer, action = .begin call .connect answer → k.client.isSome = true)
    (refusedClose : ∀ call answer, action = .begin call .close answer → k.client = none) :
    k.TellsNext o w id since returned action := by
  cases action with
  | begin call command answer =>
    cases command with
    | connect =>
      refine tells.refused (.error (.bus .alreadyAvailable)) idle ?_ (fresh call rfl) quiet
      exact if_pos (refusedConnect call answer rfl)
    | close =>
      refine tells.refused (.error (.bus .notAvailable)) idle ?_ (fresh call rfl) quiet
      exact if_neg (by simp [refusedClose call answer rfl])
    | _ => exact tells.quietNext rfl quiet
  | _ => exact tells.quietNext (restingNext idle (unreported quiet) (by simp)) quiet

theorem staysNext {n : Nat} {reason : Broker.Reason} {action : Action}
    (stands : k.Stands o w id (some n) none) (idle : k.calls = [])
    (connected : returned id = [.ok (.connected reason)])
    (fresh : ∀ call, action.begun? = some call → returned call = []) :
    k.TellsNext o w id since returned action := by
  have tells : k.Tells o w id since returned := .stays stands idle connected
  by_cases reports : action.reports o false = none
  · by_cases closes : ∃ call answer, action = .begin call .close answer
    · obtain ⟨call, answer, rfl⟩ := closes
      have apart : id ≠ call := by
        rintro rfl
        exact absurd ((fresh id rfl).symm.trans connected) (by simp)
      have moved : k.next (.begin call .close answer) =
          { connection := { k with
              client := none
              closing := true
              calls := [{ id := call, purpose := .close, ending := some .closed }] }
            stopped := [n] } := by
        simp [next, close, stands.client, stop, change, idle]
      have none (other : CallId) : (k.next (.begin call .close answer)).resultsOf other = [] := by
        rw [moved]
        rfl
      simp only [TellsNext, none, List.append_nil]
      rw [moved]
      refine .closes (c := { id := call, purpose := .close, ending := some .closed }) ?_ rfl rfl
        (List.mem_append_right _ (List.mem_singleton.mpr rfl)) connected (fresh call rfl)
      refine ⟨stands.options, stands.settings, rfl, ?_, stands.connecting⟩
      simp [call?, Ne.symm apart]
    · refine idleNext tells idle reports fresh (fun _ _ _ => by rw [stands.client]; rfl) ?_
      exact fun call answer same => absurd ⟨call, answer, same⟩ closes
  · have passive : action.passive id = true := by
      by_contra active
      exact reports (activeReports active)
    obtain ⟨standsNext, results, _⟩ := stands.passiveBrings passive
    obtain ⟨f, _, same⟩ := passiveNext (k := k) passive
    refine .stays standsNext ?_ (by rw [connected, results, List.append_nil])
    rw [same, quiet, idle]
    rfl

theorem closesNext {c : Call} {reason : Broker.Reason} {answer : Broker.Answer} {action : Action}
    (stands : k.Stands o w id none none) (sole : k.calls = [c]) (ended : c.ending = some .closed)
    (begun : .begin c.id .close answer ∈ since) (connected : returned id = [.ok (.connected reason)])
    (silent : returned c.id = []) (allowed : k.allows action = true) :
    k.TellsNext o w id since returned action := by
  have apart : id ≠ c.id := by
    rintro same
    have found := stands.found
    rw [soleCall sole, if_pos same] at found
    contradiction
  by_cases passive : action.passive c.id = true
  · obtain ⟨f, alike, same⟩ := passiveNext (k := k) passive
    have none (call : CallId) : returned call ++ (k.next action).resultsOf call = returned call := by
      rw [same]
      exact List.append_nil _
    have begunNext : .begin (f c).id .close answer ∈ since ++ [action] := by
      rw [(alike c).id]
      exact List.mem_append_left _ begun
    simp only [TellsNext, none]
    rw [same]
    refine .closes (c := f c) ?_ (by rw [quiet, sole]; rfl) ((alike c).ending.trans ended)
      begunNext connected (by rw [(alike c).id, silent])
    refine ⟨stands.options, stands.settings, stands.client, ?_, stands.connecting⟩
    exact (callMapped fun c => (alike c).id).trans (congrArg _ stands.found)
  · by_cases resumed : action = .resume c.id
    · have concludes : k.resume c.id = { k with status := .closed }.leave c.id (.ok .closed) := by
        rw [resume, soleCall sole, if_pos rfl]
        simp only [ended]
        rfl
      have idle : ({ k with status := .closed }.drop c.id).calls = [] :=
        dropSole (k := { k with status := .closed }) sole
      have kept : returned id ++ (k.resume c.id).resultsOf id = [.ok (.connected reason)] := by
        simp [concludes, Shift.resultsOf, leave, connected, Ne.symm apart]
      have closed : returned c.id ++ (k.resume c.id).resultsOf c.id = [.ok .closed] := by
        simp [concludes, Shift.resultsOf, leave, silent]
      have standsNext : ({ k with status := .closed }.drop c.id).Stands o w id none none :=
        ⟨stands.options, stands.settings, stands.client, idleCall idle, stands.connecting⟩
      have moved : (k.resume c.id).connection = { k with status := .closed }.drop c.id := by
        rw [concludes]
        rfl
      rw [resumed, TellsNext, next, moved]
      exact .closed standsNext idle (List.mem_append_left _ begun) kept closed rfl
    · have quiet := otherNext sole allowed passive resumed
      exact (Tells.closes stands sole ended begun connected silent).quietNext quiet
        (activeReports passive)

theorem unheard {action : Action} (idle : k.calls = []) (client : k.client = none)
    (allowed : k.allows action = true) {o : Options} {closing : Bool} :
    action.reports o closing = none := by
  cases action with
  | begin call command answer => rfl
  | _ => exact unreported (by simpa [allows, idle, client] using allowed)

theorem Tells.next {action : Action} (tells : k.Tells o w id since returned)
    (allowed : k.allows action = true)
    (fresh : ∀ call, action.begun? = some call → returned call = [])
    (attempts : ∀ call answer, action = .begin call .connect answer → k.client.isSome = true) :
    k.TellsNext o w id since returned action := by
  cases tells with
  | waits stands sole running heard goesOn status silent =>
    exact waitsNext stands sole running heard goesOn status silent allowed
  | fails stands sole ended fails timed goesOn status silent =>
    exact failsNext stands sole ended fails timed goesOn status silent allowed
  | failed stands idle ended status =>
    have tells : k.Tells o w id since returned := .failed stands idle ended status
    exact idleNext tells idle (unheard idle stands.client allowed) fresh attempts
      fun _ _ _ => stands.client
  | stays stands idle connected => exact staysNext stands idle connected fresh
  | closes stands sole ended begun connected silent =>
    exact closesNext stands sole ended begun connected silent allowed
  | closed stands idle begun connected closed status =>
    have tells : k.Tells o w id since returned := .closed stands idle begun connected closed status
    exact idleNext tells idle (unheard idle stands.client allowed) fresh attempts
      fun _ _ _ => stands.client

theorem faultNotBus {patience : Patience} {e : BusError} : patience.fault? ≠ some (.bus e) := by
  intro fault
  cases patience <;> cases fault

theorem attemptFails {e : Error} (fresh : k.calls = []) (silent : returned id = [])
    (timed : e ≠ .bus (.connectTimedOut k.options.seconds)) :
    let shift := (k.attempt id .open).stop id (.failed e)
    shift.connection.Tells k.options k.settings id [] fun call =>
      returned call ++ shift.resultsOf call := by
  have unknown : k.call? id = none := idleCall fresh
  have stops := (attemptStands unknown .open).stopBrings (.failed e)
  refine .fails stops.stands ?_ rfl rfl (fun same => absurd same timed) rfl rfl ?_
  · simp [stop, attempt, change, fresh]
  · rw [silent, stops.results, List.append_nil]

theorem attemptTells (answer : Broker.Answer) (unavailable : k.client = none) (fresh : k.calls = [])
    (silent : returned id = []) :
    (k.connect id answer).connection.created = k.created + 1 ∧
    (k.connect id answer).connection.Tells k.options k.settings id [] fun call =>
      returned call ++ (k.connect id answer).resultsOf call := by
  rw [connect, unavailable]
  cases answer.connectError with
  | some text => exact ⟨rfl, attemptFails fresh silent (by simp)⟩
  | none =>
    cases fault : k.options.patience.fault? with
    | some e =>
      refine ⟨rfl, attemptFails fresh silent ?_⟩
      rintro rfl
      exact faultNotBus fault
    | none =>
      refine ⟨rfl, .waits (attemptStands (idleCall fresh) _) ?_ rfl ?_ rfl rfl ?_⟩
      · simp [quiet, attempt, fresh]
      · intro answer settled
        cases patience : k.options.patience <;> simp [patience, Patience.future] at settled
      · rw [silent]
        rfl

end Connection
end telling

structure Shift.Within (shift : Shift) (o : Options) (w : Broker.Settings) (p : CallId → Prop) :
    Prop where
  options : shift.connection.options = o
  settings : shift.connection.settings = w
  calls : ∀ c ∈ shift.connection.calls, p c.id
  results : ∀ result ∈ shift.results, p result.1

namespace Connection

variable {o : Options} {w : Broker.Settings} {p : CallId → Prop} {k : Connection} {id : CallId}

section within

variable (within : k.quiet.Within o w p)
include within

theorem alikeWithin {f : Call → Call} {status : Status} (kept : ∀ c, (f c).id = c.id) :
    (quiet { k with status := status, calls := k.calls.map f }).Within o w p := by
  refine ⟨within.options, within.settings, fun c member => ?_, by simp [quiet]⟩
  obtain ⟨old, inside, rfl⟩ := List.mem_map.mp member
  rw [kept]
  exact within.calls old inside

theorem leaveWithin (own : p id) (result : Except Error Reply) :
    (k.leave id result).Within o w p where
  options := within.options
  settings := within.settings
  calls := fun c member => within.calls c (List.mem_filter.mp member).1
  results := fun result member => by rwa [List.mem_singleton.mp member]

theorem concludeWithin (own : p id) (ending : Ending) : (k.conclude id ending).Within o w p := by
  have moved (status : Status) (connecting : Option CallId) :
      (quiet { k with status := status, connecting := connecting }).Within o w p :=
    ⟨within.options, within.settings, within.calls, by simp [quiet]⟩
  cases ending with
  | closed => exact leaveWithin (moved .closed k.connecting) own _
  | timedOut => exact leaveWithin (moved .error none) own _
  | failed e => exact leaveWithin (moved k.status none) own _

theorem stopWithin (own : p id) (ending : Ending) : (k.stop id ending).Within o w p := by
  rw [stop]
  split
  · exact concludeWithin within own ending
  · refine ⟨within.options, within.settings, fun c member => ?_, by simp⟩
    obtain ⟨old, inside, rfl⟩ := List.mem_map.mp member
    have kept := within.calls old inside
    split <;> exact kept

theorem nextWithin {action : Action} (own : ∀ call, action.begun? = some call → p call) :
    (k.next action).Within o w p := by
  cases action with
  | begin call command answer =>
    have mine : p call := own call rfl
    have joined (future : Future) : (k.attempt call future).quiet.Within o w p := by
      refine ⟨within.options, within.settings, ?_, by simp [quiet]⟩
      exact List.forall_mem_append.mpr ⟨within.calls, by simpa using mine⟩
    cases command with
    | connect =>
      rw [next, connect]
      split
      · exact leaveWithin within mine _
      · split
        · exact stopWithin (joined _) mine _
        · split
          · exact stopWithin (joined _) mine _
          · exact joined _
    | close =>
      rw [next, close]
      split
      · refine stopWithin (k := { k with closing := true, calls := k.calls ++ [_] }) ?_ mine _
        refine ⟨within.options, within.settings, ?_, by simp [quiet]⟩
        exact List.forall_mem_append.mpr ⟨within.calls, by simpa using mine⟩
      · exact leaveWithin within mine _
    | _ => exact within
  | handle signal =>
    obtain ⟨f, alike, same⟩ := k.hearAlike signal
    rw [next, same]
    exact alikeWithin within fun c => (alike c).id
  | expire call =>
    obtain ⟨f, alike, same⟩ := k.expireAlike call
    rw [next, same]
    exact alikeWithin within fun c => (alike c).id
  | resume call =>
    have freed : (quiet { k with connecting := none }).Within o w p :=
      ⟨within.options, within.settings, within.calls, by simp [quiet]⟩
    rw [next, resume]
    split
    · exact within
    · rename_i c found
      have own : p call := by
        rw [← foundId found]
        exact within.calls c (List.mem_of_find?_eq_some found)
      split
      · exact concludeWithin within own _
      · exact leaveWithin freed own _
      · exact leaveWithin freed own _
      · exact stopWithin within own _
      · exact stopWithin within own _
      · split
        · exact alikeWithin within fun c => by split <;> rfl
        · exact within
  | deliver | route command => exact within

end within

theorem runWithin {actions : List Action} (within : k.quiet.Within o w p)
    (own : ∀ call ∈ begun actions, p call) : (k.run actions).Within o w p := by
  induction actions generalizing k with
  | nil => exact within
  | cons action rest ih =>
    rw [begunCons] at own
    have first := nextWithin within fun call new =>
      own call (List.mem_append_left _ (by rw [new]; exact List.mem_singleton.mpr rfl))
    have later := ih (k := (k.next action).connection)
      ⟨first.options, first.settings, first.calls, by simp [quiet]⟩
      fun call member => own call (List.mem_append_right _ member)
    exact ⟨later.options, later.settings, later.calls,
      List.forall_mem_append.mpr ⟨first.results, later.results⟩⟩

theorem concludeCreated (ending : Ending) : (k.conclude id ending).connection.created = k.created := by
  cases ending <;> rfl

theorem stopCreated (ending : Ending) : (k.stop id ending).connection.created = k.created := by
  rw [stop]
  split
  · exact concludeCreated ending
  · rfl

theorem nextCreated {action : Action}
    (attempts : ∀ call answer, action = .begin call .connect answer → k.client.isSome = true) :
    (k.next action).connection.created = k.created := by
  cases action with
  | begin call command answer =>
    cases command with
    | connect =>
      rw [next, connect, if_pos (attempts call answer rfl)]
      rfl
    | close =>
      rw [next, close]
      split
      · exact stopCreated (k := { k with closing := true, calls := k.calls ++ [_] }) _
      · rfl
    | _ => rfl
  | handle signal =>
    obtain ⟨f, _, same⟩ := k.hearAlike signal
    rw [next, same]
    rfl
  | expire call =>
    obtain ⟨f, _, same⟩ := k.expireAlike call
    rw [next, same]
    rfl
  | resume call =>
    rw [next, resume]
    split
    · rfl
    · split
      · exact concludeCreated _
      · rfl
      · rfl
      · exact stopCreated _
      · exact stopCreated _
      · split <;> rfl
  | deliver | route command => rfl

/- No attempt to connect has been made, or one has been made last, and things have gone on since. -/
def Story (k : Connection) (actions : List Action) : Prop :=
  let shift := k.run actions
  (shift.connection.client = none ∧ shift.connection.calls = [] ∧
    shift.connection.status = .ready ∧ ∀ id answer, .begin id .connect answer ∉ actions) ∨
  ∃ before id answer since, actions = before ++ .begin id .connect answer :: since ∧
    (k.run before).connection.client = none ∧
    shift.connection.created = (k.run before).connection.created + 1 ∧
    shift.connection.Tells k.options k.settings id since shift.resultsOf

theorem idleStays {action : Action} (idle : k.calls = []) (client : k.client = none)
    (allowed : k.allows action = true)
    (rests : ∀ call answer, action ≠ .begin call .connect answer) :
    (k.next action).connection = k := by
  have quiet := restingNext idle (unheard idle client allowed)
  cases action with
  | begin call command answer =>
    cases command with
    | connect => exact absurd rfl (rests call answer)
    | close =>
      rw [next, close, client]
      exact dropIdle idle
    | _ => rfl
  | _ => rw [quiet (by simp)]; rfl

theorem runSilent {front : List Action} (fresh : k.calls = []) {call : CallId}
    (unused : call ∉ begun front) : (k.run front).resultsOf call = [] := by
  have within : (k.run front).Within k.options k.settings (· ∈ begun front) :=
    runWithin ⟨rfl, rfl, by simp [quiet, fresh], by simp [quiet]⟩ fun _ member => member
  exact List.filterMap_eq_nil_iff.mpr fun result member => if_neg fun same : result.1 = call =>
    unused (same ▸ within.results result member)

theorem storyNext {front : List Action} {action : Action} (fresh : k.calls = [])
    (story : k.Story front) (allowed : (k.run front).connection.allows action = true)
    (unused : ∀ call, action.begun? = some call → call ∉ begun front) :
    k.Story (front ++ [action]) := by
  have within : (k.run front).Within k.options k.settings (· ∈ begun front) :=
    runWithin ⟨rfl, rfl, by simp [quiet, fresh], by simp [quiet]⟩ fun _ member => member
  have results : (k.run (front ++ [action])).resultsOf = fun call =>
      (k.run front).resultsOf call ++ ((k.run front).connection.next action).resultsOf call := by
    rw [runThen]
    exact funext fun call => List.filterMap_append
  have moved : (k.run (front ++ [action])).connection =
      ((k.run front).connection.next action).connection := by
    rw [runThen]
    rfl
  rw [Story, results, moved]
  by_cases attempts : ∃ call answer, action = .begin call .connect answer ∧
      (k.run front).connection.client = none
  · obtain ⟨call, answer, rfl, unavailable⟩ := attempts
    have idle : (k.run front).connection.calls = [] := by
      simpa [allows, Command.acknowledged] using allowed
    obtain ⟨created, tells⟩ := attemptTells answer unavailable idle
      (runSilent fresh (unused call rfl))
    rw [within.options, within.settings] at tells
    exact .inr ⟨front, call, answer, [], rfl, unavailable, created, tells⟩
  · have available (call : CallId) (answer : Broker.Answer)
        (attempt : action = .begin call .connect answer) :
        (k.run front).connection.client.isSome = true := by
      rw [Option.isSome_iff_ne_none]
      exact fun unavailable => attempts ⟨call, answer, attempt, unavailable⟩
    rcases story with ⟨client, idle, status, never⟩ |
      ⟨before, id, answer, since, rfl, unavailable, created, tells⟩
    · have rests (call : CallId) (answer : Broker.Answer) :
          action ≠ .begin call .connect answer :=
        fun attempt => attempts ⟨call, answer, attempt, client⟩
      rw [idleStays idle client allowed rests]
      refine .inl ⟨client, idle, status, fun call answer member => ?_⟩
      rcases List.mem_append.mp member with old | new
      · exact never call answer old
      · exact rests call answer (List.mem_singleton.mp new).symm
    · refine .inr ⟨before, id, answer, since ++ [action], by simp, unavailable, ?_, ?_⟩
      · rw [nextCreated available]
        exact created
      · exact tells.next allowed (fun call new => runSilent fresh (unused call new)) available

theorem sequentialAppend (k : Connection) (front back : List Action) :
    k.sequential (front ++ back) =
      (k.sequential front && (k.run front).connection.sequential back) := by
  induction front generalizing k with
  | nil => rfl
  | cons action front ih => simp [sequential, run, Shift.andThen, ih, Bool.and_assoc]

theorem runStory (client : k.client = none) (idle : k.calls = []) (status : k.status = .ready)
    {actions : List Action} (distinct : (begun actions).Nodup)
    (inTurn : k.sequential actions = true) : k.Story actions := by
  induction actions using List.reverseRecOn with
  | nil => exact .inl ⟨client, idle, status, fun _ _ => List.not_mem_nil⟩
  | append_singleton front action ih =>
    rw [begunAppend, List.nodup_append] at distinct
    obtain ⟨before, _, apart⟩ := distinct
    rw [sequentialAppend, Bool.and_eq_true] at inTurn
    refine storyNext idle (ih before inTurn.1) ?_ fun call new old => ?_
    · simpa [sequential] using inTurn.2
    · exact apart call old call (begunMember (List.mem_singleton.mpr rfl) new) rfl

end Connection

namespace State

variable {s : State}

theorem sequentialCourse {actions : List Action}
    (consistent : s.Consistent) (numbered : Numbered s actions) :
    sequential s actions = s.connection.sequential actions := by
  induction actions generalizing s with
  | nil => rfl
  | cons action rest ih =>
    have fresh : ∀ id, action.begun? = some id → ¬ s.Uses id := fun id new => numbered.head new
    rw [sequential, Connection.sequential,
      ih (stepConsistent consistent fresh).1 (numbered.tail consistent),
      (stepAccords consistent fresh).connection]

theorem courseResults (new : s.New) {actions : List Action}
    (distinct : (begun actions).Nodup) {id : CallId} {command : Command} {answer : Broker.Answer}
    (lasting : command.acknowledged = false) (member : .begin id command answer ∈ actions) :
    (run s actions).resultsOf id = (s.connection.run actions).resultsOf id := by
  have results := (runAccords new.consistent (new.numbered distinct)).2.2
  refine results id (by simp [Asks, new.calls]) fun action inside asks => ?_
  cases action with
  | begin call other again =>
    by_cases asked : other.acknowledged = true
    · simp only [Action.asks?, asked, if_true, Option.some.injEq] at asks
      cases asks
      cases begunOnce distinct member inside rfl rfl
      simp [lasting] at asked
    · simp [Action.asks?, asked] at asks
  | _ => contradiction

theorem statusWithoutClient (new : s.New) {actions : List Action}
    (distinct : (begun actions).Nodup) (inTurn : sequential s actions = true) :
    let t := run s actions
    (∀ c ∈ t.state.calls, c.purpose.acknowledged = true) → t.state.isAvailable = false →
    t.state.status = .ready ∧ (∀ id answer, .begin id .connect answer ∉ actions) ∨
    ∃ before id answer since, actions = before ++ .begin id .connect answer :: since ∧
      (run s before).state.isAvailable = false ∧
      t.state.created = (run s before).state.created + 1 ∧
      (t.state.status = .closed ∧ (∃ reason, t.resultsOf id = [.ok (.connected reason)]) ∧
        (∃ other again, .begin other .close again ∈ since ∧ t.resultsOf other = [.ok .closed]) ∨
      ∃ e, t.resultsOf id = [.error e] ∧
        (e = .bus (.connectTimedOut s.options.seconds) ∧ t.state.status = .error ∨
          e ≠ .bus (.connectTimedOut s.options.seconds) ∧
            t.state.status = lastReport s.options since)) := by
  intro t idle unavailable
  have numbered := new.numbered distinct
  rw [sequentialCourse new.consistent numbered] at inTurn
  have connection := (runAccords new.consistent numbered).1
  have story := Connection.runStory new.client (newIdle new) new.status distinct inTurn
  have client : (s.connection.run actions).connection.client = none := by
    rw [← connection]
    exact unavailableClient.mp unavailable
  have rests : (s.connection.run actions).connection.calls = [] := by
    rw [← connection]
    simpa [State.connection] using idle
  rw [show t.state.status = (s.connection.run actions).connection.status from
      congrArg Connection.status connection,
    show t.state.created = (s.connection.run actions).connection.created from
      congrArg Connection.created connection]
  rcases story with ⟨_, _, ready, never⟩ | ⟨before, id, answer, since, split, absent, made, tells⟩
  · exact .inl ⟨ready, never⟩
  · have earlier := runCourse new (split ▸ distinct)
    refine .inr ⟨before, id, answer, since, split, ?_, ?_, ?_⟩
    · exact unavailableClient.mpr ((congrArg Connection.client earlier).trans absent)
    · rw [made, ← earlier]
      rfl
    · have inside : .begin id .connect answer ∈ actions := by simp [split]
      have own := courseResults new distinct rfl inside
      cases tells with
      | waits stands => simp [stands.client] at client
      | fails stands sole => simp [rests] at sole
      | failed stands idle ended status =>
        exact .inr ⟨_, own.trans ended, status⟩
      | stays stands => simp [stands.client] at client
      | closes stands sole => simp [rests] at sole
      | @closed other reason again stands idle begun connected closed status =>
        have inside : .begin other .close again ∈ actions := by simp [split, begun]
        exact .inl ⟨status, ⟨reason, own.trans connected⟩, other, again, begun,
          (courseResults new distinct rfl inside).trans closed⟩

theorem statusWithoutClientRefused :
    let s : State :=
      { options := ⟨.text "c", .int 60, .int 0, .bool true, .null⟩
        settings := ⟨"localhost", 1883, none, none, false⟩
        logger := ⟨.text "bus", .text "INFO"⟩
        routerLogger := ⟨.text "router", .text "INFO"⟩ }
    let actions : List Action :=
      [.begin 0 .connect {}, .handle (.connected (.code 135)), .resume 0,
        .handle (.disconnected (.code 135)), .resume 0]
    let t := run s actions
    (s.New ∧ (begun actions).Nodup ∧ sequential s actions = true ∧
      (∀ c ∈ t.state.calls, c.purpose.acknowledged = true) ∧ t.state.isAvailable = false) ∧
    t.state.status = .reconnecting ∧ ∃ before id answer since e,
      actions = before ++ .begin id .connect answer :: since ∧ t.resultsOf id = [.error e] ∧
        t.state.status = lastReport s.options since := by
  intro s actions t
  have new : s.New := ⟨rfl, rfl, rfl, rfl, rfl, rfl⟩
  have distinct : (begun actions).Nodup := List.nodup_singleton 0
  have inTurn : sequential s actions = true := by
    simp only [s, actions]
    rfl
  have idle : ∀ c ∈ t.state.calls, c.purpose.acknowledged = true := by
    have none : t.state.calls = [] := by
      simp only [t, s, actions]
      rfl
    simp [none]
  have unavailable : t.state.isAvailable = false := by
    simp only [t, s, actions]
    rfl
  have status : t.state.status = .reconnecting := by
    simp only [t, s, actions]
    rfl
  refine ⟨⟨new, distinct, inTurn, idle, unavailable⟩, status, ?_⟩
  rcases statusWithoutClient new distinct inTurn idle unavailable with
    ⟨ready, _⟩ | ⟨before, id, answer, since, split, _, _, ⟨closed, _⟩ | ⟨e, failed, timed | ⟨_, last⟩⟩⟩
  · exact absurd (status.symm.trans ready) (by simp)
  · exact absurd (status.symm.trans closed) (by simp)
  · exact absurd (status.symm.trans timed.2) (by simp)
  · exact ⟨before, id, answer, since, e, split, failed, last⟩

end State
end TopicRouting.Bus
