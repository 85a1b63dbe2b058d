import TopicRouting.Proofs.Reaching

/-! A call that closes a bus while others wait for acknowledgements. Between its two steps anything
may come but a call that connects. When it returns, every other call has its own answer, has given
up, or is released, and nothing waits any longer. -/
namespace TopicRouting.Bus

theorem Wait.releasedOnce (w : Wait) (expired : Bool) : .waiting expired ≠ w.released := by
  cases w <;> nofun

/- What a wait comes to once its call goes on, even if no answer has come. -/
def Wait.outcome : Wait → Option (Except BusError Answer)
  | .waiting _ => some (.error .notAvailable)
  | .answered answer => some answer
  | .gaveUp => none
  | .finished outcome => outcome

theorem Wait.releasedEnds (m : Int) {id : CallId} (w : Wait) {actions : List Action}
    (goesOn : .resume id ∈ actions) :
    actions.foldl (next m id) w.released = .finished w.outcome := by
  have on := anyGoesOn.mpr goesOn
  cases w with
  | waiting expired => exact (answeredStays _ actions).trans (if_pos on)
  | answered answer => exact (answeredStays answer actions).trans (if_pos on)
  | gaveUp => exact (gaveUpStays actions).trans (if_pos on)
  | finished outcome => exact staysFinished m id outcome actions

namespace Connection

structure Closing (k : Connection) (id : CallId) : Prop where
  client : k.client = none
  calls : ∃ c, k.calls = [c] ∧ c.id = id ∧ c.ending = some .closed

variable {k : Connection} {id : CallId} {action : Action}

theorem Closing.only (closing : k.Closing id) {other : CallId} {c : Call}
    (found : k.call? other = some c) : c.id = id ∧ c.ending = some .closed := by
  obtain ⟨own, sole, same, ending⟩ := closing.calls
  cases List.singleton_inj.mp (sole.symm.trans (soleFound sole found))
  exact ⟨same, ending⟩

theorem Closing.next (closing : k.Closing id) (alone : ∀ call answer, action ≠ .begin call .connect answer)
    (apart : action.begun? ≠ some id) (waits : action ≠ .resume id) :
    (k.next action).connection.Closing id ∧ (k.next action).stopped = [] ∧
      (k.next action).resultsOf id = [] := by
  obtain ⟨c, sole, own, ending⟩ := closing.calls
  have steps := k.nextSteps action
  generalize k.next action = shift at steps
  cases steps with
  | @kept f status alike _ =>
    refine ⟨⟨closing.client, f c, by simp [quiet, sole], (alike c).id.trans own, ?_⟩, rfl, rfl⟩
    exact (alike c).ending.trans ending
  | @refused call e begun _ =>
    have other : call ≠ id := by
      rintro rfl
      exact apart begun
    refine ⟨⟨closing.client, c, ?_, own, ending⟩, rfl, ?_⟩
    · have kept : c.id ≠ call := own ▸ Ne.symm other
      simp [leave, drop, sole, kept]
    · simp [leave, Shift.resultsOf, other]
  | attempted begun _ => exact absurd begun (alone _ _)
  | attemptFailed begun _ => exact absurd begun (alone _ _)
  | closes _ client => simp [closing.client] at client
  | concluded resumed found ended => exact absurd ((closing.only found).1 ▸ resumed) waits
  | answered _ found running _ => simp [(closing.only found).2] at running
  | stopped _ found running _ => simp [(closing.only found).2] at running

theorem Closing.run {actions : List Action} (closing : k.Closing id)
    (alone : ∀ call answer, .begin call .connect answer ∉ actions) (apart : id ∉ begun actions)
    (waits : .resume id ∉ actions) : (k.run actions).connection.Closing id ∧
      (k.run actions).stopped = [] ∧ (k.run actions).resultsOf id = [] := by
  induction actions generalizing k with
  | nil => exact ⟨closing, rfl, rfl⟩
  | cons action rest ih =>
    rw [begunCons, List.mem_append, not_or] at apart
    rw [List.mem_cons, not_or] at waits
    obtain ⟨still, stopped, silent⟩ := closing.next
      (fun call answer begins => alone call answer (begins ▸ List.mem_cons_self))
      (fun begins => apart.1 (by simp [begins])) (Ne.symm waits.1)
    obtain ⟨last, later, none⟩ := ih still
      (fun call answer member => alone call answer (List.mem_cons_of_mem _ member)) apart.2 waits.2
    exact ⟨last, by rw [run, Shift.andThen, stopped, later]; rfl,
      by rw [run, Shift.resultsOfThen, silent, none]; rfl⟩

theorem closeBegins {n : Nat} (client : k.client = some n) (idle : k.calls = [])
    (answer : Broker.Answer) :
    let shift := k.next (.begin id .close answer)
    shift.connection.Closing id ∧ shift.stopped = [n] ∧ shift.resultsOf id = [] := by
  let c : Call := { id := id, purpose := .close }
  have shift : k.next (.begin id .close answer) = { connection := { k with
      closing := true, client := none, calls := [{ c with ending := some .closed }] }, stopped := [n] } := by
    simp [next, close, stop, change, client, idle, c]
  rw [shift]
  exact ⟨⟨rfl, _, rfl, rfl, rfl⟩, rfl, rfl⟩

theorem Closing.ends (closing : k.Closing id) :
    let shift := k.next (.resume id)
    shift.connection.client = none ∧ shift.connection.status = .closed ∧ shift.stopped = [] ∧
      shift.resultsOf id = [.ok .closed] := by
  obtain ⟨c, sole, own, ending⟩ := closing.calls
  have found : k.call? id = some c := by rw [soleCall sole, if_pos own.symm]
  have shift : k.next (.resume id) = ({ k with status := .closed }).leave id (.ok .closed) := by
    rw [Connection.next, resume, found]
    simp only [ending]
    rfl
  rw [shift]
  exact ⟨closing.client, rfl, rfl, by simp [leave, Shift.resultsOf]⟩

end Connection

namespace State

variable {s : State} {id : CallId} {action : Action}

theorem answeredFails {c : Call} {m : Int} {e : BusError} {label : Label} {topic : Text}
    {qos retain : Value} (traced : s.Traced c m) (consistent : s.Consistent)
    (answered : c.wait = .answered (.error e)) (purpose : c.purpose = .publish label topic qos retain) :
    (s.resume c.id).results = [(c.id, .error (.bus e))] ∧
      (s.resume c.id).state.sent = (s.sent.1, s.sent.2.add label.shown) := by
  obtain ⟨member, _⟩ := callMember traced.found
  have goesOn : s.resume c.id = s.fail c e := by
    rw [resume, traced.found]
    simp only [consistent.running c member traced.asks, Call.settledWith answered]
  rw [goesOn]
  exact ⟨failReturns traced.asks e, failSent purpose e⟩

theorem yieldsUnasked (fresh : ∀ id, action.begun? = some id → ¬ s.Uses id)
    (unasked : ∀ id command answer, action = .begin id command answer →
      command.acknowledged = true → s.isAvailable = false) :
    s.Yields action (step s action) := by
  rintro id begun c member rfl m awaited
  have absent : c.entry ∉ s.roster := fun old =>
    fresh c.id begun (.inl (holdsEntry.mpr ⟨c.entry, old, rfl⟩))
  obtain ⟨command, answer, rfl, same, awaits⟩ :=
    (s.stepAlters action).joined (List.mem_map_of_mem member) absent
  have asks : command.acknowledged = true := by
    rw [← same, ← awaits, show c.entry.message = some m from awaited]
    rfl
  have unavailable := unasked c.id command answer rfl asks
  cases beginBegun asks c.id answer with
  | refused calls =>
    rw [step, show c.entry.id = c.id from rfl, calls] at member
    simp at member
  | waits available => simp [unavailable] at available

section closing

variable (consistent : s.Consistent) (closing : s.connection.Closing id)
include consistent closing

theorem closingCall : ∃ c ∈ s.calls, s.call? id = some c ∧ c.id = id ∧ c.ending = some .closed := by
  obtain ⟨c, sole, rfl, ending⟩ := closing.calls
  have member : c ∈ s.connection.calls := by rw [sole]; exact List.mem_singleton_self c
  have inside := (connectionCall.mp member).1
  exact ⟨c, inside, consistent.found inside, rfl, ending⟩

theorem closingResumes : s.resume id = s.release.andThen (·.conclude id .closed) := by
  obtain ⟨c, _, found, own, ending⟩ := closingCall consistent closing
  rw [resume, found]
  simp only [ending]

theorem closingReleases : s.releases (.resume id) = true := by
  obtain ⟨c, _, found, _, ending⟩ := closingCall consistent closing
  rw [releases, found, Option.any_some, ending]
  rfl

theorem closingCalm (waits : action ≠ .resume id) : s.releases action = false := by
  cases action with
  | resume other =>
    by_contra frees
    obtain ⟨c, found, ended⟩ := (Option.any_eq_true ..).mp (Bool.not_eq_false _ ▸ frees)
    obtain ⟨member, rfl⟩ := callMember found
    cases kind : c.purpose.acknowledged with
    | true => simp [consistent.running c member kind] at ended
    | false => exact waits (by rw [(closing.only (foundCall consistent member kind)).1])
  | _ => rfl

end closing

end State

section runs
open State

variable {s : State} {id : CallId}

theorem closingFree {actions : List Action} (consistent : s.Consistent)
    (closing : s.connection.Closing id) (numbered : Numbered s actions)
    (alone : ∀ call answer, .begin call .connect answer ∉ actions)
    (waits : .resume id ∉ actions) : Calm s actions ∧ Apart s actions := by
  induction actions generalizing s with
  | nil => exact ⟨trivial, trivial⟩
  | cons action rest ih =>
    rw [List.mem_cons, not_or] at waits
    have fresh : ∀ id, action.begun? = some id → ¬ s.Uses id := fun id => numbered.head
    have here : action ≠ .resume id := Ne.symm waits.1
    have unavailable : s.isAvailable = false := by
      rw [isAvailable, show s.client = none from closing.client]
      rfl
    have apart : action.begun? ≠ some id := by
      intro begun
      obtain ⟨c, member, _, own, _⟩ := closingCall consistent closing
      exact fresh id begun (.inl ⟨c, member, own⟩)
    have next := (closing.next (fun call answer begins => alone call answer
      (begins ▸ List.mem_cons_self)) apart here).1
    rw [← (stepAccords consistent fresh).connection] at next
    obtain ⟨calm, free⟩ := ih (stepConsistent consistent fresh).1 next
      (numbered.tail consistent) (fun call answer member => alone call answer
        (List.mem_cons_of_mem _ member)) waits.2
    exact ⟨⟨closingCalm consistent closing here, calm⟩,
      yieldsUnasked fresh (fun _ _ _ _ _ => unavailable), free⟩

end runs

section closing
open State

variable {u : State} {id : CallId} {answer : Broker.Answer} {n : Nat}
  {during after : List Action} (consistent : u.Consistent)
  (numbered : Numbered u (.begin id .close answer :: (during ++ .resume id :: after)))
  (idle : u.connection.calls = []) (client : u.client = some n)
  (alone : ∀ call answer, .begin call .connect answer ∉ during) (waits : .resume id ∉ during)
include consistent numbered idle client alone waits

theorem closingReached :
    let x := (run u (.begin id .close answer :: during)).state
    x.Consistent ∧ Numbered x (.resume id :: after) ∧ x.connection.Closing id ∧
      Calm u (.begin id .close answer :: during) ∧
      Apart u (.begin id .close answer :: during) := by
  intro x
  have fresh : ∀ other, (Action.begin id .close answer).begun? = some other → ¬ u.Uses other :=
    fun other => numbered.head
  have whole : x = (run (step u (.begin id .close answer)).state during).state := by
    simp only [x, runCons]
    rfl
  obtain ⟨last, later⟩ : x.Consistent ∧ Numbered x (.resume id :: after) :=
    runConsistent consistent numbered
  have consistentNext := (stepConsistent consistent fresh).1
  have closing : (step u (.begin id .close answer)).state.connection.Closing id := by
    rw [(stepAccords consistent fresh).connection]
    exact (Connection.closeBegins client idle answer).1
  have tail : Numbered (step u (.begin id .close answer)).state
      (during ++ .resume id :: after) := numbered.tail consistent
  have inside := tail.front
  have unbegun : id ∉ begun during := fun begins => by
    obtain ⟨c, member, _, own, _⟩ := closingCall consistentNext closing
    exact inside.unused id begins (.inl ⟨c, member, own⟩)
  obtain ⟨calm, apart⟩ := closingFree consistentNext closing inside alone waits
  refine ⟨last, later, ?_, ⟨rfl, calm⟩, yieldsUnasked fresh ?_, apart⟩
  · rw [whole, (runAccords consistentNext inside).1]
    exact (closing.run alone unbegun waits).1
  · rintro other command answer begins asks
    cases begins
    contradiction

theorem closesOnce :
    let t := run u (.begin id .close answer :: (during ++ [.resume id]))
    t.resultsOf id = [.ok .closed] ∧ t.stopped = [n] ∧ t.state.client = none ∧
      t.state.status = .closed := by
  intro t
  let actions : List Action := .begin id .close answer :: (during ++ [.resume id])
  have whole : Numbered u (actions ++ after) := by simpa [actions] using numbered
  have inside := whole.front
  have silent : ∀ action ∈ actions, action.asks? ≠ some id := by
    intro action member asked
    have begins := begunOnce inside.distinct member List.mem_cons_self (askedBegun asked) rfl
    rw [begins] at asked
    contradiction
  have free : ¬ u.Asks id := fun ⟨c, member, own, _⟩ =>
    numbered.head rfl (.inl ⟨c, member, own⟩)
  have unbegun : id ∉ begun during := fun begins => by
    have distinct := inside.distinct
    rw [begunCons, List.nodup_append] at distinct
    exact distinct.2.2 id (by simp [Action.begun?]) id (by
      rw [begunAppend]
      exact List.mem_append_left _ begins) rfl
  obtain ⟨connection, stopped, results⟩ := runAccords consistent inside
  obtain ⟨begins, stops, starts⟩ := Connection.closeBegins client idle answer
  obtain ⟨goesOn, rests, quiet⟩ := begins.run alone unbegun waits
  obtain ⟨gone, closed, still, returned⟩ := goesOn.ends
  have course : u.connection.run actions = (u.connection.next (.begin id .close answer)).andThen
      fun k => (k.run during).andThen (·.next (.resume id)) := by
    simp only [← Connection.runThen]
    rfl
  rw [course] at connection stopped results
  refine ⟨(results id free silent).trans ?_, stopped.trans ?_,
    (congrArg Connection.client connection).trans gone,
    (congrArg Connection.status connection).trans closed⟩
  · rw [Shift.resultsOfThen, Shift.resultsOfThen, starts, quiet, returned]
    rfl
  · rw [Shift.andThen, Shift.andThen, stops, rests, still]
    rfl

theorem closesClear :
    let t := run u (.begin id .close answer :: (during ++ [.resume id]))
    t.state.pending = [] ∧ t.state.subscriptions = [] := by
  intro t
  obtain ⟨last, _, closing, _⟩ :=
    closingReached consistent numbered idle client alone waits
  have state : t.state =
      ((run u (.begin id .close answer :: during)).state.resume id).state := by
    have split : t = _ := runThen u (.begin id .close answer :: during) (.resume id)
    rw [split]
    rfl
  rw [state, closingResumes last closing]
  exact ⟨rfl, rfl⟩

theorem closingReaches {c : Call} {m : Int} (traced : u.Traced c m) (timed : u.connection.Timed) :
    Reaches u c m (.begin id .close answer :: (during ++ [.resume id]))
      (during.foldl (Wait.next m c.id) c.wait).released := by
  obtain ⟨last, later, closing, calm, apart⟩ :=
    closingReached consistent numbered idle client alone waits
  have inside : Numbered u ((.begin id .close answer :: during) ++ .resume id :: after) := numbered
  have before := traced.runs consistent timed inside.front fun _ => ⟨calm, apart⟩
  rw [List.foldl_cons, Wait.nextBegun] at before
  let x := (run u (.begin id .close answer :: during)).state
  refine before.andRun (f := Wait.released) List.not_mem_nil (fun _ => rfl) fun c still _ _ _ => ?_
  have goesOn : Reaches x c m [.resume id] (x.onward m c.id (.resume id) c.wait) :=
    still.reaches last (fun available => by simp [closing.client] at available)
      (fun other => later.head) fun _ => nofun
  rwa [onward, if_pos (closingReleases last closing)] at goesOn

theorem closingLasts {c : Call} {m : Int} (traced : u.Traced c m) (timed : u.connection.Timed) :
    Reaches u c m (.begin id .close answer :: (during ++ .resume id :: after))
      (after.foldl (Wait.next m c.id) (during.foldl (Wait.next m c.id) c.wait).released) := by
  let closing : List Action := .begin id .close answer :: (during ++ [.resume id])
  have whole : closing ++ after = .begin id .close answer :: (during ++ .resume id :: after) := by
    simp [closing]
  have reaches : Reaches u c m closing _ :=
    closingReaches consistent numbered idle client alone waits traced timed
  obtain ⟨_, _, dropped, _⟩ := closesOnce consistent numbered idle client alone waits
  obtain ⟨member, _⟩ := callMember traced.found
  rw [← whole] at numbered ⊢
  obtain ⟨last, later⟩ := runConsistent consistent numbered
  have unbegun : c.id ∉ begun after := fun begins =>
    numbered.unused c.id (by rw [begunAppend]; exact List.mem_append_right _ begins)
      (.inl ⟨c, member, rfl⟩)
  refine reaches.andRun (f := after.foldl (Wait.next m c.id)) unbegun
    (fun outcome => Wait.staysFinished m c.id outcome after) fun d still own reached _ => ?_
  rw [← own]
  refine still.runs last (fun available => ?_) later fun opened => ?_
  · simp [State.connection, closing, dropped] at available
  · exact absurd ((Call.opened opened).symm.trans reached) (Wait.releasedOnce _ _)

theorem closingFails {c : Call} {m : Int} (traced : u.Traced c m) (timed : u.connection.Timed)
    {label : Label} {topic : Text} {qos retain : Value} {expired : Bool}
    (publishes : c.purpose = .publish label topic qos retain)
    (unanswered : during.foldl (Wait.next m c.id) c.wait = .waiting expired)
    (early : .resume c.id ∉ after) :
    let x := (run u (.begin id .close answer :: (during ++ .resume id :: after))).state
    let r := step x (.resume c.id)
    r.results = [(c.id, .error (.bus .notAvailable))] ∧
      r.state.sent = (x.sent.1, x.sent.2.add label.shown) := by
  intro x r
  have last : x.Consistent :=
    (runConsistent consistent (by rwa [List.append_nil])).1
  have lasts := closingLasts consistent numbered idle client alone waits traced timed
  rw [unanswered, Wait.released, Wait.answeredStays, if_neg (mt Wait.anyGoesOn.mp early)] at lasts
  obtain ⟨d, there, own, same, answered⟩ := lasts.there nofun
  have fails := State.answeredFails there last answered (same.trans publishes)
  rwa [own] at fails

end closing

/-- A bus is closed while any calls wait for acknowledgements, and anything but an attempt to connect
comes until its client has stopped. The call that closes it returns once, and then the client is
dropped, having stopped once, the bus counts as closed, and nothing is pending. A call under way that
has no entry among what is pending is not released: it waits on as before. Every other one that has
its message to itself has been told by then to go on, and ends when it does: with its own first
answer, or none if it had given it up, where that came before, and else with the error that there is
no client. So does a publish that was released, and counts as one more that failed. -/
theorem closeReleases {start : State} (new : start.New)
    {before during after : List Action} {id : CallId} {answer : Broker.Answer} {n : Nat}
    (distinct : (begun (before ++ .begin id .close answer :: (during ++ .resume id :: after))).Nodup)
    (available : (run start before).state.client = some n)
    (asked : ∀ c ∈ (run start before).state.calls, c.purpose.acknowledged = true)
    (alone : ∀ call answer, .begin call .connect answer ∉ during) (waits : .resume id ∉ during) :
    let u := (run start before).state
    let closing : List Action := .begin id .close answer :: (during ++ [.resume id])
    let t := run u closing
    (t.resultsOf id = [.ok .closed] ∧ t.stopped = [n] ∧ t.state.client = none ∧
      t.state.status = .closed ∧ t.state.pending = [] ∧ t.state.subscriptions = []) ∧
    ∀ c ∈ u.calls,
      (c.id ∉ u.pending.map Prod.snd → .expire c.id ∉ during → .resume c.id ∉ during →
        t.state.call? c.id = some c) ∧
      ∃ m, c.message = some m ∧
        let w := during.foldl (Wait.next m c.id) c.wait
        let last := after.foldl (Wait.next m c.id) w.released
        ((c.future.isOpen = true → u.Owns c.id m) →
          (run start (before ++ closing)).Tells c.id ∧
          Becomes u c.id m c.purpose (closing ++ after) last ∧
          (.resume c.id ∈ after → last = .finished w.outcome) ∧
          ∀ label topic qos retain expired front back,
            c.purpose = .publish label topic qos retain → w = .waiting expired →
            after = front ++ .resume c.id :: back → .resume c.id ∉ front →
            let x := (run u (closing ++ front)).state
            let r := step x (.resume c.id)
            r.results = [(c.id, .error (.bus .notAvailable))] ∧
              r.state.sent = (x.sent.1, x.sent.2.add label.shown)) := by
  intro u closing t
  have numberedStart := new.numbered distinct
  obtain ⟨consistent, numbered⟩ := runConsistent new.consistent numberedStart
  have runUp : Numbered start before := numberedStart.front
  have informed : u.Informed fun id => False ∨ (run start before).Tells id :=
    new.informed.run runUp
  have timed : u.connection.Timed := State.reachableTimed new runUp.distinct
  have idle : u.connection.calls = [] :=
    List.filter_eq_nil_iff.mpr fun c member => by simp [asked c member]
  have whole (rest : List Action) :
      closing ++ rest = .begin id .close answer :: (during ++ .resume id :: rest) := by
    simp [closing]
  obtain ⟨returned, stopped, dropped, status⟩ :=
    closesOnce consistent numbered idle available alone waits
  obtain ⟨pending, topics⟩ :=
    closesClear consistent numbered idle available alone waits
  refine ⟨⟨returned, stopped, dropped, status, pending, topics⟩, fun c member => ?_⟩
  have found := consistent.found member
  have unowned : c.id ≠ id := fun own => numbered.head rfl (.inl ⟨c, member, own⟩)
  refine ⟨fun unlisted untimed stays => ?_, ?_⟩
  · rw [← whole] at numbered
    refine passesOver consistent numbered.front found (asked c member) unlisted ?_ ?_
    · simp [closing, untimed]
    · simp [closing, stays, unowned]
  obtain ⟨m, awaited⟩ := informed.awaits c member (asked c member)
  refine ⟨m, awaited, ?_⟩
  intro w last owns
  have traced : u.Traced c m := ⟨found, awaited, asked c member, owns⟩
  have reaches : Reaches u c m closing _ :=
    closingReaches consistent numbered idle available alone waits traced timed
  refine ⟨?_, ?_, Wait.releasedEnds m _, ?_⟩
  · rw [runAppend, Turn.tellsThen]
    rcases informed.told c member (asked c member) with still | before
    · exact .inr ((reaches.told still).resolve_left (Ne.symm (Wait.releasedOnce _ _)))
    · exact .inl (before.resolve_left not_false)
  · rw [whole]
    exact (closingLasts consistent numbered idle available alone waits traced timed).becomes
  · rintro label topic qos retain expired front back publishes still rfl early x r
    have split : Action.begin id .close answer :: (during ++ .resume id ::
        (front ++ .resume c.id :: back)) = (closing ++ front) ++ .resume c.id :: back := by
      simp [closing]
    rw [split] at numbered
    have inside := numbered.front
    simp only [r, x, whole] at inside ⊢
    exact closingFails consistent inside idle available alone waits traced timed publishes still early

theorem closeReleasesFour :
    let start : State :=
      { options := ⟨.text "c", .int 60, .int 0, .bool true, .int 10⟩
        settings := ⟨"localhost", 1883, none, none, false⟩
        logger := ⟨.text "bus", .text "ERROR"⟩
        routerLogger := ⟨.text "router", .text "ERROR"⟩ }
    let publish (id : CallId) (message : Int) : Action :=
      .begin id (.publish (.text "a") .null (.int 1) none (.bool false)) ⟨none, none, 0, message⟩
    let before : List Action :=
      [.route (.set (.text "a") (.text "a")), .begin 0 .connect {}, .handle (.connected (.code 0)),
        .resume 0, .begin 1 (.subscribe (.text "a") none) ⟨none, none, 0, 1⟩, publish 2 2,
        publish 3 3, publish 4 4, .handle (.published 2 none)]
    let during : List Action :=
      [.expire 3, .handle (.acknowledged 1 none), .resume 3, publish 6 6, .resume 1]
    let after : List Action := [.resume 4, .resume 3, .resume 2]
    let u := (run start before).state
    let closing : List Action := .begin 5 .close {} :: (during ++ [.resume 5])
    let t := run u closing
    (start.New ∧ (begun (before ++ .begin 5 .close {} :: (during ++ .resume 5 :: after))).Nodup ∧
      u.client = some 0 ∧ (∀ c ∈ u.calls, c.purpose.acknowledged = true) ∧
      (∀ call answer, .begin call .connect answer ∉ during) ∧ .resume 5 ∉ during ∧ u.Owns 4 4) ∧
    t.resultsOf 5 = [.ok .closed] ∧ t.stopped = [0] ∧
      (run u (closing ++ after)).resultsOf 4 = [.error (.bus .notAvailable)] := by
  intro start publish before during after u closing t
  have new : start.New := ⟨rfl, rfl, rfl, rfl, rfl, rfl⟩
  have distinct : (begun (before ++ .begin 5 .close {} :: (during ++ .resume 5 :: after))).Nodup := by
    decide
  have available : u.client = some 0 := by decide +kernel
  have asked : ∀ c ∈ u.calls, c.purpose.acknowledged = true := by decide +kernel
  have alone : ∀ call answer, Action.begin call .connect answer ∉ during := by
    simp [during, publish]
  have waits : Action.resume 5 ∉ during := by simp [during, publish]
  have last : ∃ c ∈ u.calls, c.id = 4 ∧ c.message = some 4 ∧ c.future.isOpen = true := by
    decide +kernel
  have owns : u.Owns 4 4 := State.ownsListed (by decide +kernel) (by decide +kernel)
    (by decide +kernel) (by decide +kernel)
  obtain ⟨⟨returned, stopped, _⟩, each⟩ :=
    closeReleases new distinct available asked alone waits
  refine ⟨⟨new, distinct, available, asked, alone, waits, owns⟩, returned, stopped, ?_⟩
  obtain ⟨c, member, own, message, opened⟩ := last
  obtain ⟨_, m, awaited, released⟩ := each c member
  cases awaited.symm.trans message
  obtain ⟨_, becomes, ends, _⟩ := released fun _ => own ▸ owns
  have waiting : during.foldl (Wait.next 4 c.id) c.wait = .waiting c.expired := by
    rw [Call.opened opened, own]
    simp [during, publish, Wait.next, answerTo]
  rw [ends (by simp [after, own]), waiting, own] at becomes
  obtain ⟨_, _, _, result, _, returns, ended⟩ := becomes
  have failed : result = .error (.bus .notAvailable) := by
    cases purpose : c.purpose <;> rw [purpose] at returns <;> exact returns
  exact ended.trans (congrArg ([·]) failed)

def failure? : Except Error Reply → Option ErrorKind
  | .error e => some e.kind
  | .ok _ => none

/- An acknowledgement comes in time, and the call goes on too late: its topic has been dropped by
then, which it takes for granted. -/
theorem acknowledgedTooLate :
    let start : State :=
      { options := ⟨.text "c", .int 60, .int 0, .bool true, .int 10⟩
        settings := ⟨"localhost", 1883, none, none, false⟩
        logger := ⟨.text "bus", .text "ERROR"⟩
        routerLogger := ⟨.text "router", .text "ERROR"⟩ }
    let before : List Action :=
      [.route (.set (.text "a") (.text "a")), .begin 0 .connect {}, .handle (.connected (.code 0)),
        .resume 0, .begin 1 (.subscribe (.text "a") none) ⟨none, none, 0, 1⟩,
        .handle (.acknowledged 1 none), .resume 1,
        .begin 2 (.unsubscribe (.text "a") false) ⟨none, none, 0, 2⟩]
    let u := (run start before).state
    let t := run u [.begin 3 .close {}, .handle (.acknowledged 2 none), .resume 3, .resume 2]
    start.New ∧ u.Owns 2 2 ∧ (t.resultsOf 3).map failure? = [none] ∧
      (t.resultsOf 2).map failure? = [some .key] := by
  intro start before u t
  exact ⟨⟨rfl, rfl, rfl, rfl, rfl, rfl⟩, State.ownsListed (by decide +kernel) (by decide +kernel)
    (by decide +kernel) (by decide +kernel), by decide +kernel⟩

/- A call that was released goes on after a call of the next connection has begun with the same
message, and takes its entry away. That call is still waiting when the bus has been closed again. -/
theorem strandedByLateRelease :
    let start : State :=
      { options := ⟨.text "c", .int 60, .int 0, .bool true, .int 10⟩
        settings := ⟨"localhost", 1883, none, none, false⟩
        logger := ⟨.text "bus", .text "ERROR"⟩
        routerLogger := ⟨.text "router", .text "ERROR"⟩ }
    let publish (id : CallId) : Action :=
      .begin id (.publish (.text "a") .null (.int 1) none (.bool false)) ⟨none, none, 0, 1⟩
    let before : List Action :=
      [.route (.set (.text "a") (.text "a")), .begin 0 .connect {}, .handle (.connected (.code 0)),
        .resume 0, publish 1, .begin 2 .close {}, .resume 2, .begin 3 .connect {}, publish 4,
        .resume 1, .handle (.connected (.code 0)), .resume 3]
    let t := run start (before ++ [.begin 5 .close {}, .resume 5])
    start.New ∧ (t.resultsOf 5).map failure? = [none] ∧ t.state.status = .closed ∧
      ∃ c ∈ t.state.calls, c.id = 4 ∧ c.future.isOpen = true ∧ c.expired = false := by
  intro start publish before t
  exact ⟨⟨rfl, rfl, rfl, rfl, rfl, rfl⟩, by decide +kernel⟩

end TopicRouting.Bus
