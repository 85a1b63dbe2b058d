import TopicRouting.Proofs.Tracing

/-! How far calls that wait for an acknowledgement come over a run. Where nothing is released, a call
comes as far as its own waiting says, and it is told to go on before it need not wait any longer. -/
namespace TopicRouting.Bus

namespace State

variable {s : State} {id : CallId} {m : Int} {c : Call} {action : Action}

theorem onwardCalm (calm : s.releases action = false) (w : Wait) :
    s.onward m id action w = w.next m id action := by
  rw [onward, calm]
  rfl

theorem onwardShut (running : c.ending = none) (found : s.call? c.id = some c)
    (shut : ¬ c.future.isOpen = true) :
    s.onward m c.id action c.wait = c.wait.next m c.id action := by
  cases frees : s.releases action with
  | false => exact onwardCalm frees _
  | true =>
    have unwaiting := Call.shutWait (c := c) (by simpa using shut)
    have same : c.wait.released = c.wait := by
      cases waits : c.wait <;> first | rfl | exact absurd waits (unwaiting _)
    rw [onward, if_pos frees, same]
    cases action with
    | resume other =>
      have apart : other ≠ c.id := by
        rintro rfl
        simp [releases, found, running] at frees
      exact (Wait.nextOther apart _ _).symm
    | _ => contradiction

end State

section runs
open State

variable {s : State}

/- A run in which no call that has stopped its client goes on. -/
def Calm : State → List Action → Prop
  | _, [] => True
  | s, action :: rest =>
      s.releases action = false ∧ Calm (step s action).state rest

/- A run in which each call that begins waits for another message than the calls under way. -/
def Apart : State → List Action → Prop
  | _, [] => True
  | s, action :: rest =>
      let t := step s action
      s.Yields action t ∧ Apart t.state rest

theorem State.New.informed (new : s.New) : s.Informed fun _ => False where
  consistent := new.consistent
  awaits := by simp [new.calls]
  told := by simp [new.calls]

theorem State.Informed.run {told : CallId → Prop} {actions : List Action}
    (informed : s.Informed told) (numbered : Numbered s actions) :
    (run s actions).state.Informed fun id =>
      told id ∨ (run s actions).Tells id := by
  induction actions generalizing s told with
  | nil => exact ⟨informed.consistent, informed.awaits,
      fun c member asks => (informed.told c member asks).imp_right .inl⟩
  | cons action rest ih =>
    have fresh : ∀ id, action.begun? = some id → ¬ s.Uses id := fun id => numbered.head
    have next : (step s action).state.Informed _ := informed.next fresh
    have later := ih next (numbered.tail informed.consistent)
    simp only [or_assoc] at later
    simp only [runCons, Turn.tellsThen]
    exact later

section passing

variable {c : Call}

theorem unlistedUnheard {id : CallId} (unlisted : id ∉ s.pending.map Prod.snd)
    (signal : Broker.Signal) : s.heard id signal = none := by
  have unowned (m : Int) : s.owner? m ≠ some id := fun owned => by
    obtain ⟨entry, found, own⟩ := Option.map_eq_some_iff.mp owned
    exact unlisted (List.mem_map.mpr ⟨entry, List.mem_of_find?_eq_some found, own⟩)
  cases signal with
  | acknowledged m reasons => exact if_neg (unowned m)
  | published m reason => exact if_neg (unowned m)
  | _ => rfl

theorem passesOver {actions : List Action} (consistent : s.Consistent)
    (numbered : Numbered s actions) (found : s.call? c.id = some c)
    (asks : c.purpose.acknowledged = true) (unlisted : c.id ∉ s.pending.map Prod.snd)
    (untimed : .expire c.id ∉ actions) (stays : .resume c.id ∉ actions) :
    (run s actions).state.call? c.id = some c := by
  induction actions generalizing s with
  | nil => exact found
  | cons action rest ih =>
    rw [List.mem_cons, not_or] at untimed stays
    have fresh : ∀ id, action.begun? = some id → ¬ s.Uses id := fun id => numbered.head
    obtain ⟨member, _⟩ := callMember found
    have still : (step s action).state.call? c.id = some c := by
      refine (stepCall consistent found asks fresh (Ne.symm stays.1)).trans (congrArg some ?_)
      cases action with
      | handle signal =>
        rw [touched, hears, unlistedUnheard unlisted]
      | expire other =>
        refine if_neg ?_
        rintro ⟨own, _⟩
        exact untimed.1 (own ▸ rfl)
      | resume other =>
        refine if_neg ?_
        rintro ⟨_, listed⟩
        exact unlisted listed
      | _ => rfl
    rw [runCons]
    refine ih (stepConsistent consistent fresh).1 (numbered.tail consistent) still ?_
      untimed.2 stays.2
    intro listed
    obtain ⟨entry, inside, own⟩ := List.mem_map.mp listed
    rcases stepPending consistent fresh inside with before | begun
    · exact unlisted (List.mem_map.mpr ⟨entry, before, own⟩)
    · exact fresh c.id (own ▸ begun) (.inl ⟨c, member, rfl⟩)

end passing

theorem becomesGone {id : CallId} {m : Int} {purpose : Purpose} {front back : List Action}
    {outcome : Option (Except BusError Answer)}
    (becomes : Becomes s id m purpose front (.finished outcome))
    (unbegun : id ∉ begun back) :
    Becomes s id m purpose (front ++ back) (.finished outcome) := by
  obtain ⟨absent, before, rest, result, rfl, returns, ended⟩ := becomes
  have away : ¬ (run s (before ++ .resume id :: rest)).state.Holds id :=
    fun ⟨c, member, same⟩ => absent c member same
  let last := run (run s (before ++ .resume id :: rest)).state back
  obtain ⟨silent, gone⟩ : last.resultsOf id = [] ∧ ¬ last.state.Holds id := runGone away unbegun
  refine ⟨fun c member same => gone ⟨c, ?_, same⟩, before, rest ++ back, result,
    by rw [List.append_assoc, List.cons_append], returns, ?_⟩
  · rw [runAppend] at member
    exact member
  · rw [runAppend, Turn.resultsOfThen, ended, silent]
    rfl

/- How far a traced call has come over a run: it is still there, or has returned. It has been told
unless it still waits. -/
inductive Reaches (s : State) (c : Call) (m : Int) (actions : List Action) : Wait → Prop
  | stays {after : Call} (traced : (run s actions).state.Traced after m)
      (id : after.id = c.id) (purpose : after.purpose = c.purpose)
      (opened : after.future.isOpen = true → c.future.isOpen = true)
      (silent : (run s actions).resultsOf c.id = [])
      (told : c.wait = .waiting false →
        after.wait = .waiting false ∨ (run s actions).Tells c.id) :
      Reaches s c m actions after.wait
  | returned {outcome : Option (Except BusError Answer)}
      (becomes : Becomes s c.id m c.purpose actions (.finished outcome))
      (told : c.wait = .waiting false → (run s actions).Tells c.id) :
      Reaches s c m actions (.finished outcome)

section reaching

variable {c : Call} {m : Int} {w : Wait}

theorem Reaches.becomes {actions : List Action} (reaches : Reaches s c m actions w) :
    Becomes s c.id m c.purpose actions w := by
  cases reaches with
  | stays traced id purpose _ silent _ =>
    exact becomesWaiting silent (callMember traced.found).1 id traced.awaited purpose
  | returned becomes _ => exact becomes

theorem Reaches.told {actions : List Action} (reaches : Reaches s c m actions w)
    (waits : c.wait = .waiting false) :
    w = .waiting false ∨ (run s actions).Tells c.id := by
  cases reaches with
  | stays _ _ _ _ _ told => exact told waits
  | returned _ told => exact .inr (told waits)

theorem Reaches.there {actions : List Action} (reaches : Reaches s c m actions w)
    (lasts : ∀ outcome, w ≠ .finished outcome) : ∃ after : Call,
      (run s actions).state.Traced after m ∧ after.id = c.id ∧
        after.purpose = c.purpose ∧ after.wait = w := by
  cases reaches with
  | stays traced id purpose _ _ _ => exact ⟨_, traced, id, purpose, rfl⟩
  | returned _ _ => exact absurd rfl (lasts _)

theorem Reaches.andRun {front back : List Action} (reaches : Reaches s c m front w)
    (unbegun : c.id ∉ begun back) {f : Wait → Wait}
    (keeps : ∀ outcome, f (.finished outcome) = .finished outcome)
    (goesOn : ∀ after, (run s front).state.Traced after m → after.id = c.id →
      after.wait = w → (after.future.isOpen = true → c.future.isOpen = true) →
        Reaches (run s front).state after m back (f after.wait)) :
    Reaches s c m (front ++ back) (f w) := by
  have state : (run s (front ++ back)).state = (run (run s front).state back).state := by
    rw [runAppend]
    rfl
  have tells {id : CallId} : (run s (front ++ back)).Tells id ↔
      (run s front).Tells id ∨
        (run (run s front).state back).Tells id := by
    rw [runAppend, Turn.tellsThen]
  cases reaches with
  | @stays after traced id purpose opened silent told =>
    have later := goesOn after traced id rfl opened
    have both : c.wait = .waiting false → f after.wait = .waiting false ∨
        (run s (front ++ back)).Tells c.id := by
      intro waits
      rw [tells]
      rcases told waits with still | here
      · exact (later.told still).imp_right fun told => .inr (id ▸ told)
      · exact .inr (.inl here)
    generalize f after.wait = reached at later both
    cases later with
    | stays last same purposes still none _ =>
      refine .stays (state ▸ last) (same.trans id) (purposes.trans purpose)
        (fun last => opened (still last)) ?_ both
      rw [runAppend, Turn.resultsOfThen, silent, ← id, none]
      rfl
    | returned becomes _ =>
      rw [id, purpose] at becomes
      exact .returned (becomesAfter silent becomes) fun waits => (both waits).resolve_left nofun
  | returned becomes told =>
    rw [keeps]
    exact .returned (becomesGone becomes unbegun) fun waits => tells.mpr (.inl (told waits))

end reaching

theorem State.Traced.reaches {c : Call} {m : Int} {action : Action} (traced : s.Traced c m)
    (consistent : s.Consistent) (timed : s.connection.Timed)
    (fresh : ∀ id, action.begun? = some id → ¬ s.Uses id)
    (yields : c.future.isOpen = true → s.Yields action (step s action)) :
    Reaches s c m [action] (s.onward m c.id action c.wait) := by
  have single : run s [action] = step s action := runThen s [] action
  cases traced.next consistent fresh timed yields with
  | @stays after guides =>
    obtain ⟨still, silent⟩ := traced.guided yields guides
    rw [← guides.wait]
    rw [← single] at still silent guides
    exact .stays still guides.id guides.purpose guides.opened silent fun waits => by
      rw [guides.wait]
      exact guides.tells waits
  | @returns outcome result resumed finished returns results =>
    obtain ⟨member, _⟩ := callMember traced.found
    have calm : s.releases action = false := by
      rw [resumed, releases, traced.found, Option.any_some,
        consistent.running c member traced.asks]
      rfl
    have returned : (c.id, result) ∈ (step s action).results := by simp [results]
    have gone := ((s.stepAlters action).returns returned).2
    rw [onwardCalm calm, finished]
    refine .returned ⟨fun other there same => gone ⟨other, single ▸ there, same⟩, [], [], result,
      by rw [resumed]; rfl, returns, ?_⟩ fun waits => ?_
    · rw [single, Turn.resultsOf, results]
      simp
    · rw [waits, resumed] at finished
      simp [Wait.next] at finished

theorem State.Traced.runs {c : Call} {m : Int} {actions : List Action} (traced : s.Traced c m)
    (consistent : s.Consistent) (timed : s.connection.Timed) (numbered : Numbered s actions)
    (free : c.future.isOpen = true → Calm s actions ∧ Apart s actions) :
    Reaches s c m actions (actions.foldl (Wait.next m c.id) c.wait) := by
  induction actions generalizing s c with
  | nil => exact .stays traced rfl rfl (fun opened => opened) rfl .inl
  | cons action rest ih =>
    obtain ⟨member, _⟩ := callMember traced.found
    have fresh : ∀ id, action.begun? = some id → ¬ s.Uses id := fun id => numbered.head
    have onward : s.onward m c.id action c.wait = c.wait.next m c.id action := by
      by_cases opened : c.future.isOpen = true
      · exact onwardCalm (free opened).1.1 _
      · exact onwardShut (consistent.running c member traced.asks) traced.found opened
    have unbegun : c.id ∉ begun rest := fun later =>
      numbered.unused c.id (by rw [begunCons]; exact List.mem_append_right _ later)
        (.inl ⟨c, member, rfl⟩)
    have timedNext : (step s action).state.connection.Timed := by
      rw [(stepAccords consistent fresh).connection]
      exact Connection.nextTimed timed action
    have first := traced.reaches consistent timed fresh fun opened => (free opened).2.1
    have single : run s [action] = step s action := runThen s [] action
    rw [onward] at first
    refine first.andRun unbegun (f := rest.foldl (Wait.next m c.id))
      (fun outcome => Wait.staysFinished m c.id outcome rest) fun after still own _ opened => ?_
    rw [single] at still ⊢
    rw [← own]
    exact ih still (stepConsistent consistent fresh).1 timedNext (numbered.tail consistent)
      fun last => ⟨(free (opened last)).1.2, (free (opened last)).2.2⟩

end runs
end TopicRouting.Bus
