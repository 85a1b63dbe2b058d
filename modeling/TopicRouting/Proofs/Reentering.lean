import TopicRouting.Proofs.Staging

/-! Listeners that use the router while it calls them. A dispatch calls the registrations that its
label had when it began, each once and in order, whatever they do. -/
namespace TopicRouting.Router
open Stage

variable {s : Stage}

structure Begins (s : Stage) (message : Message) (found : Found) : Prop where
  first : ∃ front back, s.router.entries = front ++ (found.label, found.pattern) :: back ∧
    (∀ entry ∈ front, entry.2.match? message.topic = none) ∧
    found.pattern.match? message.topic = some found.params
  router : (s.step (.dispatch message)).router = (s.router.take found.label).2
  serials : ((s.router.registrations found.label).map Registration.serial).Nodup
  received : match s.router.registrations found.label with
    | [] => (s.step (.dispatch message)).calls = s.calls ∧
        (s.step (.dispatch message)).ended =
          s.ended ++ [⟨s.begun, .routed (some found.label), given message found⟩]
    | g :: _ => (s.step (.dispatch message)).calls =
          s.calls ++ [⟨s.begun, g, given message found⟩] ∧
        (s.step (.dispatch message)).ended = s.ended
  called (acts : List Act) :
    let after := s.run (.dispatch message :: acts)
    after.calledBy s.begun <+: s.router.registrations found.label ∧
      (after.endsOf s.begun = [] ∨ Outcome (.breakOff ∈ acts) found.label
        (s.router.registrations found.label) (after.calledBy s.begun) (after.endsOf s.begun))
  added {acts : List Act} {label : Label} {g : Registration}
    (new : g ∈ (s.run (.dispatch message :: acts)).router.registrations label)
    (unknown : g ∉ s.router.registrations label) (later : List Act) :
    g ∉ (s.run (.dispatch message :: later)).calledBy s.begun

theorem dispatchBegins (sound : s.Sound) (unrepeated : s.Unrepeated) {message : Message}
    {found : Found} (matched : s.router.match? message.topic = some found) :
    Begins s message found := by
  obtain ⟨place, here⟩ := knownPlace sound.cells matched
  have entered := dispatchEnter matched here
  have serials := serialsOfLabel unrepeated found.label
  have called : ∀ acts, Progress (.breakOff ∈ acts) s.begun found.label
      (s.router.registrations found.label) (s.run (.dispatch message :: acts)) := by
    intro acts
    have calm : .breakOff ∈ .proceed :: acts → .breakOff ∈ acts := by simp
    have progress := progressRun (sound.enter matched here) (progressEnter sound here) calm
    rw [Stage.run, List.foldl_cons, entered]
    exact progress
  refine ⟨firstMatch matched, ?_, serials.1, ?_, fun acts => progressOutcome (called acts), ?_⟩
  · rw [entered, proceedRouter]
    exact enterRouter sound.cells message found place
  · have rests := Cells.renewRests sound.cells here (·.filter (!·.once))
    have list : (s.enter message found place).cells.list place =
        s.router.registrations found.label :=
      rests.list.trans (Cells.registrationsPlace here).symm
    rw [entered]
    cases registrations : s.router.registrations found.label with
    | nil =>
      rw [proceedLeave rfl (by rw [list, registrations]; rfl)]
      exact ⟨rfl, rfl⟩
    | cons g rest =>
      rw [proceedCall rfl (by rw [list, registrations]; rfl)]
      exact ⟨rfl, rfl⟩
  · intro acts label g new unknown later member
    have old := serials.2 g ((progressOutcome (called later)).1.subset member)
    rcases runAdded sound _ new with known | young
    · exact unknown known
    · omega

theorem endsMember {n : Nat} {how : Dispatched} {message : Message}
    (member : ⟨n, how, message⟩ ∈ s.ended) : how ∈ s.endsOf n :=
  List.mem_map.mpr ⟨_, List.mem_filter.mpr ⟨member, by simp⟩, rfl⟩

theorem finishedCalled {message : Message} {found : Found} (begins : Begins s message found)
    {before : List Registration} {walks : List Walk} {later : List Act} {scene : Scene}
    (finishes : Finishes before walks s.begun (s.run (.dispatch message :: later))
      (.routed (some found.label), scene)) :
    (s.run (.dispatch message :: later)).calledBy s.begun =
      s.router.registrations found.label := by
  have ended := endsMember finishes.ended
  rcases (begins.called later).2 with none | ⟨all, _⟩ | ⟨_, _, broken⟩
  · rw [none] at ended
    contradiction
  · exact all
  · rw [broken] at ended
    simp at ended

theorem dispatchNowhere {r : Router} {message : Message}
    (nowhere : r.match? message.topic = none) (env : Surroundings) (depth calls : Nat) :
    ∃ records : List Record, r.dispatch env (depth + 1) calls message =
      (.routed none, ⟨r, message, records.map .logged, calls⟩) := by
  rw [dispatch, nowhere]
  exact ⟨_, rfl⟩

theorem noMatch {r : Router} {topic : Text} (nowhere : r.match? topic = none) :
    ∀ entry ∈ r.entries, entry.2.match? topic = none := fun entry member =>
  Option.map_eq_none_iff.mp (List.findSome?_eq_none_iff.mp nowhere entry member)

/- The acts before and after the dispatch are what listeners do, and they may do anything. -/
theorem dispatchUnderReentry (acts : List Act) (message : Message) :
    let s := Stage.run {} acts
    (match s.router.match? message.topic with
      | none => (∀ entry ∈ s.router.entries, entry.2.match? message.topic = none) ∧
          s.step (.dispatch message) = s.refuse (.routed none) message ∧
          ∀ env depth calls, ∃ records : List Record,
            s.router.dispatch env (depth + 1) calls message =
              (.routed none, ⟨s.router, message, records.map .logged, calls⟩)
      | some found => Begins s message found ∧
          ∀ env depth calls, ∃ later,
            let after := s.run (.dispatch message :: later)
            let result := s.router.dispatch env (depth + 1) calls message
            Finishes (s.calls.map Call.registration) s.walks s.begun after result ∧
              ((∀ calls listener message, (env.behaviour calls listener message).Calm) →
                result.1 = .routed (some found.label) ∧
                  after.calledBy s.begun = s.router.registrations found.label)) ∧
      (((s.calls.map Call.registration).filter (·.once)).map Registration.serial).Nodup ∧
      (∀ label g, g ∈ s.router.registrations label → ∀ later,
        g ∈ (s.run later).router.registrations label ∨
          ∃ earlier act rest, later = earlier ++ act :: rest ∧
            Drops (s.run earlier).router label g act) ∧
      (∀ logger command,
        (s.step (.command command)).router = s.router.turn (.command logger command)) ∧
      ∀ turns, (((invokedBy {} turns).filter (·.once)).map Registration.serial).Nodup ∧
        ∃ acts, (Stage.run {} acts).router = after turns ∧ (Stage.run {} acts).walks = [] ∧
          (Stage.run {} acts).calls.map Call.registration = invokedBy {} turns := by
  intro s
  have sound : s.Sound := soundFresh.run acts
  have unrepeated : s.Unrepeated := unrepeatedRun acts
  refine ⟨?_, onceCalled unrepeated, fun label g member => runKept sound member,
    Cells.applyRouter sound.cells, fun turns => ?_⟩
  · cases matched : s.router.match? message.topic with
    | none => exact ⟨noMatch matched, dispatchRefuse matched, dispatchNowhere matched⟩
    | some found =>
      have begins := dispatchBegins sound unrepeated matched
      refine ⟨begins, fun env depth calls => ?_⟩
      obtain ⟨later, finishes⟩ :=
        dispatchServed env (dispatchStaged env depth) s calls message sound
      refine ⟨later, finishes, fun calm => ?_⟩
      have routed := dispatchCalm calm depth calls s.router message
      rw [matched] at routed
      generalize s.router.dispatch env (depth + 1) calls message = result at finishes routed
      obtain ⟨how, scene⟩ := result
      cases routed
      exact ⟨rfl, finishedCalled begins finishes⟩
  · obtain ⟨acts, router, walks, calls⟩ := historyStaged turns {} soundFresh
    have few := onceCalled (unrepeatedRun acts)
    rw [calls] at few
    exact ⟨few, acts, router, walks, calls⟩

example :
    let s := Stage.run {} [.command (.set (.text "a") (.text "a")), .command (.on (.text "a") "f"),
      .command (.once (.text "a") "g"), .dispatch { topic := "a" },
      .command (.offAll (some (.text "a"))), .command (.once (.text "a") "h"),
      .dispatch { topic := "a" }, .proceed, .command (.remove (.text "a")), .proceed, .proceed]
    (s.calls.map fun call => (call.walk, call.registration.listener)) =
        [(0, "f".toList), (1, "h".toList), (0, "g".toList)] ∧
      s.endsOf 0 = [.routed (some (.text "a"))] ∧ s.walks.isEmpty := by
  decide +kernel

end TopicRouting.Router
