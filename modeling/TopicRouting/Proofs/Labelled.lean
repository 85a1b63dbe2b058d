import Mathlib.Data.List.Induction
import TopicRouting.Proofs.Asking
import TopicRouting.Proofs.Publishing
import TopicRouting.Proofs.Registrations

/-! The labels of the topics that a bus is subscribed to. The bus knows topics and its router knows
labels, and nothing ties the two: a label can be taken away while its topic is subscribed to. In no
other way is a topic left without a label. -/
namespace TopicRouting

namespace Router

variable {r : Router} {label l : Label} {p : Pattern}

theorem knownGet : r.get label = .ok (some p) ↔ r.has label = true ∧ r.pattern? label = some p := by
  rw [get]
  cases r.has label <;> simp

theorem sameGet (same : label.same l = true) (known : r.get label = .ok (some p)) :
    r.get l = .ok (some p) := by
  obtain ⟨has, pattern⟩ := knownGet.mp known
  have alike : ∀ entry : Label × Pattern, entry.1.same l = entry.1.same label := by
    intro entry
    rw [Bool.eq_iff_iff]
    exact ⟨fun here => Label.sameOfCommon here same,
      fun here => Label.sameOfCommon here (Label.sameSymm same)⟩
  refine knownGet.mpr ⟨hasSame same ▸ has, ?_⟩
  rw [pattern?, funext alike]
  exact pattern

theorem setGet (known : r.get label = .ok (some p)) (l : Label) (q : Pattern) :
    (r.orStay (r.set l q)).get label = .ok (some p) := by
  rw [set]
  cases r.has l with
  | true => exact known
  | false =>
    obtain ⟨has, pattern⟩ := knownGet.mp known
    refine knownGet.mpr ⟨?_, ?_⟩
    · rw [Router.has] at has
      simp [orStay, Router.has, has]
    · obtain ⟨entry, found, same⟩ := Option.map_eq_some_iff.mp pattern
      simp [orStay, pattern?, found, same]

theorem removeGet (known : r.get label = .ok (some p)) (apart : label.same l = false) :
    (r.orStay (r.remove l)).get label = .ok (some p) := by
  have stays {α : Type} (entry : Label × α) :
      decide ((!entry.1.same l) = true ∧ entry.1.same label = true) = entry.1.same label := by
    cases same : entry.1.same label with
    | false => simp
    | true => simp [sameOfSame (c := l) same, apart]
  rw [remove]
  cases r.has l with
  | false => exact known
  | true =>
    obtain ⟨has, pattern⟩ := knownGet.mp known
    refine knownGet.mpr ⟨?_, ?_⟩
    · rw [Router.has, ← List.isSome_find?] at has ⊢
      rwa [if_pos rfl, orStay, List.find?_filter, funext stays]
    · rwa [if_pos rfl, orStay, pattern?, List.find?_filter, funext stays]

theorem changeGet (missing : LabelError) (known : r.get label = .ok (some p))
    (f : List Registration → List Registration) :
    (r.orStay (if r.has l then .ok (r.change l f) else .error missing)).get label =
      .ok (some p) := by
  cases r.has l with
  | false => exact known
  | true =>
    exact (Bus.State.relistedGet r (fun other regs => if other.same l then f regs else regs)
      label).trans known

theorem listenGet (known : r.get label = .ok (some p)) (listener : ListenerId) (once : Bool) :
    (r.orStay (r.listen l listener once)).get label = .ok (some p) := by
  have changed := changeGet (l := l) (.invalid l) known (· ++ [⟨listener, once, r.registered⟩])
  rw [listen]
  refine Eq.trans ?_ changed
  cases r.has l <;> rfl

theorem turnGet (logger : Logger) (command : Command) (known : r.get label = .ok (some p)) :
    (r.turn (.command logger command)).get label = .ok (some p) ∨
      ∃ l, command = .remove l ∧ r.get l = .ok (some p) := by
  have given (l : Label) (v : Value) : (r.addGiven l v).get label = .ok (some p) := by
    rw [addGiven]
    cases Pattern.ofValue v with
    | error e => exact known
    | ok q => exact setGet known l q
  cases command with
  | set l v => exact .inl ((setTurns logger r l v).1 ▸ given l v)
  | setCompiled l v => exact .inl ((setTurns logger r l v).2 ▸ given l v)
  | remove l =>
    cases same : label.same l with
    | true => exact .inr ⟨l, rfl, sameGet same known⟩
    | false =>
      rw [turnStays (r.remove l) rfl]
      exact .inl (removeGet known same)
  | on l listener =>
    rw [turnStays (r.listen l listener false) rfl]
    exact .inl (listenGet known listener false)
  | once l listener =>
    rw [turnStays (r.listen l listener true) rfl]
    exact .inl (listenGet known listener true)
  | off l listener =>
    rw [turnStays (r.unlisten l listener) rfl]
    exact .inl (changeGet _ known _)
  | offAll l =>
    rw [turnStays (r.clearFor l) rfl]
    cases l with
    | none => exact .inl ((Bus.State.relistedGet r (fun _ _ => []) label).trans known)
    | some l => exact .inl (changeGet _ known _)
  | get l =>
    rw [turn, run]
    cases r.get l <;> exact .inl known
  | count l =>
    rw [turn, run]
    cases r.listenerCount l <;> exact .inl known
  | labels | contains _ | «match» _ => exact .inl known

end Router

namespace Bus

def State.Labels (s : State) (topic : Text) : Prop :=
  ∃ label p, s.router.get label = .ok (some p) ∧ p.topic = topic

def State.Seeks (s : State) (topic : Text) : Prop :=
  topic ∈ s.topics ∨ ∃ c ∈ s.calls, ∃ label qos, c.purpose = .subscribe label topic qos

/- An action that may take a label with the topic away: a command does, or a listener may. -/
def State.Unlabels (s : State) (topic : Text) : Action → Prop
  | .route (.remove label) => ∃ p, s.router.get label = .ok (some p) ∧ p.topic = topic
  | .deliver .. => s.Labels topic
  | _ => False

/- A topic has lost its last label while a call or the table had it, and has had none since. -/
def Orphaned (s : State) (actions : List Action) (topic : Text) : Prop :=
  ∃ front action back, actions = front ++ action :: back ∧
    (run s front).state.Seeks topic ∧
    (run s front).state.Unlabels topic action ∧
    ∀ middle rest, back = middle ++ rest →
      ¬ (run s (front ++ action :: middle)).state.Labels topic

namespace State

variable {s : State} {topic : Text}

theorem resumeGet (s : State) (id : CallId) (label : Label) :
    (s.resume id).state.router.get label = s.router.get label := by
  have same {t : State} (content : t.content = s.content) :
      t.router.get label = s.router.get label := by rw [contentRouter content]
  rw [resume]
  cases s.call? id with
  | none => rfl
  | some c =>
    dsimp only
    split
    · rename_i ending _
      have released := same (contentHeld (releaseHoldings s))
      cases ending with
      | closed => exact released
      | timedOut => exact released
      | failed e => exact released
    · exact completeGet s c _ label
    · exact same (contentHeld (failHoldings s c _))
    · exact same (contentHeld (giveUpHoldings s c))
    · split <;> rfl

theorem routeRouter (s : State) (command : Router.Command) :
    (step s (.route command)).state.router = s.router.turn (.command s.routerLogger command) := by
  rw [step, route, Router.turn]
  cases s.router.run s.routerLogger command <;> rfl

theorem stepLabels (labels : s.Labels topic) (action : Action) :
    (step s action).state.Labels topic ∨ s.Unlabels topic action := by
  obtain ⟨label, p, known, rfl⟩ := labels
  have same {t : State} (content : t.content = s.content) : t.Labels p.topic :=
    ⟨label, p, by rw [contentRouter content, known], rfl⟩
  cases action with
  | begin id command answer => exact .inl (same (contentHeld (beginHoldings s id command answer)))
  | handle signal => exact .inl (same (contentHeld (handleHoldings s signal)))
  | deliver m behaviour => exact .inr ⟨label, p, known, rfl⟩
  | expire id =>
    refine .inl (same ?_)
    rw [step, expire]
    split
    · rfl
    · split <;> rfl
  | resume id => exact .inl ⟨label, p, (resumeGet s id label).trans known, rfl⟩
  | route command =>
    rcases Router.turnGet s.routerLogger command known with stays | ⟨l, rfl, own⟩
    · exact .inl ⟨label, p, by rw [routeRouter, stays], rfl⟩
    · exact .inr ⟨p, own, rfl⟩

theorem stepSeeks (consistent : s.Consistent) {action : Action}
    (fresh : ∀ id, action.begun? = some id → ¬ s.Uses id)
    (seeks : (step s action).state.Seeks topic) :
    s.Seeks topic ∨ (step s action).state.Labels topic := by
  rcases seeks with member | ⟨c, member, label, qos, purpose⟩
  · rcases stepNew member with before | ⟨w, rfl, subscribes⟩
    · exact .inl (.inl before)
    · exact .inl (.inr ⟨w, (callMember subscribes.found).1, subscribes.purpose⟩)
  · have old (descends : s.Descends (step s action).state) : s.Seeks topic := by
      obtain ⟨before, inside, _, same, _⟩ := descends.calls c member
      exact .inr ⟨before, inside, label, qos, same ▸ purpose⟩
    cases begun : action.begun? with
    | none => exact .inl (old (stepDescends consistent begun))
    | some id =>
      cases action with
      | begin new command answer =>
        cases Option.some.inj begun
        have apart : ∀ c ∈ s.calls, c.id ≠ id :=
          fun c inside same => fresh id rfl (.inl ⟨c, inside, same⟩)
        by_cases asks : command.acknowledged = true
        · cases beginBegun asks id answer with
          | refused calls _ _ _ =>
            have before := (List.mem_filter.mp (calls ▸ member)).1
            exact .inl (.inr ⟨c, before, label, qos, purpose⟩)
          | @waits p _ intends calls _ _ _ =>
            rcases List.mem_append.mp (calls ▸ member) with before | new
            · exact .inl (.inr ⟨c, before, label, qos, purpose⟩)
            · cases List.mem_singleton.mp new
              rw [show p = .subscribe label topic qos from purpose] at intends
              cases intends with
              | topic means _ =>
                cases means with
                | subscribe known =>
                  exact .inr ((stepLabels ⟨_, _, known, rfl⟩ _).resolve_right fun taken => taken)
        · rcases beginBegins apart command answer with descends | ⟨added, _, asked, adds⟩
          · exact .inl (old descends)
          · rcases List.mem_append.mp (adds.calls ▸ member) with before | new
            · exact .inl (.inr ⟨c, before, label, qos, purpose⟩)
            · rw [← List.mem_singleton.mp new, purpose] at asked
              exact absurd asked.symm asks
      | _ => contradiction

end State

section orphans

variable {s : State} {topic : Text}

theorem Orphaned.next {front : List Action} {action : Action}
    (orphaned : Orphaned s front topic) (still : ¬ (run s (front ++ [action])).state.Labels topic) :
    Orphaned s (front ++ [action]) topic := by
  obtain ⟨early, taker, since, rfl, sought, taken, never⟩ := orphaned
  refine ⟨early, taker, since ++ [action], by simp, sought, taken, fun middle rest split => ?_⟩
  rcases List.eq_nil_or_concat rest with rfl | ⟨rest, last, rfl⟩
  · rw [List.append_nil] at split
    rw [← split]
    simpa using still
  · rw [List.concat_eq_append, ← List.append_assoc] at split
    exact never middle rest (List.append_inj_left' split rfl)

theorem runSeeks (new : s.New) (empty : s.topics = []) {actions : List Action}
    (distinct : (begun actions).Nodup) (seeks : (run s actions).state.Seeks topic) :
    (run s actions).state.Labels topic ∨ Orphaned s actions topic := by
  induction actions using List.reverseRecOn with
  | nil =>
    rcases seeks with member | ⟨c, member, _⟩
    · rw [show (run s []).state.topics = [] from empty] at member
      contradiction
    · rw [show (run s []).state.calls = [] from new.calls] at member
      contradiction
  | append_singleton front action ih =>
    obtain ⟨consistent, numbered⟩ := runConsistent new.consistent (new.numbered distinct)
    rw [begunAppend, List.nodup_append] at distinct
    have fresh : ∀ id, action.begun? = some id → ¬ (run s front).state.Uses id :=
      fun id begins => numbered.head begins
    by_cases labels : (run s (front ++ [action])).state.Labels topic
    · exact .inl labels
    · have now := seeks
      rw [runThen] at now
      have lost (before : (run s front).state.Seeks topic)
          (labelled : (run s front).state.Labels topic) :
          Orphaned s (front ++ [action]) topic := by
        have taken := (State.stepLabels labelled action).resolve_left (by rwa [runThen] at labels)
        refine ⟨front, action, [], rfl, before, taken, fun middle rest split => ?_⟩
        rwa [(List.append_eq_nil_iff.mp split.symm).1]
      rcases State.stepSeeks consistent fresh now with before | labelled
      · rcases ih distinct.1 before with labelled | orphaned
        · exact .inr (lost before labelled)
        · exact .inr (orphaned.next labels)
      · rw [runThen] at labels
        exact absurd labelled labels

theorem State.unsubscribeRequests {n : Nat} {label : Label} {p : Pattern}
    (available : s.client = some n) (registered : s.router.get label = .ok (some p))
    (present : p.topic ∈ s.topics) (id : CallId) (clears : Bool) (answer : Broker.Answer) :
    (s.unsubscribe id label clears answer).requests = [(n, .unsubscribe p.topic)] := by
  have found : s.topics.contains p.topic = true := by simpa using present
  rw [unsubscribe, requireAvailable available registered]
  simp only [found, showing, Turn.andThen, request, available, Option.map_some,
    Option.toList_some, List.singleton_append, Bool.not_true, Bool.false_eq_true, if_false]
  split
  · rfl
  · exact congrArg ((n, _) :: ·) (waitForOutputs s id _ answer.message).1

theorem State.unlabelled (empty : s.router.listeners.isEmpty = true) : ¬ s.Labels topic := by
  rintro ⟨label, p, known, _⟩
  rw [Router.get, Router.has, List.isEmpty_iff.mp empty] at known
  contradiction

/- Every topic has a label, or its last one was taken away and it has had none since. Any label of
a topic, also one that is registered later, lets it be unsubscribed. -/
theorem subscribedLabelled (new : s.New) (empty : s.table = ([], 0))
    {actions : List Action} (distinct : (begun actions).Nodup) :
    let t := (run s actions).state
    (∀ topic ∈ t.topics, t.Labels topic ∨ Orphaned s actions topic) ∧
    ∀ label p n, t.client = some n → t.router.get label = .ok (some p) → p.topic ∈ t.topics →
      ∀ id clears answer, (t.begin id answer (.unsubscribe label clears)).requests =
        [(n, .unsubscribe p.topic)] := by
  intro t
  have none : s.topics = [] := congrArg (·.1.map Prod.fst) empty
  exact ⟨fun topic member => runSeeks new none distinct (.inl member),
    fun label p n available registered present id clears answer =>
      State.unsubscribeRequests available registered present id clears answer⟩

theorem subscribedLabelledAgain :
    let p : Pattern := ⟨"a", [.raw "a"], rfl⟩
    let s : State :=
      { options := ⟨.text "c", .int 60, .int 0, .bool true, .null⟩
        settings := ⟨"localhost", 1883, none, none, false⟩
        logger := ⟨.text "bus", .text "ERROR"⟩
        routerLogger := ⟨.text "router", .text "ERROR"⟩ }
    let actions : List Action :=
      [.route (.set (.text "a") (.text "a")), .begin 0 .connect {}, .handle (.connected (.code 0)),
        .resume 0, .begin 1 (.subscribe (.text "a") none) ⟨none, none, 0, 5⟩,
        .handle (.acknowledged 5 (some [.code 0])), .resume 1, .route (.remove (.text "a")),
        .route (.set (.text "b") (.text "a"))]
    let t := (run s actions).state
    (s.New ∧ s.table = ([], 0) ∧ (begun actions).Nodup) ∧ t.topics = ["a"] ∧
      (t.begin 2 {} (.unsubscribe (.text "b") true)).requests = [(0, .unsubscribe p.topic)] := by
  intro p s actions t
  have new : s.New := ⟨rfl, rfl, rfl, rfl, rfl, rfl⟩
  have distinct : (begun actions).Nodup := by decide
  have topics : t.topics = ["a"] := by decide +kernel
  have present : p.topic ∈ t.topics := by
    rw [topics]
    exact List.mem_singleton_self _
  have unsubscribes := (subscribedLabelled new rfl distinct).2 (.text "b") p 0
    (by decide +kernel) (by decide +kernel) present
  exact ⟨⟨new, rfl, distinct⟩, topics, unsubscribes 2 true {}⟩

theorem removedStaysSubscribed :
    let s : State :=
      { options := ⟨.text "c", .int 60, .int 0, .bool true, .null⟩
        settings := ⟨"localhost", 1883, none, none, false⟩
        logger := ⟨.text "bus", .text "ERROR"⟩
        routerLogger := ⟨.text "router", .text "ERROR"⟩ }
    let t := (run s
      [.route (.set (.text "a") (.text "a")), .begin 0 .connect {}, .handle (.connected (.code 0)),
        .resume 0, .begin 1 (.subscribe (.text "a") none) ⟨none, none, 0, 5⟩,
        .handle (.acknowledged 5 (some [.code 0])), .resume 1, .route (.remove (.text "a"))]).state
    t.calls.isEmpty = true ∧ t.topics = ["a"] ∧ ¬ ∃ topic ∈ t.topics, t.Labels topic := by
  intro s t
  have unlabelled {topic : Text} : ¬ t.Labels topic := State.unlabelled (by decide +kernel)
  exact ⟨by decide +kernel, by decide +kernel, fun ⟨_, _, labels⟩ => unlabelled labels⟩

end orphans
end Bus
end TopicRouting
