import TopicRouting.Proofs.Labelled

/-! One call that subscribes or unsubscribes while no other call goes on, though others may wait.
It does what it is for if the bus lets it ask, the client takes the request and the broker
acknowledges it in time. Otherwise it returns an error, and nothing is left of it. -/
namespace TopicRouting.Bus

namespace State

variable {s t : State} {id : CallId} {message : Int}

def bare (s : State) : Ledger := { s.ledger with calls := [] }

def owner? (s : State) (message : Int) : Option CallId :=
  (s.pending.find? (·.1 == message)).map Prod.snd

def heard (s : State) (id : CallId) : Broker.Signal → Option (Except BusError Answer)
  | .acknowledged m reasons => if s.owner? m = some id then some (acknowledgement reasons) else none
  | .published m reason => if s.owner? m = some id then some (publication m reason) else none
  | _ => none

end State

structure Turn.Touches (t : Turn) (s : State) (id : CallId) (f : Call → Call) : Prop where
  bare : t.state.bare = s.bare
  call : t.state.call? id = (s.call? id).map f
  results : t.results = []

section touching

variable {t : Turn} {s : State} {id : CallId} {f : Call → Call}

theorem Turn.Keeps.touches (keeps : t.Keeps s.ledger) (id : CallId) :
    t.Touches s id fun c => c where
  bare := by rw [State.bare, keeps.ledger]; rfl
  call := by
    rw [Option.map_id', State.call?, show t.state.calls = s.calls from
      congrArg Ledger.calls keeps.ledger]
    rfl
  results := keeps.results

theorem Turn.Keeps.thenTouches {next : State → Turn} (keeps : t.Keeps s.ledger)
    (rest : (next t.state).Touches t.state id f) : (t.andThen next).Touches s id f where
  bare := rest.bare.trans (keeps.touches id).bare
  call := by
    have same := (keeps.touches id).call
    rw [Option.map_id'] at same
    exact rest.call.trans (congrArg _ same)
  results := by rw [Turn.resultsThen, keeps.results, rest.results]; rfl

end touching

namespace State

variable {s t : State} {id : CallId} {message : Int}

theorem callChanged (s : State) (other id : CallId) {f : Call → Call}
    (kept : ∀ c, (f c).id = c.id) :
    (s.changeCall other f).call? id = (s.call? id).map fun c => if other = id then f c else c := by
  have changed : (s.changeCall other f).call? id =
      if id = other then (s.call? id).map f else s.call? id :=
    Connection.callChanged (k := { s.connection with calls := s.calls }) kept
  rw [changed]
  by_cases same : other = id
  · simp [same]
  · simp [same, Ne.symm same]

theorem unchangedTouches {f : Call → Call} (same : ∀ c, s.call? id = some c → f c = c) :
    s.quiet.Touches s id f where
  bare := rfl
  call := by
    cases known : s.call? id with
    | none => exact known
    | some c =>
      rw [Option.map_some, same c known]
      exact known
  results := rfl

theorem settleTouches (s : State) (other id : CallId) (answer : Except BusError Answer) :
    (s.settle other answer).Touches s id fun c => if other = id then settled answer c else c := by
  rw [settle]
  cases found : s.call? other with
  | none =>
    refine unchangedTouches fun c known => if_neg ?_
    rintro rfl
    cases found.symm.trans known
  | some c =>
    dsimp only
    split
    · rename_i opened
      refine ⟨rfl, ?_, ?_⟩
      · refine (callChanged s other id (f := fun c => { c with future := .settled answer })
          fun _ => rfl).trans ?_
        by_cases same : other = id
        · simp [← same, found, settled, opened]
        · simp [same]
      · rw [Turn.results]
        dsimp only
        split <;> rfl
    · rename_i shut
      refine unchangedTouches fun known here => ?_
      split
      · rename_i same
        rw [same] at found
        cases found.symm.trans here
        exact if_neg shut
      · rfl

theorem settleMessageTouches (s : State) (id : CallId) (m : Int)
    (answer : Except BusError Answer) : (s.settleMessage m answer).Touches s id
      fun c => if s.owner? m = some id then settled answer c else c := by
  rw [settleMessage, owner?]
  cases s.pending.find? (·.1 == m) with
  | none => simpa using s.quietKeeps.touches id
  | some entry => simpa using settleTouches s entry.2 id answer

theorem settleAttemptTouches (apart : s.connecting ≠ some id) (answer : Except BusError Answer) :
    (s.settleAttempt answer).Touches s id fun c => c := by
  rw [settleAttempt]
  cases attempted : s.attempt? with
  | none => exact s.quietKeeps.touches id
  | some other =>
    have current : s.connecting = some other := (Option.filter_eq_some_iff.mp attempted).1
    have differs : other ≠ id := by
      rintro rfl
      exact apart current
    simpa [differs] using settleTouches s other id answer

def hears (s : State) (id : CallId) (signal : Broker.Signal) (c : Call) : Call :=
  match s.heard id signal with
  | some answer => settled answer c
  | none => c

theorem handleTouches (signal : Broker.Signal) (apart : s.connecting ≠ some id) :
    (s.handle signal).Touches s id (s.hears id signal) := by
  have attempts {t : Turn} (keeps : t.Keeps s.ledger) (answer : Except BusError Answer) :
      (t.andThen (·.settleAttempt answer)).Touches s id fun c => c := by
    refine keeps.thenTouches (settleAttemptTouches ?_ answer)
    rwa [show t.state.connecting = s.connecting from congrArg Ledger.connecting keeps.ledger]
  cases signal with
  | acknowledged m reasons =>
    have same : s.hears id (.acknowledged m reasons) =
        fun c => if s.owner? m = some id then settled (acknowledgement reasons) c else c := by
      funext c
      rw [hears, heard]
      split <;> simp_all
    exact same ▸ settleMessageTouches s id m _
  | published m reason =>
    have same : s.hears id (.published m reason) =
        fun c => if s.owner? m = some id then settled (publication m reason) c else c := by
      funext c
      rw [hears, heard]
      split <;> simp_all
    exact same ▸ settleMessageTouches s id m _
  | disconnected reason =>
    refine Turn.Keeps.touches ?_ id
    rw [handle, handleDisconnected]
    split
    · exact setStatusKeeps s _ _
    · exact (setStatusKeeps s _ _).thenKeeps (sayKeeps _ _ _ _)
  | connectFailed => exact attempts ((setStatusKeeps s _ _).thenKeeps (sayKeeps _ _ _ _)) _
  | connected reason =>
    rw [handle, handleConnected]
    split
    · exact attempts ((setStatusKeeps s _ _).thenKeeps (sayKeeps _ _ _ _)) _
    · have status := setStatusKeeps s .connected none
      refine status.thenTouches ?_
      split
      · refine (sayKeeps _ _ _ _).thenTouches (settleAttemptTouches ?_ _)
        exact apart
      · refine Turn.Keeps.touches ?_ id
        split
        · exact (sayKeeps _ _ _ _).thenKeeps (resubscribeKeeps _)
        · exact quietKeeps _

def times (other : CallId) (c : Call) : Call :=
  if other = c.id ∧ (c.future.isOpen && !c.expired && c.ending.isNone) = true then
    { c with expired := true }
  else c

theorem expireTouches (s : State) (other id : CallId) :
    (s.expire other).Touches s id (times other) := by
  rw [expire]
  cases found : s.call? other with
  | none =>
    refine unchangedTouches fun c known => if_neg ?_
    rintro ⟨rfl, _⟩
    rw [(callMember known).2, known] at found
    contradiction
  | some c =>
    obtain ⟨_, rfl⟩ := callMember found
    dsimp only
    split
    · rename_i runs
      refine ⟨rfl, ?_, rfl⟩
      refine (callChanged s c.id id (f := fun c => { c with expired := true })
        fun _ => rfl).trans ?_
      refine Option.map_congr fun other known => ?_
      obtain ⟨_, rfl⟩ := callMember known
      by_cases same : c.id = other.id
      · rw [same] at found
        cases found.symm.trans known
        simp [times, runs]
      · simp [times, same]
    · rename_i stands
      refine unchangedTouches fun other known => if_neg ?_
      rintro ⟨own, runs⟩
      obtain ⟨_, rfl⟩ := callMember known
      rw [own] at found
      cases found.symm.trans known
      exact stands runs

theorem timesAdvances {c : Call} (running : c.ending = none) (other : CallId) :
    c.Advances (times other c) (.expire other) := by
  obtain ⟨id, purpose, message, future, expired, ending⟩ := c
  cases running
  refine ⟨?_, ?_, ?_, ?_, fun m _ => ?_⟩
  all_goals
    rw [times]
    by_cases own : other = id
    · cases future <;> cases expired <;>
        simp [own, Future.isOpen, Call.wait, Future.wait, Wait.next]
    · cases future <;> simp [own, Call.wait, Future.wait, Wait.next]

theorem findPut (m message : Int) (id : CallId) (pending : List (Int × CallId)) :
    (putPending message id pending).find? (·.1 == m) =
      if m = message then some (message, id) else pending.find? (·.1 == m) := by
  induction pending with
  | nil =>
    by_cases same : m = message
    · simp [putPending, same]
    · simp [putPending, same, Ne.symm same]
  | cons entry rest ih =>
    obtain ⟨first, call⟩ := entry
    rw [putPending]
    split
    · rename_i here
      subst here
      by_cases same : m = first
      · simp [same]
      · simp [same, Ne.symm same]
    · rename_i other
      rw [List.find?_cons, ih, List.find?_cons]
      by_cases same : m = message
      · simp [same, beq_false_of_ne other]
      · simp [same]

end State

/- What may come while a call waits and no other goes on. A client does not tell of a message that
it has published it if it was asked for something else. -/
def Action.spares (id : CallId) (message : Int) : Action → Bool
  | .begin .. | .route _ => false
  | .resume call => call == id
  | .handle (.published m _) => m != message
  | _ => true

def Action.isMessage : Action → Bool
  | .deliver .. => true
  | _ => false

/- A run with nothing but that, in which the listeners of messages leave the router as it is. -/
def Uninterrupted (id : CallId) (message : Int) : State → List Action → Prop
  | _, [] => True
  | s, action :: rest =>
      let t := step s action
      action.spares id message = true ∧ (action.isMessage = true → t.state.router = s.router) ∧
        Uninterrupted id message t.state rest

instance decideUninterrupted (id : CallId) (message : Int) :
    (s : State) → (actions : List Action) → Decidable (Uninterrupted id message s actions)
  | _, [] => isTrue trivial
  | s, action :: rest => by
      have := decideUninterrupted id message (step s action).state rest
      unfold Uninterrupted
      infer_instance

namespace State

variable {s u v : State} {id : CallId} {message : Int} {action : Action} {c : Call}

theorem sparesContent (spares : action.spares id message = true)
    (kept : action.isMessage = true → (step v action).state.router = v.router)
    (rests : action ≠ .resume id) : (step v action).state.content = v.content := by
  cases action with
  | begin id command answer => contradiction
  | route command => contradiction
  | resume call => exact absurd (by rw [show call = id by simpa [Action.spares] using spares]) rests
  | expire call => exact contentHeld (expireHoldings v call)
  | handle signal => exact contentHeld (handleHoldings v signal)
  | deliver m behaviour => exact Prod.ext (receivedTable v behaviour m) (kept rfl)

structure Stands (u v : State) (c : Call) (message : Int) : Prop where
  found : v.call? c.id = some c
  bare : v.bare = { u.bare with pending := putPending message c.id u.pending }
  content : v.content = u.content
  awaited : c.message = some message
  running : c.ending = none
  granted : ∀ answer, c.wait = .answered (.ok answer) → ∃ reasons, answer = .acknowledged reasons

theorem ownerPut (pending : v.pending = putPending message id u.pending) (fresh : ¬ u.Uses id)
    (m : Int) : v.owner? m = some id ↔ m = message := by
  rw [owner?, pending, findPut]
  by_cases same : m = message
  · simp [same]
  · rw [if_neg same]
    refine iff_of_false (fun owned => ?_) same
    obtain ⟨entry, found, own⟩ := Option.map_eq_some_iff.mp owned
    exact fresh (.inr (.inr ⟨entry, List.mem_of_find?_eq_some found, own⟩))

theorem Stands.owns (stands : u.Stands v c message) (fresh : ¬ u.Uses c.id) (m : Int) :
    v.owner? m = some c.id ↔ m = message :=
  ownerPut (congrArg Ledger.pending stands.bare) fresh m

theorem heardOwned (owner : ∀ m, s.owner? m = some id ↔ m = message) (signal : Broker.Signal) :
    s.heard id signal = answerTo message signal := by
  cases signal with
  | acknowledged m reasons => simp only [heard, answerTo, owner]
  | published m reason => simp only [heard, answerTo, owner]
  | _ => rfl

theorem hearsAdvances {signal : Broker.Signal} (awaited : c.message = some message)
    (heard : s.heard c.id signal = answerTo message signal) :
    c.Advances (s.hears c.id signal c) (.handle signal) := by
  rw [hears, heard]
  cases told : answerTo message signal with
  | none =>
    refine Call.unmoved fun m also => Wait.nextUnheard ?_ _ _
    rwa [Option.some.inj (also.symm.trans awaited)]
  | some answer => exact Call.hears awaited told

theorem Stands.apart (stands : u.Stands v c message) (fresh : ¬ u.Uses c.id) :
    v.connecting ≠ some c.id := by
  rw [show v.connecting = u.connecting from congrArg Ledger.connecting stands.bare]
  exact fun current => fresh (.inr (.inl current))

theorem Stands.advances (stands : u.Stands v c message) (fresh : ¬ u.Uses c.id)
    (spares : action.spares c.id message = true)
    (rests : action ≠ .resume c.id) :
    ∃ after, c.Advances after action ∧ (step v action).Touches v c.id fun _ => after := by
  have only {t : Turn} {f : Call → Call} (touches : t.Touches v c.id f) :
      t.Touches v c.id fun _ => f c :=
    ⟨touches.bare, by rw [touches.call, stands.found]; rfl, touches.results⟩
  cases action with
  | begin id command answer => contradiction
  | route command => contradiction
  | resume call =>
    exact absurd (by rw [show call = c.id by simpa [Action.spares] using spares]) rests
  | expire call => exact ⟨_, timesAdvances stands.running call, only (expireTouches v call c.id)⟩
  | handle signal =>
    exact ⟨_, hearsAdvances stands.awaited (heardOwned (stands.owns fresh) signal),
      only (handleTouches signal (stands.apart fresh))⟩
  | deliver m behaviour =>
    exact ⟨c, Call.unmoved fun n _ => c.wait.nextDelivered n c.id m behaviour,
      only ((receivedKeeps v behaviour m).touches c.id)⟩

theorem grantedNext {w : Wait} (spares : action.spares id message = true)
    (rests : action ≠ .resume id)
    (granted : ∀ answer, w = .answered (.ok answer) → ∃ reasons, answer = .acknowledged reasons)
    {answer : Answer} (heard : w.next message id action = .answered (.ok answer)) :
    ∃ reasons, answer = .acknowledged reasons := by
  cases w with
  | waiting expired =>
    cases action with
    | handle signal =>
      cases signal with
      | acknowledged m reasons =>
        rw [Wait.next, answerTo] at heard
        split at heard
        · rename_i reply known
          split at known
          · cases heard
            rw [Option.some.injEq, acknowledgement] at known
            split at known <;> cases known
            exact ⟨_, rfl⟩
          · contradiction
        · contradiction
      | published m reason =>
        have other : m ≠ message := by simpa [Action.spares] using spares
        simp [Wait.next, answerTo, other] at heard
      | _ => contradiction
    | resume call =>
      rw [Wait.next] at heard
      split at heard <;> contradiction
    | _ => contradiction
  | answered reply =>
    refine granted answer (Eq.trans ?_ heard)
    cases action with
    | resume call =>
      have own : call = id := by simpa [Action.spares] using spares
      exact absurd (by rw [own]) rests
    | _ => rfl
  | gaveUp =>
    cases action with
    | resume call =>
      rw [Wait.next] at heard
      split at heard <;> contradiction
    | _ => contradiction
  | finished outcome => contradiction

theorem Stands.waits (stands : u.Stands v c message) (fresh : ¬ u.Uses c.id)
    (spares : action.spares c.id message = true)
    (kept : action.isMessage = true → (step v action).state.router = v.router)
    (rests : action ≠ .resume c.id) : ∃ after,
      u.Stands (step v action).state after message ∧ after.id = c.id ∧
        after.purpose = c.purpose ∧ after.wait = c.wait.next message c.id action ∧
          (step v action).results = [] := by
  obtain ⟨after, advances, touches⟩ := stands.advances fresh spares rests
  have wait := advances.wait message stands.awaited
  refine ⟨after, ⟨?_, ?_, ?_, ?_, ?_, ?_⟩, advances.id, advances.purpose, wait, touches.results⟩
  · rw [advances.id, touches.call, stands.found]
    rfl
  · rw [advances.id]
    exact touches.bare.trans stands.bare
  · exact (sparesContent spares kept rests).trans stands.content
  · exact advances.message.trans stands.awaited
  · exact advances.ending.trans stands.running
  · intro answer heard
    exact grantedNext spares rests stands.granted (wait.symm.trans heard)

structure Gone (u v : State) (id : CallId) (message : Int) : Prop where
  absent : v.call? id = none
  apart : v.connecting ≠ some id
  pending : message ∉ u.pending.map Prod.fst → v.pending = u.pending

theorem Gone.next (gone : u.Gone v id message) (spares : action.spares id message = true)
    (kept : action.isMessage = true → (step v action).state.router = v.router) :
    let t := step v action
    u.Gone t.state id message ∧ t.state.content = v.content ∧ t.results = [] := by
  intro t
  by_cases own : action = .resume id
  · have quiet : t = v.quiet := by
      simp only [t, own, step, resume, gone.absent]
    rw [quiet]
    exact ⟨gone, rfl, rfl⟩
  · obtain ⟨f, touches⟩ : ∃ f, t.Touches v id f := by
      cases action with
      | begin id command answer => contradiction
      | route command => contradiction
      | resume call =>
        exact absurd (by rw [show call = id by simpa [Action.spares] using spares]) own
      | expire call => exact ⟨_, expireTouches v call id⟩
      | handle signal => exact ⟨_, handleTouches signal gone.apart⟩
      | deliver m behaviour => exact ⟨_, (receivedKeeps v behaviour m).touches id⟩
    refine ⟨⟨?_, ?_, fun unused => ?_⟩, sparesContent spares kept own, touches.results⟩
    · rw [touches.call, gone.absent]
      rfl
    · rw [show t.state.connecting = v.connecting from congrArg Ledger.connecting touches.bare]
      exact gone.apart
    · exact (congrArg Ledger.pending touches.bare).trans (gone.pending unused)

theorem Gone.run {during : List Action} (gone : u.Gone v id message)
    (alone : Uninterrupted id message v during) :
    let t := Bus.run v during
    u.Gone t.state id message ∧ t.state.content = v.content ∧ t.resultsOf id = [] := by
  induction during generalizing v with
  | nil => exact ⟨gone, rfl, rfl⟩
  | cons action rest ih =>
    obtain ⟨spares, kept, others⟩ := alone
    obtain ⟨still, same, silent⟩ := gone.next spares kept
    obtain ⟨last, alike, none⟩ := ih still others
    rw [runCons]
    refine ⟨last, alike.trans same, ?_⟩
    rw [Turn.resultsOfThen, Turn.resultsOfNone silent, none]
    rfl

theorem Stands.leaves (stands : u.Stands v c message) (fresh : ¬ u.Uses c.id) {t : Turn}
    {result : Except Error Reply} (ends : t.Ends (v.forget c).ledger c.id result) :
    u.Gone t.state c.id message where
  absent := by
    rw [call?, show t.state.calls = (v.forget c).calls.filter (·.id != c.id) from
      congrArg Ledger.calls ends.ledger]
    simp [List.find?_filter]
  apart := by
    rcases ends.attempt with none | same
    · rw [none]
      exact fun some => Option.some_ne_none _ some.symm
    · rw [same, forgetLedger]
      exact stands.apart fresh
  pending := by
    intro unused
    have left : t.state.pending = v.pending.filter (·.1 != message) := by
      refine (congrArg Ledger.pending ends.ledger).trans ?_
      rw [forgetLedger, stands.awaited]
    have others : u.pending.filter (·.1 != message) = u.pending := by
      refine List.filter_eq_self.mpr fun entry member => ?_
      have other : entry.1 ≠ message := fun same => unused (same ▸ List.mem_map_of_mem member)
      simpa using other
    rw [left, show v.pending = _ from congrArg Ledger.pending stands.bare]
    simp [putPendingFresh unused, others]

def cleared (s : State) : Purpose → Router
  | .unsubscribe label _ true =>
      if label = .null then s.router.clearAll else s.router.change label fun _ => []
  | _ => s.router

def fulfilled (s : State) (purpose : Purpose) : (List (Text × Value) × Nat) × Router :=
  ((s.written purpose).table, s.cleared purpose)

theorem fulfilledAlike (same : v.content = u.content) (purpose : Purpose) :
    v.fulfilled purpose = u.fulfilled purpose := by
  have router := contentRouter same
  refine Prod.ext (writtenAlike (congrArg Prod.fst same) purpose) ?_
  show v.cleared purpose = u.cleared purpose
  rw [cleared.eq_def, cleared.eq_def, router]

theorem clearedFor {label : Label} {p : Pattern} (known : v.router.get label = .ok (some p))
    (topic : Text) : v.router.clearFor (if label = .null then none else some label) =
      .ok (v.cleared (.unsubscribe label topic true)) := by
  by_cases null : label = .null
  · simp only [cleared, null, if_true]
    rfl
  · simp only [cleared, null, if_false]
    exact if_pos (Router.knownGet.mp known).1

theorem completeContent {answer : Answer} (fulfils : v.Fulfils answer c.purpose) :
    (v.complete c answer).state.content = v.fulfilled c.purpose := by
  refine Prod.ext (completeTable v c answer) ?_
  show (v.complete c answer).state.router = v.cleared c.purpose
  have router : (v.forget c).router = v.router := contentRouter (contentHeld (forgetHoldings v c))
  rw [complete.eq_def]
  cases purpose : c.purpose with
  | connect => cases answer <;> exact router
  | unsubscribe label topic clears =>
    rw [purpose] at fulfils
    obtain ⟨member, p, known⟩ := fulfils
    have present : (v.forget c).topics.contains topic = true := by
      rw [topicsAlike (tableHeld (forgetHoldings v c))]
      simpa using member
    simp only [present, Bool.not_true, Bool.false_eq_true, if_false]
    cases clears with
    | false => exact router
    | true =>
      have cleared := clearedFor known topic
      rw [← router] at cleared
      simp only [if_true]
      split
      · rename_i refused
        cases refused.symm.trans cleared
      · rename_i after clearing
        exact Except.ok.inj (clearing.symm.trans cleared)
  | _ => exact router

inductive Comes (u : State) (id : CallId) (message : Int) (purpose : Purpose) : Wait → Turn → Prop
  | waits {t : Turn} {c : Call} (stands : u.Stands t.state c message) (own : c.id = id)
      (same : c.purpose = purpose) (silent : t.resultsOf id = []) :
      Comes u id message purpose c.wait t
  | failed {t : Turn} {outcome : Option (Except BusError Answer)} {e : BusError}
      (told : ∀ answer, outcome ≠ some (.ok answer)) (gone : u.Gone t.state id message)
      (content : t.state.content = u.content) (returned : t.resultsOf id = [.error (.bus e)]) :
      Comes u id message purpose (.finished outcome) t
  | done {t : Turn} {answer : Answer} {reply : Reply} (gone : u.Gone t.state id message)
      (content : t.state.content = u.fulfilled purpose) (returned : t.resultsOf id = [.ok reply]) :
      Comes u id message purpose (.finished (some (.ok answer))) t

theorem Comes.andRun {purpose : Purpose} {wait : Wait} {t : Turn} {during : List Action}
    (comes : u.Comes id message purpose wait t)
    (alone : Uninterrupted id message t.state during)
    (goesOn : ∀ c, u.Stands t.state c message → c.id = id → c.purpose = purpose →
      u.Comes id message purpose (during.foldl (Wait.next message id) c.wait)
        (Bus.run t.state during)) :
    u.Comes id message purpose (during.foldl (Wait.next message id) wait)
      (t.andThen fun s => Bus.run s during) := by
  have results (returned : List (Except Error Reply)) (before : t.resultsOf id = returned) :
      (t.andThen fun s => Bus.run s during).resultsOf id =
        returned ++ (Bus.run t.state during).resultsOf id := by
    rw [Turn.resultsOfThen, before]
  cases comes with
  | @waits _ c stands own same silent =>
    have later := goesOn c stands own same
    have silently := results [] silent
    generalize during.foldl (Wait.next message id) c.wait = wait at later ⊢
    cases later with
    | waits stands own same none => exact .waits stands own same (silently.trans none)
    | failed told gone content returned =>
      exact .failed told gone content (silently.trans returned)
    | done gone content returned => exact .done gone content (silently.trans returned)
  | failed told gone content returned =>
    obtain ⟨last, same, silent⟩ := gone.run alone
    rw [Wait.staysFinished]
    exact .failed told last (same.trans content) ((results _ returned).trans (by rw [silent]; rfl))
  | done gone content returned =>
    obtain ⟨last, same, silent⟩ := gone.run alone
    rw [Wait.staysFinished]
    exact .done last (same.trans content) ((results _ returned).trans (by rw [silent]; rfl))

section going

variable {command : Command}

theorem Stands.fails (stands : u.Stands v c message) (fresh : ¬ u.Uses c.id)
    (means : u.Means command c.purpose) {outcome : Option (Except BusError Answer)}
    (told : ∀ answer, outcome ≠ some (.ok answer)) (e : BusError) :
    u.Comes c.id message c.purpose (.finished outcome) (v.fail c e) := by
  have fails : v.fail c e = (v.forget c).finish c.id (.error (.bus e)) := by
    rw [fail.eq_def]
    generalize c.purpose = purpose at means
    cases means <;> rfl
  have ends := finishEnds (v.forget c) c.id (.error (.bus e))
  rw [← fails] at ends
  refine .failed (e := e) told (stands.leaves fresh ends)
    ((contentHeld (failHoldings v c e)).trans stands.content) ?_
  rw [ends.resultsOf, if_pos rfl]

theorem Stands.completes (stands : u.Stands v c message) (fresh : ¬ u.Uses c.id)
    (means : u.Means command c.purpose) (finds : u.Finds c.purpose) {answer : Answer}
    (granted : ∃ reasons, answer = .acknowledged reasons) :
    u.Comes c.id message c.purpose (.finished (some (.ok answer))) (v.complete c answer) := by
  have intends : u.Intends command c.purpose := .topic means finds
  have awaits : c.message.isSome = c.purpose.acknowledged := by
    rw [stands.awaited, intends.asks]
    rfl
  have fulfils : v.Fulfils answer c.purpose := by
    obtain ⟨reasons, rfl⟩ := granted
    exact intends.fulfils stands.content fun _ _ _ => ⟨_, rfl⟩
  obtain ⟨result, ends, _⟩ := completeEnds (s := v) awaits answer
  obtain ⟨reply, results⟩ := completeResults fulfils
  have returned : (v.complete c answer).resultsOf c.id = [.ok reply] := by
    rw [Turn.resultsOf, results]
    simp
  exact .done (stands.leaves fresh ends)
    ((completeContent fulfils).trans (fulfilledAlike stands.content _)) returned

theorem Stands.goesOn (stands : u.Stands v c message) (fresh : ¬ u.Uses c.id)
    (means : u.Means command c.purpose) (finds : u.Finds c.purpose) :
    u.Comes c.id message c.purpose (c.wait.next message c.id (.resume c.id))
      (step v (.resume c.id)) := by
  show u.Comes _ _ _ _ (v.resume c.id)
  rw [resume, stands.found]
  simp only [stands.running, Call.wait]
  cases future : c.future with
  | settled answer =>
    have answered : c.wait = .answered answer := by rw [Call.wait, future]; rfl
    simp only [Future.wait, Wait.next, if_true]
    cases answer with
    | ok answer => exact stands.completes fresh means finds (stands.granted answer answered)
    | error e => exact stands.fails fresh means (by simp) e
  | cancelled =>
    have intends : u.Intends command c.purpose := .topic means finds
    have givesUp := giveUpFails (s := v) intends.asks stands.awaited
    simp only [Future.wait, Wait.next, if_true, givesUp]
    exact stands.fails fresh means (by simp) _
  | «open» =>
    have waits : c.wait = .waiting c.expired := by rw [Call.wait, future]; rfl
    cases expired : c.expired with
    | false =>
      have stays : u.Comes c.id message c.purpose c.wait v.quiet := .waits stands rfl rfl rfl
      simpa [waits, expired, Future.wait, Wait.next] using stays
    | true =>
      let f : Call → Call := fun c => { c with future := .cancelled }
      have found : (v.changeCall c.id f).call? c.id = some (f c) := by
        rw [callChanged v c.id c.id (f := f) fun _ => rfl, stands.found]
        simp
      have stays : u.Comes c.id message c.purpose (f c).wait
          ⟨v.changeCall c.id f, [.woken c.id]⟩ :=
        .waits ⟨found, stands.bare, stands.content, stands.awaited, stands.running,
          fun _ answered => by cases answered⟩ rfl rfl rfl
      simpa [f, expired, Call.wait, Future.wait, Wait.next] using stays

theorem Stands.next (stands : u.Stands v c message) (fresh : ¬ u.Uses c.id)
    (means : u.Means command c.purpose) (finds : u.Finds c.purpose)
    (spares : action.spares c.id message = true)
    (kept : action.isMessage = true → (step v action).state.router = v.router) :
    u.Comes c.id message c.purpose (c.wait.next message c.id action) (step v action) := by
  by_cases rests : action = .resume c.id
  · rw [rests]
    exact stands.goesOn fresh means finds
  · obtain ⟨after, still, own, same, wait, silent⟩ := stands.waits fresh spares kept rests
    rw [← wait]
    exact .waits still own same (Turn.resultsOfNone silent _)

theorem Stands.run {during : List Action} (stands : u.Stands v c message) (fresh : ¬ u.Uses c.id)
    (means : u.Means command c.purpose) (finds : u.Finds c.purpose)
    (alone : Uninterrupted c.id message v during) :
    u.Comes c.id message c.purpose (during.foldl (Wait.next message c.id) c.wait)
      (Bus.run v during) := by
  induction during generalizing v c with
  | nil => exact .waits stands rfl rfl rfl
  | cons action rest ih =>
    obtain ⟨spares, kept, others⟩ := alone
    rw [runCons]
    refine (stands.next fresh means finds spares kept).andRun others fun after still own same => ?_
    rw [← own, ← same]
    exact ih still (own ▸ fresh) (same ▸ means) (same ▸ finds) (own ▸ others)

end going

end State
end TopicRouting.Bus
