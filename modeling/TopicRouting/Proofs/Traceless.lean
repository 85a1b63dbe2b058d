import TopicRouting.Proofs.Lasting
import TopicRouting.Proofs.Requesting
import TopicRouting.Proofs.Resubscribing

/-! What comes of a call that subscribes or unsubscribes, from its beginning to its return, while no
other call goes on. It has done what it is for, or it has failed and left nothing behind. -/
namespace TopicRouting.Bus

def Command.subject? : Command → Option Label
  | .subscribe label _ | .unsubscribe label _ => some label
  | _ => none

def Command.TakenWith (answer : Broker.Answer) : Command → Prop
  | .subscribe .. => answer.subscribeError = none ∧ answer.code = Broker.ResultCode.success
  | _ => answer.code = Broker.ResultCode.success

/- A message is acknowledged in time: the first acknowledgement names no failure and comes before
the call gives up, and the call goes on after it. -/
def AcknowledgedInTime (patience : Patience) (id : CallId) (message : Int) (during : List Action) :
    Prop :=
  patience ≠ .none ∧ ∃ front reasons back,
    during = front ++ .handle (.acknowledged message reasons) :: back ∧
    (∀ earlier, .handle (.acknowledged message earlier) ∉ front) ∧
    ¬ [.expire id, .resume id].Sublist front ∧
    (∀ reason ∈ reasons.getD [], reason.isFailure = false) ∧ .resume id ∈ back

theorem acknowledgesOnly {reasons : Option (List Broker.Reason)} {answer : Answer}
    (granted : acknowledgement reasons = .ok answer) :
    ∀ reason ∈ reasons.getD [], reason.isFailure = false := by
  rw [acknowledgement] at granted
  split at granted
  · rename_i none
    intro reason member
    simpa using List.filter_eq_nil_iff.mp none reason member
  · contradiction

theorem grantedInTime {patience : Patience} {id : CallId} {message : Int} {during : List Action}
    (spares : ∀ action ∈ during, action.spares id message = true) :
    Wait.Granted message id patience during ↔ AcknowledgedInTime patience id message during := by
  refine and_congr_right fun _ => ?_
  constructor
  · rintro ⟨front, signal, answer, back, rfl, silent, inTime, heard, on⟩
    have spared := spares (.handle signal) (by simp)
    cases signal with
    | acknowledged m reasons =>
      rw [answerTo] at heard
      split at heard
      · rename_i own
        subst own
        refine ⟨front, reasons, back, rfl, fun earlier member => ?_, inTime,
          acknowledgesOnly (Option.some.inj heard), on⟩
        simpa [Wait.Silent, answerTo] using silent _ member
      · contradiction
    | published m reason =>
      have other : m ≠ message := by simpa [Action.spares] using spared
      simp [answerTo, other] at heard
    | _ => contradiction
  · rintro ⟨front, reasons, back, rfl, first, inTime, success, on⟩
    refine ⟨front, _, .acknowledged reasons, back, rfl, fun action member => ?_, inTime, ?_, on⟩
    · have spared := spares action (List.mem_append_left _ member)
      cases action with
      | handle signal =>
        cases signal with
        | acknowledged m earlier =>
          have other : m ≠ message := by
            rintro rfl
            exact first earlier member
          simp [Wait.Silent, answerTo, other]
        | published m reason =>
          have other : m ≠ message := by simpa [Action.spares] using spared
          simp [Wait.Silent, answerTo, other]
        | _ => rfl
      | _ => trivial
    · simp [answerTo, State.acknowledgesAll success]

namespace State

variable {u v : State} {id : CallId} {command : Command} {answer : Broker.Answer} {label : Label}

def Ready (u : State) (command : Command) : Prop :=
  u.isAvailable = true ∧ ∃ purpose, u.Means command purpose ∧ u.Finds purpose

/- What a call that subscribes or unsubscribes has done, and nothing else. -/
inductive Does (u v : State) : Command → Prop
  | subscribes {label : Label} {qos : Option Value} {p : Pattern}
      (known : u.router.get label = .ok (some p))
      (topics : v.subscriptions = u.subscriptions ++ [(p.topic, u.quality qos)])
      (router : v.router = u.router) : u.Does v (.subscribe label qos)
  | unsubscribes {label : Label} {clears : Bool} {p : Pattern}
      (known : u.router.get label = .ok (some p))
      (topics : v.subscriptions = u.subscriptions.filter (·.1 != p.topic))
      (entries : v.router.entries = u.router.entries)
      (registered : v.router.registered = u.router.registered)
      (listeners : ∀ l, v.router.has l = u.router.has l ∧ v.router.registrations l =
        if clears = true ∧ (label = .null ∨ l.same label = true) then []
        else u.router.registrations l) : u.Does v (.unsubscribe label clears)

/- The errors of a call. A client may raise one of its own. -/
inductive FailsWith (u : State) (command : Command) (label : Label) (answer : Broker.Answer) :
    Error → Prop
  | bus (e : BusError)
      (known : u.isAvailable = true → ∃ p, u.router.get label = .ok (some p)) :
      u.FailsWith command label answer (.bus e)
  | unknown (available : u.isAvailable = true)
      (unknown : ∀ p, u.router.get label ≠ .ok (some p)) :
      u.FailsWith command label answer (.label (.unknown label))
  | raised {e : Error} {qos : Option Value} (ready : u.Ready command)
      (subscribes : command = .subscribe label qos) (raises : answer.subscribeError = some e) :
      u.FailsWith command label answer e

inductive Enters (u : State) (id : CallId) (command : Command) (label : Label)
    (answer : Broker.Answer) : Turn → Prop
  | unready {e : Error} (unready : ¬ u.Ready command)
      (fails : u.FailsWith command label answer e) :
      u.Enters id command label answer ⟨u, [.finished id (.error e)]⟩
  | untaken {t : Turn} {e : Error} (ready : u.Ready command)
      (untaken : ¬ command.TakenWith answer) (fails : u.FailsWith command label answer e)
      (same : t.state = u) (results : t.results = [(id, .error e)]) :
      u.Enters id command label answer t
  | waits {t : Turn} {purpose : Purpose} (available : u.isAvailable = true)
      (means : u.Means command purpose) (finds : u.Finds purpose)
      (taken : command.TakenWith answer) (stands : u.Stands t.state
        ⟨id, purpose, some answer.message, u.options.patience.future, false, none⟩ answer.message)
      (results : t.results = []) : u.Enters id command label answer t

theorem meansOne {purpose other : Purpose} (means : u.Means command purpose)
    (also : u.Means command other) : purpose = other := by
  cases means with
  | subscribe known =>
    cases also with
    | subscribe found =>
      cases known.symm.trans found
      rfl
  | unsubscribe known =>
    cases also with
    | unsubscribe found =>
      cases known.symm.trans found
      rfl

theorem Ready.required (ready : u.Ready command) (asks : command.subject? = some label) :
    ∃ p, u.require label = .ok p := by
  obtain ⟨available, purpose, means, _⟩ := ready
  cases means with
  | subscribe known =>
    cases asks
    exact ⟨_, requireIff.mpr ⟨available, known⟩⟩
  | unsubscribe known =>
    cases asks
    exact ⟨_, requireIff.mpr ⟨available, known⟩⟩

theorem finishFresh (fresh : ¬ u.Uses id) (result : Except Error Reply) :
    u.finish id result = ⟨u, [.finished id result]⟩ := by
  rw [finish, dropUnknown fun c member same => fresh (.inl ⟨c, member, same⟩)]

theorem waitForStands (timed : u.options.patience.fault? = none) (fresh : ¬ u.Uses id)
    (purpose : Purpose) (message : Int) :
    u.Stands (u.waitFor id purpose message).state
        ⟨id, purpose, some message, u.options.patience.future, false, none⟩ message ∧
      (u.waitFor id purpose message).results = [] := by
  rw [waitFor, timed]
  dsimp only
  have appends := waitAppends { u with pending := putPending message id u.pending } id purpose
    (some message)
  refine ⟨⟨?_, ?_, ?_, rfl, rfl, fun reply answered => ?_⟩, ?_⟩
  · have unknown : u.calls.find? (·.id == id) = none :=
      List.find?_eq_none.mpr fun c member same => fresh (.inl ⟨c, member, by simpa using same⟩)
    rw [appends]
    simp [call?, unknown]
  · rw [appends]
    rfl
  · rw [appends]
    rfl
  · rw [Call.wait] at answered
    cases patience : u.options.patience <;>
      simp [patience, Patience.future, Future.wait] at answered
  · rw [wait]
    dsimp only
    split <;> rfl

section entering

variable (fresh : ¬ u.Uses id)
include fresh

theorem untakenEnters {e : Error} (ready : u.Ready command)
    (untaken : ¬ command.TakenWith answer) (fails : u.FailsWith command label answer e)
    (request : Broker.Request) : u.Enters id command label answer
      ((u.showing (u.request request)).andThen (·.finish id (.error e))) := by
  refine .untaken ready untaken fails ?_ ?_
  · exact congrArg Turn.state (finishFresh fresh (.error e))
  · rw [Turn.resultsThen, requestResults]
    rfl

theorem takenEnters {purpose : Purpose} (timed : u.options.patience.fault? = none)
    (available : u.isAvailable = true) (means : u.Means command purpose) (finds : u.Finds purpose)
    (taken : command.TakenWith answer) (request : Broker.Request) :
    u.Enters id command label answer
      ((u.showing (u.request request)).andThen (·.waitFor id purpose answer.message)) := by
  obtain ⟨stands, silent⟩ := waitForStands timed fresh purpose answer.message
  refine .waits available means finds taken stands ?_
  rw [Turn.resultsThen, requestResults]
  exact silent

theorem missesEnters {purpose : Purpose} {p : Pattern} (requires : u.require label = .ok p)
    (means : u.Means command purpose) (misses : ¬ u.Finds purpose) :
    u.Enters id command label answer (u.begin id answer command) := by
  obtain ⟨available, known⟩ := requireIff.mp requires
  rw [beginRefused available means misses answer id fun c member same =>
    fresh (.inl ⟨c, member, same⟩)]
  refine .unready ?_ (.bus _ fun _ => ⟨p, known⟩)
  rintro ⟨_, other, also, finds⟩
  exact misses (meansOne means also ▸ finds)

theorem subscribeEnters {p : Pattern} (timed : u.options.patience.fault? = none)
    (requires : u.require label = .ok p) (qos : Option Value) :
    u.Enters id (.subscribe label qos) label answer
      (u.begin id answer (.subscribe label qos)) := by
  obtain ⟨available, known⟩ := requireIff.mp requires
  have means : u.Means (.subscribe label qos) (.subscribe label p.topic (u.quality qos)) :=
    .subscribe known
  by_cases finds : u.Finds (.subscribe label p.topic (u.quality qos))
  · have absent : u.topics.contains p.topic = false := by simpa [Finds] using finds
    have ready : u.Ready (.subscribe label qos) := ⟨available, _, means, finds⟩
    rw [begin, subscribe, requires]
    simp only [absent, Bool.false_eq_true, if_false]
    cases raised : answer.subscribeError with
    | some e =>
      exact untakenEnters fresh ready (by simp [Command.TakenWith, raised])
        (.raised ready rfl raised) _
    | none =>
      by_cases success : answer.code = Broker.ResultCode.success
      · simp only [success, ne_eq, not_true_eq_false, if_false]
        exact takenEnters fresh timed available means finds ⟨raised, success⟩ _
      · simp only [success, ne_eq, not_false_eq_true, if_true]
        exact untakenEnters fresh ready (fun taken => success taken.2)
          (.bus _ fun _ => ⟨p, known⟩) _
  · exact missesEnters fresh requires means finds

theorem unsubscribeEnters {p : Pattern} (timed : u.options.patience.fault? = none)
    (requires : u.require label = .ok p) (clears : Bool) :
    u.Enters id (.unsubscribe label clears) label answer
      (u.begin id answer (.unsubscribe label clears)) := by
  obtain ⟨available, known⟩ := requireIff.mp requires
  have means : u.Means (.unsubscribe label clears) (.unsubscribe label p.topic clears) :=
    .unsubscribe known
  by_cases finds : u.Finds (.unsubscribe label p.topic clears)
  · have present : u.topics.contains p.topic = true := by simpa [Finds] using finds
    have ready : u.Ready (.unsubscribe label clears) := ⟨available, _, means, finds⟩
    rw [begin, unsubscribe, requires]
    simp only [present, Bool.not_true, Bool.false_eq_true, if_false]
    by_cases success : answer.code = Broker.ResultCode.success
    · simp only [success, ne_eq, not_true_eq_false, if_false]
      exact takenEnters fresh timed available means finds success _
    · simp only [success, ne_eq, not_false_eq_true, if_true]
      exact untakenEnters fresh ready success (.bus _ fun _ => ⟨p, known⟩) _
  · exact missesEnters fresh requires means finds

variable
  (knows : (∃ p, u.router.get label = .ok (some p)) ∨ u.router.get label = .error (.unknown label))
include knows

theorem refusedEnters {e : Error} (asks : command.subject? = some label)
    (fails : u.require label = .error e) :
    u.Enters id command label answer (u.finish id (.error e)) := by
  rw [finishFresh fresh]
  refine .unready (fun ready => ?_) ?_
  · obtain ⟨p, requires⟩ := ready.required asks
    cases requires.symm.trans fails
  · rw [require] at fails
    cases available : u.isAvailable with
    | false =>
      simp only [available, Bool.not_false, if_true] at fails
      cases fails
      exact .bus _ (by simp [available])
    | true =>
      simp only [available, Bool.not_true, Bool.false_eq_true, if_false] at fails
      rcases knows with ⟨p, known⟩ | unknown
      · rw [known] at fails
        cases fails
      · rw [unknown] at fails
        cases fails
        exact .unknown available (by simp [unknown])

theorem beginEnters (timed : u.isAvailable = true → u.options.patience.fault? = none)
    (asks : command.subject? = some label) :
    u.Enters id command label answer (u.begin id answer command) := by
  have refused {e : Error} (fails : u.require label = .error e) :
      u.Enters id command label answer (u.finish id (.error e)) :=
    refusedEnters fresh knows asks fails
  cases command with
  | subscribe l qos =>
    cases asks
    cases requires : u.require label with
    | error e =>
      rw [begin, subscribe, requires]
      exact refused requires
    | ok p => exact subscribeEnters fresh (timed (requireIff.mp requires).1) requires qos
  | unsubscribe l clears =>
    cases asks
    cases requires : u.require label with
    | error e =>
      rw [begin, unsubscribe, requires]
      exact refused requires
    | ok p => exact unsubscribeEnters fresh (timed (requireIff.mp requires).1) requires clears
  | _ => contradiction

end entering

theorem clearedListeners (u : State) (label : Label) (topic : Text) (clears : Bool) (l : Label) :
    let after := u.cleared (.unsubscribe label topic clears)
    after.has l = u.router.has l ∧ after.registrations l =
      if clears = true ∧ (label = .null ∨ l.same label = true) then []
      else u.router.registrations l := by
  intro after
  cases clears with
  | false => exact ⟨rfl, by simp [after, cleared]⟩
  | true =>
    by_cases null : label = .null
    · have same : after = u.router.clearAll := by simp only [after, cleared, null, if_true]
      rw [same]
      refine ⟨relistedHas u.router (fun _ _ => []) l, ?_⟩
      rw [Router.clearAllRegistrations, if_pos ⟨rfl, .inl null⟩]
    · have same : after = u.router.change label fun _ => [] := by
        simp only [after, cleared, null, if_false]
      rw [same]
      refine ⟨relistedHas u.router (fun other regs => if other.same label then [] else regs) l, ?_⟩
      rw [Router.changeRegistrations]
      cases own : l.same label with
      | false => simp [null]
      | true =>
        cases has : u.router.has l with
        | false => simp [Router.absentRegistrations has]
        | true => simp

theorem fulfilledDoes {purpose : Purpose} (means : u.Means command purpose)
    (finds : u.Finds purpose) (content : v.content = u.fulfilled purpose) :
    u.Does v command ∧ v.metrics.subscriptions = v.subscriptions.length := by
  have table : v.table = (u.written purpose).table := congrArg Prod.fst content
  have router : v.router = u.cleared purpose := congrArg Prod.snd content
  cases means with
  | subscribe known =>
    have topics := congrArg Prod.fst table
    refine ⟨.subscribes known (topics.trans (putAbsent finds _)) router, ?_⟩
    rw [show v.metrics.subscriptions = _ from congrArg Prod.snd table,
      show v.subscriptions = _ from topics]
    rfl
  | @unsubscribe label clears p known =>
    have present : u.topics.contains p.topic = true := by
      simpa using show p.topic ∈ u.topics from finds
    rw [written, if_pos present] at table
    have topics := congrArg Prod.fst table
    have rest : v.router.entries = u.router.entries ∧
        v.router.registered = u.router.registered := by
      rw [router, cleared.eq_def]
      cases clears with
      | false => exact ⟨rfl, rfl⟩
      | true =>
        dsimp only
        split <;> exact ⟨rfl, rfl⟩
    refine ⟨.unsubscribes known topics rest.1 rest.2 fun l => ?_, ?_⟩
    · rw [router]
      exact clearedListeners u label p.topic clears l
    · rw [show v.metrics.subscriptions = _ from congrArg Prod.snd table,
        show v.subscriptions = _ from topics]
      rfl

/- What is known of a call on a bus from its beginning on, and of what it leaves. -/
structure Concludes (u : State) (id : CallId) (command : Command)
    (label : Label) (answer : Broker.Answer) (during : List Action) (t : Turn) : Prop where
  succeeds : (∃ reply, t.resultsOf id = [.ok reply]) ↔ u.Ready command ∧
    command.TakenWith answer ∧
    AcknowledgedInTime u.options.patience id answer.message during
  does : ∀ reply, t.resultsOf id = [.ok reply] →
    u.Does t.state command ∧ t.state.metrics.subscriptions = t.state.subscriptions.length
  fails : ∀ e, t.resultsOf id = [.error e] → u.FailsWith command label answer e
  undone : (∀ reply, t.resultsOf id ≠ [.ok reply]) → t.state.subscriptions = u.subscriptions ∧
    t.state.metrics.subscriptions = u.metrics.subscriptions ∧ t.state.router = u.router
  pending : t.resultsOf id ≠ [] → answer.message ∉ u.pending.map Prod.fst →
    t.state.pending = u.pending
  once : (t.resultsOf id).length ≤ 1
  returns : [.expire id, .resume id, .resume id] <:+ during → t.resultsOf id ≠ []
  unasked : ¬ u.Ready command → ∃ e, step u (.begin id command answer) =
    ⟨u, [.finished id (.error e)]⟩

section concluding

variable {during : List Action} {t : Turn}

theorem contentParts (same : v.content = u.content) : v.subscriptions = u.subscriptions ∧
    v.metrics.subscriptions = u.metrics.subscriptions ∧ v.router = u.router :=
  ⟨congrArg (·.1.1) same, congrArg (·.1.2) same, congrArg (·.2) same⟩

theorem refusedConcludes (fresh : ¬ u.Uses id) {e : Error}
    (fails : u.FailsWith command label answer e)
    (refused : ¬ (u.Ready command ∧ command.TakenWith answer))
    (unasked : ¬ u.Ready command → ∃ e, step u (.begin id command answer) =
      ⟨u, [.finished id (.error e)]⟩)
    (same : t.state = u) (results : t.results = [(id, .error e)])
    (alone : Uninterrupted id answer.message t.state during) :
    u.Concludes id command label answer during (t.andThen fun s => Bus.run s during) := by
  have gone : u.Gone t.state id answer.message := by
    rw [same]
    refine ⟨List.find?_eq_none.mpr fun c member own => ?_, fun current => ?_, fun _ => rfl⟩
    · exact fresh (.inl ⟨c, member, by simpa using own⟩)
    · exact fresh (.inr (.inl current))
  obtain ⟨last, content, silent⟩ := gone.run alone
  have returned : (t.andThen fun s => Bus.run s during).resultsOf id = [.error e] := by
    rw [Turn.resultsOfThen, silent, Turn.resultsOf, results]
    simp
  refine ⟨?_, ?_, ?_, fun _ => contentParts (content.trans (by rw [same])),
    fun _ => last.pending, ?_, ?_, unasked⟩
  · refine iff_of_false ?_ fun granted => refused ⟨granted.1, granted.2.1⟩
    rintro ⟨reply, ok⟩
    cases returned.symm.trans ok
  · intro reply ok
    cases returned.symm.trans ok
  · intro other failed
    cases returned.symm.trans failed
    exact fails
  · rw [returned]
    exact Nat.le_refl 1
  · rw [returned]
    simp

theorem waitsConcludes {purpose : Purpose} (available : u.isAvailable = true)
    (means : u.Means command purpose) (finds : u.Finds purpose) (taken : command.TakenWith answer)
    (known : ∃ p, u.router.get label = .ok (some p))
    (spares : ∀ action ∈ during, action.spares id answer.message = true)
    (comes : u.Comes id answer.message purpose
      (during.foldl (Wait.next answer.message id) (Wait.start u.options.patience)) t) :
    u.Concludes id command label answer during t := by
  have ready : u.Ready command := ⟨available, purpose, means, finds⟩
  have granted : (∃ reply, during.foldl (Wait.next answer.message id)
      (Wait.start u.options.patience) = .finished (some (.ok reply))) ↔
        AcknowledgedInTime u.options.patience id answer.message during :=
    (Wait.grantedIff _ _).trans (grantedInTime spares)
  have returns (ended : [.expire id, .resume id, .resume id] <:+ during) : ∃ outcome,
      during.foldl (Wait.next answer.message id) (Wait.start u.options.patience) =
        .finished outcome := by
    obtain ⟨early, rfl⟩ := ended
    rw [List.foldl_append]
    exact Wait.timeEnds _
  generalize during.foldl (Wait.next answer.message id) (Wait.start u.options.patience) = wait
    at comes granted returns
  have unasked : ¬ u.Ready command → ∃ e, step u (.begin id command answer) =
      ⟨u, [.finished id (.error e)]⟩ := fun unready => absurd ready unready
  cases comes with
  | @waits _ c stands own same silent =>
    have goesOn (outcome : Option (Except BusError Answer)) : c.wait ≠ .finished outcome := by
      rw [Call.wait]
      cases c.future <;> simp [Future.wait]
    refine ⟨iff_of_false ?_ ?_, ?_, ?_, fun _ => contentParts stands.content,
      fun ended => absurd silent ended, ?_, ?_, unasked⟩
    · rintro ⟨reply, ok⟩
      cases silent.symm.trans ok
    · rintro ⟨_, _, acknowledged⟩
      obtain ⟨reply, ended⟩ := granted.mpr acknowledged
      exact goesOn _ ended
    · intro reply ok
      cases silent.symm.trans ok
    · intro e failed
      cases silent.symm.trans failed
    · rw [silent]
      exact Nat.zero_le 1
    · intro late
      obtain ⟨outcome, ended⟩ := returns late
      exact absurd ended (goesOn outcome)
  | @failed _ outcome e told gone content returned =>
    refine ⟨iff_of_false ?_ ?_, ?_, ?_, fun _ => contentParts content, fun _ => gone.pending, ?_,
      ?_, unasked⟩
    · rintro ⟨reply, ok⟩
      cases returned.symm.trans ok
    · rintro ⟨_, _, acknowledged⟩
      obtain ⟨reply, ended⟩ := granted.mpr acknowledged
      exact told reply (Wait.finished.inj ended)
    · intro reply ok
      cases returned.symm.trans ok
    · intro other failed
      cases returned.symm.trans failed
      exact .bus e fun _ => known
    · rw [returned]
      exact Nat.le_refl 1
    · rw [returned]
      simp
  | @done _ reply code gone content returned =>
    refine ⟨iff_of_true ⟨code, returned⟩ ⟨ready, taken, granted.mp ⟨reply, rfl⟩⟩,
      fun _ _ => fulfilledDoes means finds content, ?_, fun never => absurd returned (never code),
      fun _ => gone.pending, ?_, ?_, unasked⟩
    · intro e failed
      cases returned.symm.trans failed
    · rw [returned]
      exact Nat.le_refl 1
    · rw [returned]
      simp

theorem uninterruptedSpares {s : State} {message : Int}
    (alone : Uninterrupted id message s during) :
    ∀ action ∈ during, action.spares id message = true := by
  induction during generalizing s with
  | nil => simp
  | cons action rest ih =>
    obtain ⟨spares, _, others⟩ := alone
    exact List.forall_mem_cons.mpr ⟨spares, ih others⟩

theorem startWait (patience : Patience) : patience.future.wait false = Wait.start patience := by
  cases patience <;> rfl

theorem requestConcludes (fresh : ¬ u.Uses id)
    (knows : (∃ p, u.router.get label = .ok (some p)) ∨
      u.router.get label = .error (.unknown label))
    (timed : u.isAvailable = true → u.options.patience.fault? = none)
    (asks : command.subject? = some label)
    (alone : Uninterrupted id answer.message (u.begin id answer command).state during) :
    u.Concludes id command label answer during
      (Bus.run u (.begin id command answer :: during)) := by
  have enters : u.Enters id command label answer (u.begin id answer command) :=
    beginEnters fresh knows timed asks
  have unasked {e : Error} (refused : u.begin id answer command =
      ⟨u, [.finished id (.error e)]⟩) : ∃ e, step u (.begin id command answer) =
        ⟨u, [.finished id (.error e)]⟩ := ⟨e, refused⟩
  rw [runCons]
  show u.Concludes id command label answer during
    ((u.begin id answer command).andThen fun s => Bus.run s during)
  generalize u.begin id answer command = t at enters alone unasked
  cases enters with
  | unready unready fails =>
    exact refusedConcludes fresh fails (fun ⟨ready, _⟩ => unready ready)
      (fun _ => unasked rfl) rfl rfl alone
  | untaken ready untaken fails same results =>
    exact refusedConcludes fresh fails (fun ⟨_, taken⟩ => untaken taken)
      (fun unready => absurd ready unready) same results alone
  | waits available means finds taken stands results =>
    have waits : u.Comes id answer.message _ _ t :=
      .waits stands rfl rfl (Turn.resultsOfNone results id)
    rw [Call.wait, startWait] at waits
    obtain ⟨p, requires⟩ := Ready.required ⟨available, _, means, finds⟩ asks
    refine waitsConcludes available means finds taken ⟨p, (requireIff.mp requires).2⟩
      (uninterruptedSpares alone) (waits.andRun alone fun c still own same => ?_)
    subst own same
    exact still.run fresh means finds alone

end concluding

end State

/-- A call that subscribes or unsubscribes on any bus that a new one has become, however the call
goes while no other does. It returns without an error if and only if it may ask its client, which
takes the request, and an acknowledgement without a failing code comes in time. It has then written
its topic at the end of the subscriptions, or taken it away, and nothing else but the listeners that
it was to clear. Otherwise the subscriptions, their count and the router are as they were, and if it
may not ask its client, the whole bus is, and the client is not asked. -/
theorem requestsLeaveNoTrace {start : State} (new : start.New)
    {past : List Router.Turn} (given : start.router = Router.after past) {actions : List Action}
    {id : CallId} {command : Command} {answer : Broker.Answer} {label : Label}
    (distinct : (begun (actions ++ [.begin id command answer])).Nodup)
    (asks : command.subject? = some label) {during : List Action} :
    let u := (run start actions).state
    Uninterrupted id answer.message (step u (.begin id command answer)).state during →
    u.Concludes id command label answer during (run u (.begin id command answer :: during)) := by
  intro u alone
  have numbered := (runConsistent new.consistent (new.numbered distinct)).2
  have grown := State.runGrows start actions
  rw [given] at grown
  rw [begunAppend] at distinct
  exact State.requestConcludes (numbered.head rfl) (State.grownKnows grown label)
    (State.reachableTimed new (distinct.sublist (List.sublist_append_left ..))) asks alone

theorem requestsLeaveNoTraceRejected :
    let start : State :=
      { options := ⟨.text "c", .int 60, .int 0, .bool true, .int 10⟩
        settings := ⟨"localhost", 1883, none, none, false⟩
        logger := ⟨.text "bus", .text "ERROR"⟩
        routerLogger := ⟨.text "router", .text "ERROR"⟩ }
    let actions : List Action :=
      [.route (.set (.text "a") (.text "a")), .route (.set (.text "b") (.text "b/+id")),
        .begin 0 .connect {}, .handle (.connected (.code 0)), .resume 0,
        .begin 1 (.subscribe (.text "a") none) ⟨none, none, 0, 5⟩,
        .handle (.acknowledged 5 (some [.code 0])), .resume 1]
    let during : List Action :=
      [.expire 2, .handle (.acknowledged 6 (some [.code 1, .code 135])), .resume 2]
    let answer : Broker.Answer := ⟨none, none, 0, 6⟩
    let command : Command := .subscribe (.text "b") (some (.int 1))
    let u := (run start actions).state
    let t := run u (.begin 2 command answer :: during)
    (start.New ∧ start.router = Router.after [] ∧
      (begun (actions ++ [.begin 2 command answer])).Nodup ∧
      command.subject? = some (.text "b") ∧
      Uninterrupted 2 answer.message (step u (.begin 2 command answer)).state during) ∧
    (t.resultsOf 2).map Except.isOk = [false] ∧
      t.state.topics = ["a"] ∧ t.state.metrics.subscriptions = 1 ∧ t.state.pending = [] := by
  intro start actions during answer command u t
  have new : start.New := ⟨rfl, rfl, rfl, rfl, rfl, rfl⟩
  have distinct : (begun (actions ++ [.begin 2 command answer])).Nodup := by decide
  have alone : Uninterrupted 2 answer.message
      (step u (.begin 2 command answer)).state during := by decide +kernel
  have returned : (t.resultsOf 2).map Except.isOk = [false] := by decide +kernel
  have failed {results : List (Except Error Reply)} (same : t.resultsOf 2 = results) :
      results.map Except.isOk = [false] := same ▸ returned
  have given : start.router = Router.after [] := rfl
  have concludes : u.Concludes 2 command (.text "b") answer during t :=
    requestsLeaveNoTrace new given distinct rfl alone
  have before : u.topics = ["a"] ∧ u.metrics.subscriptions = 1 ∧ u.pending = [] := by
    decide +kernel
  obtain ⟨topics, count, pending⟩ := before
  obtain ⟨same, counted, _⟩ := concludes.undone fun reply ok => by
    simpa [Except.isOk, Except.toBool] using failed ok
  have released := concludes.pending (fun none => by simpa using failed none) (by simp [pending])
  refine ⟨⟨new, rfl, distinct, rfl, alone⟩, returned, ?_, counted.trans count,
    released.trans pending⟩
  rw [State.topics, same]
  exact topics

end TopicRouting.Bus
