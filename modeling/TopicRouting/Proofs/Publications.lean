import TopicRouting.Proofs.Counting
import TopicRouting.Proofs.Lasting
import TopicRouting.Proofs.Roster

/-! What is counted of publishes. A publish call that the bus lets in counts once, when it returns,
under the name of its label: as published or as failed. No other step touches these counts. -/
namespace TopicRouting.Bus

def Call.sends? (c : Call) : Option (CallId × Text) :=
  match c.purpose with
  | .publish label .. => some (c.id, label.shown)
  | _ => none

namespace State

def flight (s : State) : List (CallId × Text) := s.calls.filterMap Call.sends?

variable {s t : State} {id : CallId}

theorem sendsId {c : Call} {entry : CallId × Text} (sends : c.sends? = some entry) :
    entry.1 = c.id := by
  rw [Call.sends?] at sends
  split at sends
  · cases sends
    rfl
  · contradiction

theorem flightCall {entry : CallId × Text} (member : entry ∈ s.flight) :
    ∃ c ∈ s.calls, c.sends? = some entry ∧ c.id = entry.1 := by
  obtain ⟨c, inside, sends⟩ := List.mem_filterMap.mp member
  exact ⟨c, inside, sends, (sendsId sends).symm⟩

theorem flightHolds {entry : CallId × Text} (member : entry ∈ s.flight) : s.Holds entry.1 := by
  obtain ⟨c, inside, _, same⟩ := flightCall member
  exact ⟨c, inside, same⟩

theorem flightRoster (s : State) : s.flight = s.roster.filterMap Call.sends? := by
  rw [roster, List.filterMap_map]
  rfl

theorem flightAlike (same : t.roster = s.roster) : t.flight = s.flight := by
  rw [flightRoster, same, ← flightRoster]

theorem flightStruck (struck : t.roster = s.roster.filter (·.id != id)) :
    t.flight = s.flight.filter (·.1 != id) := by
  rw [flightRoster, struck, List.filterMap_filter, flightRoster, List.filter_filterMap]
  refine List.filterMap_congr fun c _ => ?_
  cases sends : c.sends? with
  | none => simp
  | some entry => simp [← sendsId sends, Option.filter]

theorem flightKept (struck : t.roster = s.roster.filter (·.id != id))
    (other : ∀ entry ∈ s.flight, entry.1 ≠ id) : t.flight = s.flight := by
  rw [flightStruck struck]
  exact List.filter_eq_self.mpr fun entry member => by simpa using other entry member

/- The publish call that an action begins and the bus lets in: there is a client, and the label is
one of the router. -/
def admits? (s : State) : Action → Option (CallId × Text)
  | .begin id (.publish label ..) _ =>
      if s.isAvailable && s.router.has label then some (id, label.shown) else none
  | _ => none

end State

/-- The parameters of a publish are a mapping, or left out, and its payload has a form that can be
sent. -/
def Action.Plain : Action → Prop
  | .begin _ (.publish _ params payload ..) _ =>
      (∃ d, params = State.given d) ∧ ∃ bytes, Payload.encode payload = .ok bytes
  | _ => True

abbrev Sending := (CallId × Text) × Except Error Reply

def Turn.sendings (t : Turn) (flight : List (CallId × Text)) : List Sending :=
  t.results.filterMap fun (id, result) => (flight.find? (·.1 == id)).map (·, result)

def tallied (sent : Tally × Tally) (sending : Sending) : Tally × Tally :=
  match sending.2 with
  | .ok _ => (sent.1.add sending.1.2, sent.2)
  | .error _ => (sent.1, sent.2.add sending.1.2)

/- What a publish call returns that the bus lets in: its topic, or an error of its parameters or of
the bus. -/
def Sent : Except Error Reply → Prop
  | .ok (.published _) | .error (.parameter _) | .error (.bus _) => True
  | _ => False

/- A turn that counts the publish call that returns on it, if one does, and nothing else. -/
structure Turn.Posts (t : Turn) (s : State) (entered : List (CallId × Text)) : Prop where
  once : (t.sendings (entered ++ s.flight)).length ≤ 1
  sent : ∀ sending ∈ t.sendings (entered ++ s.flight), Sent sending.2
  counts : t.state.sent = (t.sendings (entered ++ s.flight)).foldl tallied s.sent
  flight : (entered ++ s.flight).Perm
    ((t.sendings (entered ++ s.flight)).map Prod.fst ++ t.state.flight)

namespace Turn

variable {t : Turn} {s : State} {entered : List (CallId × Text)}

theorem sendingsNone {under : List (CallId × Text)} (none : t.results = []) :
    t.sendings under = [] := by
  rw [sendings, none]
  rfl

theorem postsSilent (silent : t.sendings (entered ++ s.flight) = [])
    (counts : t.state.sent = s.sent) (flight : (entered ++ s.flight).Perm t.state.flight) :
    t.Posts s entered := by
  refine ⟨?_, ?_, ?_, ?_⟩
  all_goals rw [silent]
  · exact Nat.zero_le 1
  · exact List.forall_mem_nil _
  · exact counts
  · exact flight

theorem postsStill (rests : t.Rests s.mail) : t.Posts s [] := by
  obtain ⟨sent, roster⟩ := Prod.mk.inj rests.mail
  exact postsSilent (sendingsNone rests.results) sent (State.flightAlike roster ▸ List.Perm.refl _)

theorem postsAway {id : CallId} (strikes : t.Strikes s id false)
    (other : ∀ entry ∈ s.flight, entry.1 ≠ id) : t.Posts s [] := by
  obtain ⟨result, results⟩ := strikes.results
  have none : s.flight.find? (·.1 == id) = none :=
    List.find?_eq_none.mpr fun entry inside => by simpa using other entry inside
  have kept : t.state.flight = s.flight := State.flightKept strikes.roster other
  refine postsSilent ?_ (strikes.sent rfl) (kept ▸ List.Perm.refl _)
  rw [sendings, results]
  simp only [List.filterMap_cons, List.nil_append, none, Option.map_none, List.filterMap_nil]

theorem Posts.after {outputs : List Output} {next : State → Turn}
    (silent : (s.showing outputs).results = []) (posts : (next s).Posts s entered) :
    ((s.showing outputs).andThen next).Posts s entered := by
  have results : ((s.showing outputs).andThen next).results = (next s).results := by
    rw [resultsThen, silent]
    rfl
  have same (under : List (CallId × Text)) :
      ((s.showing outputs).andThen next).sendings under = (next s).sendings under := by
    rw [sendings, results, sendings]
  exact ⟨same _ ▸ posts.once, same _ ▸ posts.sent, same _ ▸ posts.counts, same _ ▸ posts.flight⟩

theorem postsEnd {id : CallId} {name : Text} {result : Except Error Reply}
    (results : t.results = [(id, result)]) (sent : Sent result)
    (inside : (entered ++ s.flight).find? (·.1 == id) = some (id, name))
    (counts : t.state.sent = tallied s.sent ((id, name), result))
    (flight : (entered ++ s.flight).Perm ((id, name) :: t.state.flight)) : t.Posts s entered := by
  have ended : t.sendings (entered ++ s.flight) = [((id, name), result)] := by
    rw [sendings, results]
    simp only [List.filterMap_cons, inside, Option.map_some, List.filterMap_nil]
  refine ⟨?_, ?_, ?_, ?_⟩
  all_goals rw [ended]
  · exact Nat.le_refl 1
  · exact List.forall_mem_singleton.mpr sent
  · exact counts
  · exact flight

end Turn

namespace State

variable {s : State}

theorem flightFind (consistent : s.Consistent) {c : Call} (member : c ∈ s.calls) {name : Text}
    (sends : c.sends? = some (c.id, name)) :
    s.flight.find? (·.1 == c.id) = some (c.id, name) := by
  have inside : (c.id, name) ∈ s.flight := List.mem_filterMap.mpr ⟨c, member, sends⟩
  cases found : s.flight.find? (·.1 == c.id) with
  | none => simpa using List.find?_eq_none.mp found _ inside
  | some entry =>
    obtain ⟨other, there, also, same⟩ := flightCall (List.mem_of_find?_eq_some found)
    have own : entry.1 = c.id := by simpa using List.find?_some found
    cases consistent.sameCall there member (same.trans own)
    rw [← also, sends]

theorem flightSplit (consistent : s.Consistent) {c : Call} (member : c ∈ s.calls) {name : Text}
    (sends : c.sends? = some (c.id, name)) :
    s.flight.Perm ((c.id, name) :: (s.dropCall c.id).flight) := by
  obtain ⟨front, back, split⟩ := List.append_of_mem member
  have apart := consistent.apart
  rw [split, List.map_append, List.map_cons] at apart
  have absent := (List.nodup_cons.mp (List.nodup_middle.mp apart)).1
  rw [← List.map_append] at absent
  have others : (front ++ back).filter (·.id != c.id) = front ++ back :=
    List.filter_eq_self.mpr fun other inside => by
      simpa using fun same => absent (List.mem_map.mpr ⟨other, inside, same⟩)
  have left : (s.dropCall c.id).calls = front ++ back := by
    rw [← others, dropCall, split, List.filter_append, List.filter_append,
      List.filter_cons_of_neg (by simp)]
  rw [flight, flight, left, split, List.filterMap_append, List.filterMap_append,
    List.filterMap_cons_some sends]
  exact List.perm_middle

section steps

variable {action : Action} {id : CallId} {label : Label}

theorem freshFlight (fresh : ¬ s.Uses id) : ∀ entry ∈ s.flight, entry.1 ≠ id :=
  fun _ member same => fresh (.inl (same ▸ flightHolds member))

theorem sendsPublishes {c : Call} {entry : CallId × Text} (sends : c.sends? = some entry) :
    c.purpose.publishes = true := by
  rw [Call.sends?] at sends
  split at sends
  · rename_i purpose
    rw [purpose]
    rfl
  · contradiction

theorem quietPosts (consistent : s.Consistent)
    (fresh : ∀ id, action.begun? = some id → ¬ s.Uses id) (quiet : s.publishing action = false) :
    (step s action).Posts s [] := by
  cases stepAlters s action with
  | stays rests => exact Turn.postsStill rests
  | @enters c command answer begun _ publishes _ rests =>
    obtain ⟨sent, roster⟩ := Prod.mk.inj rests.mail
    have silent : c.entry.sends? = none := by
      cases sends : c.entry.sends? with
      | none => rfl
      | some entry =>
        rw [begun, publishing, ← publishes, show c.purpose = c.entry.purpose from rfl,
          sendsPublishes sends] at quiet
        contradiction
    have flight : (step s action).state.flight = s.flight := by
      rw [flightRoster, roster, List.filterMap_append, List.filterMap_cons_none silent,
        List.filterMap_nil, List.append_nil, flightRoster]
    exact Turn.postsSilent (Turn.sendingsNone rests.results) sent (flight ▸ List.Perm.refl _)
  | @leaves id own strikes =>
    rw [quiet] at strikes
    refine Turn.postsAway strikes ?_
    rcases own with begun | ⟨rfl, _⟩
    · exact freshFlight (fresh id begun)
    · rintro entry member rfl
      obtain ⟨c, inside, sends, same⟩ := flightCall member
      rw [publishing, ← same, consistent.found inside, Option.any_some, sendsPublishes sends] at quiet
      contradiction

theorem refusedPosts {t : Turn} {e : Error} (fresh : ¬ s.Uses id)
    (state : t.state = (s.countFailure label).dropCall id) (results : t.results = [(id, .error e)])
    (sent : Sent (.error e)) : t.Posts s [(id, label.shown)] := by
  have flight : t.state.flight = s.flight := by
    rw [state]
    exact flightKept (dropRoster (s.countFailure label) id) (freshFlight fresh)
  refine Turn.postsEnd results sent (List.find?_cons_of_pos (by simp)) (state ▸ rfl) ?_
  rw [flight]
  exact List.Perm.refl _

theorem waitForPosts (timed : s.options.patience.fault? = none) (id : CallId) (label : Label)
    (topic : Text) (qos retain : Value) (message : Int) :
    (s.waitFor id (.publish label topic qos retain) message).Posts s [(id, label.shown)] := by
  let s' : State := { s with pending := putPending message id s.pending }
  let purpose : Purpose := .publish label topic qos retain
  have turn : s.waitFor id purpose message = s'.wait ⟨id, purpose, some message, .open, false, none⟩ := by
    rw [waitFor, timed]
  have silent : (s.waitFor id purpose message).results = [] := by
    rw [turn, wait]
    split <;> rfl
  have flight : (s.waitFor id purpose message).state.flight = s.flight ++ [(id, label.shown)] := by
    rw [turn, waitAppends]
    exact List.filterMap_append
  refine Turn.postsSilent (Turn.sendingsNone silent) ?_ (flight ▸ List.perm_append_comm)
  rw [turn, waitAppends]
  rfl

theorem publishPosts (fresh : ¬ s.Uses id) {p : Pattern} (requires : s.require label = .ok p)
    (timed : s.options.patience.fault? = none) (params : Option Dict) {payload : Value}
    {bytes : ByteArray} (encoded : Payload.encode payload = .ok bytes) (qos : Option Value)
    (retain : Value) (answer : Broker.Answer) :
    (s.publish id label (given params) payload qos retain answer).Posts s [(id, label.shown)] := by
  rw [publish, requires, encoded]
  dsimp only
  split
  · rename_i cause _
    refine refusedPosts (e := .parameter cause) fresh rfl ?_ trivial
    rw [Turn.resultsThen, (sayKeeps _ _ _ _).results]
    rfl
  · rename_i e away failed
    rw [topicForGiven] at failed
    obtain ⟨cause, rfl⟩ := topicForRefuses p _ e failed
    exact absurd rfl (away cause)
  · refine .after (requestResults s _) ?_
    split
    · exact refusedPosts (e := .bus (.requestFailed .publish answer.code)) fresh rfl rfl trivial
    · exact waitForPosts timed id label _ _ _ _

theorem requireLets {p : Pattern} (requires : s.require label = .ok p) :
    (s.isAvailable && s.router.has label) = true := by
  obtain ⟨available, known⟩ := requireIff.mp requires
  rw [Router.get] at known
  split at known
  · rename_i has
    rw [available, has, Bool.and_true]
  · contradiction

theorem letsRequire (knows : (∃ p, s.router.get label = .ok (some p)) ∨
      s.router.get label = .error (.unknown label))
    (lets : (s.isAvailable && s.router.has label) = true) : ∃ p, s.require label = .ok p := by
  obtain ⟨available, has⟩ := (Bool.and_eq_true _ _).mp lets
  rcases knows with ⟨p, known⟩ | unknown
  · exact ⟨p, requireIff.mpr ⟨available, known⟩⟩
  · rw [Router.get, if_pos has] at unknown
    contradiction

theorem unadmitted {params payload retain : Value} {qos : Option Value} {answer : Broker.Answer}
    (kept : s.admits? (.begin id (.publish label params payload qos retain) answer) = none) :
    ∃ e, s.begin id answer (.publish label params payload qos retain) = s.finish id (.error e) := by
  cases requires : s.require label with
  | error e => exact ⟨e, by rw [begin, publish, requires]⟩
  | ok p => simp [admits?, requireLets requires] at kept

theorem beginPublishPosts (fresh : ¬ s.Uses id)
    (timed : s.isAvailable = true → s.options.patience.fault? = none)
    (knows : (∃ p, s.router.get label = .ok (some p)) ∨
      s.router.get label = .error (.unknown label)) (params : Option Dict) {payload : Value}
    {bytes : ByteArray} (encoded : Payload.encode payload = .ok bytes) (qos : Option Value)
    (retain : Value) (answer : Broker.Answer) :
    let action : Action := .begin id (.publish label (given params) payload qos retain) answer
    (step s action).Posts s (s.admits? action).toList := by
  intro action
  cases admits : s.admits? action with
  | some entry =>
    obtain ⟨lets, entered⟩ := Option.ite_none_right_eq_some.mp admits
    cases entered
    obtain ⟨p, requires⟩ := letsRequire knows lets
    exact publishPosts fresh requires (timed (requireIff.mp requires).1) params encoded qos retain
      answer
  | none =>
    obtain ⟨e, refused⟩ := unadmitted admits
    rw [step, refused]
    exact Turn.postsAway (finishStrikes rfl (fun _ => rfl) id _) (freshFlight fresh)

section sender

variable {c : Call} {topic : Text} {qos retain : Value} (consistent : s.Consistent)
  (member : c ∈ s.calls) (purpose : c.purpose = .publish label topic qos retain)
include consistent member purpose

theorem leavesPosts {t : Turn} {counts : Bool} (result : Except Error Reply)
    (results : t.results = [(c.id, result)]) (sent : Sent result)
    (strikes : t.Strikes s c.id counts)
    (counted : t.state.sent = tallied s.sent ((c.id, label.shown), result)) : t.Posts s [] := by
  have sends : c.sends? = some (c.id, label.shown) := by rw [Call.sends?, purpose]
  have flight : t.state.flight = (s.dropCall c.id).flight := by
    rw [flightStruck strikes.roster, flightStruck (dropRoster s c.id)]
  refine Turn.postsEnd results sent (flightFind consistent member sends) counted ?_
  rw [flight]
  exact flightSplit consistent member sends

theorem failPosts (e : BusError) : (s.fail c e).Posts s [] := by
  have turn : s.fail c e = ((s.forget c).countFailure label).finish c.id (.error (.bus e)) := by
    rw [fail, purpose]
  obtain ⟨_, roster⟩ := Prod.mk.inj (forgetMail s c)
  have strikes : (((s.forget c).countFailure label).finish c.id (.error (.bus e))).Strikes s c.id
      true := finishStrikes (u := (s.forget c).countFailure label) roster (by rintro ⟨⟩) _ _
  have counted := failSent (s := s) purpose e
  rw [turn] at counted ⊢
  exact leavesPosts consistent member purpose _ rfl trivial strikes counted

theorem completePosts (answer : Answer) : (s.complete c answer).Posts s [] := by
  obtain ⟨sent, _⟩ := Prod.mk.inj (forgetMail s c)
  have strikes := completeStrikes s c answer
  rw [complete.eq_def, purpose] at strikes ⊢
  refine leavesPosts consistent member purpose (.ok (.published topic)) ?_ trivial strikes ?_
  · rw [Turn.resultsThen, (sayKeeps _ _ _ _).results]
    rfl
  · exact congrArg (fun counts : Tally × Tally => (counts.1.add label.shown, counts.2)) sent

theorem resumePublishPosts : (s.resume c.id).Posts s [] := by
  have running : c.ending = none := consistent.running c member (by rw [purpose]; rfl)
  rw [resume, consistent.found member]
  dsimp only
  split
  · rename_i ended
    cases running.symm.trans ended
  · exact completePosts consistent member purpose _
  · exact failPosts consistent member purpose _
  · rw [giveUp.eq_def, purpose]
    exact failPosts consistent member purpose _
  · split
    · exact Turn.postsStill ⟨congrArg (s.sent, ·) (changeRoster s c.id fun _ => rfl), rfl⟩
    · exact Turn.postsStill ⟨rfl, rfl⟩

end sender

theorem stepPosts (consistent : s.Consistent)
    (fresh : ∀ id, action.begun? = some id → ¬ s.Uses id)
    (timed : s.isAvailable = true → s.options.patience.fault? = none)
    (knows : ∀ label, (∃ p, s.router.get label = .ok (some p)) ∨
      s.router.get label = .error (.unknown label)) (plain : action.Plain) :
    (step s action).Posts s (s.admits? action).toList := by
  have quiet (still : s.publishing action = false) : (step s action).Posts s [] :=
    quietPosts consistent fresh still
  cases action with
  | begin id command answer =>
    cases command with
    | publish label params payload qos retain =>
      obtain ⟨⟨d, rfl⟩, bytes, encoded⟩ := plain
      exact beginPublishPosts (fresh id rfl) timed (knows label) d encoded qos retain answer
    | _ => exact quiet rfl
  | resume id =>
    cases found : s.call? id with
    | none => exact quiet (by rw [publishing, found]; rfl)
    | some c =>
      obtain ⟨member, rfl⟩ := callMember found
      cases purpose : c.purpose with
      | publish label topic qos retain => exact resumePublishPosts consistent member purpose
      | _ => exact quiet (by rw [publishing, found, Option.any_some, purpose]; rfl)
  | _ => exact quiet rfl

end steps

end State

section runs

variable {s : State}

def admitted : State → List Action → List (CallId × Text)
  | _, [] => []
  | s, action :: rest =>
      (s.admits? action).toList ++ admitted (step s action).state rest

def returned : State → List Action → List Sending
  | _, [] => []
  | s, action :: rest =>
      (step s action).sendings ((s.admits? action).toList ++ s.flight) ++
        returned (step s action).state rest

def publishedAs (name : Text) (sending : Sending) : Bool :=
  sending.1.2 == name && sending.2.isOk

def failedAs (name : Text) (sending : Sending) : Bool :=
  sending.1.2 == name && !sending.2.isOk

theorem talliedOne (sent : Tally × Tally) (sending : Sending) (name : Text) :
    (tallied sent sending).1.count name =
        sent.1.count name + (if publishedAs name sending then 1 else 0) ∧
      (tallied sent sending).2.count name =
        sent.2.count name + (if failedAs name sending then 1 else 0) := by
  obtain ⟨⟨id, label⟩, result⟩ := sending
  cases result <;>
    simp [tallied, Tally.countAdd, publishedAs, failedAs, Except.isOk, Except.toBool]

theorem talliedCount (sendings : List Sending) (sent : Tally × Tally) (name : Text) :
    (sendings.foldl tallied sent).1.count name =
        sent.1.count name + sendings.countP (publishedAs name) ∧
      (sendings.foldl tallied sent).2.count name =
        sent.2.count name + sendings.countP (failedAs name) := by
  induction sendings generalizing sent with
  | nil => exact ⟨rfl, rfl⟩
  | cons sending rest ih =>
    obtain ⟨published, failed⟩ := ih (tallied sent sending)
    obtain ⟨publishes, fails⟩ := talliedOne sent sending name
    rw [List.foldl_cons, published, failed, publishes, fails, List.countP_cons, List.countP_cons]
    omega

theorem eitherCount (sendings : List Sending) (name : Text) :
    sendings.countP (publishedAs name) + sendings.countP (failedAs name) =
      (sendings.map Prod.fst).countP (·.2 == name) := by
  induction sendings with
  | nil => rfl
  | cons sending rest ih =>
    rw [List.map_cons, List.countP_cons, List.countP_cons, List.countP_cons, ← ih, publishedAs,
      failedAs]
    cases sending.1.2 == name <;> cases sending.2.isOk <;> simp <;> omega

def EachPosts (s : State) (actions : List Action) : Prop :=
  ∀ front action back, actions = front ++ action :: back →
    let u := (run s front).state
    (step u action).Posts u (u.admits? action).toList

theorem EachPosts.head {action : Action} {rest : List Action}
    (each : EachPosts s (action :: rest)) :
    (step s action).Posts s (s.admits? action).toList := each [] action rest rfl

theorem EachPosts.tail {action : Action} {rest : List Action}
    (each : EachPosts s (action :: rest)) :
    EachPosts (step s action).state rest := by
  intro front next back split u
  have posts := each (action :: front) next back (by rw [split, List.cons_append])
  rw [runCons] at posts
  exact posts

theorem runPosts {actions : List Action} (each : EachPosts s actions) :
    (run s actions).state.sent = (returned s actions).foldl tallied s.sent ∧
      (admitted s actions ++ s.flight).Perm
        ((returned s actions).map Prod.fst ++ (run s actions).state.flight) ∧
      ∀ sending ∈ returned s actions, Sent sending.2 := by
  induction actions generalizing s with
  | nil => exact ⟨rfl, List.Perm.refl _, List.forall_mem_nil _⟩
  | cons action rest ih =>
    have first := each.head
    obtain ⟨counts, perm, sent⟩ := ih each.tail
    rw [runCons]
    refine ⟨?_, ?_, ?_⟩
    · rw [returned, List.foldl_append, ← first.counts]
      exact counts
    · rw [admitted, returned, List.map_append, List.append_assoc, List.append_assoc]
      exact ((List.perm_append_comm_assoc _ _ _).trans (first.flight.append_left _)).trans
        ((List.perm_append_comm_assoc _ _ _).trans (perm.append_left _))
    · exact List.forall_mem_append.mpr ⟨first.sent, sent⟩

theorem newPosts {start : State} (new : start.New) {past : List Router.Turn}
    (given : start.router = Router.after past) {actions : List Action}
    (distinct : (begun actions).Nodup) (plain : ∀ action ∈ actions, action.Plain) :
    EachPosts start actions := by
  rintro front action back rfl u
  obtain ⟨consistent, numbered⟩ := runConsistent new.consistent (new.numbered distinct)
  have grown := State.runGrows start front
  rw [given] at grown
  rw [begunAppend] at distinct
  exact State.stepPosts consistent (fun id => numbered.head)
    (State.reachableTimed new (distinct.sublist (List.sublist_append_left ..)))
    (State.grownKnows grown) (plain action (by simp))

theorem admitsBegun {action : Action} {entry : CallId × Text}
    (admits : s.admits? action = some entry) : action.begun? = some entry.1 := by
  unfold State.admits? at admits
  split at admits
  · obtain ⟨_, same⟩ := Option.ite_none_right_eq_some.mp admits
    cases same
    rfl
  · contradiction

theorem admittedBegun (s : State) (actions : List Action) :
    ((admitted s actions).map Prod.fst).Sublist (begun actions) := by
  induction actions generalizing s with
  | nil => exact List.Sublist.refl _
  | cons action rest ih =>
    rw [admitted, List.map_append, begunCons]
    refine List.Sublist.append ?_ (ih _)
    cases admits : s.admits? action with
    | none => exact List.nil_sublist _
    | some entry =>
      rw [admitsBegun admits]
      exact List.Sublist.refl _

theorem sendingReturns {t : Turn} {under : List (CallId × Text)} {sending : Sending}
    (member : sending ∈ t.sendings under) :
    (sending.1.1, sending.2) ∈ t.results ∧ sending.1 ∈ under := by
  obtain ⟨⟨id, result⟩, inside, found⟩ := List.mem_filterMap.mp member
  obtain ⟨entry, first, rfl⟩ := Option.map_eq_some_iff.mp found
  have own : entry.1 = id := by simpa using List.find?_some first
  exact ⟨own ▸ inside, List.mem_of_find?_eq_some first⟩

theorem enteredOnce (consistent : s.Consistent) {action : Action}
    (fresh : ∀ id, action.begun? = some id → ¬ s.Uses id) {entry other : CallId × Text}
    (here : entry ∈ (s.admits? action).toList ++ s.flight)
    (there : other ∈ (s.admits? action).toList ++ s.flight) (same : entry.1 = other.1) :
    entry = other := by
  have apart {new old : CallId × Text} (enters : new ∈ (s.admits? action).toList)
      (stays : old ∈ s.flight) : new.1 ≠ old.1 := fun also =>
    State.freshFlight (fresh _ (admitsBegun (Option.mem_toList.mp enters))) old stays also.symm
  rcases List.mem_append.mp here with enters | stays
  · rcases List.mem_append.mp there with also | old
    · exact Option.some.inj ((Option.mem_toList.mp enters).symm.trans (Option.mem_toList.mp also))
    · exact absurd same (apart enters old)
  · rcases List.mem_append.mp there with new | also
    · exact absurd same.symm (apart new stays)
    · obtain ⟨c, member, sends, own⟩ := State.flightCall stays
      obtain ⟨d, inside, gives, its⟩ := State.flightCall also
      cases consistent.sameCall member inside (own.trans (same.trans its.symm))
      exact Option.some.inj (sends.symm.trans gives)

theorem sendingsOf (consistent : s.Consistent) {action : Action}
    (fresh : ∀ id, action.begun? = some id → ¬ s.Uses id) {entry : CallId × Text}
    (known : entry ∈ (s.admits? action).toList ++ s.flight ∨
      ¬ s.Holds entry.1 ∧ action.begun? ≠ some entry.1) :
    (step s action).resultsOf entry.1 =
      (((step s action).sendings ((s.admits? action).toList ++ s.flight)).filter
        (·.1 == entry)).map (·.2) := by
  have alters := s.stepAlters action
  by_cases returns : ∃ result, (entry.1, result) ∈ (step s action).results
  · obtain ⟨result, returned⟩ := returns
    have here : entry ∈ (s.admits? action).toList ++ s.flight := by
      refine known.resolve_right fun away => ?_
      rcases alters.own _ returned with begun | ⟨_, held⟩
      · exact away.2 begun
      · exact away.1 held
    have found : ((s.admits? action).toList ++ s.flight).find? (·.1 == entry.1) = some entry := by
      cases found : ((s.admits? action).toList ++ s.flight).find? (·.1 == entry.1) with
      | none => simpa using List.find?_eq_none.mp found _ here
      | some other =>
        have same : other.1 = entry.1 := by simpa using List.find?_some found
        rw [enteredOnce consistent fresh (List.mem_of_find?_eq_some found) here same]
    have ended : (step s action).sendings ((s.admits? action).toList ++ s.flight) =
        [(entry, result)] := by
      rw [Turn.sendings, (alters.returns returned).1]
      simp only [List.filterMap_cons, found, Option.map_some, List.filterMap_nil]
    rw [ended, Turn.resultsOf, (alters.returns returned).1]
    simp
  · have silent : (step s action).resultsOf entry.1 = [] :=
      Turn.resultsOfOthers fun result member => returns ⟨result, member⟩
    rw [silent, eq_comm, List.map_eq_nil_iff, List.filter_eq_nil_iff]
    intro sending member same
    rw [beq_iff_eq] at same
    exact returns ⟨sending.2, same ▸ (sendingReturns member).1⟩

theorem numberedLater {action : Action} {rest : List Action} (numbered : Numbered s (action :: rest))
    {id : CallId} (later : id ∈ begun rest) : ¬ s.Holds id ∧ action.begun? ≠ some id := by
  constructor
  · exact fun held => numbered.unused id (by rw [begunCons]; exact List.mem_append_right _ later)
      (.inl held)
  · intro now
    have distinct := numbered.distinct
    rw [begunCons, now] at distinct
    exact (List.nodup_cons.mp distinct).1 later

theorem returnedOf {actions : List Action} (consistent : s.Consistent) (numbered : Numbered s actions)
    (each : EachPosts s actions) {entry : CallId × Text}
    (member : entry ∈ admitted s actions ++ s.flight) :
    (run s actions).resultsOf entry.1 = ((returned s actions).filter (·.1 == entry)).map (·.2) := by
  induction actions generalizing s with
  | nil => rfl
  | cons action rest ih =>
    have fresh : ∀ id, action.begun? = some id → ¬ s.Uses id := fun id => numbered.head
    have entered (later : entry ∈ admitted (step s action).state rest) : entry.1 ∈ begun rest :=
      (admittedBegun ..).subset (List.mem_map_of_mem later)
    have known : entry ∈ (s.admits? action).toList ++ s.flight ∨
        entry ∈ admitted (step s action).state rest := by
      rw [admitted] at member
      simp only [List.mem_append] at member ⊢
      tauto
    rw [runCons, Turn.resultsOfThen, sendingsOf consistent fresh
      (known.imp_right fun later => numberedLater numbered (entered later)), returned,
      List.filter_append, List.map_append]
    congr 1
    by_cases still : entry ∈ admitted (step s action).state rest ++
        (step s action).state.flight
    · exact ih (State.stepConsistent consistent fresh).1 (numbered.tail consistent) each.tail still
    · -- It has returned on this step, so nothing is told of it later.
      have here := known.resolve_right fun later => still (List.mem_append_left _ later)
      have ended := (each.head.flight.mem_iff.mp here)
      rw [List.mem_append, or_iff_left fun left => still (List.mem_append_right _ left)] at ended
      obtain ⟨sending, inside, rfl⟩ := List.mem_map.mp ended
      have returns := (sendingReturns inside).1
      have alters := s.stepAlters action
      have finished : sending.1.1 ∉ begun rest := fun later =>
        (alters.own _ returns).elim (numberedLater numbered later).2
          fun resumed => (numberedLater numbered later).1 resumed.2
      rw [(State.runGone (alters.returns returns).2 finished).1, eq_comm, List.map_eq_nil_iff,
        List.filter_eq_nil_iff]
      intro other member same
      refine still ((runPosts each.tail).2.1.mem_iff.mpr (List.mem_append_left _ ?_))
      exact List.mem_map.mpr ⟨other, member, by simpa using same⟩

end runs

/-- Over any run of a new bus every publish that the bus lets in, as it has a client and knows the
label, is counted once, when it returns: as published if it returns its topic, and as failed if it
returns an error of its parameters or of the bus. It counts for its own label, and nothing else is
counted of publishes. So what is counted for a label, with the calls that have not returned, is the
number of calls that were let in. A call that is not let in changes no count at all. -/
theorem publishesCounted {start : State} (new : start.New)
    (zero : start.metrics = {}) {past : List Router.Turn} (given : start.router = Router.after past)
    {actions : List Action} (distinct : (begun actions).Nodup)
    (plain : ∀ action ∈ actions, action.Plain) :
    let t := run start actions
    let entered := admitted start actions
    let ended := returned start actions
    (entered.map Prod.fst).Nodup ∧ entered.Perm (ended.map Prod.fst ++ t.state.flight) ∧
    (∀ entry ∈ entered, t.resultsOf entry.1 = (ended.filter (·.1 == entry)).map (·.2)) ∧
    (∀ sending ∈ ended, Sent sending.2) ∧
    (∀ name, t.state.metrics.published.count name = ended.countP (publishedAs name) ∧
      t.state.metrics.failed.count name = ended.countP (failedAs name) ∧
      t.state.metrics.published.count name + t.state.metrics.failed.count name +
        t.state.flight.countP (·.2 == name) = entered.countP (·.2 == name)) ∧
    ∀ front action back, actions = front ++ action :: back →
      let s := (run start front).state
      let u := step s action
      u.Posts s (s.admits? action).toList ∧
        ∀ id label params payload qos retain answer,
          action = .begin id (.publish label params payload qos retain) answer →
          s.admits? action = none →
          u.state.metrics = s.metrics ∧ ∃ e, u.results = [(id, .error e)] := by
  intro t entered ended
  have each : EachPosts start actions := newPosts new given distinct plain
  obtain ⟨counts, perm, sent⟩ := runPosts each
  have idle : start.flight = [] := by rw [State.flight, new.calls, List.filterMap_nil]
  rw [idle, List.append_nil] at perm
  refine ⟨distinct.sublist (admittedBegun ..), perm, fun entry member => ?_, sent, fun name => ?_,
    fun front action back split => ⟨each front action back split, ?_⟩⟩
  · exact returnedOf new.consistent (new.numbered distinct) each (List.mem_append_left _ member)
  · obtain ⟨published, failed⟩ := talliedCount ended start.sent name
    rw [← counts, State.sent, State.sent, zero] at published failed
    have all := eitherCount ended name
    have whole := perm.countP_eq (·.2 == name)
    rw [List.countP_append] at whole
    have nothing : Tally.count [] name = 0 := rfl
    rw [nothing, Nat.zero_add] at published failed
    exact ⟨published, failed, by rw [whole, published, failed, all]⟩
  · rintro id label params payload qos retain answer rfl kept
    obtain ⟨e, refused⟩ := State.unadmitted kept
    rw [step, refused]
    exact ⟨rfl, e, rfl⟩

theorem publishesCountedOfSeven :
    let start : State :=
      { options := ⟨.text "c", .int 60, .int 0, .bool true, .int 10⟩
        settings := ⟨"localhost", 1883, none, none, false⟩
        logger := ⟨.text "bus", .text "ERROR"⟩
        routerLogger := ⟨.text "router", .text "ERROR"⟩ }
    let publish (id : CallId) (label : Text) (params : Option Dict) (code message : Int) : Action :=
      .begin id (.publish (.text label) (State.given params) (.int 1) none (.bool false))
        ⟨none, none, code, message⟩
    let full : Option Dict := some [(.text "id", .text "x")]
    let actions : List Action :=
      [.route (.set (.text "a") (.text "a/+id")), .begin 0 .connect {},
        .handle (.connected (.code 0)), .resume 0, publish 1 "a" none 0 1, publish 2 "a" full 4 2,
        publish 3 "a" full 0 3, publish 4 "b" full 0 4, publish 5 "a" full 0 5,
        .handle (.published 5 none), .handle (.published 3 (some (.code 135))), publish 6 "a" full 0 6,
        .resume 3, .resume 5, .begin 7 .close {}, publish 8 "a" full 0 7, .resume 7, .resume 6]
    let t := (run start actions).state
    (start.New ∧ start.metrics = {} ∧ start.router = Router.after [] ∧ (begun actions).Nodup ∧
      ∀ action ∈ actions, action.Plain) ∧
    t.metrics.published.count "a" = 1 ∧ t.metrics.failed.count "a" = 4 ∧
      t.metrics.failed.count "b" = 0 := by
  intro start publish full actions t
  have new : start.New := ⟨rfl, rfl, rfl, rfl, rfl, rfl⟩
  have distinct : (begun actions).Nodup := by decide
  have plain : ∀ action ∈ actions, action.Plain := by
    have own (id : CallId) (label : Text) (params : Option Dict) (code message : Int) :
        (publish id label params code message).Plain := ⟨⟨params, rfl⟩, _, rfl⟩
    simp only [actions, List.forall_mem_cons]
    exact ⟨trivial, trivial, trivial, trivial, own .., own .., own .., own .., own .., trivial,
      trivial, own .., trivial, trivial, trivial, own .., trivial, trivial, List.forall_mem_nil _⟩
  have given : start.router = Router.after [] := rfl
  obtain ⟨_, _, _, _, counts, _⟩ := publishesCounted new rfl given distinct plain
  have ended : (returned start actions).countP (publishedAs "a") = 1 ∧
      (returned start actions).countP (failedAs "a") = 4 ∧
      (returned start actions).countP (failedAs "b") = 0 := by decide +kernel
  obtain ⟨published, failed, others⟩ := ended
  refine ⟨⟨new, rfl, given, distinct, plain⟩, ?_, ?_, ?_⟩
  · rw [(counts "a").1, published]
  · rw [(counts "a").2.1, failed]
  · rw [(counts "b").2.1, others]

end TopicRouting.Bus
