import TopicRouting.Proofs.Lasting
import TopicRouting.Proofs.Requesting
import TopicRouting.Proofs.Roster

/-! Calls that wait for an acknowledgement, followed through any run, in which clients may come and
go. Each goes on as its own waiting says, until a call that has stopped its client goes on: then no
client can answer any longer, and every call that still waits is released. -/
namespace TopicRouting.Bus

def Wait.released : Wait → Wait
  | .waiting _ => .answered (.error .notAvailable)
  | wait => wait

/- Whether a call is told on a turn that it need not wait any longer, or that its time is over. -/
def Turn.Tells (t : Turn) (id : CallId) : Prop := .woken id ∈ t.outputs ∨ .expired id ∈ t.outputs

theorem Turn.tellsThen {t : Turn} {next : State → Turn} {id : CallId} :
    (t.andThen next).Tells id ↔ t.Tells id ∨ (next t.state).Tells id := by
  simp only [Tells, andThen, List.mem_append]
  tauto

theorem Call.waiting {c : Call} {expired : Bool} (waits : c.wait = .waiting expired) :
    c.future = .open ∧ c.expired = expired := by
  obtain ⟨id, purpose, message, future, late, ending⟩ := c
  cases future <;> cases waits
  exact ⟨rfl, rfl⟩

theorem Call.opened {c : Call} (opened : c.future.isOpen = true) : c.wait = .waiting c.expired := by
  obtain ⟨id, purpose, message, future, late, ending⟩ := c
  cases future <;> first | rfl | contradiction

theorem Call.settledWith {c : Call} {answer : Except BusError Answer}
    (answered : c.wait = .answered answer) : c.future = .settled answer := by
  obtain ⟨id, purpose, message, future, late, ending⟩ := c
  cases future <;> cases answered
  rfl

theorem Call.shutWait {c : Call} (shut : c.future.isOpen = false) (expired : Bool) :
    c.wait ≠ .waiting expired := by
  intro waits
  rw [(Call.waiting waits).1] at shut
  contradiction

namespace State

/- A call waits for a message and for no other, and no other call waits for that. -/
structure Owns (s : State) (id : CallId) (m : Int) : Prop where
  owner : ∀ other, s.owner? other = some id ↔ other = m
  alone : ∀ e ∈ s.roster, e.message = some m → e.id = id

/- A call under way that asks for an acknowledgement, and owns its message until it has an answer or
gives it up. -/
structure Traced (s : State) (c : Call) (m : Int) : Prop where
  found : s.call? c.id = some c
  awaited : c.message = some m
  asks : c.purpose.acknowledged = true
  owns : c.future.isOpen = true → s.Owns c.id m

def releases (s : State) : Action → Bool
  | .resume id => (s.call? id).any (·.ending.isSome)
  | _ => false

/- What an action makes of the wait of a call. -/
def onward (s : State) (m : Int) (id : CallId) (action : Action) (wait : Wait) : Wait :=
  if s.releases action then wait.released else wait.next m id action

end State

structure Turn.Bypasses (t : Turn) (s : State) (id : CallId) : Prop where
  call : t.state.call? id = s.call? id
  pending : t.state.pending = s.pending

structure Turn.Spares (t : Turn) (s : State) (c : Call) (m : Int) : Prop where
  call : t.state.call? c.id = s.call? c.id
  owner : c.future.isOpen = true → s.Owns c.id m →
    ∀ other, t.state.owner? other = some c.id ↔ other = m

structure Turn.Guides (t : Turn) (s : State) (c after : Call) (m : Int) (w : Wait) : Prop where
  call : t.state.call? c.id = some after
  id : after.id = c.id
  purpose : after.purpose = c.purpose
  message : after.message = c.message
  wait : after.wait = w
  opened : after.future.isOpen = true → c.future.isOpen = true
  owner : after.future.isOpen = true → s.Owns c.id m →
    ∀ other, t.state.owner? other = some c.id ↔ other = m
  tells : c.wait = .waiting false → w = .waiting false ∨ t.Tells c.id

/- All that becomes of a call that is traced, by one action: it stays and its wait goes on, or it goes
on with an outcome and returns. -/
inductive State.Carries (s : State) (c : Call) (m : Int) (action : Action) (t : Turn) : Prop
  | stays {d : Call} (guides : t.Guides s c d m (s.onward m c.id action c.wait))
  | returns {outcome : Option (Except BusError Answer)} {result : Except Error Reply}
      (resumed : action = .resume c.id) (finished : c.wait.next m c.id action = .finished outcome)
      (returns : c.purpose.Returns s m outcome result) (results : t.results = [(c.id, result)])

theorem Turn.Guides.thenBypasses {t : Turn} {s : State} {c after : Call} {m : Int} {w : Wait}
    {next : State → Turn} (guides : t.Guides s c after m w)
    (bypasses : (next t.state).Bypasses t.state c.id) : (t.andThen next).Guides s c after m w where
  call := bypasses.call.trans guides.call
  id := guides.id
  purpose := guides.purpose
  message := guides.message
  wait := guides.wait
  opened := guides.opened
  owner := fun opened owns other => by
    rw [State.owner?, show (t.andThen next).state.pending = t.state.pending from bypasses.pending]
    exact guides.owner opened owns other
  tells := fun waits => (guides.tells waits).imp_right fun told => Turn.tellsThen.mpr (.inl told)

namespace State

variable {s u : State} {id other : CallId} {m : Int} {c d : Call} {t : Turn} {action : Action}

theorem ownsListed (messages : (s.pending.map Prod.fst).Nodup) (ids : (s.pending.map Prod.snd).Nodup)
    (listed : (m, id) ∈ s.pending) (alone : ∀ e ∈ s.roster, e.message = some m → e.id = id) :
    s.Owns id m := by
  refine ⟨fun key => ⟨fun owned => ?_, ?_⟩, alone⟩
  · obtain ⟨entry, found, own⟩ := Option.map_eq_some_iff.mp owned
    have same : entry = (m, id) :=
      List.inj_on_of_nodup_map ids (List.mem_of_find?_eq_some found) listed own
    have here : entry.1 = key := by simpa using List.find?_some found
    exact here.symm.trans (congrArg Prod.fst same)
  · rintro rfl
    cases found : s.pending.find? (·.1 == key) with
    | none => simpa using List.find?_eq_none.mp found _ listed
    | some entry =>
      have same : entry = (key, id) :=
        List.inj_on_of_nodup_map messages (List.mem_of_find?_eq_some found) listed
          (by simpa using List.find?_some found)
      rw [owner?, found, same]
      rfl

theorem bypassesSpares (bypasses : t.Bypasses s c.id) : t.Spares s c m where
  call := bypasses.call
  owner := fun _ owns other => by rw [owner?, bypasses.pending]; exact owns.owner other

theorem keepsSpares (keeps : t.Keeps s.ledger) : t.Spares s c m := by
  have same : t.state.call? c.id = s.call? c.id := by simpa using (keeps.touches c.id).call
  exact bypassesSpares ⟨same, congrArg Ledger.pending keeps.ledger⟩

theorem callDropped (s : State) (other id : CallId) :
    (s.dropCall other).call? id = if id = other then none else s.call? id :=
  Connection.callDropped (k := { s.connection with calls := s.calls })

theorem ownerDropped (s : State) (message other : Int) :
    (s.dropPending message).owner? other = if other = message then none else s.owner? other := by
  rw [owner?, dropPending, List.find?_filter]
  split
  · rename_i here
    rw [List.find?_eq_none.mpr fun entry _ => by simp [here]]
    rfl
  · rename_i away
    congr 2
    funext entry
    by_cases own : entry.1 = other <;> simp [own, away]

theorem callLeft (calls : t.state.calls = s.calls.filter (·.id != other)) (apart : other ≠ id) :
    t.state.call? id = s.call? id := by
  have dropped := callDropped s other id
  rw [if_neg (Ne.symm apart)] at dropped
  rw [call?, calls]
  exact dropped

theorem callJoined (calls : t.state.calls = s.calls ++ [d]) (apart : d.id ≠ id) :
    t.state.call? id = s.call? id := by
  rw [call?, calls, List.find?_append, ← call?]
  simp [apart]

theorem leftSpares (member : d ∈ s.calls) (apart : d.id ≠ c.id)
    (calls : t.state.calls = s.calls.filter (·.id != d.id))
    (pending : t.state.pending = (s.forget d).pending) : t.Spares s c m where
  call := callLeft calls apart
  owner := by
    intro _ owns other
    have same : t.state.owner? other = (s.forget d).owner? other := by rw [owner?, owner?, pending]
    rw [same, forget]
    cases message : d.message with
    | none => exact owns.owner other
    | some own =>
      have differs : own ≠ m := by
        rintro rfl
        exact apart (owns.alone d.entry (List.mem_map_of_mem member) message)
      dsimp only
      rw [ownerDropped]
      split
      · rename_i here
        exact iff_of_false (by simp) (here ▸ differs)
      · exact owns.owner other

theorem concludeBypasses (apart : other ≠ id) (ending : Ending) :
    (s.conclude other ending).Bypasses s id := by
  obtain ⟨_, ends⟩ := concludeEnds s other ending
  exact ⟨callLeft (congrArg Ledger.calls ends.ledger) apart, congrArg Ledger.pending ends.ledger⟩

theorem changeBypasses (apart : other ≠ id) {f : Call → Call} (kept : ∀ c, (f c).id = c.id)
    (outputs : List Output) : Turn.Bypasses ⟨s.changeCall other f, outputs⟩ s id := by
  refine ⟨?_, rfl⟩
  rw [callChanged s other id kept]
  simp [apart]

theorem stopBypasses (apart : other ≠ id) (ending : Ending) :
    (s.stopClient other ending).Bypasses s id := by
  rw [stopClient]
  split
  · exact concludeBypasses apart ending
  · have stops := changeBypasses (s := { s with client := none }) apart
      (f := fun c => { c with ending := some ending }) (fun _ => rfl)
    exact ⟨(stops []).call, rfl⟩

theorem joinedBypasses (apart : d.id ≠ id) (same : u.pending = s.pending)
    (calls : u.calls = s.calls ++ [d]) (ending : Ending) :
    (u.stopClient d.id ending).Bypasses s id := by
  have stops := stopBypasses (s := u) apart ending
  exact ⟨stops.call.trans (callJoined (t := u.quiet) calls apart), stops.pending.trans same⟩

theorem closeBypasses (apart : other ≠ id) : (s.close other).Bypasses s id := by
  rw [close]
  split
  · have joins := joinedBypasses (s := s) (d := { id := other, purpose := .close })
      (u := { s with closing := true, calls := s.calls ++ [{ id := other, purpose := .close }] })
      apart rfl rfl .closed
    exact ⟨joins.call, joins.pending⟩
  · exact ⟨callLeft rfl apart, rfl⟩

theorem connectBypasses (apart : other ≠ id) (answer : Broker.Answer) :
    (s.connect other answer).Bypasses s id := by
  by_cases available : s.isAvailable = true
  · rw [connect, if_pos available]
    exact ⟨callLeft rfl apart, rfl⟩
  · have gives (ending : Ending) := joinedBypasses (s := s)
      (u := { (s.prepared other).state with calls := s.calls ++ [{ id := other, purpose := .connect }] })
      (d := { id := other, purpose := .connect }) apart rfl rfl ending
    rw [connectPrepared available]
    dsimp only [Turn.andThen, reaching]
    split
    · exact ⟨(gives _).call, (gives _).pending⟩
    · dsimp only [showing]
      split
      · exact ⟨(gives _).call, (gives _).pending⟩
      · have appends := waitAppends (s.prepared other).state other .connect none
        refine ⟨callJoined (congrArg State.calls appends) apart, ?_⟩
        exact (congrArg State.pending appends).trans rfl

theorem failSpares (member : d ∈ s.calls) (apart : d.id ≠ c.id) (e : BusError) :
    (s.fail d e).Spares s c m := by
  have calls : (s.forget d).calls = s.calls := by
    rw [forget]
    split <;> rfl
  have left : ((s.forget d).dropCall d.id).calls = s.calls.filter (·.id != d.id) := by
    rw [dropCall, calls]
  rw [fail.eq_def]
  split
  · exact bypassesSpares (stopBypasses apart _)
  · exact leftSpares member apart left rfl
  · exact leftSpares member apart left rfl

theorem resumeSpares (apart : other ≠ c.id) (calm : s.releases (.resume other) = false) :
    (s.resume other).Spares s c m := by
  rw [releases] at calm
  rw [resume]
  cases found : s.call? other with
  | none => exact bypassesSpares ⟨rfl, rfl⟩
  | some d =>
    obtain ⟨member, rfl⟩ := callMember found
    dsimp only
    split
    · rename_i ended
      simp [found, ended] at calm
    · obtain ⟨calls, pending, _⟩ := completeRest s d _
      exact leftSpares member apart calls pending
    · exact failSpares member apart _
    · rw [giveUp.eq_def]
      split
      · exact bypassesSpares (stopBypasses apart _)
      · exact failSpares member apart _
    · split
      · refine bypassesSpares (changeBypasses apart ?_ _)
        exact fun _ => rfl
      · exact bypassesSpares ⟨rfl, rfl⟩

theorem beginLeaves (apart : other ≠ id) (command : Command) (answer : Broker.Answer) :
    (s.begin other answer command).state.call? id = s.call? id := by
  have asked (asks : command.acknowledged = true) :
      (s.begin other answer command).state.call? id = s.call? id := by
    cases beginBegun asks other answer with
    | refused calls => exact callLeft calls apart
    | waits _ _ calls => exact callJoined calls apart
  cases command with
  | connect => exact (connectBypasses apart answer).call
  | close => exact (closeBypasses apart).call
  | _ => exact asked rfl

theorem beginSpares (apart : other ≠ c.id) {command : Command} {answer : Broker.Answer}
    (timed : s.isAvailable = true → s.options.patience.fault? = none)
    (free : c.future.isOpen = true →
      ∀ new ∈ (s.begin other answer command).state.calls, new.id = other → new.message ≠ some m) :
    (s.begin other answer command).Spares s c m := by
  refine ⟨beginLeaves apart command answer, fun opened owns key => ?_⟩
  have kept (same : (s.begin other answer command).state.pending = s.pending) :
      (s.begin other answer command).state.owner? key = some c.id ↔ key = m := by
    rw [owner?, same]
    exact owns.owner key
  have asked (asks : command.acknowledged = true) :
      (s.begin other answer command).state.owner? key = some c.id ↔ key = m := by
    cases beginBegun asks other answer with
    | refused _ _ _ _ same _ => exact kept (same timed)
    | @waits purpose _ _ calls pending _ _ _ =>
      have differs : answer.message ≠ m := fun same =>
        free opened _ (by rw [calls]; exact List.mem_append_right _ (List.mem_singleton_self _)) rfl
          (congrArg some same)
      rw [owner?, pending, findPut]
      split
      · rename_i here
        exact iff_of_false (by simpa using apart) (here ▸ differs)
      · exact owns.owner key
  cases command with
  | connect => exact kept (connectBypasses apart answer).pending
  | close => exact kept (closeBypasses apart).pending
  | _ => exact asked rfl

theorem Traced.spared (traced : s.Traced c m) (spares : t.Spares s c m) :
    t.Guides s c c m c.wait where
  call := spares.call.trans traced.found
  id := rfl
  purpose := rfl
  message := rfl
  wait := rfl
  opened := fun opened => opened
  owner := spares.owner
  tells := .inl

theorem settleWakes (found : s.call? c.id = some c) (running : c.ending = none)
    (waits : c.wait = .waiting false) (answer : Except BusError Answer) :
    .woken c.id ∈ (s.settle c.id answer).outputs := by
  obtain ⟨opened, unexpired⟩ := Call.waiting waits
  rw [settle, found]
  simp [opened, unexpired, running, Future.isOpen]

theorem messageWakes (found : s.call? c.id = some c) (running : c.ending = none)
    (waits : c.wait = .waiting false) (owned : s.owner? m = some c.id)
    (answer : Except BusError Answer) : .woken c.id ∈ (s.settleMessage m answer).outputs := by
  obtain ⟨entry, first, own⟩ := Option.map_eq_some_iff.mp owned
  rw [settleMessage, first]
  dsimp only
  rw [own]
  exact settleWakes found running waits answer

theorem heardWakes (found : s.call? c.id = some c) (running : c.ending = none)
    (waits : c.wait = .waiting false) {signal : Broker.Signal}
    {answer : Except BusError Answer} (heard : s.heard c.id signal = some answer) :
    (s.handle signal).Tells c.id := by
  cases signal with
  | acknowledged message reasons =>
    rw [State.heard] at heard
    exact .inl (messageWakes found running waits (Option.ite_none_right_eq_some.mp heard).1 _)
  | published message reason =>
    rw [State.heard] at heard
    exact .inl (messageWakes found running waits (Option.ite_none_right_eq_some.mp heard).1 _)
  | _ => contradiction

theorem timesTells (found : s.call? c.id = some c) (running : c.ending = none)
    (waits : c.wait = .waiting false) (other : CallId) :
    (times other c).wait = .waiting false ∨ (s.expire other).Tells c.id := by
  by_cases own : other = c.id
  · obtain ⟨opened, unexpired⟩ := Call.waiting waits
    refine .inr (.inr ?_)
    rw [own, expire, found]
    simp [opened, unexpired, running, Future.isOpen]
  · refine .inl ?_
    rw [times, if_neg fun both => own both.1]
    exact waits

theorem Traced.heard (traced : s.Traced c m) (consistent : s.Consistent)
    (signal : Broker.Signal) : ∃ after, (s.handle signal).Guides s c after m
      (c.wait.next m c.id (.handle signal)) := by
  obtain ⟨member, _⟩ := callMember traced.found
  have apart : s.connecting ≠ some c.id := fun current => by
    have connects := consistent.attempt c member current
    simp [traced.asks] at connects
  have touches := handleTouches signal apart
  have shut (closed : ¬ c.future.isOpen = true) : s.hears c.id signal c = c := by
    rw [hears]
    split
    · exact if_neg closed
    · rfl
  have advances : c.Advances (s.hears c.id signal c) (.handle signal) := by
    by_cases opened : c.future.isOpen = true
    · exact hearsAdvances traced.awaited (heardOwned (traced.owns opened).owner signal)
    · rw [shut opened]
      refine Call.unmoved fun m _ => ?_
      have unwaiting := Call.shutWait (c := c) (by simpa using opened)
      cases waits : c.wait <;> first | rfl | exact absurd waits (unwaiting _)
  refine ⟨s.hears c.id signal c, ⟨?_, advances.id, advances.purpose, advances.message,
    advances.wait m traced.awaited, fun opened => ?_, fun _ owns other => ?_, fun waits => ?_⟩⟩
  · rw [touches.call, traced.found]
    rfl
  · by_contra closed
    rw [shut closed] at opened
    exact closed opened
  · rw [owner?, show (s.handle signal).state.pending = s.pending from
      congrArg Ledger.pending touches.bare]
    exact owns.owner other
  · rw [waits, Wait.next]
    cases heard : answerTo m signal with
    | none => exact .inl rfl
    | some answer =>
      have owns := traced.owns (by rw [(Call.waiting waits).1]; rfl)
      exact .inr (heardWakes traced.found (consistent.running c member traced.asks) waits
        ((heardOwned owns.owner signal).trans heard))

theorem Traced.timed (traced : s.Traced c m) (consistent : s.Consistent) (other : CallId) :
    ∃ after, (s.expire other).Guides s c after m (c.wait.next m c.id (.expire other)) := by
  obtain ⟨member, _⟩ := callMember traced.found
  have running := consistent.running c member traced.asks
  have touches := expireTouches s other c.id
  have advances := timesAdvances running other
  refine ⟨times other c, ⟨?_, advances.id, advances.purpose, advances.message,
    advances.wait m traced.awaited, fun opened => ?_, fun _ owns key => ?_, fun waits => ?_⟩⟩
  · rw [touches.call, traced.found]
    rfl
  · rw [times] at opened
    split at opened <;> exact opened
  · rw [owner?, show (s.expire other).state.pending = s.pending from
      congrArg Ledger.pending touches.bare]
    exact owns.owner key
  · exact (timesTells traced.found running waits other).imp_left
      (advances.wait m traced.awaited).symm.trans

theorem settledShut (answer : Except BusError Answer) (c : Call) :
    (settled answer c).future.isOpen = false := by
  rw [settled]
  split
  · rfl
  · rename_i shut
    simpa using shut

theorem settledTwice (answer : Except BusError Answer) (c : Call) :
    settled answer (settled answer c) = settled answer c :=
  if_neg (by simp [settledShut answer c])

theorem settledSame (answer : Except BusError Answer) (c : Call) :
    (settled answer c).id = c.id ∧ (settled answer c).purpose = c.purpose ∧
      (settled answer c).message = c.message ∧ (settled answer c).ending = c.ending := by
  rw [settled]
  split <;> exact ⟨rfl, rfl, rfl, rfl⟩

theorem settlesEach (answer : Except BusError Answer) (entries : List (Int × CallId))
    (found : t.state.call? c.id = some c) (running : c.ending = none) :
    let u := entries.foldl (fun t entry => t.andThen (·.settle entry.2 answer)) t
    u.state.call? c.id = some (if c.id ∈ entries.map Prod.snd then settled answer c else c) ∧
      (t.Tells c.id ∨ c.wait = .waiting false ∧ c.id ∈ entries.map Prod.snd → u.Tells c.id) := by
  induction entries generalizing t c with
  | nil => exact ⟨by simpa using found, fun told => told.elim id fun listed => by simp at listed⟩
  | cons entry rest ih =>
    have touches := settleTouches t.state entry.2 c.id answer
    have next := touches.call
    rw [found, Option.map_some] at next
    by_cases own : entry.2 = c.id
    · rw [if_pos own] at next
      obtain ⟨id, _, _, ending⟩ := settledSame answer c
      rw [← id] at next
      obtain ⟨last, told⟩ := ih (t := t.andThen (·.settle entry.2 answer)) next
        (ending.trans running)
      rw [settledTwice, ite_self, id] at last
      rw [id] at told
      have listed : c.id ∈ (entry :: rest).map Prod.snd := by simp [own]
      rw [if_pos listed]
      refine ⟨last, fun before => told (.inl (Turn.tellsThen.mpr ?_))⟩
      refine before.imp_right fun waits => .inl ?_
      rw [own]
      exact settleWakes found running waits.1 answer
    · rw [if_neg own] at next
      obtain ⟨last, told⟩ := ih (t := t.andThen (·.settle entry.2 answer)) next running
      have listed : c.id ∈ (entry :: rest).map Prod.snd ↔ c.id ∈ rest.map Prod.snd := by
        simp [Ne.symm own]
      simp only [listed]
      exact ⟨last, fun before => told (before.imp_left fun told => Turn.tellsThen.mpr (.inl told))⟩

theorem settledWait (c : Call) : (settled (.error .notAvailable) c).wait = c.wait.released := by
  obtain ⟨id, purpose, message, future, expired, ending⟩ := c
  cases future <;> rfl

theorem releaseReaches (found : s.call? c.id = some c) (running : c.ending = none) :
    s.release.state.call? c.id = some (if c.id ∈ s.pending.map Prod.snd
        then settled (.error .notAvailable) c else c) ∧
      (c.wait = .waiting false → c.id ∈ s.pending.map Prod.snd → s.release.Tells c.id) := by
  obtain ⟨last, told⟩ := settlesEach (.error .notAvailable) s.pending (t := s.quiet) found running
  exact ⟨last, fun waits listed => Turn.tellsThen.mpr (.inl (told (.inr ⟨waits, listed⟩)))⟩

theorem releasesTurn (frees : s.releases (.resume other) = true) :
    ∃ ending, s.resume other = s.release.andThen (·.conclude other ending) := by
  obtain ⟨d, found, ended⟩ := (Option.any_eq_true ..).mp frees
  obtain ⟨ending, ends⟩ := Option.isSome_iff_exists.mp ended
  refine ⟨ending, ?_⟩
  rw [resume, found]
  simp only [ends]

theorem Traced.freed (traced : s.Traced c m) (running : c.ending = none) :
    ∃ after, s.release.Guides s c after m c.wait.released := by
  obtain ⟨last, told⟩ := releaseReaches traced.found running
  have listed (opened : c.future.isOpen = true) : c.id ∈ s.pending.map Prod.snd := by
    obtain ⟨entry, first, own⟩ :=
      Option.map_eq_some_iff.mp (((traced.owns opened).owner m).mpr rfl)
    exact List.mem_map.mpr ⟨entry, List.mem_of_find?_eq_some first, own⟩
  have call : s.release.state.call? c.id = some (settled (.error .notAvailable) c) := by
    refine last.trans (congrArg some ?_)
    split
    · rfl
    · rename_i absent
      exact (if_neg fun opened => absent (listed opened)).symm
  obtain ⟨id, purpose, message, _⟩ := settledSame (.error .notAvailable) c
  have shut := settledShut (.error .notAvailable) c
  refine ⟨_, ⟨call, id, purpose, message, settledWait c, ?_, ?_, fun waits => ?_⟩⟩
  · simp [shut]
  · simp [shut]
  · exact .inr (told waits (listed (by rw [(Call.waiting waits).1]; rfl)))

theorem Traced.goesOn (traced : s.Traced c m) (consistent : s.Consistent) :
    s.Carries c m (.resume c.id) (s.resume c.id) := by
  obtain ⟨member, _⟩ := callMember traced.found
  have running := consistent.running c member traced.asks
  have next : s.onward m c.id (.resume c.id) c.wait = c.wait.next m c.id (.resume c.id) := by
    rw [onward, releases, traced.found, Option.any_some, running]
    rfl
  have awaits : c.message.isSome = c.purpose.acknowledged := by
    rw [traced.awaited, traced.asks]
    rfl
  rw [resume, traced.found]
  simp only [running]
  cases future : c.future with
  | settled answer =>
    have finished : c.wait.next m c.id (.resume c.id) = .finished (some answer) := by
      simp [Call.wait, future, Future.wait, Wait.next]
    cases answer with
    | ok answer =>
      obtain ⟨result, ends, returns⟩ := s.completeEnds awaits answer
      exact .returns rfl finished (returns m traced.awaited) ends.results
    | error e => exact .returns rfl finished (returnsError m _ e) (failReturns traced.asks e)
  | cancelled =>
    have finished : c.wait.next m c.id (.resume c.id) = .finished none := by
      simp [Call.wait, future, Future.wait, Wait.next]
    dsimp only
    rw [giveUpFails traced.asks traced.awaited]
    exact .returns rfl finished (returnsNone m _) (failReturns traced.asks _)
  | «open» =>
    dsimp only
    split
    · rename_i expired
      let f : Call → Call := fun c => { c with future := .cancelled }
      have call : (s.changeCall c.id f).call? c.id = some (f c) := by
        rw [callChanged s c.id c.id (f := f) fun _ => rfl, traced.found]
        simp
      have shut : (f c).future.isOpen = false := rfl
      refine .stays (d := f c) ⟨call, rfl, rfl, rfl, ?_, by simp [shut], by simp [shut], fun _ => ?_⟩
      · rw [next]
        simp [f, Call.wait, future, expired, Future.wait, Wait.next]
      · exact .inr (.inl (List.mem_singleton_self _))
    · rename_i unexpired
      have still : s.onward m c.id (.resume c.id) c.wait = c.wait := by
        rw [next]
        simp [Call.wait, future, unexpired, Future.wait, Wait.next]
      refine .stays (d := c) ?_
      rw [still]
      exact traced.spared (bypassesSpares ⟨rfl, rfl⟩)

theorem Traced.others (traced : s.Traced c m) (consistent : s.Consistent) (apart : other ≠ c.id) :
    s.Carries c m (.resume other) (s.resume other) := by
  obtain ⟨member, _⟩ := callMember traced.found
  have running := consistent.running c member traced.asks
  cases frees : s.releases (.resume other) with
  | true =>
    obtain ⟨ending, turn⟩ := releasesTurn frees
    obtain ⟨after, guides⟩ := traced.freed running
    refine .stays (d := after) ?_
    rw [onward, if_pos frees, turn]
    exact guides.thenBypasses (concludeBypasses apart ending)
  | false =>
    have still : s.onward m c.id (.resume other) c.wait = c.wait := by
      rw [onward, frees, Wait.nextOther apart]
      rfl
    refine .stays (d := c) ?_
    rw [still]
    exact traced.spared (resumeSpares apart frees)

def Yields (s : State) (action : Action) (t : Turn) : Prop :=
  ∀ id ∈ action.begun?, ∀ c ∈ t.state.calls, c.id = id →
    ∀ m ∈ c.message, ∀ other ∈ s.calls, other.message ≠ some m

theorem Traced.next (traced : s.Traced c m) (consistent : s.Consistent)
    (fresh : ∀ id, action.begun? = some id → ¬ s.Uses id)
    (timed : s.isAvailable = true → s.options.patience.fault? = none)
    (yields : c.future.isOpen = true → s.Yields action (step s action)) :
    s.Carries c m action (step s action) := by
  obtain ⟨member, _⟩ := callMember traced.found
  have stays (still : s.onward m c.id action c.wait = c.wait)
      (spares : (step s action).Spares s c m) :
      s.Carries c m action (step s action) := by
    refine .stays (d := c) ?_
    rw [still]
    exact traced.spared spares
  cases action with
  | begin id command answer =>
    have apart : id ≠ c.id := by
      rintro rfl
      exact fresh c.id rfl (.inl ⟨c, member, rfl⟩)
    refine stays (Wait.nextBegun _ _) (beginSpares apart timed fun opened new joined own awaited => ?_)
    exact yields opened id rfl new joined own m awaited c member traced.awaited
  | handle signal =>
    obtain ⟨after, guides⟩ := traced.heard consistent signal
    exact .stays guides
  | expire id =>
    obtain ⟨after, guides⟩ := traced.timed consistent id
    exact .stays guides
  | resume id =>
    by_cases own : id = c.id
    · rw [own]
      exact traced.goesOn consistent
    · exact traced.others consistent own
  | deliver n behaviour =>
    exact stays (Wait.nextDelivered ..) (keepsSpares (receivedKeeps s behaviour n))
  | route command => exact stays (by cases c.wait <;> rfl) (keepsSpares (routeKeeps s command))

theorem Traced.guided {after : Call} {w : Wait} (traced : s.Traced c m)
    (yields : c.future.isOpen = true → s.Yields action (step s action))
    (guides : (step s action).Guides s c after m w) :
    (step s action).state.Traced after m ∧
      (step s action).resultsOf c.id = [] := by
  obtain ⟨member, _⟩ := callMember traced.found
  have alters := s.stepAlters action
  refine ⟨⟨guides.id ▸ guides.call, guides.message.trans traced.awaited,
    guides.purpose ▸ traced.asks, fun opened => ?_⟩, ?_⟩
  · have before := guides.opened opened
    have owns := traced.owns before
    rw [guides.id]
    refine ⟨guides.owner opened owns, fun e inside awaited => ?_⟩
    rcases alters.entered inside with old | new
    · exact owns.alone e old awaited
    · obtain ⟨other, there, rfl⟩ := List.mem_map.mp inside
      exact absurd traced.awaited (yields before _ new other there rfl m awaited c member)
  · exact Turn.resultsOfOthers fun result returned =>
      (alters.returns returned).2 ⟨after, (callMember guides.call).1, guides.id⟩

/- What a step makes of a call that asks, unless it goes on itself. A release reaches it through
what is pending for it, and so does an answer. -/
def touched (s : State) (action : Action) (c : Call) : Call :=
  match action with
  | .handle signal => s.hears c.id signal c
  | .expire other => times other c
  | .resume other =>
      if s.releases (.resume other) = true ∧ c.id ∈ s.pending.map Prod.snd then
        settled (.error .notAvailable) c
      else c
  | _ => c

section touching

variable (consistent : s.Consistent) (found : s.call? c.id = some c)
  (asks : c.purpose.acknowledged = true)
  (fresh : ∀ id, action.begun? = some id → ¬ s.Uses id)
include consistent found asks fresh

theorem stepCall (stays : action ≠ .resume c.id) :
    (step s action).state.call? c.id = some (s.touched action c) := by
  obtain ⟨member, _⟩ := callMember found
  cases action with
  | begin id command answer =>
    refine (beginLeaves ?_ command answer).trans found
    rintro rfl
    exact fresh c.id rfl (.inl ⟨c, member, rfl⟩)
  | handle signal =>
    have apart : s.connecting ≠ some c.id := fun current => by
      have connects := consistent.attempt c member current
      simp [asks] at connects
    exact (handleTouches signal apart).call.trans (by rw [found]; rfl)
  | expire other => exact (expireTouches s other c.id).call.trans (by rw [found]; rfl)
  | resume other =>
    have apart : other ≠ c.id := fun own => stays (own ▸ rfl)
    cases frees : s.releases (.resume other) with
    | true =>
      obtain ⟨ending, turn⟩ := releasesTurn frees
      have reaches := (releaseReaches found (consistent.running c member asks)).1
      rw [step, turn]
      refine (concludeBypasses apart ending).call.trans (reaches.trans (congrArg some ?_))
      exact if_congr (by simp [frees]) rfl rfl
    | false =>
      refine (resumeSpares (c := c) (m := 0) apart frees).call.trans (found.trans ?_)
      simp [touched, frees]
  | deliver m behaviour =>
    exact ((receivedKeeps s behaviour m).touches c.id).call.trans (by rw [found]; rfl)
  | route command => exact ((routeKeeps s command).touches c.id).call.trans (by rw [found]; rfl)

theorem stepTells (waits : c.wait = .waiting false) {after : Call}
    (later : (step s action).state.call? c.id = some after) :
    after.wait = .waiting false ∨ (step s action).Tells c.id := by
  obtain ⟨member, _⟩ := callMember found
  have running := consistent.running c member asks
  by_cases own : action = .resume c.id
  · have still : s.resume c.id = s.quiet := by
      obtain ⟨opened, unexpired⟩ := Call.waiting waits
      rw [resume, found]
      simp [opened, unexpired, running]
    rw [own, step, still] at later
    cases found.symm.trans later
    exact .inl waits
  · cases (stepCall consistent found asks fresh own).symm.trans later
    cases action with
    | handle signal =>
      rw [touched, hears]
      cases heard : s.heard c.id signal with
      | none => exact .inl waits
      | some answer => exact .inr (heardWakes found running waits heard)
    | expire other => exact timesTells found running waits other
    | resume other =>
      rw [touched]
      split
      · rename_i both
        obtain ⟨ending, turn⟩ := releasesTurn both.1
        rw [step, turn]
        exact .inr (Turn.tellsThen.mpr (.inl ((releaseReaches found running).2 waits both.2)))
      · exact .inl waits
    | _ => exact .inl waits

end touching

theorem begunTells (fresh : ∀ id, action.begun? = some id → ¬ s.Uses id)
    (begun : action.begun? = some c.id)
    (member : c ∈ (step s action).state.calls) (asks : c.purpose.acknowledged = true) :
    c.wait = .waiting false ∨ (step s action).Tells c.id := by
  have unused := fresh c.id begun
  have absent : c.entry ∉ s.roster := fun old => unused (.inl (holdsEntry.mpr ⟨c.entry, old, rfl⟩))
  obtain ⟨command, answer, rfl, same, _⟩ :=
    (s.stepAlters action).joined (List.mem_map_of_mem member) absent
  cases beginBegun (same ▸ asks) c.entry.id answer with
  | refused calls =>
    rw [step, calls] at member
    simp [Call.entry] at member
  | @waits purpose _ _ calls pending _ _ _ woken =>
    have own : c = ⟨c.id, purpose, some answer.message, s.options.patience.future, false, none⟩ := by
      rw [step, calls] at member
      rcases List.mem_append.mp member with old | added
      · exact absurd (.inl ⟨c, old, rfl⟩) unused
      · exact List.mem_singleton.mp added
    rw [own]
    cases patience : s.options.patience with
    | none => exact .inr (.inl (woken patience))
    | _ => exact .inl rfl

structure Informed (s : State) (told : CallId → Prop) : Prop where
  consistent : s.Consistent
  awaits : ∀ c ∈ s.calls, c.purpose.acknowledged = true → ∃ m, c.message = some m
  told : ∀ c ∈ s.calls, c.purpose.acknowledged = true → c.wait = .waiting false ∨ told c.id

theorem Informed.next {told : CallId → Prop} (informed : s.Informed told)
    (fresh : ∀ id, action.begun? = some id → ¬ s.Uses id) :
    (step s action).state.Informed fun id => told id ∨ (step s action).Tells id := by
  have consistent := (stepConsistent informed.consistent fresh).1
  have alters := s.stepAlters action
  have entered {c : Call} (member : c ∈ (step s action).state.calls) :
      (∃ old ∈ s.calls, old.id = c.id ∧ old.purpose = c.purpose ∧ old.message = c.message) ∨
        action.begun? = some c.id := by
    refine (alters.entered (List.mem_map_of_mem member)).imp_left fun before => ?_
    obtain ⟨old, inside, same⟩ := List.mem_map.mp before
    simp only [Call.entry, Call.mk.injEq] at same
    exact ⟨old, inside, same.1, same.2.1, same.2.2.1⟩
  refine ⟨consistent, fun c member asks => ?_, fun c member asks => ?_⟩
  · rcases entered member with ⟨old, inside, _, purpose, message⟩ | begun
    · exact message ▸ informed.awaits old inside (purpose ▸ asks)
    · have absent : c.entry ∉ s.roster := fun old =>
        fresh c.id begun (.inl (holdsEntry.mpr ⟨c.entry, old, rfl⟩))
      obtain ⟨_, _, _, _, awaits⟩ := alters.joined (List.mem_map_of_mem member) absent
      exact Option.isSome_iff_exists.mp (awaits.trans asks)
  · rcases entered member with ⟨old, inside, own, purpose, _⟩ | begun
    · have asked : old.purpose.acknowledged = true := purpose ▸ asks
      rw [← own]
      rcases informed.told old inside asked with waits | before
      · have found := informed.consistent.found inside
        have later := consistent.found member
        rw [← own] at later
        exact (stepTells informed.consistent found asked fresh waits later).imp_right .inr
      · exact .inr (.inl before)
    · exact (begunTells fresh begun member asks).imp_right .inr

end State
end TopicRouting.Bus
