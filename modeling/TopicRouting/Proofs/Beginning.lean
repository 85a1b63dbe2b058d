import TopicRouting.Bus.Setup
import TopicRouting.Proofs.Building
import TopicRouting.Proofs.Descent
import TopicRouting.Proofs.Runs

/-! Calls that begin. Each adds at most one call, under its own number, so in a run in which every
call has a number of its own the calls stay apart. -/
namespace TopicRouting.Bus

namespace State

variable {s : State} {id : CallId}

theorem requireIff {label : Label} {pattern : Pattern} : s.require label = .ok pattern ↔
    s.isAvailable = true ∧ s.router.get label = .ok (some pattern) := by
  rw [require]
  cases available : s.isAvailable with
  | false => simp
  | true =>
    cases known : s.router.get label with
    | error e => simp
    | ok found => cases found <;> simp

theorem dropUnknown (unknown : ∀ c ∈ s.calls, c.id ≠ id) : s.dropCall id = s := by
  have kept : s.calls.filter (·.id != id) = s.calls :=
    List.filter_eq_self.mpr fun c member => by simpa using unknown c member
  rw [dropCall, kept]

theorem changeAppended {c : Call} (fresh : ∀ old ∈ s.calls, old.id ≠ c.id) (f : Call → Call) :
    ({ s with calls := s.calls ++ [c] }.changeCall c.id f).calls = s.calls ++ [f c] := by
  have others : s.calls.map (fun old => if old.id == c.id then f old else old) = s.calls := by
    conv_rhs => rw [← List.map_id s.calls]
    refine List.map_congr_left fun old member => ?_
    simp [fresh old member]
  simp only [changeCall, List.map_append, others, List.map_singleton, beq_self_eq_true, if_true]

theorem stopAppended {c : Call} (fresh : ∀ old ∈ s.calls, old.id ≠ c.id) {n : Nat}
    (client : s.client = some n) (ending : Ending) :
    (({ s with calls := s.calls ++ [c] } : State).stopClient c.id ending).state =
      { s with client := none, calls := s.calls ++ [{ c with ending := some ending }] } := by
  rw [stopClient, client]
  have calls := changeAppended (s := { s with client := none }) fresh
    fun c => { c with ending := some ending }
  simp only [changeCall] at calls ⊢
  rw [calls]

theorem waitAppends (s : State) (id : CallId) (purpose : Purpose) (message : Option Int) :
    (s.wait ⟨id, purpose, message, .open, false, none⟩).state = { s with
      calls := s.calls ++ [⟨id, purpose, message, s.options.patience.future, false, none⟩] } := by
  rw [wait]
  cases s.options.patience <;> rfl

theorem putPendingEntries {message : Int} {pending : List (Int × CallId)} {entry : Int × CallId}
    (member : entry ∈ putPending message id pending) : entry ∈ pending ∨ entry.2 = id := by
  induction pending with
  | nil =>
    rw [List.mem_singleton.mp member]
    exact .inr rfl
  | cons first rest ih =>
    rw [putPending] at member
    split at member
    · rcases List.mem_cons.mp member with rfl | later
      · exact .inr rfl
      · exact .inl (List.mem_cons_of_mem _ later)
    · rcases List.mem_cons.mp member with rfl | later
      · exact .inl List.mem_cons_self
      · exact (ih later).imp_left (List.mem_cons_of_mem _)

def Begins (s t : State) (id : CallId) (acknowledged : Bool) : Prop :=
  s.Descends t ∨ ∃ c, c.id = id ∧ c.purpose.acknowledged = acknowledged ∧ s.Adds t c

theorem refusedBegins (s : State) (id : CallId) (acknowledged : Bool) :
    s.Begins (s.dropCall id) id acknowledged := .inl (dropDescends s id)

theorem waitForBegins (s : State) (id : CallId) {purpose : Purpose} (message : Int)
    (asks : purpose.acknowledged = true) :
    s.Begins (s.waitFor id purpose message).state id true := by
  rw [waitFor]
  split
  · refine .inl (finishDescends id ⟨List.Sublist.refl _, ?_, ?_, .inr rfl⟩)
    · exact fun c member => ⟨c, member, rfl, rfl, fun _ => rfl⟩
    · exact fun entry member => (List.mem_filter.mp member).1
  · rw [waitAppends]
    refine .inr ⟨_, rfl, asks, rfl, fun entry member => ?_, .inl rfl, fun _ => rfl, ?_⟩
    · exact (putPendingEntries member).imp_right fun own => ⟨own, asks⟩
    · rintro closes
      rw [show purpose = .close from closes] at asks
      contradiction

theorem subscribeBegins (s : State) (id : CallId) (label : Label) (qos : Option Value)
    (answer : Broker.Answer) : s.Begins (s.subscribe id label qos answer).state id true := by
  rw [subscribe]
  split
  · exact refusedBegins s id true
  · dsimp only
    split
    · exact refusedBegins s id true
    · dsimp only [Turn.andThen, showing]
      split
      · exact refusedBegins s id true
      · split
        · exact refusedBegins s id true
        · exact waitForBegins s id _ rfl

theorem unsubscribeBegins (s : State) (id : CallId) (label : Label) (clears : Bool)
    (answer : Broker.Answer) : s.Begins (s.unsubscribe id label clears answer).state id true := by
  rw [unsubscribe]
  split
  · exact refusedBegins s id true
  · dsimp only
    split
    · exact refusedBegins s id true
    · dsimp only [Turn.andThen, showing]
      split
      · exact refusedBegins s id true
      · exact waitForBegins s id _ rfl

theorem publishBegins (s : State) (id : CallId) (label : Label) (params payload : Value)
    (qos : Option Value) (retain : Value) (answer : Broker.Answer) :
    s.Begins (s.publish id label params payload qos retain answer).state id true := by
  have counted : s.Begins ((s.countFailure label).dropCall id) id true :=
    .inl (finishDescends id (.same rfl rfl rfl))
  rw [publish]
  split
  · exact refusedBegins s id true
  · split
    · exact counted
    · exact refusedBegins s id true
    · split
      · exact refusedBegins s id true
      · dsimp only [Turn.andThen, showing]
        split
        · exact counted
        · exact waitForBegins s id _ rfl

theorem closeBegins (fresh : ∀ c ∈ s.calls, c.id ≠ id) :
    s.Begins (s.close id).state id false := by
  rw [close]
  split
  · rename_i available
    obtain ⟨n, client⟩ := Option.isSome_iff_exists.mp available
    have stopped := stopAppended (s := { s with closing := true }) (c := { id := id, purpose := .close })
      fresh client .closed
    dsimp only [Turn.andThen, showing]
    rw [stopped]
    exact .inr ⟨_, rfl, rfl, rfl, fun _ member => .inl member, .inl rfl,
      by simp [Purpose.acknowledged], fun _ => rfl⟩
  · exact refusedBegins s id false

def prepared (s : State) (id : CallId) : Turn :=
  let attempt : State :=
    { s with created := s.created + 1, client := some s.created, connecting := some id,
             closing := false }
  attempt.showing (s.preparation s.created)
    |>.andThen (·.setStatus .connecting none)
    |>.andThen (fun s =>
      s.say .info "Connecting"
        [(.text "host", .text s.settings.host), (.text "port", .int s.settings.port),
          (.text "client_id", s.options.clientId)])
    |>.andThen (·.showing [s.reach s.created])

theorem connectPrepared (unavailable : ¬ s.isAvailable = true) (id : CallId)
    (answer : Broker.Answer) :
    s.connect id answer = (s.prepared id).andThen (reaching id s.created answer) := by
  rw [connect, if_neg unavailable]
  rfl

theorem preparedState (s : State) (id : CallId) : (s.prepared id).state =
    { s with created := s.created + 1, client := some s.created, connecting := some id,
             closing := false, status := .connecting } := rfl

theorem connectBegins (fresh : ∀ c ∈ s.calls, c.id ≠ id) (answer : Broker.Answer) :
    s.Begins (s.connect id answer).state id false := by
  by_cases available : s.isAvailable = true
  · rw [connect, if_pos available]
    exact refusedBegins s id false
  · rw [connectPrepared available]
    have gives (e : Error) : s.Begins (({ (s.prepared id).state with
        calls := s.calls ++ [{ id := id, purpose := .connect }] } : State).stopClient id
          (.failed e)).state id false := by
      have stopped := stopAppended (s := (s.prepared id).state)
        (c := { id := id, purpose := .connect }) fresh (n := s.created) rfl (.failed e)
      rw [show (s.prepared id).state.calls = s.calls from rfl] at stopped
      rw [stopped]
      exact .inr ⟨_, rfl, rfl, rfl, fun _ member => .inl member, .inr ⟨rfl, rfl⟩,
        by simp [Purpose.acknowledged], by simp⟩
    dsimp only [Turn.andThen, reaching]
    split
    · exact gives _
    · dsimp only [showing]
      split
      · exact gives _
      · rw [waitAppends]
        exact .inr ⟨_, rfl, rfl, rfl, fun _ member => .inl member, .inr ⟨rfl, rfl⟩,
          by simp [Purpose.acknowledged], by simp⟩

theorem beginBegins (fresh : ∀ c ∈ s.calls, c.id ≠ id) (command : Command)
    (answer : Broker.Answer) :
    s.Begins (s.begin id answer command).state id command.acknowledged := by
  cases command with
  | connect => exact connectBegins fresh answer
  | close => exact closeBegins fresh
  | subscribe label qos => exact subscribeBegins s id label qos answer
  | unsubscribe label clears => exact unsubscribeBegins s id label clears answer
  | publish label params payload qos retain =>
    exact publishBegins s id label params payload qos retain answer

theorem stepDescends (consistent : s.Consistent) {action : Action}
    (begun : action.begun? = none) : s.Descends (step s action).state := by
  cases action with
  | begin id command answer => contradiction
  | handle signal => exact handleDescends s signal
  | deliver m behaviour => exact receivedDescends s behaviour m
  | expire id => exact expireDescends s id
  | resume id => exact resumeDescends consistent id
  | route command => exact routeDescends s command

theorem unbegunFresh {action : Action} (begun : action.begun? = none) :
    ∀ id, action.begun? = some id → ¬ s.Uses id := fun id begins => by simp [begun] at begins

theorem stepConsistent (consistent : s.Consistent) {action : Action}
    (fresh : ∀ id, action.begun? = some id → ¬ s.Uses id) :
    (step s action).state.Consistent ∧
      ∀ id, (step s action).state.Uses id → s.Uses id ∨ action.begun? = some id := by
  cases begun : action.begun? with
  | none =>
    have descends := stepDescends consistent begun
    exact ⟨descends.consistent consistent, fun id used => .inl (descends.uses used)⟩
  | some id =>
    cases action with
    | begin new command answer =>
      cases Option.some.inj begun
      have unused := fresh id rfl
      have apart : ∀ c ∈ s.calls, c.id ≠ id := fun c member same => unused (.inl ⟨c, member, same⟩)
      rcases beginBegins apart command answer with descends | ⟨c, rfl, _, adds⟩
      · exact ⟨descends.consistent consistent, fun id used => .inl (descends.uses used)⟩
      · refine ⟨adds.consistent consistent unused, fun id used => ?_⟩
        exact (adds.uses used).imp_right fun own => congrArg some own.symm
    | _ => contradiction

theorem stepPending (consistent : s.Consistent) {action : Action}
    (fresh : ∀ id, action.begun? = some id → ¬ s.Uses id) {entry : Int × CallId}
    (member : entry ∈ (step s action).state.pending) :
    entry ∈ s.pending ∨ action.begun? = some entry.2 := by
  cases begun : action.begun? with
  | none => exact .inl ((stepDescends consistent begun).pending entry member)
  | some id =>
    cases action with
    | begin new command answer =>
      cases Option.some.inj begun
      have apart : ∀ c ∈ s.calls, c.id ≠ id := fun c inside same =>
        fresh id rfl (.inl ⟨c, inside, same⟩)
      rcases beginBegins apart command answer with descends | ⟨c, rfl, _, adds⟩
      · exact .inl (descends.pending entry member)
      · exact (adds.pending entry member).imp_right fun own => congrArg some own.1.symm
    | _ => contradiction

end State

/- A bus that nothing has been asked of yet. -/
structure State.New (s : State) : Prop where
  calls : s.calls = []
  pending : s.pending = []
  connecting : s.connecting = none
  client : s.client = none
  closing : s.closing = false
  status : s.status = .ready

theorem createdMakes {setup : Setup} {env : Environment} {generated : Text} {s : State}
    (created : setup.create env generated = .ok s) :
    ∃ (options : Options) (settings : Broker.Settings) (logger : Logger) (own : LoggedRouter),
      options.timeout = setup.timeout ∧ own.router = {} ∧ s =
        { options := options
          settings := settings
          logger := logger
          routerLogger := (chooseRouter setup.router own).logger
          router := (chooseRouter setup.router own).router } := by
  obtain ⟨settings, _, created⟩ := bindOk.mp created
  cases given : setup.logger with
  | none =>
    simp only [given] at created
    obtain ⟨logger, _, created⟩ := bindOk.mp created
    obtain ⟨routerLogger, _, created⟩ := bindOk.mp created
    cases created
    exact ⟨_, _, _, ⟨{}, routerLogger⟩, rfl, rfl, rfl⟩
  | some own =>
    simp only [given] at created
    obtain ⟨logger, _, created⟩ := bindOk.mp created
    obtain ⟨routerLogger, _, created⟩ := bindOk.mp created
    cases created
    exact ⟨_, _, _, ⟨{}, routerLogger⟩, rfl, rfl, rfl⟩

theorem createdNew {setup : Setup} {env : Environment} {generated : Text} {s : State}
    (created : setup.create env generated = .ok s) : s.New := by
  obtain ⟨_, _, _, _, _, _, rfl⟩ := createdMakes created
  exact ⟨rfl, rfl, rfl, rfl, rfl, rfl⟩

theorem State.New.unused {s : State} (new : s.New) (id : CallId) : ¬ s.Uses id := by
  simp [Uses, new.calls, new.pending, new.connecting]

theorem State.New.consistent {s : State} (new : s.New) : s.Consistent where
  apart := by simp [new.calls]
  pending := by simp [new.pending]
  attempt := by simp [new.calls]
  running := by simp [new.calls]
  closes := by simp [new.calls]

structure Numbered (s : State) (actions : List Action) : Prop where
  distinct : (begun actions).Nodup
  unused : ∀ id ∈ begun actions, ¬ s.Uses id

section runs

variable {s : State}

theorem begunCons (action : Action) (rest : List Action) :
    begun (action :: rest) = action.begun?.toList ++ begun rest := by
  cases begun : action.begun? <;> simp [Bus.begun, begun]

theorem begunAppend (front back : List Action) :
    begun (front ++ back) = begun front ++ begun back := List.filterMap_append

theorem begunMember {actions : List Action} {action : Action} (member : action ∈ actions)
    {id : CallId} (new : action.begun? = some id) : id ∈ begun actions :=
  List.mem_filterMap.mpr ⟨action, member, new⟩

theorem begunOnce {actions : List Action} (distinct : (begun actions).Nodup) {action other : Action}
    (here : action ∈ actions) (there : other ∈ actions) {id : CallId}
    (new : action.begun? = some id) (also : other.begun? = some id) : action = other := by
  induction actions with
  | nil => contradiction
  | cons first rest ih =>
    rw [begunCons] at distinct
    have later := distinct.sublist (List.sublist_append_right ..)
    have apart : first.begun? = some id → id ∉ begun rest := by
      intro begins
      rw [begins] at distinct
      exact (List.nodup_cons.mp distinct).1
    rcases List.mem_cons.mp here with rfl | inside
    · rcases List.mem_cons.mp there with rfl | within
      · rfl
      · exact absurd (begunMember within also) (apart new)
    · rcases List.mem_cons.mp there with rfl | within
      · exact absurd (begunMember inside new) (apart also)
      · exact ih later inside within

theorem Numbered.head {action : Action} {rest : List Action} (numbered : Numbered s (action :: rest))
    {id : CallId} (new : action.begun? = some id) : ¬ s.Uses id :=
  numbered.unused id (by rw [begunCons, new]; exact List.mem_cons_self)

theorem Numbered.tail {action : Action} {rest : List Action} (consistent : s.Consistent)
    (numbered : Numbered s (action :: rest)) : Numbered (step s action).state rest where
  distinct := (begunCons action rest ▸ numbered.distinct).sublist (List.sublist_append_right ..)
  unused := by
    intro id later used
    have uses := (State.stepConsistent consistent fun id new => numbered.head new).2
    rcases uses id used with before | now
    · exact numbered.unused id (by rw [begunCons]; exact List.mem_append_right _ later) before
    · have distinct := numbered.distinct
      rw [begunCons, now] at distinct
      exact (List.nodup_cons.mp distinct).1 later

theorem Numbered.front {front back : List Action} (numbered : Numbered s (front ++ back)) :
    Numbered s front where
  distinct := numbered.distinct.sublist (by rw [begunAppend]; exact List.sublist_append_left ..)
  unused := fun id member => numbered.unused id (by
    rw [begunAppend]
    exact List.mem_append_left _ member)

theorem runConsistent {front back : List Action} (consistent : s.Consistent)
    (numbered : Numbered s (front ++ back)) : (run s front).state.Consistent ∧
      Numbered (run s front).state back := by
  induction front generalizing s with
  | nil => exact ⟨consistent, numbered⟩
  | cons action front ih =>
    rw [runCons]
    exact ih (State.stepConsistent consistent fun id new => numbered.head new).1
      (numbered.tail consistent)

theorem State.New.numbered (new : s.New) {actions : List Action} (distinct : (begun actions).Nodup) :
    Numbered s actions := ⟨distinct, fun id _ => new.unused id⟩

/- What becomes of a new bus over a run in which every call has a number of its own. -/
def State.Reachable (s : State) : Prop :=
  ∃ start actions, start.New ∧ (begun actions).Nodup ∧ (run start actions).state = s

theorem State.Reachable.consistent (reached : s.Reachable) : s.Consistent := by
  obtain ⟨start, actions, new, distinct, rfl⟩ := reached
  have numbered : Numbered start (actions ++ []) := by
    rw [List.append_nil]
    exact new.numbered distinct
  exact (runConsistent new.consistent numbered).1

end runs
end TopicRouting.Bus
