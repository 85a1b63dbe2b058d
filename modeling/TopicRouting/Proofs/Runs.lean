import TopicRouting.Proofs.Moves

/-! Runs of a bus that tear nothing down. In every state on the way the messages that are pending
are those of the calls that wait, each under a number of its own. -/
namespace TopicRouting.Bus

theorem runFrom (t : Turn) (actions : List Action) :
    actions.foldl (fun t action => t.andThen fun s => step s action) t =
      t.andThen fun s => run s actions := by
  have assoc (t : Turn) (f g : State → Turn) :
      (t.andThen f).andThen g = t.andThen fun s => (f s).andThen g := by
    simp [Turn.andThen, List.append_assoc]
  have quietThen (s : State) (f : State → Turn) : s.quiet.andThen f = f s := by
    simp [Turn.andThen, State.quiet]
  induction actions generalizing t with
  | nil => simp [run, Turn.andThen, State.quiet]
  | cons action rest ih =>
    rw [List.foldl_cons, ih, assoc]
    congr 1
    funext s
    rw [run, List.foldl_cons, quietThen, ih]

theorem runCons (s : State) (action : Action) (rest : List Action) :
    run s (action :: rest) = (step s action).andThen fun s => run s rest := by
  have first : s.quiet.andThen (fun s => step s action) = step s action := by
    simp [Turn.andThen, State.quiet]
  rw [run, List.foldl_cons, runFrom, first]

theorem runAppend (s : State) (front back : List Action) :
    run s (front ++ back) = (run s front).andThen fun s => run s back := by
  rw [run, List.foldl_append, runFrom]
  rfl

theorem runThen (s : State) (front : List Action) (action : Action) :
    run s (front ++ [action]) = (run s front).andThen fun s => step s action := by
  rw [run, List.foldl_append]
  rfl

def begun (actions : List Action) : List CallId := actions.filterMap Action.begun?

/- A run that tears nothing down. Each call has a number of its own, and the message that it
waits for is none that another call waits for at that time. -/
def Undisturbed : State → List Action → Prop
  | _, [] => True
  | s, action :: rest =>
      let t := step s action
      (∀ id ∈ action.begun?, id ∉ begun rest ∧ ∀ c ∈ t.state.calls, c.id = id →
        ∀ m ∈ c.message, m ∉ s.pending.map Prod.fst) ∧
      ¬ t.Stops ∧ Undisturbed t.state rest
instance decideUndisturbed : (s : State) → (actions : List Action) →
    Decidable (Undisturbed s actions)
  | _, [] => isTrue trivial
  | s, action :: rest => by
      have := decideUndisturbed (step s action).state rest
      unfold Undisturbed
      infer_instance

namespace Ledger.Orderly

variable {l : Ledger}

theorem advance (orderly : l.Orderly) {f : Call → Call} {action : Action}
    (each : ∀ c ∈ l.calls, c.Advances (f c) action) :
    Orderly { l with calls := l.calls.map f } where
  apart := by
    have same : (l.calls.map f).map Call.id = l.calls.map Call.id := by
      rw [List.map_map]
      exact List.map_congr_left fun c member => (each c member).id
    rw [same]
    exact orderly.apart
  pending := by
    rw [orderly.pending, List.filterMap_map]
    refine List.filterMap_congr fun c member => ?_
    rw [Function.comp_apply, (each c member).id, (each c member).message]
  keys := orderly.keys
  attempt := by
    intro c member current
    obtain ⟨old, inside, rfl⟩ := List.mem_map.mp member
    rw [(each old inside).message]
    exact orderly.attempt old inside (by rwa [(each old inside).id] at current)
  running := by
    intro c member
    obtain ⟨old, inside, rfl⟩ := List.mem_map.mp member
    rw [(each old inside).ending]
    exact orderly.running old inside
  awaits := by
    intro c member
    obtain ⟨old, inside, rfl⟩ := List.mem_map.mp member
    rw [(each old inside).message, (each old inside).purpose]
    exact orderly.awaits old inside
  patient := orderly.patient

theorem without (orderly : l.Orderly) (id : CallId) {attempt : Option CallId}
    (current : attempt = none ∨ attempt = l.connecting) : Orderly { l with
      calls := l.calls.filter (·.id != id)
      pending := l.pending.filter (·.2 != id)
      connecting := attempt } where
  apart := orderly.apart.sublist (List.filter_sublist.map _)
  pending := by
    rw [orderly.pending, List.filter_filterMap, List.filterMap_filter]
    refine List.filterMap_congr fun c _ => ?_
    cases c.message <;> by_cases same : c.id = id <;> simp [same]
  keys := orderly.keys.sublist (List.filter_sublist.map _)
  attempt := by
    intro c member same
    have inside := (List.mem_filter.mp member).1
    rcases current with rfl | rfl
    · contradiction
    · exact orderly.attempt c inside same
  running := fun c member => orderly.running c (List.mem_filter.mp member).1
  awaits := fun c member => orderly.awaits c (List.mem_filter.mp member).1
  patient := by
    intro some
    refine orderly.patient fun none => some ?_
    rw [none]
    rfl

theorem unknown (orderly : l.Orderly) {id : CallId} (fresh : ∀ c ∈ l.calls, c.id ≠ id) :
    l.calls.filter (·.id != id) = l.calls ∧ l.pending.filter (·.2 != id) = l.pending := by
  constructor
  · exact List.filter_eq_self.mpr fun c member => by simpa using fresh c member
  · refine List.filter_eq_self.mpr fun entry member => ?_
    obtain ⟨c, inside, _, same⟩ := orderly.owner.mp member
    have other : entry.2 ≠ id := same ▸ fresh c inside
    simpa using other

theorem join (orderly : l.Orderly) {c : Call} {attempt : Option CallId} {client : Option Nat}
    (fresh : ∀ old ∈ l.calls, old.id ≠ c.id) (idle : l.connecting ≠ some c.id)
    (flight : ∀ m, c.message = some m → m ∉ l.pending.map Prod.fst)
    (running : c.ending = none) (awaits : c.message.isSome = c.purpose.acknowledged)
    (patient : l.options.patience.fault? = none)
    (current : attempt = if c.message = none then some c.id else l.connecting) : Orderly { l with
      calls := l.calls ++ [c]
      pending := l.pending ++ (c.message.map (·, c.id)).toList
      connecting := attempt
      client := client } where
  apart := by
    have new : ∀ id ∈ l.calls.map Call.id, id ≠ c.id := by
      intro id member
      obtain ⟨old, inside, rfl⟩ := List.mem_map.mp member
      exact fresh old inside
    rw [List.map_append, List.nodup_append]
    exact ⟨orderly.apart, List.pairwise_singleton .., by simpa using new⟩
  pending := by
    rw [List.filterMap_append, ← orderly.pending]
    cases message : c.message <;> simp [message]
  keys := by
    cases message : c.message with
    | none => simpa using orderly.keys
    | some m =>
      have new : ∀ key ∈ l.pending.map Prod.fst, key ≠ m := by
        rintro key member rfl
        exact flight key message member
      rw [Option.map_some, Option.toList_some, List.map_append, List.nodup_append]
      exact ⟨orderly.keys, List.pairwise_singleton .., by simpa using new⟩
  attempt := by
    rintro other member same
    rw [show attempt = some other.id from same] at current
    rcases List.mem_append.mp member with old | new
    · split at current
      · exact absurd (Option.some.inj current) (fresh other old)
      · exact orderly.attempt other old current.symm
    · rw [List.mem_singleton.mp new] at current ⊢
      split at current
      · assumption
      · exact absurd current.symm idle
  running := List.forall_mem_append.mpr ⟨orderly.running, by simpa using running⟩
  awaits := List.forall_mem_append.mpr ⟨orderly.awaits, by simpa using awaits⟩
  patient := fun _ => patient

end Ledger.Orderly

def Ledger.Awaits (l : Ledger) (actions : List Action) : Prop :=
  ∀ id ∈ begun actions, (∀ c ∈ l.calls, c.id ≠ id) ∧ l.connecting ≠ some id

theorem putPendingFresh {pending : List (Int × CallId)} {m : Int}
    (fresh : m ∉ pending.map Prod.fst) (id : CallId) :
    State.putPending m id pending = pending ++ [(m, id)] := by
  induction pending with
  | nil => rfl
  | cons entry rest ih =>
    rw [List.map_cons, List.mem_cons, not_or] at fresh
    rw [State.putPending, if_neg (Ne.symm fresh.1), ih fresh.2, List.cons_append]

namespace Moves

variable {s : State} {action : Action} {t : Turn}

theorem awaits {rest : List Action} (moves : Moves s action t)
    (ready : s.ledger.Awaits (action :: rest))
    (apart : ∀ id, action.begun? = some id → id ∉ begun rest) : t.state.ledger.Awaits rest := by
  intro id later
  have before : (∀ c ∈ s.calls, c.id ≠ id) ∧ s.connecting ≠ some id := by
    refine ready id ?_
    rw [begun, List.filterMap_cons]
    split
    · exact later
    · exact List.mem_cons_of_mem _ later
  constructor
  · rintro c member rfl
    rcases moves.calls c member with ⟨old, inside, same⟩ | new
    · exact before.1 old inside same
    · exact apart c.id new later
  · intro current
    rcases moves.connecting with none | same | new
    · rw [show t.state.connecting = some id from current] at none
      contradiction
    · exact before.2 (same.symm.trans current)
    · exact apart id (new.symm.trans current) later

theorem orderly (moves : Moves s action t) (orderly : s.ledger.Orderly) {rest : List Action}
    (ready : s.ledger.Awaits (action :: rest))
    (flight : ∀ id, action.begun? = some id → ∀ c ∈ t.state.calls, c.id = id →
      ∀ m, c.message = some m → m ∉ s.pending.map Prod.fst) : t.state.ledger.Orderly := by
  have fresh {id : CallId} (new : action.begun? = some id) :
      (∀ c ∈ s.calls, c.id ≠ id) ∧ s.connecting ≠ some id :=
    ready id (by simp [begun, new])
  cases moves with
  | advanced advances =>
    obtain ⟨f, changes, each⟩ := advances
    rw [changes.ledger]
    exact orderly.advance each
  | @refused id command answer result started ends =>
    have new : action.begun? = some id := by rw [started]; rfl
    have without := orderly.without id ends.attempt
    rw [(orderly.unknown (fresh new).1).2] at without
    rwa [ends.ledger]
  | @joined c command answer l started joins running awaits start patient calls pending connecting
      options =>
    have new : action.begun? = some c.id := by rw [started]; rfl
    have member : c ∈ t.state.calls := by
      rw [show t.state.calls = _ from congrArg Ledger.calls joins.ledger]
      simp
    have unasked := flight c.id new c member rfl
    have entered : l.pending = s.pending ++ (c.message.map (·, c.id)).toList := by
      rw [pending]
      cases message : c.message with
      | none => simp
      | some m => exact putPendingFresh (unasked m message) c.id
    obtain ⟨known, entries, attempt, client, chosen⟩ := l
    cases calls
    cases options
    cases entered
    rw [joins.ledger]
    exact orderly.join (fresh new).1 (fresh new).2 unasked running awaits patient connecting
  | left member resumed ends returns =>
    rw [ends.ledger]
    rw [leftLedger orderly member] at ends ⊢
    exact orderly.without _ ends.attempt

end Moves

variable {s : State}

theorem undisturbedStep {action : Action} {rest : List Action} (orderly : s.ledger.Orderly)
    (awaits : s.ledger.Awaits (action :: rest))
    (undisturbed : Undisturbed s (action :: rest)) :
    Moves s action (step s action) ∧
      (step s action).state.ledger.Orderly ∧
      (step s action).state.ledger.Awaits rest := by
  obtain ⟨numbers, stands, _⟩ := undisturbed
  have moves := State.stepMoves orderly action stands
  exact ⟨moves, moves.orderly orderly awaits fun id new => (numbers id new).2,
    moves.awaits awaits fun id new => (numbers id new).1⟩

structure State.Idle (s : State) : Prop where
  calls : s.calls = []
  pending : s.pending = []
  connecting : s.connecting = none

theorem State.Idle.orderly {s : State} (idle : s.Idle) : s.ledger.Orderly where
  apart := by simp [State.ledger, idle.calls]
  pending := by simp [State.ledger, idle.calls, idle.pending]
  keys := by simp [State.ledger, idle.pending]
  attempt := by simp [State.ledger, idle.calls]
  running := by simp [State.ledger, idle.calls]
  awaits := by simp [State.ledger, idle.calls]
  patient := fun some => absurd idle.pending some

theorem State.Idle.awaits {s : State} (idle : s.Idle) (actions : List Action) :
    s.ledger.Awaits actions := by
  intro id _
  simp [State.ledger, idle.calls, idle.connecting]

end TopicRouting.Bus
