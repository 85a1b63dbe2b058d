import TopicRouting.Proofs.Connection

/-! Where the calls of a bus come from. A step lets calls leave, changes how far they have come,
or adds one under the number that it begins. So the numbers stay apart, and what is pending
belongs to calls that wait for an acknowledgement. -/
namespace TopicRouting.Bus

def Command.acknowledged : Command → Bool
  | .connect | .close => false
  | _ => true

namespace State

def Uses (s : State) (id : CallId) : Prop :=
  (∃ c ∈ s.calls, c.id = id) ∨ s.connecting = some id ∨ ∃ entry ∈ s.pending, entry.2 = id

structure Consistent (s : State) : Prop where
  apart : (s.calls.map Call.id).Nodup
  pending : ∀ entry ∈ s.pending, ∀ c ∈ s.calls, c.id = entry.2 → c.purpose.acknowledged = true
  attempt : ∀ c ∈ s.calls, s.connecting = some c.id → c.purpose.acknowledged = false
  running : ∀ c ∈ s.calls, c.purpose.acknowledged = true → c.ending = none
  closes : ∀ c ∈ s.calls, c.purpose = .close → c.ending = some .closed

/- A state without calls that the other does not have. Only an attempt to connect may have begun
to stop its client since. -/
structure Descends (s t : State) : Prop where
  ids : (t.calls.map Call.id).Sublist (s.calls.map Call.id)
  calls : ∀ c ∈ t.calls, ∃ old ∈ s.calls, c.id = old.id ∧ c.purpose = old.purpose ∧
    (old.purpose ≠ .connect → c.ending = old.ending)
  pending : ∀ entry ∈ t.pending, entry ∈ s.pending
  connecting : t.connecting = none ∨ t.connecting = s.connecting

structure Adds (s t : State) (c : Call) : Prop where
  calls : t.calls = s.calls ++ [c]
  pending : ∀ entry ∈ t.pending,
    entry ∈ s.pending ∨ entry.2 = c.id ∧ c.purpose.acknowledged = true
  connecting : t.connecting = s.connecting ∨
    t.connecting = some c.id ∧ c.purpose.acknowledged = false
  running : c.purpose.acknowledged = true → c.ending = none
  closes : c.purpose = .close → c.ending = some .closed

variable {s t : State}

theorem Consistent.sameCall (consistent : s.Consistent) {c other : Call} (here : c ∈ s.calls)
    (there : other ∈ s.calls) (same : c.id = other.id) : c = other :=
  List.inj_on_of_nodup_map consistent.apart here there same

namespace Descends

theorem same (calls : t.calls = s.calls) (pending : t.pending = s.pending)
    (connecting : t.connecting = s.connecting) : s.Descends t where
  ids := by rw [calls]
  calls := fun c member => ⟨c, calls ▸ member, rfl, rfl, fun _ => rfl⟩
  pending := fun entry member => pending ▸ member
  connecting := .inr connecting

theorem trans {middle : State} (first : s.Descends middle) (second : middle.Descends t) :
    s.Descends t where
  ids := second.ids.trans first.ids
  calls := by
    intro c member
    obtain ⟨later, there, id, purpose, ending⟩ := second.calls c member
    obtain ⟨old, inside, oldId, oldPurpose, oldEnding⟩ := first.calls later there
    refine ⟨old, inside, id.trans oldId, purpose.trans oldPurpose, fun other => ?_⟩
    rw [ending (by rwa [oldPurpose]), oldEnding other]
  pending := fun entry member => first.pending entry (second.pending entry member)
  connecting := by
    rcases second.connecting with none | same
    · exact .inl none
    · exact first.connecting.imp same.trans same.trans

theorem uses (descends : s.Descends t) {id : CallId} (used : t.Uses id) : s.Uses id := by
  rcases used with ⟨c, member, rfl⟩ | current | ⟨entry, member, rfl⟩
  · obtain ⟨old, inside, same, _⟩ := descends.calls c member
    exact .inl ⟨old, inside, same.symm⟩
  · rcases descends.connecting with none | same
    · rw [none] at current
      contradiction
    · exact .inr (.inl (same ▸ current))
  · exact .inr (.inr ⟨entry, descends.pending entry member, rfl⟩)

theorem consistent (descends : s.Descends t) (before : s.Consistent) : t.Consistent where
  apart := before.apart.sublist descends.ids
  pending := by
    intro entry member c there same
    obtain ⟨old, inside, id, purpose, _⟩ := descends.calls c there
    rw [purpose]
    exact before.pending entry (descends.pending entry member) old inside (id ▸ same)
  attempt := by
    intro c there current
    obtain ⟨old, inside, id, purpose, _⟩ := descends.calls c there
    rcases descends.connecting with none | same
    · rw [none] at current
      contradiction
    · rw [purpose]
      exact before.attempt old inside (by rw [← same, current, id])
  running := by
    intro c there asks
    obtain ⟨old, inside, _, purpose, ending⟩ := descends.calls c there
    rw [purpose] at asks
    rw [ending (by rintro connects; simp [connects, Purpose.acknowledged] at asks)]
    exact before.running old inside asks
  closes := by
    intro c there closing
    obtain ⟨old, inside, _, purpose, ending⟩ := descends.calls c there
    rw [purpose] at closing
    rw [ending (by simp [closing])]
    exact before.closes old inside closing

end Descends

namespace Adds

variable {c : Call}

theorem uses (adds : s.Adds t c) {id : CallId} (used : t.Uses id) : s.Uses id ∨ id = c.id := by
  rcases used with ⟨other, member, rfl⟩ | current | ⟨entry, member, rfl⟩
  · rw [adds.calls] at member
    rcases List.mem_append.mp member with old | new
    · exact .inl (.inl ⟨other, old, rfl⟩)
    · exact .inr (congrArg Call.id (List.mem_singleton.mp new))
  · rcases adds.connecting with same | ⟨new, _⟩
    · exact .inl (.inr (.inl (same ▸ current)))
    · exact .inr (Option.some.inj (current.symm.trans new))
  · rcases adds.pending entry member with old | ⟨new, _⟩
    · exact .inl (.inr (.inr ⟨entry, old, rfl⟩))
    · exact .inr new

theorem consistent (adds : s.Adds t c) (before : s.Consistent) (fresh : ¬ s.Uses c.id) :
    t.Consistent where
  apart := by
    rw [adds.calls, List.map_append, List.nodup_append]
    refine ⟨before.apart, List.pairwise_singleton .., ?_⟩
    rintro id member _ new rfl
    obtain ⟨old, inside, same⟩ := List.mem_map.mp member
    exact fresh (.inl ⟨old, inside, same.trans (List.mem_singleton.mp new)⟩)
  pending := by
    intro entry member other there same
    rw [adds.calls] at there
    rcases List.mem_append.mp there with old | new
    · rcases adds.pending entry member with known | ⟨own, _⟩
      · exact before.pending entry known other old same
      · exact absurd (.inl ⟨other, old, same.trans own⟩) fresh
    · cases List.mem_singleton.mp new
      rcases adds.pending entry member with known | ⟨_, asks⟩
      · exact absurd (.inr (.inr ⟨entry, known, same.symm⟩)) fresh
      · exact asks
  attempt := by
    intro other there current
    rw [adds.calls] at there
    rcases List.mem_append.mp there with old | new
    · rcases adds.connecting with same | ⟨own, _⟩
      · exact before.attempt other old (same ▸ current)
      · exact absurd (.inl ⟨other, old, Option.some.inj (current.symm.trans own)⟩) fresh
    · cases List.mem_singleton.mp new
      rcases adds.connecting with same | ⟨_, connects⟩
      · exact absurd (.inr (.inl (same ▸ current))) fresh
      · exact connects
  running := by
    rw [adds.calls]
    exact List.forall_mem_append.mpr ⟨before.running, by simpa using adds.running⟩
  closes := by
    rw [adds.calls]
    exact List.forall_mem_append.mpr ⟨before.closes, by simpa using adds.closes⟩

end Adds

theorem changeDescends {id : CallId} {f : Call → Call} (kept : ∀ c ∈ s.calls, c.id = id →
      (f c).id = c.id ∧ (f c).purpose = c.purpose ∧
        (c.purpose ≠ .connect → (f c).ending = c.ending)) : s.Descends (s.changeCall id f) where
  ids := by
    have same : (s.changeCall id f).calls.map Call.id = s.calls.map Call.id := by
      rw [changeCall, List.map_map]
      refine List.map_congr_left fun c member => ?_
      by_cases here : c.id = id
      · simp [here, (kept c member here).1]
      · simp [here]
    rw [same]
  calls := by
    intro c member
    obtain ⟨old, inside, rfl⟩ := List.mem_map.mp member
    refine ⟨old, inside, ?_⟩
    by_cases here : old.id = id
    · rw [if_pos (by simpa using here)]
      exact kept old inside here
    · rw [if_neg (by simpa using here)]
      exact ⟨rfl, rfl, fun _ => rfl⟩
  pending := fun _ member => member
  connecting := .inr rfl

theorem dropDescends (s : State) (id : CallId) : s.Descends (s.dropCall id) where
  ids := List.filter_sublist.map _
  calls := fun c member => ⟨c, (List.mem_filter.mp member).1, rfl, rfl, fun _ => rfl⟩
  pending := fun _ member => member
  connecting := .inr rfl

theorem finishDescends (id : CallId) (same : s.Descends t) : s.Descends (t.dropCall id) :=
  same.trans (dropDescends t id)

theorem finishAttemptDescends (id : CallId) (same : s.Descends t) :
    s.Descends ({ t with connecting := none }.dropCall id) := by
  have freed : t.Descends { t with connecting := none } :=
    ⟨List.Sublist.refl _, fun c member => ⟨c, member, rfl, rfl, fun _ => rfl⟩,
      fun _ member => member, .inl rfl⟩
  exact finishDescends id (same.trans freed)

theorem settleDescends (s : State) (id : CallId) (answer : Except BusError Answer) :
    s.Descends (s.settle id answer).state := by
  rw [settle]
  cases s.call? id with
  | none => exact .same rfl rfl rfl
  | some c =>
    dsimp only
    split
    · exact changeDescends fun _ _ _ => ⟨rfl, rfl, fun _ => rfl⟩
    · exact .same rfl rfl rfl

theorem settleMessageDescends (s : State) (message : Int) (answer : Except BusError Answer) :
    s.Descends (s.settleMessage message answer).state := by
  rw [settleMessage]
  split
  · exact settleDescends s _ answer
  · exact .same rfl rfl rfl

theorem settleAttemptDescends (answer : Except BusError Answer) (same : s.Descends t) :
    s.Descends (t.settleAttempt answer).state := by
  rw [settleAttempt]
  split
  · exact same.trans (settleDescends t _ answer)
  · exact same

theorem releaseKeeps (s : State) (kept : Turn → Prop) (start : kept s.quiet)
    (settles : ∀ t, kept t → ∀ entry ∈ s.pending,
      kept (t.andThen (·.settle entry.2 (.error .notAvailable)))) :
    ∃ t, kept t ∧ s.release = t.andThen fun s => quiet { s with pending := [] } :=
  ⟨_, List.foldlRecOn s.pending _ start settles, rfl⟩

theorem releaseDescends (s : State) : s.Descends s.release.state := by
  obtain ⟨t, same, released⟩ := releaseKeeps s (fun t => s.Descends t.state)
    (.same rfl rfl rfl) fun t same entry _ => same.trans (settleDescends t.state entry.2 _)
  have emptied : t.state.Descends { t.state with pending := [] } :=
    ⟨List.Sublist.refl _, fun c member => ⟨c, member, rfl, rfl, fun _ => rfl⟩,
      fun _ none => absurd none List.not_mem_nil, .inr rfl⟩
  rw [released]
  exact same.trans emptied

theorem concludeDescends (id : CallId) (ending : Ending) (same : s.Descends t) :
    s.Descends (t.conclude id ending).state := by
  rw [conclude.eq_def]
  cases ending with
  | closed => exact finishDescends id (same.trans (.same rfl rfl rfl))
  | timedOut => exact finishAttemptDescends id (same.trans (.same rfl rfl rfl))
  | failed e => exact finishAttemptDescends id same

theorem stopDescends {id : CallId} (ending : Ending)
    (connects : ∀ c ∈ s.calls, c.id = id → c.purpose = .connect) :
    s.Descends (s.stopClient id ending).state := by
  rw [stopClient]
  split
  · exact concludeDescends id ending (.same rfl rfl rfl)
  · have dropped : s.Descends { s with client := none } := .same rfl rfl rfl
    refine dropped.trans (changeDescends fun c member here => ?_)
    exact ⟨rfl, rfl, fun other => absurd (connects c member here) other⟩

theorem forgetDescends (s : State) (c : Call) : s.Descends (s.forget c) := by
  rw [forget]
  split
  · exact ⟨List.Sublist.refl _, fun c member => ⟨c, member, rfl, rfl, fun _ => rfl⟩,
      fun _ member => (List.mem_filter.mp member).1, .inr rfl⟩
  · exact .same rfl rfl rfl

theorem completeDescends (s : State) (c : Call) (answer : Answer) :
    s.Descends (s.complete c answer).state := by
  have forgot := forgetDescends s c
  rw [complete.eq_def]
  split
  · split
    · exact finishAttemptDescends c.id forgot
    · exact finishAttemptDescends c.id forgot
  · exact finishDescends c.id forgot
  · exact finishDescends c.id (forgot.trans (.same rfl rfl rfl))
  · dsimp only
    split
    · exact finishDescends c.id forgot
    · split
      · exact finishDescends c.id (forgot.trans (.same rfl rfl rfl))
      · exact finishDescends c.id (forgot.trans (.same rfl rfl rfl))
  · exact finishDescends c.id (forgot.trans (.same rfl rfl rfl))

theorem failDescends (consistent : s.Consistent) {c : Call} (member : c ∈ s.calls) (e : BusError) :
    s.Descends (s.fail c e).state := by
  have forgot := forgetDescends s c
  rw [fail.eq_def]
  split
  · rename_i connects
    exact stopDescends _ fun other there same => by
      rw [consistent.sameCall there member same, connects]
  · exact finishDescends c.id (forgot.trans (.same rfl rfl rfl))
  · exact finishDescends c.id forgot

theorem giveUpDescends (consistent : s.Consistent) {c : Call} (member : c ∈ s.calls) :
    s.Descends (s.giveUp c).state := by
  rw [giveUp.eq_def]
  split
  · rename_i connects
    exact stopDescends _ fun other there same => by
      rw [consistent.sameCall there member same, connects]
  · exact failDescends consistent member _

theorem resumeDescends (consistent : s.Consistent) (id : CallId) :
    s.Descends (s.resume id).state := by
  rw [resume]
  cases found : s.call? id with
  | none => exact .same rfl rfl rfl
  | some c =>
    obtain ⟨member, rfl⟩ := callMember found
    dsimp only
    split
    · exact concludeDescends c.id _ (releaseDescends s)
    · exact completeDescends s c _
    · exact failDescends consistent member _
    · exact giveUpDescends consistent member
    · split
      · exact changeDescends fun _ _ _ => ⟨rfl, rfl, fun _ => rfl⟩
      · exact .same rfl rfl rfl

theorem expireDescends (s : State) (id : CallId) : s.Descends (s.expire id).state := by
  rw [expire]
  split
  · exact .same rfl rfl rfl
  · split
    · exact changeDescends fun _ _ _ => ⟨rfl, rfl, fun _ => rfl⟩
    · exact .same rfl rfl rfl

theorem handleDescends (s : State) (signal : Broker.Signal) :
    s.Descends (s.handle signal).state := by
  cases signal with
  | connected reason =>
    rw [handle, handleConnected]
    split
    · exact settleAttemptDescends _ (.same rfl rfl rfl)
    · show s.Descends (if _ then _ else _ : Turn).state
      split
      · exact settleAttemptDescends _ (.same rfl rfl rfl)
      · split
        · exact .same rfl rfl rfl
        · exact .same rfl rfl rfl
  | connectFailed => exact settleAttemptDescends _ (.same rfl rfl rfl)
  | disconnected reason =>
    rw [handle, handleDisconnected]
    split
    · exact .same rfl rfl rfl
    · exact .same rfl rfl rfl
  | acknowledged message reasons => exact settleMessageDescends s message _
  | published message reason => exact settleMessageDescends s message _

theorem receivedDescends (s : State) (behaviour : Router.Behaviour) (m : Message) :
    s.Descends (s.handleReceived behaviour m).state := by
  cases s.receives behaviour m with
  | unread fails turn =>
    rw [turn]
    exact .same rfl rfl rfl
  | routed decoded routing turn =>
    rw [turn]
    exact .same rfl rfl rfl
  | broken decoded routing breaks turn =>
    rw [turn]
    exact .same rfl rfl rfl

theorem routeDescends (s : State) (command : Router.Command) :
    s.Descends (step s (.route command)).state := by
  rw [step, route]
  cases s.router.run s.routerLogger command with
  | error e => exact .same rfl rfl rfl
  | ok result => exact .same rfl rfl rfl

end State
end TopicRouting.Bus
