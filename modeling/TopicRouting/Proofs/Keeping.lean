import TopicRouting.Proofs.Snapshot

/-! What becomes of a registration. It stays with its label through all calls and dispatches until
something takes it away, and none that is made later has its number. -/
namespace TopicRouting.Router.Stage

variable {s : Stage} {label : Label} {g : Registration}

def Drops (r : Router) (label : Label) (g : Registration) : Act → Prop
  | .command command => r.Removes label g command
  | .dispatch message => g.once = true ∧
      ∃ found, r.match? message.topic = some found ∧ label.same found.label = true
  | .edit _ | .proceed | .breakOff => False

def routerAfter (r : Router) : Act → Router
  | .command command => r.turn (.command ⟨.null, .null⟩ command)
  | .dispatch message =>
      match r.match? message.topic with
      | none => r
      | some found => (r.take found.label).2
  | .edit _ | .proceed | .breakOff => r

theorem proceedRouter (s : Stage) : s.proceed.router = s.router := by
  rw [proceed]
  cases s.walks with
  | nil => rfl
  | cons w walks =>
    dsimp only
    split <;> rfl

theorem stepRouter (sound : s.Sound) (act : Act) :
    (s.step act).router = routerAfter s.router act := by
  cases act with
  | command command => exact Cells.applyRouter sound.cells _ command
  | dispatch message =>
    rw [routerAfter]
    cases matched : s.router.match? message.topic with
    | none =>
      rw [dispatchRefuse matched]
      rfl
    | some found =>
      obtain ⟨place, here⟩ := knownPlace sound.cells matched
      rw [dispatchEnter matched here, proceedRouter, enterRouter sound.cells]
  | proceed => exact proceedRouter s
  | edit change =>
    rw [step]
    split <;> rfl
  | breakOff =>
    rw [step]
    split <;> rfl

theorem stepKept (sound : s.Sound) (member : g ∈ s.router.registrations label) {act : Act}
    (stays : ¬ Drops s.router label g act) :
    g ∈ (s.step act).router.registrations label := by
  rw [stepRouter sound]
  cases act with
  | command command =>
    rw [routerAfter, turnRegistrations]
    exact effectKeeps member stays
  | dispatch message =>
    rw [routerAfter]
    cases matched : s.router.match? message.topic with
    | none => exact member
    | some found =>
      dsimp only
      rw [takeRegistrations]
      split
      · refine List.mem_filter.mpr ⟨member, ?_⟩
        cases once : g.once with
        | false => rfl
        | true => exact absurd ⟨once, found, matched, ‹_›⟩ stays
      · exact member
  | edit _ | proceed | breakOff => exact member

theorem stepRegistered (sound : s.Sound) (act : Act) :
    s.router.registered ≤ (s.step act).router.registered := by
  rw [stepRouter sound]
  cases act with
  | command command =>
    obtain ⟨t, represents⟩ := sound.table
    exact (growsTurn 0 represents _ command).registered
  | dispatch message =>
    rw [routerAfter]
    split <;> exact Nat.le_refl _
  | edit _ | proceed | breakOff => exact Nat.le_refl _

theorem stepAdded (sound : s.Sound) {act : Act}
    (member : g ∈ (s.step act).router.registrations label) :
    g ∈ s.router.registrations label ∨ s.router.registered ≤ g.serial := by
  rw [stepRouter sound] at member
  cases act with
  | command command =>
    rw [routerAfter, turnRegistrations] at member
    exact (effectAdds member).imp id fun same => Nat.le_of_eq same.symm
  | dispatch message =>
    rw [routerAfter] at member
    split at member
    · exact .inl member
    · rw [takeRegistrations] at member
      split at member
      · exact .inl (List.mem_filter.mp member).1
      · exact .inl member
  | edit _ | proceed | breakOff => exact .inl member

theorem runKept (sound : s.Sound) (member : g ∈ s.router.registrations label) (acts : List Act) :
    g ∈ (s.run acts).router.registrations label ∨
      ∃ earlier act later, acts = earlier ++ act :: later ∧
        Drops (s.run earlier).router label g act := by
  induction acts generalizing s with
  | nil => exact .inl member
  | cons act acts ih =>
    by_cases dropped : Drops s.router label g act
    · exact .inr ⟨[], act, acts, rfl, dropped⟩
    · rcases ih (sound.step act) (stepKept sound member dropped) with kept | gone
      · exact .inl kept
      · obtain ⟨earlier, other, later, rfl, dropped⟩ := gone
        exact .inr ⟨act :: earlier, other, later, rfl, dropped⟩

theorem runAdded (sound : s.Sound) (acts : List Act)
    (member : g ∈ (s.run acts).router.registrations label) :
    g ∈ s.router.registrations label ∨ s.router.registered ≤ g.serial := by
  induction acts generalizing s with
  | nil => exact .inl member
  | cons act acts ih =>
    rcases ih (sound.step act) member with before | later
    · exact stepAdded sound before
    · exact .inr (Nat.le_trans (stepRegistered sound act) later)

theorem countRegistrations (r : Router) (label : Label) (serial : Nat) :
    (r.registrations label).countP (·.serial == serial) ≤ standing serial r.listeners := by
  rw [registrations]
  induction r.listeners with
  | nil => exact Nat.le_refl _
  | cons entry listeners ih =>
    rw [standingCons, List.find?_cons]
    split
    · exact Nat.le_add_right _ _
    · exact Nat.le_trans ih (Nat.le_add_left _ _)

theorem serialsOfLabel (unrepeated : s.Unrepeated) (label : Label) :
    ((s.router.registrations label).map Registration.serial).Nodup ∧
      ∀ g ∈ s.router.registrations label, g.serial < s.router.registered := by
  have few : ∀ serial, (s.router.registrations label).countP (·.serial == serial) ≤
      if serial < s.router.registered then 1 else 0 := by
    intro serial
    refine Nat.le_trans (countRegistrations s.router label serial) (Nat.le_trans ?_
      (unrepeated serial))
    rw [held, Nat.add_assoc]
    exact Nat.le_add_right _ _
  refine ⟨serialsNodup fun serial => Nat.le_trans (few serial) (by split <;> omega), ?_⟩
  intro g member
  have some : 0 < (s.router.registrations label).countP (·.serial == g.serial) :=
    List.countP_pos_iff.mpr ⟨g, member, by simp⟩
  have bound := few g.serial
  split at bound
  · assumption
  · omega

end TopicRouting.Router.Stage
