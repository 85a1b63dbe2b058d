import TopicRouting.Proofs.Registrations

/-! The numbers of registrations. A command gives out the next number at most once, so that no
number stands in the lists of a router twice; what a message takes along is not left with it. -/
namespace TopicRouting.Router

variable {r : Router} {t : Table} (serial : Nat)

def standing (listeners : List (Label × List Registration)) : Nat :=
  (listeners.flatMap (·.2)).countP (·.serial == serial)

def standsOnce (registrations : List Registration) : Nat :=
  registrations.countP fun g => g.once && g.serial == serial

theorem standingCons (entry : Label × List Registration)
    (listeners : List (Label × List Registration)) :
    standing serial (entry :: listeners) =
      entry.2.countP (·.serial == serial) + standing serial listeners := by
  rw [standing, List.flatMap_cons, List.countP_append, standing]

theorem standingFewer (listeners : List (Label × List Registration))
    {f : Label × List Registration → List Registration}
    (fewer : ∀ entry, (f entry).Sublist entry.2) :
    standing serial (listeners.map fun entry => (entry.1, f entry)) ≤
      standing serial listeners := by
  induction listeners with
  | nil => exact Nat.le_refl _
  | cons entry listeners ih =>
    have shorter := (fewer entry).countP_le (p := fun g => g.serial == serial)
    rw [List.map_cons, standingCons, standingCons]
    dsimp only
    omega

theorem standingUnder (listeners : List (Label × List Registration)) (l : Label)
    {f : List Registration → List Registration}
    (fewer : ∀ registrations, (f registrations).Sublist registrations) :
    standing serial (listeners.map fun entry =>
        (entry.1, if entry.1.same l then f entry.2 else entry.2)) ≤
      standing serial listeners := by
  refine standingFewer serial listeners fun entry => ?_
  split
  · exact fewer entry.2
  · exact List.Sublist.refl _

theorem standingFilter (listeners : List (Label × List Registration))
    (keep : Label × List Registration → Bool) :
    standing serial (listeners.filter keep) ≤ standing serial listeners := by
  induction listeners with
  | nil => exact Nat.le_refl _
  | cons entry listeners ih =>
    rw [List.filter_cons, standingCons]
    split
    · rw [standingCons]
      omega
    · omega

theorem standingListen (represents : Represents r t) (l : Label) (g : Registration) :
    standing serial (r.change l (· ++ [g])).listeners ≤
      standing serial r.listeners + if g.serial = serial then 1 else 0 := by
  rcases standsOrMissing represents.distinct l with missing | ⟨front, row, back, stands⟩
  · have same : (r.change l (· ++ [g])).listeners = r.listeners := by
      rw [changedListeners, represents.listeners, List.map_map]
      refine List.map_congr_left fun row member => ?_
      have away : row.label.same l = false := missing row member
      simp [Row.listened, away]
    rw [same]
    exact Nat.le_add_right _ _
  · have changed := (changeStanding represents stands (· ++ [g])).listeners
    rw [changed, represents.listeners, stands.rows]
    simp [standing, Row.listened, Row.change, List.countP_cons]
    omega

theorem countByKind (registrations : List Registration) :
    registrations.countP (·.serial == serial) =
      (registrations.filter (!·.once)).countP (·.serial == serial) +
        standsOnce serial registrations := by
  induction registrations with
  | nil => rfl
  | cons g registrations ih =>
    rw [standsOnce] at ih ⊢
    cases once : g.once <;> simp [List.countP_cons, once, ih] <;> omega

theorem standingTake (r : Router) (l : Label) :
    standing serial (r.take l).2.listeners + standsOnce serial (r.registrations l) ≤
      standing serial r.listeners := by
  rw [take, changedListeners, registrations]
  induction r.listeners with
  | nil => simp [standing, standsOnce]
  | cons entry listeners ih =>
    rw [List.map_cons, standingCons, standingCons, List.find?_cons]
    cases here : entry.1.same l with
    | false =>
      simp only [Bool.false_eq_true, if_false]
      omega
    | true =>
      have divided := countByKind serial entry.2
      have others := standingUnder serial listeners l (f := (·.filter (!·.once)))
        fun _ => List.filter_sublist
      simp only [if_true, Option.map_some, Option.getD_some]
      omega

structure Grows (r after : Router) : Prop where
  registered : r.registered ≤ after.registered
  standing : standing serial after.listeners ≤ standing serial r.listeners +
    if r.registered ≤ serial ∧ serial < after.registered then 1 else 0

theorem growsFewer {after : Router} (registered : after.registered = r.registered)
    (fewer : standing serial after.listeners ≤ standing serial r.listeners) :
    Grows serial r after :=
  ⟨Nat.le_of_eq registered.symm, Nat.le_add_right_of_le fewer⟩

theorem growsStill (r : Router) : Grows serial r r := growsFewer serial rfl (Nat.le_refl _)

theorem growsChange (r : Router) (l : Label) (missing : LabelError)
    {f : List Registration → List Registration}
    (fewer : ∀ registrations, (f registrations).Sublist registrations) :
    Grows serial r (r.orStay (if r.has l then .ok (r.change l f) else .error missing)) := by
  cases r.has l with
  | false => exact growsStill serial r
  | true => exact growsFewer serial rfl (standingUnder serial r.listeners l fewer)

theorem growsListen (represents : Represents r t) (l : Label) (listener : ListenerId)
    (once : Bool) : Grows serial r (r.orStay (r.listen l listener once)) := by
  rw [listen]
  cases r.has l with
  | false => exact growsStill serial r
  | true =>
    refine ⟨Nat.le_succ _, ?_⟩
    have added := standingListen serial represents l ⟨listener, once, r.registered⟩
    refine Nat.le_trans added (Nat.add_le_add_left ?_ _)
    change (if r.registered = serial then 1 else 0) ≤
      if r.registered ≤ serial ∧ serial < r.registered + 1 then 1 else 0
    split <;> split <;> omega

theorem growsAdd (r : Router) (l : Label) (given : Value) :
    Grows serial r (r.addGiven l given) := by
  rw [addGiven]
  cases Pattern.ofValue given with
  | error e => exact growsStill serial r
  | ok pattern =>
    dsimp only
    rw [set]
    cases r.has l with
    | true => exact growsStill serial r
    | false => exact growsFewer serial rfl (by simp [orStay, standing])

theorem growsTurn (represents : Represents r t) (logger : Logger) (command : Command) :
    Grows serial r (r.turn (.command logger command)) := by
  cases command with
  | set l given => exact (setTurns logger r l given).1 ▸ growsAdd serial r l given
  | setCompiled l source => exact (setTurns logger r l source).2 ▸ growsAdd serial r l source
  | remove l =>
    rw [turnStays (r.remove l) rfl, remove]
    cases r.has l with
    | false => exact growsStill serial r
    | true => exact growsFewer serial rfl (standingFilter serial r.listeners _)
  | on l listener =>
    rw [turnStays (r.listen l listener false) rfl]
    exact growsListen serial represents l listener false
  | once l listener =>
    rw [turnStays (r.listen l listener true) rfl]
    exact growsListen serial represents l listener true
  | off l listener =>
    rw [turnStays (r.unlisten l listener) rfl]
    exact growsChange serial r l (.invalid l) fun _ => List.eraseP_sublist
  | offAll l =>
    rw [turnStays (r.clearFor l) rfl]
    cases l with
    | none =>
      exact growsFewer serial rfl
        (standingFewer serial r.listeners (f := fun _ => []) fun _ => List.nil_sublist _)
    | some l => exact growsChange serial r l (.invalid l) fun _ => List.nil_sublist _
  | get l =>
    rw [turn, run]
    cases r.get l <;> exact growsStill serial r
  | count l =>
    rw [turn, run]
    cases r.listenerCount l <;> exact growsStill serial r
  | labels | contains _ | «match» _ => exact growsStill serial r

end TopicRouting.Router
