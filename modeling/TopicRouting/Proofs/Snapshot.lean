import Mathlib.Algebra.Ring.Nat
import Mathlib.Data.List.Nodup
import TopicRouting.Proofs.Serials
import TopicRouting.Proofs.Walking

/-! What a dispatch calls. Its list rests from the moment it begins, so it calls the registrations
that its label had then, and no registration that was made for one message is called twice. -/
namespace TopicRouting.Router.Stage

def Outcome (breaks : Prop) (label : Label) (registrations called : List Registration)
    (ends : List Dispatched) : Prop :=
  (called = registrations ∧ ends = [.routed (some label)]) ∨
    (breaks ∧ called <+: registrations ∧ ends = [.aborted])

/-- How far a dispatch has come. -/
inductive Progress (breaks : Prop) (n : Nat) (label : Label) (registrations : List Registration)
    (s : Stage) : Prop where
  | underWay {w : Walk} (member : w ∈ s.walks) (number : w.number = n) (kind : w.label = label)
      (list : s.cells.list w.place = registrations)
      (called : s.calledBy n = registrations.take w.next) (ends : s.endsOf n = [])
  | finished (away : n ∉ s.walks.map Walk.number) (begun : n < s.begun)
      (outcome : Outcome breaks label registrations (s.calledBy n) (s.endsOf n))

variable {s s' : Stage} {act : Act} {w : Walk} {walks : List Walk} {n : Nat} {label : Label}
  {registrations : List Registration} {breaks : Prop}

theorem calledByCall (s : Stage) (w : Walk) (walks : List Walk) (g : Registration) (n : Nat) :
    (s.call w walks g).calledBy n = s.calledBy n ++ if w.number = n then [g] else [] := by
  rw [calledBy, calledBy, call, List.filter_append, List.map_append]
  by_cases same : w.number = n <;> simp [same]

theorem endsOfLeave (s : Stage) (w : Walk) (walks : List Walk) (how : Dispatched) (n : Nat) :
    (s.leave w walks how).endsOf n = s.endsOf n ++ if w.number = n then [how] else [] := by
  rw [endsOf, endsOf, leave, List.filter_append, List.map_append]
  by_cases same : w.number = n <;> simp [same]

theorem endsOfRefuse (s : Stage) (how : Dispatched) (message : Message) (n : Nat) :
    (s.refuse how message).endsOf n = s.endsOf n ++ if s.begun = n then [how] else [] := by
  rw [endsOf, endsOf, refuse, List.filter_append, List.map_append]
  by_cases same : s.begun = n <;> simp [same]

theorem Sound.oneWalk (sound : s.Sound) {a b : Walk} (left : a ∈ s.walks) (right : b ∈ s.walks)
    (same : a.number = b.number) : a = b :=
  List.inj_on_of_nodup_map sound.numbers left right same

theorem progressEnter (sound : s.Sound) {message : Message} {found : Found} {place : Nat}
    (here : s.cells.place? found.label = some place) :
    Progress breaks s.begun found.label (s.router.registrations found.label)
      (s.enter message found place) := by
  have rests := Cells.renewRests sound.cells here (·.filter (!·.once))
  refine .underWay List.mem_cons_self rfl rfl ?_ ?_ ?_
  · exact rests.list.trans (Cells.registrationsPlace here).symm
  · have fresh : s.calls.filter (·.walk == s.begun) = [] :=
      List.filter_eq_nil_iff.mpr fun call member => by
        simpa using Nat.ne_of_lt (sound.called call member)
    rw [calledBy, enter, fresh]
    rfl
  · have fresh : s.ended.filter (·.walk == s.begun) = [] :=
      List.filter_eq_nil_iff.mpr fun e member => by
        simpa using Nat.ne_of_lt (sound.ended e member)
    rw [endsOf, enter, fresh]
    rfl

theorem progressBegun (sound : s.Sound) (progress : Progress breaks n label registrations s) :
    n < s.begun := by
  cases progress with
  | underWay member number => exact number ▸ sound.underWay _ member
  | finished _ begun => exact begun

theorem progressRefuse (sound : s.Sound) (progress : Progress breaks n label registrations s)
    (how : Dispatched) (message : Message) :
    Progress breaks n label registrations (s.refuse how message) := by
  have begun := progressBegun sound progress
  have still : (s.refuse how message).endsOf n = s.endsOf n := by
    rw [endsOfRefuse, if_neg (Nat.ne_of_gt begun), List.append_nil]
  cases progress with
  | underWay member number kind list called ends =>
    exact .underWay member number kind list called (still.trans ends)
  | finished away _ outcome => exact .finished away (Nat.lt_succ_of_lt begun) (still ▸ outcome)

theorem progressOpen (sound : s.Sound) (progress : Progress breaks n label registrations s)
    (message : Message) (found : Found) (place : Nat) :
    Progress breaks n label registrations (s.enter message found place) := by
  cases progress with
  | underWay member number kind list called ends =>
    have rests := (sound.rests _ member).renew found.label (·.filter (!·.once))
    exact .underWay (List.mem_cons_of_mem _ member) number kind (rests.list.trans list) called ends
  | finished away begun outcome =>
    refine .finished (fun member => ?_) (Nat.lt_succ_of_lt begun) outcome
    rcases List.mem_cons.mp member with new | old
    · exact absurd new (Nat.ne_of_lt begun)
    · exact away old

theorem otherWalk (top : s.walks = w :: walks) (away : n ∉ s.walks.map Walk.number) :
    w.number ≠ n ∧ n ∉ walks.map Walk.number := by
  rw [top, List.map_cons, List.mem_cons, not_or] at away
  exact ⟨Ne.symm away.1, away.2⟩

theorem progressCall (sound : s.Sound) (progress : Progress breaks n label registrations s)
    (top : s.walks = w :: walks) {g : Registration}
    (next : (s.cells.list w.place)[w.next]? = some g) :
    Progress breaks n label registrations (s.call w walks g) := by
  have calledBy := calledByCall s w walks g n
  cases progress with
  | @underWay other member number kind list called ends =>
    by_cases own : w.number = n
    · have same := sound.oneWalk (by simp [top]) member (own.trans number.symm)
      subst same
      refine .underWay List.mem_cons_self number kind list ?_ ends
      rw [calledBy, if_pos own, called, List.take_add_one, ← list, next]
      rfl
    · rw [if_neg own, List.append_nil] at calledBy
      rw [top] at member
      rcases List.mem_cons.mp member with rfl | rest
      · exact absurd number own
      · exact .underWay (List.mem_cons_of_mem _ rest) number kind list (calledBy.trans called) ends
  | finished away begun outcome =>
    have others := otherWalk top away
    rw [if_neg others.1, List.append_nil] at calledBy
    rw [top] at away
    exact .finished away begun (calledBy ▸ outcome)

theorem progressLeave (sound : s.Sound) (progress : Progress breaks n label registrations s)
    (top : s.walks = w :: walks) {how : Dispatched}
    (ends : (how = .routed (some w.label) ∧ (s.cells.list w.place)[w.next]? = none) ∨
      (how = .aborted ∧ breaks)) :
    Progress breaks n label registrations (s.leave w walks how) := by
  have endsOf := endsOfLeave s w walks how n
  cases progress with
  | @underWay other member number kind list called none =>
    by_cases own : w.number = n
    · have same := sound.oneWalk (by simp [top]) member (own.trans number.symm)
      subst same
      rw [if_pos own, none, List.nil_append] at endsOf
      have away : n ∉ walks.map Walk.number := by
        have numbers := sound.numbers
        rw [top, List.map_cons, List.nodup_cons, own] at numbers
        exact numbers.1
      refine .finished away (own ▸ sound.underWay w member) ?_
      rcases ends with ⟨rfl, finished⟩ | ⟨rfl, broken⟩
      · refine .inl ⟨called.trans ?_, by rw [endsOf, kind]⟩
        rw [list] at finished
        exact List.take_of_length_le (List.getElem?_eq_none_iff.mp finished)
      · exact .inr ⟨broken, called ▸ List.take_prefix _ _, endsOf⟩
    · rw [if_neg own, List.append_nil] at endsOf
      rw [top] at member
      rcases List.mem_cons.mp member with rfl | rest
      · exact absurd number own
      · exact .underWay rest number kind list called (endsOf.trans none)
  | finished away begun outcome =>
    have others := otherWalk top away
    rw [if_neg others.1, List.append_nil] at endsOf
    exact .finished others.2 begun (endsOf ▸ outcome)

theorem progressMove (sound : s.Sound) (progress : Progress breaks n label registrations s)
    (calm : act = .breakOff → breaks) (move : Move s act s') :
    Progress breaks n label registrations s' := by
  cases move with
  | command command =>
    cases progress with
    | underWay member number kind list called ends =>
      have rests := (sound.rests _ member).apply command
      exact .underWay member number kind (rests.list.trans list) called ends
    | finished away begun outcome => exact .finished away begun outcome
  | edit top change =>
    cases progress with
    | underWay member number kind list called ends =>
      rw [top] at member
      rcases List.mem_cons.mp member with rfl | rest
      · exact .underWay List.mem_cons_self number kind list called ends
      · exact .underWay (List.mem_cons_of_mem _ rest) number kind list called ends
    | finished away begun outcome =>
      rw [top] at away
      exact .finished away begun outcome
  | refuse nowhere => exact progressRefuse sound progress _ _
  | enter matched here => exact progressOpen sound progress _ _ _
  | call top next => exact progressCall sound progress top next
  | «return» top finished => exact progressLeave sound progress top (.inl ⟨rfl, finished⟩)
  | breakOff top => exact progressLeave sound progress top (.inr ⟨rfl, calm rfl⟩)

theorem progressRun (sound : s.Sound) (progress : Progress breaks n label registrations s)
    {acts : List Act} (calm : .breakOff ∈ acts → breaks) :
    Progress breaks n label registrations (s.run acts) := by
  refine (runKeeps sound (fun act member s s' sound progress move => ?_) progress).2
  exact progressMove sound progress (fun same => calm (same ▸ member)) move

theorem progressOutcome (progress : Progress breaks n label registrations s) :
    s.calledBy n <+: registrations ∧
      (s.endsOf n = [] ∨ Outcome breaks label registrations (s.calledBy n) (s.endsOf n)) := by
  cases progress with
  | underWay _ _ _ _ called ends => exact ⟨called ▸ List.take_prefix _ _, .inl ends⟩
  | finished _ _ outcome =>
    refine ⟨?_, .inr outcome⟩
    rcases outcome with ⟨all, _⟩ | ⟨_, some, _⟩
    · exact all ▸ List.prefix_rfl
    · exact some

section Serials

variable (serial : Nat)

def pending (c : Cells) (walks : List Walk) : Nat :=
  (walks.map fun w => standsOnce serial ((c.list w.place).drop w.next)).sum

def held (s : Stage) : Nat :=
  standing serial s.router.listeners + pending serial s.cells s.walks +
    standsOnce serial (s.calls.map Call.registration)

def Unrepeated (s : Stage) : Prop :=
  ∀ serial, s.held serial ≤ if serial < s.router.registered then 1 else 0

theorem pendingSame {c other : Cells} {walks : List Walk}
    (same : ∀ w ∈ walks, other.list w.place = c.list w.place) :
    pending serial other walks = pending serial c walks := by
  rw [pending, pending]
  congr 1
  exact List.map_congr_left fun w member => by rw [same w member]

theorem standsOnceAppend (front back : List Registration) :
    standsOnce serial (front ++ back) = standsOnce serial front + standsOnce serial back :=
  List.countP_append

theorem heldCommand (sound : s.Sound) (command : Command) :
    ({ s with cells := s.cells.apply command } : Stage).held serial +
        standing serial s.router.listeners =
      s.held serial + standing serial (s.cells.apply command).router.listeners := by
  have same := pendingSame serial fun w member => ((sound.rests w member).apply command).list
  simp only [held, router, same]
  omega

theorem heldEnter (sound : s.Sound) (message : Message) {found : Found} {place : Nat}
    (here : s.cells.place? found.label = some place) :
    (s.enter message found place).held serial ≤ s.held serial := by
  have taken := standingTake serial s.router found.label
  have registrations : s.router.registrations found.label = s.cells.list place :=
    Cells.registrationsPlace here
  have own := (Cells.renewRests sound.cells here (·.filter (!·.once))).list
  have others := pendingSame serial fun w member =>
    ((sound.rests w member).renew found.label (·.filter (!·.once))).list
  rw [held, enterRouter sound.cells, held]
  simp only [enter, pending, List.map_cons, List.sum_cons, own, List.drop_zero] at others ⊢
  rw [registrations] at taken
  rw [others]
  omega

theorem heldCall (top : s.walks = w :: walks) {g : Registration}
    (next : (s.cells.list w.place)[w.next]? = some g) :
    (s.call w walks g).held serial = s.held serial := by
  obtain ⟨within, here⟩ := List.getElem?_eq_some_iff.mp next
  have first : (s.cells.list w.place).drop w.next =
      g :: (s.cells.list w.place).drop (w.next + 1) := by
    rw [List.drop_eq_getElem_cons within, here]
  simp only [held, router, call, pending, top, List.map_cons, List.sum_cons, first,
    List.map_append, standsOnceAppend]
  simp only [standsOnce, List.countP_cons, List.map_nil, List.countP_nil]
  omega

theorem heldLeave (top : s.walks = w :: walks) (how : Dispatched) :
    (s.leave w walks how).held serial ≤ s.held serial := by
  simp only [held, router, leave, pending, top, List.map_cons, List.sum_cons]
  omega

end Serials

theorem unrepeatedMove (sound : s.Sound) (unrepeated : s.Unrepeated) (move : Move s act s') :
    s'.Unrepeated := by
  intro serial
  have before := unrepeated serial
  cases move with
  | command command =>
    obtain ⟨t, represents⟩ := sound.table
    have grows := growsTurn serial represents ⟨.null, .null⟩ command
    rw [router, ← Cells.applyRouter sound.cells] at grows
    have held := heldCommand serial sound command
    have registered := grows.registered
    have given := grows.standing
    change s.held serial ≤ if serial < s.cells.router.registered then 1 else 0 at before
    change _ + standing serial s.cells.router.listeners = _ at held
    change _ ≤ if serial < (s.cells.apply command).router.registered then 1 else 0
    split at before <;> split at given <;> split <;> omega
  | @edit w walks top change =>
    have same : pending serial s.cells ({ w with message := change w.message } :: walks) =
        pending serial s.cells s.walks := by
      rw [top]
      rfl
    rw [held, same]
    exact before
  | refuse nowhere => exact before
  | enter matched here =>
    rw [enterRouter sound.cells]
    exact Nat.le_trans (heldEnter serial sound _ here) before
  | call top next =>
    rw [heldCall serial top next]
    exact before
  | «return» top finished => exact Nat.le_trans (heldLeave serial top _) before
  | breakOff top => exact Nat.le_trans (heldLeave serial top _) before

theorem unrepeatedFresh : Unrepeated {} := by
  intro serial
  simp [held, standing, pending, standsOnce, router, Cells.router]

theorem unrepeatedRun (acts : List Act) : (run {} acts).Unrepeated :=
  (runKeeps soundFresh (fun _ _ _ _ => unrepeatedMove) unrepeatedFresh).2

theorem serialsNodup {registrations : List Registration}
    (once : ∀ serial, registrations.countP (·.serial == serial) ≤ 1) :
    (registrations.map Registration.serial).Nodup := by
  refine List.nodup_iff_count_le_one.mpr fun serial => ?_
  rw [List.count_eq_countP, List.countP_map]
  exact once serial

theorem onceCalled (unrepeated : s.Unrepeated) :
    (((s.calls.map Call.registration).filter (·.once)).map Registration.serial).Nodup := by
  refine serialsNodup fun serial => ?_
  have few := unrepeated serial
  rw [List.countP_filter]
  simp only [held, standsOnce, Bool.and_comm] at few ⊢
  split at few <;> omega

end TopicRouting.Router.Stage
