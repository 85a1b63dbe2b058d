import Mathlib.Logic.Relation
import TopicRouting.Proofs.Cells

/-! Dispatches within each other, where each walks along the list of its label and reads the list
anew before every call. What the listener does that was called last is open: it may use the router,
dispatch further messages, return or break off. -/
namespace TopicRouting.Router

/-- A dispatch that is under way. -/
structure Walk where
  number : Nat
  label : Label
  place : Nat
  next : Nat
  message : Message

structure Call where
  walk : Nat
  registration : Registration
  message : Message

structure Ended where
  walk : Nat
  how : Dispatched
  message : Message

structure Stage where
  cells : Cells := {}
  walks : List Walk := []
  begun : Nat := 0
  calls : List Call := []
  ended : List Ended := []

inductive Act where
  | command (command : Command)
  | edit (change : Message → Message)
  | dispatch (message : Message)
  | proceed
  | breakOff

namespace Stage

def call (s : Stage) (w : Walk) (walks : List Walk) (g : Registration) : Stage :=
  { s with
    walks := { w with next := w.next + 1 } :: walks
    calls := s.calls ++ [⟨w.number, g, w.message⟩] }

def leave (s : Stage) (w : Walk) (walks : List Walk) (how : Dispatched) : Stage :=
  { s with walks, ended := s.ended ++ [⟨w.number, how, w.message⟩] }

def proceed (s : Stage) : Stage :=
  match s.walks with
  | [] => s
  | w :: walks =>
      match (s.cells.list w.place)[w.next]? with
      | some g => s.call w walks g
      | none => s.leave w walks (.routed (some w.label))

def refuse (s : Stage) (how : Dispatched) (message : Message) : Stage :=
  { s with begun := s.begun + 1, ended := s.ended ++ [⟨s.begun, how, message⟩] }

def given (message : Message) (found : Found) : Message :=
  { message with label := some found.label, params := found.params }

def enter (s : Stage) (message : Message) (found : Found) (place : Nat) : Stage :=
  { s with
    cells := s.cells.renew found.label (·.filter (!·.once))
    walks := ⟨s.begun, found.label, place, 0, given message found⟩ :: s.walks
    begun := s.begun + 1 }

def dispatch (s : Stage) (message : Message) : Stage :=
  match s.cells.router.match? message.topic with
  | none => s.refuse (.routed none) message
  | some found =>
      match s.cells.place? found.label with
      | none => s.refuse .aborted (given message found)
      | some place => (s.enter message found place).proceed

def step (s : Stage) : Act → Stage
  | .command command => { s with cells := s.cells.apply command }
  | .edit change =>
      match s.walks with
      | [] => s
      | w :: walks => { s with walks := { w with message := change w.message } :: walks }
  | .dispatch message => s.dispatch message
  | .proceed => s.proceed
  | .breakOff =>
      match s.walks with
      | [] => s
      | w :: walks => s.leave w walks .aborted

def run (s : Stage) (acts : List Act) : Stage := acts.foldl step s

def router (s : Stage) : Router := s.cells.router

def calledBy (s : Stage) (n : Nat) : List Registration :=
  (s.calls.filter (·.walk == n)).map Call.registration

def endsOf (s : Stage) (n : Nat) : List Dispatched :=
  (s.ended.filter (·.walk == n)).map Ended.how

/-- What acts are made of. -/
inductive Move (s : Stage) : Act → Stage → Prop where
  | command (command : Command) :
      Move s (.command command) { s with cells := s.cells.apply command }
  | edit {w walks} (top : s.walks = w :: walks) (change : Message → Message) :
      Move s (.edit change) { s with walks := { w with message := change w.message } :: walks }
  | refuse {message} (nowhere : s.router.match? message.topic = none) :
      Move s (.dispatch message) (s.refuse (.routed none) message)
  | enter {message found place} (matched : s.router.match? message.topic = some found)
      (here : s.cells.place? found.label = some place) :
      Move s (.dispatch message) (s.enter message found place)
  | call {act w walks g} (top : s.walks = w :: walks)
      (next : (s.cells.list w.place)[w.next]? = some g) : Move s act (s.call w walks g)
  | return {act w walks} (top : s.walks = w :: walks)
      (finished : (s.cells.list w.place)[w.next]? = none) :
      Move s act (s.leave w walks (.routed (some w.label)))
  | breakOff {w walks} (top : s.walks = w :: walks) : Move s .breakOff (s.leave w walks .aborted)

structure Sound (s : Stage) : Prop where
  cells : s.cells.Sound
  table : ∃ t, Represents s.router t
  rests : ∀ w ∈ s.walks, s.cells.Rests w.place (s.cells.list w.place)
  numbers : (s.walks.map Walk.number).Nodup
  underWay : ∀ w ∈ s.walks, w.number < s.begun
  called : ∀ call ∈ s.calls, call.walk < s.begun
  ended : ∀ e ∈ s.ended, e.walk < s.begun

end Stage

theorem firstMatch {r : Router} {topic : Text} {found : Found}
    (matched : r.match? topic = some found) :
    ∃ front back, r.entries = front ++ (found.label, found.pattern) :: back ∧
      (∀ entry ∈ front, entry.2.match? topic = none) ∧
      found.pattern.match? topic = some found.params := by
  obtain ⟨front, ⟨label, pattern⟩, back, entries, here, before⟩ :=
    List.findSome?_eq_some_iff.mp matched
  obtain ⟨params, fits, rfl⟩ := Option.map_eq_some_iff.mp here
  refine ⟨front, back, entries, fun entry member => ?_, fits⟩
  exact Option.map_eq_none_iff.mp (before entry member)

namespace Stage

variable {s s' : Stage} {act : Act} {w : Walk} {walks : List Walk}

theorem knownPlace (sound : s.cells.Sound) {topic : Text} {found : Found}
    (matched : s.router.match? topic = some found) :
    ∃ place, s.cells.place? found.label = some place := by
  obtain ⟨front, back, entries, _⟩ := firstMatch matched
  have known : found.label ∈ s.cells.places.map Prod.fst := by
    rw [sound.labels]
    have listed : s.cells.entries = front ++ (found.label, found.pattern) :: back := entries
    simp [listed]
  obtain ⟨entry, member, label⟩ := List.mem_map.mp known
  cases here : s.cells.place? found.label with
  | some place => exact ⟨place, rfl⟩
  | none =>
    have away := Cells.noPlace here member
    rw [label, Label.sameRefl] at away
    contradiction

theorem proceedCall (top : s.walks = w :: walks) {g : Registration}
    (next : (s.cells.list w.place)[w.next]? = some g) : s.proceed = s.call w walks g := by
  rw [proceed, top]
  simp only [next]

theorem proceedLeave (top : s.walks = w :: walks)
    (finished : (s.cells.list w.place)[w.next]? = none) :
    s.proceed = s.leave w walks (.routed (some w.label)) := by
  rw [proceed, top]
  simp only [finished]

theorem dispatchEnter {message : Message} {found : Found} {place : Nat}
    (matched : s.router.match? message.topic = some found)
    (here : s.cells.place? found.label = some place) :
    s.step (.dispatch message) = (s.enter message found place).proceed := by
  rw [router] at matched
  rw [step, dispatch, matched]
  simp only [here]

theorem dispatchRefuse {message : Message} (nowhere : s.router.match? message.topic = none) :
    s.step (.dispatch message) = s.refuse (.routed none) message := by
  rw [router] at nowhere
  rw [step, dispatch, nowhere]

theorem proceedMoves (s : Stage) (act : Act) : Relation.ReflTransGen (Move · act) s s.proceed := by
  cases top : s.walks with
  | nil =>
    rw [proceed, top]
  | cons w walks =>
    cases next : (s.cells.list w.place)[w.next]? with
    | some g => exact proceedCall top next ▸ .single (.call top next)
    | none => exact proceedLeave top next ▸ .single (.return top next)

theorem stepMoves (sound : s.Sound) (act : Act) :
    Relation.ReflTransGen (Move · act) s (s.step act) := by
  cases act with
  | command command => exact .single (.command command)
  | edit change =>
    rw [step]
    split
    · exact .refl
    · exact .single (.edit ‹_› change)
  | dispatch message =>
    cases matched : s.router.match? message.topic with
    | none => exact dispatchRefuse matched ▸ .single (.refuse matched)
    | some found =>
      obtain ⟨place, here⟩ := knownPlace sound.cells matched
      exact dispatchEnter matched here ▸ .head (.enter matched here) (proceedMoves _ _)
  | proceed => exact proceedMoves s _
  | breakOff =>
    rw [step]
    split
    · exact .refl
    · exact .single (.breakOff ‹_›)

theorem restsSame {c : Cells} {place : Nat} {registrations : List Registration}
    (rests : c.Rests place registrations) : c.Rests place (c.list place) :=
  ⟨rests.within, rests.apart, rfl⟩

theorem soundFresh : Sound {} where
  cells := Cells.soundFresh
  table := ⟨{}, representsFresh⟩
  rests := by simp
  numbers := .nil
  underWay := by simp
  called := by simp
  ended := by simp

theorem enterRouter (sound : s.cells.Sound) (message : Message) (found : Found) (place : Nat) :
    (s.enter message found place).router = (s.router.take found.label).2 :=
  Cells.renewRouter sound found.label _

theorem Sound.enter (sound : s.Sound) {message : Message} {found : Found} {place : Nat}
    (matched : s.router.match? message.topic = some found)
    (here : s.cells.place? found.label = some place) : (s.enter message found place).Sound := by
  obtain ⟨t, represents⟩ := sound.table
  have taken := takeRepresents represents message.topic
  rw [matched] at taken
  refine ⟨Cells.renewSound sound.cells _ _, ⟨t.deliver message.topic, ?_⟩, ?_, ?_, ?_, ?_, ?_⟩
  · rw [enterRouter sound.cells]
    exact taken.2
  · refine List.forall_mem_cons.mpr ⟨?_, fun w member => ?_⟩
    · exact restsSame (Cells.renewRests sound.cells here _)
    · exact restsSame ((sound.rests w member).renew _ _)
  · refine List.nodup_cons.mpr ⟨fun member => ?_, sound.numbers⟩
    obtain ⟨w, member, same⟩ := List.mem_map.mp member
    exact absurd (sound.underWay w member) (by simp [same])
  · refine List.forall_mem_cons.mpr ⟨Nat.lt_succ_self _, fun w member => ?_⟩
    exact Nat.lt_succ_of_lt (sound.underWay w member)
  · exact fun call member => Nat.lt_succ_of_lt (sound.called call member)
  · exact fun e member => Nat.lt_succ_of_lt (sound.ended e member)

theorem Sound.refuse (sound : s.Sound) (how : Dispatched) (message : Message) :
    (s.refuse how message).Sound where
  cells := sound.cells
  table := sound.table
  rests := sound.rests
  numbers := sound.numbers
  underWay w member := Nat.lt_succ_of_lt (sound.underWay w member)
  called call member := Nat.lt_succ_of_lt (sound.called call member)
  ended e member := by
    rcases List.mem_append.mp member with old | new
    · exact Nat.lt_succ_of_lt (sound.ended e old)
    · rw [List.mem_singleton.mp new]
      exact Nat.lt_succ_self _

theorem Sound.call (sound : s.Sound) (top : s.walks = w :: walks) (g : Registration) :
    (s.call w walks g).Sound := by
  obtain ⟨cells, table, rests, numbers, underWay, called, ended⟩ := sound
  rw [top] at rests numbers underWay
  refine ⟨cells, table, ?_, numbers, ?_, fun call member => ?_, ended⟩
  · exact List.forall_mem_cons.mpr (List.forall_mem_cons.mp rests)
  · exact List.forall_mem_cons.mpr (List.forall_mem_cons.mp underWay)
  · rcases List.mem_append.mp member with old | new
    · exact called call old
    · rw [List.mem_singleton.mp new]
      exact underWay w List.mem_cons_self

theorem Sound.leave (sound : s.Sound) (top : s.walks = w :: walks) (how : Dispatched) :
    (s.leave w walks how).Sound := by
  obtain ⟨cells, table, rests, numbers, underWay, called, ended⟩ := sound
  rw [top] at rests numbers underWay
  refine ⟨cells, table, ?_, (List.nodup_cons.mp numbers).2, ?_, called, fun e member => ?_⟩
  · exact (List.forall_mem_cons.mp rests).2
  · exact (List.forall_mem_cons.mp underWay).2
  · rcases List.mem_append.mp member with old | new
    · exact ended e old
    · rw [List.mem_singleton.mp new]
      exact underWay w List.mem_cons_self

theorem Sound.move (sound : s.Sound) (move : Move s act s') : s'.Sound := by
  cases move with
  | command command =>
    obtain ⟨t, represents⟩ := sound.table
    refine ⟨Cells.applySound sound.cells command, ?_, fun w member => ?_, sound.numbers,
      sound.underWay, sound.called, sound.ended⟩
    · rw [router, Cells.applyRouter sound.cells ⟨.null, .null⟩ command]
      exact turnRepresents represents _
    · exact restsSame ((sound.rests w member).apply command)
  | edit top change =>
    obtain ⟨cells, table, rests, numbers, underWay, called, ended⟩ := sound
    rw [top] at rests numbers underWay
    refine ⟨cells, table, ?_, numbers, ?_, called, ended⟩
    · exact List.forall_mem_cons.mpr (List.forall_mem_cons.mp rests)
    · exact List.forall_mem_cons.mpr (List.forall_mem_cons.mp underWay)
  | refuse nowhere => exact sound.refuse _ _
  | enter matched here => exact sound.enter matched here
  | call top next => exact sound.call top _
  | «return» top finished => exact sound.leave top _
  | breakOff top => exact sound.leave top _

theorem stepKeeps {P : Stage → Prop} (sound : s.Sound)
    (keeps : ∀ {s s'}, s.Sound → P s → Move s act s' → P s') (start : P s) :
    (s.step act).Sound ∧ P (s.step act) := by
  have moves := stepMoves sound act
  generalize s.step act = after at moves
  induction moves with
  | refl => exact ⟨sound, start⟩
  | tail before last ih => exact ⟨ih.1.move last, keeps ih.1 ih.2 last⟩

theorem runKeeps {P : Stage → Prop} {acts : List Act} (sound : s.Sound)
    (keeps : ∀ act ∈ acts, ∀ {s s'}, s.Sound → P s → Move s act s' → P s') (start : P s) :
    (s.run acts).Sound ∧ P (s.run acts) := by
  induction acts generalizing s with
  | nil => exact ⟨sound, start⟩
  | cons act acts ih =>
    obtain ⟨first, rest⟩ := List.forall_mem_cons.mp keeps
    obtain ⟨sound, start⟩ := stepKeeps sound first start
    exact ih sound rest start

theorem Sound.step (sound : s.Sound) (act : Act) : (s.step act).Sound :=
  (stepKeeps (P := fun _ => True) sound (fun _ _ _ => trivial) trivial).1

theorem Sound.run (sound : s.Sound) (acts : List Act) : (s.run acts).Sound :=
  (runKeeps (P := fun _ => True) sound (fun _ _ _ _ _ _ _ => trivial) trivial).1

theorem restsMove {place : Nat} {registrations : List Registration}
    (rests : s.cells.Rests place registrations) (move : Move s act s') :
    s'.cells.Rests place registrations := by
  cases move with
  | command command => exact rests.apply command
  | enter matched here => exact rests.renew _ _
  | edit | refuse | call | «return» | breakOff => exact rests

theorem restsRun {place : Nat} {registrations : List Registration} (sound : s.Sound)
    (rests : s.cells.Rests place registrations) (acts : List Act) :
    (s.run acts).cells.Rests place registrations :=
  (runKeeps (P := fun s => s.cells.Rests place registrations) sound
    (fun _ _ _ _ _ rests move => restsMove rests move) rests).2

end Stage
end TopicRouting.Router
