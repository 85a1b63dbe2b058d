import Mathlib.Data.List.Pairwise
import TopicRouting.Proofs.Registrations

/-! A router whose lists of registrations stand in cells. A label refers to the cell of its list,
and so may a loop that goes through the list. Some commands change the list of a label where it
stands, which everyone sees who refers to the cell; others give the label a new cell. -/
namespace TopicRouting.Router

structure Cells where
  entries : List (Label × Pattern) := []
  places : List (Label × Nat) := []
  lists : List (List Registration) := []
  registered : Nat := 0

namespace Cells

def list (c : Cells) (place : Nat) : List Registration := (c.lists[place]?).getD []

def router (c : Cells) : Router where
  entries := c.entries
  listeners := c.places.map fun entry => (entry.1, c.list entry.2)
  registered := c.registered

def has (c : Cells) (label : Label) : Bool := c.places.any (·.1.same label)

def place? (c : Cells) (label : Label) : Option Nat :=
  (c.places.find? (·.1.same label)).map (·.2)

def edit (c : Cells) (label : Label) (f : List Registration → List Registration) : Cells :=
  match c.place? label with
  | none => c
  | some place => { c with lists := c.lists.modify place f }

def renew (c : Cells) (label : Label) (f : List Registration → List Registration) : Cells :=
  match c.place? label with
  | none => c
  | some place => { c with
      places := c.places.map fun entry =>
        (entry.1, if entry.1.same label then c.lists.length else entry.2)
      lists := c.lists ++ [f (c.list place)] }

def add (c : Cells) (label : Label) (pattern : Pattern) : Cells :=
  { c with
    entries := c.entries ++ [(label, pattern)]
    places := c.places ++ [(label, c.lists.length)]
    lists := c.lists ++ [[]] }

def addValue (c : Cells) (label : Label) (given : Value) : Cells :=
  match Pattern.ofValue given with
  | .ok pattern => if c.has label then c else c.add label pattern
  | .error _ => c

def remove (c : Cells) (label : Label) : Cells :=
  { c with
    entries := c.entries.filter (!·.1.same label)
    places := c.places.filter (!·.1.same label) }

def listen (c : Cells) (label : Label) (listener : ListenerId) (once : Bool) : Cells :=
  if c.has label then
    { c.edit label (· ++ [⟨listener, once, c.registered⟩]) with registered := c.registered + 1 }
  else c

def renewEach (c : Cells) (labels : List Label) : Cells :=
  labels.foldl (fun c label => c.renew label fun _ => []) c

def apply (c : Cells) : Command → Cells
  | .set label given => c.addValue label given
  | .setCompiled label source => c.addValue label source
  | .remove label => c.remove label
  | .on label listener => c.listen label listener false
  | .once label listener => c.listen label listener true
  | .off label listener => c.edit label (·.eraseP (·.listener == listener))
  | .offAll (some label) => c.renew label fun _ => []
  | .offAll none => c.renewEach (c.places.map Prod.fst)
  | .get _ | .count _ | .labels | .contains _ | .match _ => c

structure Sound (c : Cells) : Prop where
  labels : c.places.map Prod.fst = c.entries.map Prod.fst
  apart : c.places.Pairwise fun a b => a.1.same b.1 = false ∧ a.2 ≠ b.2
  within : ∀ entry ∈ c.places, entry.2 < c.lists.length

structure Rests (c : Cells) (place : Nat) (registrations : List Registration) : Prop where
  within : place < c.lists.length
  apart : ∀ entry ∈ c.places, entry.2 ≠ place
  list : c.list place = registrations

variable {c : Cells} {label : Label} {place : Nat}

theorem soundFresh : Sound {} := ⟨rfl, .nil, fun _ member => absurd member (by simp)⟩

theorem Sound.agree (sound : c.Sound) {a b : Label × Nat} (left : a ∈ c.places)
    (right : b ∈ c.places) : a.1.same b.1 = true ↔ a.2 = b.2 := by
  have alike : c.places.Pairwise fun a b => a.1.same b.1 = true ↔ a.2 = b.2 :=
    sound.apart.imp fun apart => by simp [apart]
  have mirrored : Std.Symm fun a b : Label × Nat => a.1.same b.1 = true ↔ a.2 = b.2 :=
    ⟨fun a b agree => ⟨fun same => (agree.mp (Label.sameSymm same)).symm,
      fun same => Label.sameSymm (agree.mpr same.symm)⟩⟩
  exact alike.forall_of_forall (fun entry _ => by simp [Label.sameRefl]) left right

theorem Sound.ofPlace (sound : c.Sound) (here : c.place? label = some place) {entry : Label × Nat}
    (member : entry ∈ c.places) : entry.1.same label = true ↔ entry.2 = place := by
  obtain ⟨found, first, rfl⟩ := Option.map_eq_some_iff.mp here
  have known := List.mem_of_find?_eq_some first
  have same : found.1.same label = true := by simpa using List.find?_some first
  rw [← sound.agree member known]
  exact ⟨fun other => Label.sameOfCommon other same,
    fun other => Label.sameOfCommon other (Label.sameSymm same)⟩

theorem noPlace (missing : c.place? label = none) {entry : Label × Nat}
    (member : entry ∈ c.places) : entry.1.same label = false := by
  have none := List.find?_eq_none.mp (Option.map_eq_none_iff.mp missing) entry member
  simpa using none

theorem hasPlace (c : Cells) (label : Label) : c.has label = (c.place? label).isSome := by
  rw [place?, Option.isSome_map, List.isSome_find?, has]

theorem hasRouter (c : Cells) (label : Label) : c.router.has label = c.has label := by
  rw [Router.has, router, List.any_map]
  rfl

theorem registrationsRouter (c : Cells) (label : Label) :
    c.router.registrations label = ((c.place? label).map c.list).getD [] := by
  rw [registrations, router, List.find?_map, Option.map_map, place?, Option.map_map]
  rfl

theorem registrationsPlace (here : c.place? label = some place) :
    c.router.registrations label = c.list place := by
  rw [registrationsRouter, here]
  rfl

theorem changeMissing (missing : c.place? label = none)
    (f : List Registration → List Registration) : c.router.change label f = c.router := by
  simp only [Router.change, router, List.map_map, Router.mk.injEq, true_and, and_true]
  refine List.map_congr_left fun entry member => ?_
  simp [noPlace missing member]

theorem editRouter (sound : c.Sound) (label : Label)
    (f : List Registration → List Registration) :
    (c.edit label f).router = c.router.change label f := by
  rw [edit]
  cases here : c.place? label with
  | none => rw [changeMissing here]
  | some place =>
    simp only [router, Router.change, List.map_map, Router.mk.injEq, true_and, and_true]
    refine List.map_congr_left fun entry member => ?_
    have agree := sound.ofPlace here member
    have within := sound.within entry member
    by_cases same : entry.2 = place
    · subst same
      simp [agree.mpr rfl, list, within]
    · have differs : entry.1.same label = false := by simpa using mt agree.mp same
      simp [differs, list, Ne.symm same]

theorem renewRouter (sound : c.Sound) (label : Label)
    (f : List Registration → List Registration) :
    (c.renew label f).router = c.router.change label f := by
  rw [renew]
  cases here : c.place? label with
  | none => rw [changeMissing here]
  | some place =>
    simp only [router, Router.change, List.map_map, Router.mk.injEq, true_and, and_true]
    refine List.map_congr_left fun entry member => ?_
    have agree := sound.ofPlace here member
    have within := sound.within entry member
    by_cases same : entry.2 = place
    · simp [agree.mpr same, same, list]
    · have differs : entry.1.same label = false := by simpa using mt agree.mp same
      simp [differs, list, List.getElem?_append_left within]

theorem addRouter (sound : c.Sound) (label : Label) (pattern : Pattern) :
    (c.add label pattern).router = { c.router with
      entries := c.router.entries ++ [(label, pattern)]
      listeners := c.router.listeners ++ [(label, [])] } := by
  simp only [router, add, List.map_append, Router.mk.injEq, true_and, and_true]
  congr 1
  · refine List.map_congr_left fun entry member => ?_
    simp [list, List.getElem?_append_left (sound.within entry member)]
  · simp [list]

theorem renewSound (sound : c.Sound) (label : Label)
    (f : List Registration → List Registration) : (c.renew label f).Sound := by
  rw [renew]
  cases here : c.place? label with
  | none => exact sound
  | some place =>
    refine ⟨?_, List.pairwise_map.mpr (sound.apart.imp_of_mem ?_), ?_⟩
    · rw [← sound.labels, List.map_map]
      rfl
    · intro a b left right apart
      have first := sound.within a left
      have second := sound.within b right
      refine ⟨apart.1, ?_⟩
      -- only one of two labels that differ moves to the new cell
      cases one : a.1.same label <;> cases other : b.1.same label
      · simpa using apart.2
      · simp
        omega
      · simp
        omega
      · have same := Label.sameOfCommon one other
        simp [apart.1] at same
    · intro entry member
      obtain ⟨old, known, rfl⟩ := List.mem_map.mp member
      have within := sound.within old known
      simp only [List.length_append, List.length_singleton]
      split <;> omega

theorem editSound (sound : c.Sound) (label : Label)
    (f : List Registration → List Registration) : (c.edit label f).Sound := by
  rw [edit]
  cases c.place? label with
  | none => exact sound
  | some place =>
    refine ⟨sound.labels, sound.apart, fun entry member => ?_⟩
    simpa using sound.within entry member

theorem addSound (sound : c.Sound) (missing : c.has label = false) (pattern : Pattern) :
    (c.add label pattern).Sound := by
  refine ⟨?_, List.pairwise_append.mpr ⟨sound.apart, List.pairwise_singleton .., ?_⟩, ?_⟩
  · simp [add, sound.labels]
  · intro entry member added alone
    rw [List.mem_singleton.mp alone]
    have differs := List.any_eq_false.mp missing entry member
    exact ⟨by simpa using differs, Nat.ne_of_lt (sound.within entry member)⟩
  · intro entry member
    rw [add, List.length_append, List.length_singleton]
    rcases List.mem_append.mp member with known | new
    · exact Nat.lt_succ_of_lt (sound.within entry known)
    · rw [List.mem_singleton.mp new]
      exact Nat.lt_succ_self _

theorem removeSound (sound : c.Sound) (label : Label) : (c.remove label).Sound := by
  refine ⟨?_, sound.apart.filter _, fun entry member => ?_⟩
  · have labels := congrArg (List.filter fun l : Label => !l.same label) sound.labels
    simpa [remove, List.filter_map, Function.comp_def] using labels
  · exact sound.within entry (List.mem_filter.mp member).1

theorem listenSound (sound : c.Sound) (label : Label) (listener : ListenerId) (once : Bool) :
    (c.listen label listener once).Sound := by
  rw [listen]
  split
  · have edited := editSound sound label (· ++ [⟨listener, once, c.registered⟩])
    exact ⟨edited.labels, edited.apart, edited.within⟩
  · exact sound

theorem renewEachSound (sound : c.Sound) (labels : List Label) : (c.renewEach labels).Sound := by
  induction labels generalizing c with
  | nil => exact sound
  | cons label labels ih => exact ih (renewSound sound label _)

theorem addValueSound (sound : c.Sound) (label : Label) (given : Value) :
    (c.addValue label given).Sound := by
  rw [addValue]
  cases Pattern.ofValue given with
  | error e => exact sound
  | ok pattern =>
    cases used : c.has label with
    | true => exact sound
    | false => exact addSound sound used pattern

theorem applySound (sound : c.Sound) (command : Command) : (c.apply command).Sound := by
  cases command with
  | set label given => exact addValueSound sound label given
  | setCompiled label source => exact addValueSound sound label source
  | remove label => exact removeSound sound label
  | on label listener => exact listenSound sound label listener false
  | once label listener => exact listenSound sound label listener true
  | off label listener => exact editSound sound label _
  | offAll label =>
    cases label with
    | none => exact renewEachSound sound _
    | some label => exact renewSound sound label fun _ => []
  | get _ | count _ | labels | contains _ | «match» _ => exact sound

theorem listenStays (sound : c.Sound) (label : Label) (listener : ListenerId) (once : Bool) :
    (c.listen label listener once).router =
      orStay c.router (c.router.listen label listener once) := by
  rw [listen, Router.listen, hasRouter]
  cases c.has label with
  | false => rfl
  | true =>
    have edited := editRouter sound label (· ++ [⟨listener, once, c.registered⟩])
    exact congrArg (fun r : Router => { r with registered := c.registered + 1 }) edited

theorem changeStays (c : Cells) (label : Label) (missing : LabelError)
    (f : List Registration → List Registration) :
    c.router.change label f =
      orStay c.router (if c.router.has label then .ok (c.router.change label f)
        else .error missing) := by
  rw [hasRouter, hasPlace]
  cases here : c.place? label with
  | none => exact changeMissing here f
  | some place => rfl

theorem removeStays (sound : c.Sound) (label : Label) :
    (c.remove label).router = orStay c.router (c.router.remove label) := by
  have shorter : (c.remove label).router = { c.router with
      entries := c.router.entries.filter (!·.1.same label)
      listeners := c.router.listeners.filter (!·.1.same label) } := by
    simp only [remove, router, List.filter_map]
    rfl
  rw [Router.remove, hasRouter]
  cases used : c.has label with
  | true => exact shorter
  | false =>
    have others : ∀ l ∈ c.places.map Prod.fst, (!l.same label) = true := by
      intro l member
      obtain ⟨entry, known, rfl⟩ := List.mem_map.mp member
      simpa using List.any_eq_false.mp used entry known
    rw [shorter]
    simp only [orStay, Bool.false_eq_true, if_false, router, Router.mk.injEq, and_true]
    refine ⟨List.filter_eq_self.mpr fun entry member => ?_,
      List.filter_eq_self.mpr fun entry member => ?_⟩
    · rw [sound.labels] at others
      exact others _ (List.mem_map_of_mem member)
    · obtain ⟨place, known, rfl⟩ := List.mem_map.mp member
      exact others _ (List.mem_map_of_mem known)

theorem renewEachRouter (sound : c.Sound) (labels : List Label) :
    (c.renewEach labels).router = { c.router with
      listeners := c.router.listeners.map fun entry =>
        (entry.1, if labels.any (entry.1.same ·) then [] else entry.2) } := by
  induction labels generalizing c with
  | nil => simp [renewEach]
  | cons label labels ih =>
    have renewed := renewRouter sound label fun _ => []
    have rest := ih (renewSound sound label fun _ => [])
    rw [renewEach, List.foldl_cons, ← renewEach, rest, renewed]
    simp only [Router.change, List.map_map, Router.mk.injEq, true_and, and_true]
    refine List.map_congr_left fun entry _ => ?_
    cases same : entry.1.same label <;> simp [same]

theorem clearRouter (sound : c.Sound) :
    (c.renewEach (c.places.map Prod.fst)).router = c.router.clearAll := by
  rw [renewEachRouter sound, clearAll]
  simp only [Router.mk.injEq, true_and, and_true]
  refine List.map_congr_left fun entry member => ?_
  obtain ⟨place, known, rfl⟩ := List.mem_map.mp member
  have here : (c.places.map Prod.fst).any (place.1.same ·) = true :=
    List.any_eq_true.mpr ⟨place.1, List.mem_map_of_mem known, Label.sameRefl place.1⟩
  simp [here]

theorem addValueRouter (sound : c.Sound) (label : Label) (given : Value) :
    (c.addValue label given).router = c.router.addGiven label given := by
  rw [addValue, addGiven]
  cases Pattern.ofValue given with
  | error e => rfl
  | ok pattern =>
    dsimp only
    rw [Router.set, hasRouter]
    cases c.has label with
    | true => rfl
    | false => exact addRouter sound label pattern

theorem applyRouter (sound : c.Sound) (logger : Logger) (command : Command) :
    (c.apply command).router = c.router.turn (.command logger command) := by
  cases command with
  | set label given =>
    rw [(setTurns logger c.router label given).1]
    exact addValueRouter sound label given
  | setCompiled label source =>
    rw [(setTurns logger c.router label source).2]
    exact addValueRouter sound label source
  | remove label =>
    rw [turnStays (c.router.remove label) rfl]
    exact removeStays sound label
  | on label listener =>
    rw [turnStays (c.router.listen label listener false) rfl]
    exact listenStays sound label listener false
  | once label listener =>
    rw [turnStays (c.router.listen label listener true) rfl]
    exact listenStays sound label listener true
  | off label listener =>
    rw [turnStays (c.router.unlisten label listener) rfl, apply, editRouter sound]
    exact changeStays c label _ _
  | offAll label =>
    rw [turnStays (c.router.clearFor label) rfl]
    cases label with
    | none => exact clearRouter sound
    | some label =>
      rw [apply, renewRouter sound]
      exact changeStays c label _ _
  | get label =>
    rw [turn, run]
    cases c.router.get label <;> rfl
  | count label =>
    rw [turn, run]
    cases c.router.listenerCount label <;> rfl
  | labels | contains _ | «match» _ => rfl

variable {registrations : List Registration}

theorem placeWithin (sound : c.Sound) (here : c.place? label = some place) :
    place < c.lists.length := by
  obtain ⟨entry, first, rfl⟩ := Option.map_eq_some_iff.mp here
  exact sound.within entry (List.mem_of_find?_eq_some first)

theorem renewRests (sound : c.Sound) (here : c.place? label = some place)
    (f : List Registration → List Registration) :
    (c.renew label f).Rests place (c.list place) := by
  have within := placeWithin sound here
  rw [renew, here]
  refine ⟨by simpa using Nat.lt_succ_of_lt within, fun entry member => ?_, ?_⟩
  · obtain ⟨old, known, rfl⟩ := List.mem_map.mp member
    have agree := sound.ofPlace here known
    dsimp only
    split
    · omega
    · exact mt agree.mpr ‹_›
  · simp [list, List.getElem?_append_left within]

theorem Rests.edit (rests : c.Rests place registrations) (label : Label)
    (f : List Registration → List Registration) : (c.edit label f).Rests place registrations := by
  rw [Cells.edit]
  cases here : c.place? label with
  | none => exact rests
  | some other =>
    obtain ⟨entry, first, rfl⟩ := Option.map_eq_some_iff.mp here
    have away := rests.apart entry (List.mem_of_find?_eq_some first)
    refine ⟨by simpa using rests.within, rests.apart, ?_⟩
    rw [← rests.list]
    simp [Cells.list, away]

theorem Rests.renew (rests : c.Rests place registrations) (label : Label)
    (f : List Registration → List Registration) : (c.renew label f).Rests place registrations := by
  have within := rests.within
  rw [Cells.renew]
  cases c.place? label with
  | none => exact rests
  | some other =>
    refine ⟨by simpa using Nat.lt_succ_of_lt within, fun entry member => ?_, ?_⟩
    · obtain ⟨old, known, rfl⟩ := List.mem_map.mp member
      have away := rests.apart old known
      dsimp only
      split
      · omega
      · exact away
    · rw [← rests.list]
      simp [Cells.list, List.getElem?_append_left within]

theorem Rests.add (rests : c.Rests place registrations) (label : Label) (pattern : Pattern) :
    (c.add label pattern).Rests place registrations := by
  have within := rests.within
  refine ⟨by simpa [Cells.add] using Nat.lt_succ_of_lt within, fun entry member => ?_, ?_⟩
  · rcases List.mem_append.mp member with known | new
    · exact rests.apart entry known
    · rw [List.mem_singleton.mp new]
      exact Nat.ne_of_gt within
  · rw [← rests.list]
    simp [Cells.list, Cells.add, List.getElem?_append_left within]

theorem Rests.addValue (rests : c.Rests place registrations) (label : Label) (given : Value) :
    (c.addValue label given).Rests place registrations := by
  rw [Cells.addValue]
  cases Pattern.ofValue given with
  | error e => exact rests
  | ok pattern => cases c.has label <;> first | exact rests | exact rests.add label pattern

theorem Rests.listen (rests : c.Rests place registrations) (label : Label) (listener : ListenerId)
    (once : Bool) : (c.listen label listener once).Rests place registrations := by
  rw [Cells.listen]
  split
  · have edited := rests.edit label (· ++ [⟨listener, once, c.registered⟩])
    exact ⟨edited.within, edited.apart, edited.list⟩
  · exact rests

theorem Rests.renewEach (rests : c.Rests place registrations) (labels : List Label) :
    (c.renewEach labels).Rests place registrations := by
  induction labels generalizing c with
  | nil => exact rests
  | cons label labels ih => exact ih (rests.renew label _)

theorem Rests.apply (rests : c.Rests place registrations) (command : Command) :
    (c.apply command).Rests place registrations := by
  cases command with
  | set label given => exact rests.addValue label given
  | setCompiled label source => exact rests.addValue label source
  | remove label =>
    refine ⟨rests.within, fun entry member => ?_, rests.list⟩
    exact rests.apart entry (List.mem_filter.mp member).1
  | on label listener => exact rests.listen label listener false
  | once label listener => exact rests.listen label listener true
  | off label listener => exact rests.edit label _
  | offAll label =>
    cases label with
    | none => exact rests.renewEach _
    | some label => exact rests.renew label fun _ => []
  | get _ | count _ | labels | contains _ | «match» _ => exact rests

end Cells
end TopicRouting.Router
