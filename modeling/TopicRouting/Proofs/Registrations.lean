import TopicRouting.Proofs.History

/-! What commands and messages do to the registrations of one label. A registration stays until a
command takes it away or, if it was made for one message, until a message goes to its label. -/
namespace TopicRouting.Router

variable {r : Router} {label : Label} {g : Registration}

def effect (r : Router) (label : Label) (registrations : List Registration) :
    Command → List Registration
  | .remove l | .offAll (some l) => if label.same l then [] else registrations
  | .on l listener =>
      if label.same l && r.has label then registrations ++ [⟨listener, false, r.registered⟩]
      else registrations
  | .once l listener =>
      if label.same l && r.has label then registrations ++ [⟨listener, true, r.registered⟩]
      else registrations
  | .off l listener =>
      if label.same l then registrations.eraseP (·.listener == listener) else registrations
  | .offAll none => []
  | .set _ _ | .setCompiled _ _ | .get _ | .count _ | .labels | .contains _ | .match _ =>
      registrations

def Removes (r : Router) (label : Label) (g : Registration) : Command → Prop
  | .remove l | .offAll (some l) => label.same l = true
  | .off l listener =>
      label.same l = true ∧ (r.registrations label).find? (·.listener == listener) = some g
  | .offAll none => True
  | .set _ _ | .setCompiled _ _ | .on _ _ | .once _ _ | .get _ | .count _ | .labels | .contains _
  | .match _ => False

theorem sameOfSame {a b c : Label} (same : a.same b = true) : a.same c = b.same c := by
  rw [Bool.eq_iff_iff]
  exact ⟨fun other => Label.sameOfCommon (Label.sameSymm same) (Label.sameSymm other),
    fun other => Label.sameOfCommon same (Label.sameSymm other)⟩

theorem absentRegistrations (absent : r.has label = false) : r.registrations label = [] := by
  have missing : r.listeners.find? (·.1.same label) = none := by
    refine List.find?_eq_none.mpr fun entry member => ?_
    exact List.any_eq_false.mp absent entry member
  rw [registrations, missing]
  rfl

theorem changeRegistrations (r : Router) (l label : Label)
    (f : List Registration → List Registration) :
    (r.change l f).registrations label =
      if label.same l && r.has label then f (r.registrations label)
      else r.registrations label := by
  have found : ((r.change l f).listeners.find? (·.1.same label)) =
      (r.listeners.find? (·.1.same label)).map fun entry =>
        (entry.1, if entry.1.same l then f entry.2 else entry.2) := by
    rw [changedListeners]
    exact List.find?_map
  rw [registrations, registrations, found, has, ← List.isSome_find?]
  cases first : r.listeners.find? (·.1.same label) with
  | none => simp
  | some entry =>
    have same : entry.1.same label = true := by simpa using List.find?_some first
    have alike := sameOfSame (c := l) same
    cases here : label.same l <;> simp [alike, here]

theorem setRegistrations (r : Router) (l label : Label) (pattern : Pattern) :
    ({ r with
      entries := r.entries ++ [(l, pattern)]
      listeners := r.listeners ++ [(l, [])] } : Router).registrations label =
      r.registrations label := by
  rw [registrations, registrations, List.find?_append]
  cases r.listeners.find? (·.1.same label) with
  | some entry => rfl
  | none => cases here : l.same label <;> simp [here]

theorem removeRegistrations (r : Router) (l label : Label) :
    ({ r with
      entries := r.entries.filter (!·.1.same l)
      listeners := r.listeners.filter (!·.1.same l) } : Router).registrations label =
      if label.same l then [] else r.registrations label := by
  have alike : ∀ entry : Label × List Registration,
      decide ((!entry.1.same l) = true ∧ entry.1.same label = true) =
        (!label.same l && entry.1.same label) := by
    intro entry
    cases same : entry.1.same label with
    | false => simp
    | true => simp [sameOfSame (c := l) same]
  rw [registrations, registrations, List.find?_filter, funext alike]
  cases label.same l with
  | false => simp
  | true =>
    have nothing : r.listeners.find? (fun _ => false) = none := by simp
    simp [nothing]

theorem clearAllRegistrations (r : Router) (label : Label) :
    r.clearAll.registrations label = [] := by
  rw [registrations, clearAll, List.find?_map]
  generalize r.listeners.find? _ = found
  cases found <;> rfl

def orStay (r : Router) : Except LabelError Router → Router
  | .ok after => after
  | .error _ => r

theorem turnStays {logger : Logger} {command : Command} {reply : Reply} {records : List Record}
    (result : Except LabelError Router)
    (runs : r.run logger command = do
      let after ← result.mapError Error.label
      .ok (reply, after, records)) :
    r.turn (.command logger command) = r.orStay result := by
  rw [turn, runs]
  cases result <;> rfl

theorem hasSame {l : Label} (same : label.same l = true) : r.has label = r.has l := by
  have alike : ∀ entry : Label × List Registration, entry.1.same label = entry.1.same l := by
    intro entry
    rw [Bool.eq_iff_iff]
    exact ⟨fun here => Label.sameOfCommon here (Label.sameSymm same),
      fun here => Label.sameOfCommon here same⟩
  rw [has, has, funext alike]

theorem changeOrStay (r : Router) (l label : Label) (missing : LabelError)
    (f : List Registration → List Registration) :
    (r.orStay (if r.has l then .ok (r.change l f) else .error missing)).registrations label =
      if label.same l && r.has label then f (r.registrations label)
      else r.registrations label := by
  cases known : r.has l with
  | true => exact changeRegistrations r l label f
  | false =>
    cases same : label.same l with
    | false => rfl
    | true =>
      rw [hasSame same, known]
      rfl

theorem listenOrStay (r : Router) (l label : Label) (listener : ListenerId) (once : Bool) :
    (r.orStay (r.listen l listener once)).registrations label =
      if label.same l && r.has label then
        r.registrations label ++ [⟨listener, once, r.registered⟩]
      else r.registrations label := by
  have changed := changeOrStay r l label (.invalid l) (· ++ [⟨listener, once, r.registered⟩])
  rw [listen]
  refine Eq.trans ?_ changed
  cases r.has l <;> rfl

theorem clearOrStay (r : Router) (l label : Label) (missing : LabelError) :
    (r.orStay (if r.has l then .ok (r.change l fun _ => []) else .error missing)).registrations
      label = if label.same l then [] else r.registrations label := by
  rw [changeOrStay]
  cases known : r.has label with
  | true => rw [Bool.and_true]
  | false =>
    rw [absentRegistrations known]
    simp

theorem unlistenOrStay (r : Router) (l label : Label) (listener : ListenerId) :
    (r.orStay (r.unlisten l listener)).registrations label =
      if label.same l then (r.registrations label).eraseP (·.listener == listener)
      else r.registrations label := by
  rw [unlisten, changeOrStay]
  cases known : r.has label with
  | true => rw [Bool.and_true]
  | false =>
    rw [absentRegistrations known]
    simp

theorem removeOrStay (r : Router) (l label : Label) :
    (r.orStay (r.remove l)).registrations label =
      if label.same l then [] else r.registrations label := by
  rw [remove]
  cases known : r.has l with
  | true => exact removeRegistrations r l label
  | false =>
    cases same : label.same l with
    | false => rfl
    | true =>
      rw [← hasSame same] at known
      exact absentRegistrations known

def addGiven (r : Router) (l : Label) (given : Value) : Router :=
  match Pattern.ofValue given with
  | .ok pattern => r.orStay (r.set l pattern)
  | .error _ => r

theorem setTurns (logger : Logger) (r : Router) (l : Label) (given : Value) :
    r.turn (.command logger (.set l given)) = r.addGiven l given ∧
      r.turn (.command logger (.setCompiled l given)) = r.addGiven l given := by
  rw [turn, turn, run, run, setValue, addGiven]
  cases Pattern.ofValue given with
  | error e => cases r.has l <;> exact ⟨rfl, rfl⟩
  | ok pattern =>
    cases used : r.has l <;> simp only [set, used] <;> exact ⟨rfl, rfl⟩

theorem addGivenRegistrations (r : Router) (l label : Label) (given : Value) :
    (r.addGiven l given).registrations label = r.registrations label := by
  rw [addGiven]
  cases Pattern.ofValue given with
  | error e => rfl
  | ok pattern =>
    dsimp only
    rw [set]
    cases r.has l with
    | true => rfl
    | false => exact setRegistrations r l label pattern

theorem turnRegistrations (logger : Logger) (command : Command) (r : Router) (label : Label) :
    (r.turn (.command logger command)).registrations label =
      r.effect label (r.registrations label) command := by
  cases command with
  | set l given =>
    rw [(setTurns logger r l given).1]
    exact addGivenRegistrations r l label given
  | setCompiled l source =>
    rw [(setTurns logger r l source).2]
    exact addGivenRegistrations r l label source
  | remove l =>
    rw [turnStays (r.remove l) rfl]
    exact removeOrStay r l label
  | on l listener =>
    rw [turnStays (r.listen l listener false) rfl]
    exact listenOrStay r l label listener false
  | once l listener =>
    rw [turnStays (r.listen l listener true) rfl]
    exact listenOrStay r l label listener true
  | off l listener =>
    rw [turnStays (r.unlisten l listener) rfl]
    exact unlistenOrStay r l label listener
  | offAll l =>
    rw [turnStays (r.clearFor l) rfl]
    cases l with
    | none => exact clearAllRegistrations r label
    | some l => exact clearOrStay r l label (.invalid l)
  | get l =>
    rw [turn, run]
    cases r.get l <;> rfl
  | count l =>
    rw [turn, run]
    cases r.listenerCount l <;> rfl
  | labels | contains _ | «match» _ => rfl

theorem takeRegistrations (r : Router) (l label : Label) :
    (r.take l).2.registrations label =
      if label.same l then (r.registrations label).filter (!·.once)
      else r.registrations label := by
  rw [take, changeRegistrations]
  cases known : r.has label with
  | true => rw [Bool.and_true]
  | false =>
    rw [absentRegistrations known]
    simp

theorem keptByErase {registrations : List Registration} {listener : ListenerId}
    (member : g ∈ registrations)
    (other : registrations.find? (·.listener == listener) ≠ some g) :
    g ∈ registrations.eraseP (·.listener == listener) := by
  rcases List.exists_or_eq_self_of_eraseP (fun g : Registration => g.listener == listener)
    registrations with same | ⟨gone, front, back, before, here, rfl, erased⟩
  · rwa [same]
  · have first : (front ++ gone :: back).find? (·.listener == listener) = some gone :=
      List.find?_eq_some_iff_append.mpr ⟨here, front, back, rfl, by simpa using before⟩
    rw [first] at other
    rw [erased]
    rcases List.mem_append.mp member with inFront | rest
    · exact List.mem_append_left back inFront
    · rcases List.mem_cons.mp rest with rfl | inBack
      · exact absurd rfl other
      · exact List.mem_append_right front inBack

theorem effectKeeps (member : g ∈ r.registrations label) {command : Command}
    (stays : ¬ r.Removes label g command) : g ∈ r.effect label (r.registrations label) command := by
  cases command with
  | off l listener =>
    rw [effect]
    split
    · exact keptByErase member fun first => stays ⟨‹_›, first⟩
    · exact member
  | remove l =>
    have apart : ¬ label.same l = true := stays
    rw [effect, if_neg apart]
    exact member
  | offAll l =>
    cases l with
    | none => exact absurd trivial stays
    | some l =>
      have apart : ¬ label.same l = true := stays
      rw [effect, if_neg apart]
      exact member
  | on l listener | once l listener =>
    rw [effect]
    split
    · exact List.mem_append_left _ member
    · exact member
  | _ => exact member

theorem effectAdds {command : Command}
    (member : g ∈ r.effect label (r.registrations label) command) :
    g ∈ r.registrations label ∨ g.serial = r.registered := by
  cases command with
  | off l listener =>
    rw [effect] at member
    split at member
    · exact .inl (List.mem_of_mem_eraseP member)
    · exact .inl member
  | remove l =>
    rw [effect] at member
    split at member
    · simp at member
    · exact .inl member
  | offAll l =>
    cases l with
    | none => simp [effect] at member
    | some l =>
      rw [effect] at member
      split at member
      · simp at member
      · exact .inl member
  | on l listener | once l listener =>
    rw [effect] at member
    split at member
    · refine (List.mem_append.mp member).imp id fun added => ?_
      rw [List.mem_singleton.mp added]
    · exact .inl member
  | _ => exact .inl member

end TopicRouting.Router
