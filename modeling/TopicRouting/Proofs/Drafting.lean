import TopicRouting.Draft

/-! Drafts that come to a text wherever there is room for its brackets, and stop for want of room
anywhere else. They are put together as their texts are. -/
namespace TopicRouting.Draft

@[simp] theorem resultDone (text : Text) : (done text).result = .ok text := rfl

@[simp] theorem resultStop (cause : WriteError) : (stop cause).result = .error cause := rfl

@[simp] theorem resultOf (result : Except WriteError Text) : (ofResult result).result = result := by
  cases result <;> rfl

theorem resultOk {d : Draft} {text : Text} : d.result = .ok text ↔ d = done text := by
  obtain ⟨here, _ | cause⟩ := d <;> simp [result, done]

theorem resultAppend (a b : Draft) :
    (a ++ b).result = a.result.bind fun text => b.result.map (text ++ ·) := by
  obtain ⟨text, _ | cause⟩ := a
  · obtain ⟨more, _ | cause⟩ := b <;> rfl
  · rfl

def Fits (d : Nat → Draft) (needed : Nat) (text : Text) : Prop :=
  ∀ room, (d room).result = if needed ≤ room then .ok text else .error .tooDeep

theorem fitsAlways {d : Draft} {text : Text} (result : d.result = .ok text) :
    Fits (fun _ => d) 0 text := fun _ => result

variable {d e : Nat → Draft} {needed more : Nat} {text others : Text}

theorem Fits.own (fits : Fits d needed text) : d needed = done text :=
  resultOk.mp ((fits needed).trans (if_pos (Nat.le_refl needed)))

theorem Fits.append (first : Fits d needed text) (second : Fits e more others) :
    Fits (fun room => d room ++ e room) (max needed more) (text ++ others) := by
  intro room
  rw [resultAppend, first room, second room]
  simp only [Nat.max_le]
  by_cases here : needed ≤ room
  · by_cases later : more ≤ room <;> simp [here, later, Except.bind, Except.map]
  · simp [here, Except.bind]

theorem Fits.deeper (inside : Fits d needed text) :
    Fits (fun room => if room = 0 then stop .tooDeep else d (room - 1)) (needed + 1) text := by
  intro room
  cases room with
  | zero => rfl
  | succ room => simpa using inside room

end TopicRouting.Draft
