import TopicRouting.Text

/-! Where a text is cut at a mark: at the first or at the last one, and nowhere without one. -/
namespace TopicRouting.Text

variable {mark : Char}

theorem cutFirst {before : Text} (clean : mark ∉ before) (after : Text) :
    cut mark (before ++ mark :: after) = some (before, after) := by
  induction before with
  | nil => rw [List.nil_append, cut, if_pos rfl]
  | cons c before ih =>
    obtain ⟨other, rest⟩ := not_or.mp (mt List.mem_cons.mpr clean)
    rw [List.cons_append, cut, if_neg (Ne.symm other), ih rest]
    rfl

theorem cutNowhere {text : Text} (clean : mark ∉ text) : cut mark text = none := by
  induction text with
  | nil => rfl
  | cons c text ih =>
    obtain ⟨other, rest⟩ := not_or.mp (mt List.mem_cons.mpr clean)
    rw [cut, if_neg (Ne.symm other), ih rest]
    rfl

theorem cutLastOne (before : Text) {after : Text} (clean : mark ∉ after) :
    cutLast mark (before ++ mark :: after) = some (before, after) := by
  have turned : (before ++ mark :: after).reverse = after.reverse ++ mark :: before.reverse := by
    simp
  rw [cutLast, turned, cutFirst (mt List.mem_reverse.mp clean)]
  simp

theorem cutLastNowhere {text : Text} (clean : mark ∉ text) : cutLast mark text = none := by
  rw [cutLast, cutNowhere (mt List.mem_reverse.mp clean)]
  rfl

end TopicRouting.Text
