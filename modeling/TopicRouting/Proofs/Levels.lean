import TopicRouting.Pattern

/-! The levels of a text and the text of levels are inverse to each other. Proofs about a text
go level by level: it is a single level, or a level and a slash before another text. -/
namespace TopicRouting.Segment

theorem levelsWhole {level : Text} (clean : '/' ∉ level) : levelsOf level = [level] :=
  List.splitOn_eq_singleton clean

theorem levelsCut {level : Text} (clean : '/' ∉ level) (rest : Text) :
    levelsOf (level ++ '/' :: rest) = level :: levelsOf rest :=
  List.splitOn_append_cons_self_of_not_mem clean rest

theorem levelsNonempty (text : Text) : levelsOf text ≠ [] := List.splitOn_ne_nil '/' text

theorem joinLevels (text : Text) : Text.join "/" (levelsOf text) = text :=
  List.intercalate_splitOn '/'

theorem levelsJoin {levels : List Text} (clean : ∀ level ∈ levels, '/' ∉ level)
    (nonempty : levels ≠ []) : levelsOf (Text.join "/" levels) = levels :=
  List.splitOn_intercalate '/' clean nonempty

theorem joinOne (level : Text) : Text.join "/" [level] = level := List.intercalate_singleton

theorem joinMore (level : Text) {levels : List Text} (nonempty : levels ≠ []) :
    Text.join "/" (level :: levels) = level ++ '/' :: Text.join "/" levels := by
  have step : Text.join "/" (level :: levels) = level ++ ['/'] ++ Text.join "/" levels :=
    List.intercalate_cons_of_ne_nil nonempty
  rw [step, List.append_assoc, List.singleton_append]

theorem joinEmptyEnd {levels : List Text} (nonempty : levels ≠ []) :
    Text.join "/" (levels ++ [[]]) = Text.join "/" levels ++ ['/'] := by
  induction levels with
  | nil => contradiction
  | cons level levels ih =>
    cases levels with
    | nil => rw [List.singleton_append, joinMore level (by simp), joinOne, joinOne]
    | cons next levels =>
      rw [List.cons_append, joinMore level (by simp), ih (by simp), joinMore level (by simp),
        List.append_assoc, List.cons_append]

theorem firstLevel (text : Text) :
    ∃ level, '/' ∉ level ∧ (text = level ∨ ∃ rest, text = level ++ '/' :: rest) := by
  induction text with
  | nil => exact ⟨[], by simp, .inl rfl⟩
  | cons c text ih =>
    by_cases slash : c = '/'
    · subst slash
      exact ⟨[], by simp, .inr ⟨text, rfl⟩⟩
    · obtain ⟨level, clean, shape⟩ := ih
      refine ⟨c :: level, by simp [clean, Ne.symm slash], ?_⟩
      rcases shape with rfl | ⟨rest, rfl⟩
      · exact .inl rfl
      · exact .inr ⟨rest, rfl⟩

@[elab_as_elim]
theorem levelInduction {motive : Text → Prop}
    (whole : ∀ level, '/' ∉ level → motive level)
    (cut : ∀ level rest, '/' ∉ level → motive rest → motive (level ++ '/' :: rest))
    (text : Text) : motive text := by
  generalize size : text.length = n
  induction n using Nat.strongRecOn generalizing text with
  | ind n ih =>
    obtain ⟨level, clean, rfl | ⟨rest, rfl⟩⟩ := firstLevel text
    · exact whole text clean
    · have shorter : rest.length < n := by
        rw [← size, List.length_append, List.length_cons]
        omega
      exact cut level rest clean (ih rest.length shorter rest rfl)

theorem levelsClean (text : Text) : ∀ level ∈ levelsOf text, '/' ∉ level := by
  induction text using levelInduction with
  | whole level clean =>
    rw [levelsWhole clean]
    simpa using clean
  | cut level rest clean ih =>
    rw [levelsCut clean]
    simpa [clean] using ih

theorem levelsCons {c : Char} (notSlash : c ≠ '/') (text : Text) :
    ∃ level others, levelsOf text = level :: others ∧
      levelsOf (c :: text) = (c :: level) :: others := by
  obtain ⟨level, clean, shape⟩ := firstLevel text
  have longer : '/' ∉ c :: level := by simp [clean, Ne.symm notSlash]
  rcases shape with same | ⟨rest, same⟩
  · rw [same]
    exact ⟨level, [], levelsWhole clean, levelsWhole longer⟩
  · rw [same]
    exact ⟨level, levelsOf rest, levelsCut clean rest, levelsCut longer rest⟩

end TopicRouting.Segment
