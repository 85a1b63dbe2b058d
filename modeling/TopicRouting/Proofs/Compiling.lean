import TopicRouting.Proofs.Matching

/-! What is told of a pattern by its text alone: whether it compiles, the topic that it subscribes
to and how many of its wildcards have a name. -/
namespace TopicRouting

namespace Segment

def Misplaced (levels : List Text) : Prop :=
  ∃ level ∈ levels.dropLast, level.head? = some '#'

theorem multiSign {level : Text} :
    (∃ name, ofLevel level = multi name) ↔ level.head? = some '#' := by
  cases level with
  | nil => simp [ofLevel]
  | cons c name =>
    by_cases plus : c = '+'
    · subst plus
      simp [ofLevel]
    · by_cases hash : c = '#'
      · subst hash
        simp [ofLevel]
      · simp [ofLevel, plus, hash]

theorem readCons {source level next : Text} {levels : List Text}
    (ordinary : level.head? ≠ some '#') :
    readAll source (level :: next :: levels) =
      (readAll source (next :: levels)).map (ofLevel level :: ·) := by
  have notMulti : ∀ name, ofLevel level ≠ multi name :=
    fun name same => ordinary (multiSign.mp ⟨name, same⟩)
  simp only [readAll]
  cases kind : ofLevel level with
  | multi name => exact absurd kind (notMulti name)
  | raw text => cases readAll source (next :: levels) <;> rfl
  | single name => cases readAll source (next :: levels) <;> rfl

theorem reads (source : Text) (levels : List Text) :
    (∃ segments, readAll source levels = .ok segments) ↔ ¬ Misplaced levels := by
  induction levels with
  | nil => simp [readAll, Misplaced]
  | cons level levels ih =>
    cases levels with
    | nil => simp [readAll, Misplaced]
    | cons next levels =>
      by_cases sign : level.head? = some '#'
      · obtain ⟨name, kind⟩ := multiSign.mpr sign
        have bad : Misplaced (level :: next :: levels) := ⟨level, by simp, sign⟩
        simp [readAll, kind, bad]
      · have same : Misplaced (level :: next :: levels) ↔ Misplaced (next :: levels) := by
          simp [Misplaced, sign]
        rw [readCons sign, same, ← ih]
        cases readAll source (next :: levels) <;> simp [Except.map]

def filterOf : Text → Text
  | '+' :: _ => "+"
  | '#' :: _ => "#"
  | level => level

def isNamed : Text → Bool
  | '+' :: name | '#' :: name => !name.isEmpty
  | _ => false

theorem rawLevel {level : Text} (notSingle : ∀ name, level ≠ '+' :: name)
    (notMulti : ∀ name, level ≠ '#' :: name) : ofLevel level = raw level := by
  unfold ofLevel
  split
  · exact absurd rfl (notSingle _)
  · exact absurd rfl (notMulti _)
  · rfl

theorem filterToken (level : Text) : (ofLevel level).token.filterLevel = filterOf level := by
  fun_cases filterOf level with
  | case1 name => rfl
  | case2 name => rfl
  | case3 level notSingle notMulti => rw [rawLevel notSingle notMulti]; rfl

theorem namedToken (level : Text) : (ofLevel level).token.isNamed = isNamed level := by
  fun_cases isNamed level with
  | case1 name => rfl
  | case2 name => rfl
  | case3 level notSingle notMulti => rw [rawLevel notSingle notMulti]; rfl

end Segment

namespace Pattern
open Segment

theorem segmentsOfSource (p : Pattern) : p.segments = (levelsOf p.source).map ofLevel :=
  (acceptedRead (levelsClean p.source) (levelsNonempty p.source) p.compiled).2

theorem topicOfSource (p : Pattern) :
    p.topic = Text.join "/" ((levelsOf p.source).map filterOf) := by
  rw [topic, Token.filter, tokens, segmentsOfSource, List.map_map, List.map_map]
  congr 1
  exact List.map_congr_left fun level _ => filterToken level

theorem countOfSource (p : Pattern) : p.parameterCount = (levelsOf p.source).countP isNamed := by
  rw [parameterCount, Token.namedCount, tokens, segmentsOfSource, List.map_map, List.countP_map]
  exact List.countP_congr fun level _ => by simp [namedToken]

theorem compiledSource {source : Text} {p : Pattern} (compiled : compile source = .ok p) :
    p.source = source := by
  rw [compile] at compiled
  split at compiled <;> cases compiled
  rfl

theorem compiles (source : Text) :
    (∃ p, compile source = .ok p) ↔ ¬ Misplaced (levelsOf source) := by
  rw [← reads source, compile]
  split
  · rename_i segments read
    exact iff_of_true ⟨_, rfl⟩ ⟨segments, read⟩
  · rename_i e failed
    rw [failed]
    simp

end Pattern
end TopicRouting
