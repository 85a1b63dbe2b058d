import TopicRouting.Proofs.RoundTrip
import TopicRouting.Proofs.Spelling

/-! A broker compares a topic with a subscription level by level. What a pattern builds is selected
by the topic that the pattern subscribes to. -/
namespace TopicRouting

/- The rule of a broker for the levels of a filter and the levels of a topic. -/
def Selects : List Text → List Text → Prop
  | [], levels => levels = []
  | filter :: filters, levels =>
      if filter = "#" ∧ filters = [] then True
      else match levels with
        | [] => False
        | level :: others => (filter = "+" ∨ level = filter) ∧ Selects filters others

theorem selectsRest (levels : List Text) : Selects ["#"] levels := by
  cases levels <;> simp [Selects]

theorem selectsLevel {filter level : Text} {filters levels : List Text}
    (accepts : filter = "+" ∨ level = filter) (tail : Selects filters levels) :
    Selects (filter :: filters) (level :: levels) := by
  rw [Selects]
  split
  · trivial
  · exact ⟨accepts, tail⟩

instance decideSelects : (filters levels : List Text) → Decidable (Selects filters levels)
  | [], levels => inferInstanceAs (Decidable (levels = []))
  | filter :: filters, [] =>
      inferInstanceAs (Decidable (if filter = "#" ∧ filters = [] then True else False))
  | filter :: filters, level :: others =>
      have := decideSelects filters others
      inferInstanceAs (Decidable (if filter = "#" ∧ filters = [] then True
        else (filter = "+" ∨ level = filter) ∧ Selects filters others))

namespace Pattern
open Segment

theorem filterLevels (p : Pattern) :
    levelsOf p.topic = p.segments.map (·.token.filterLevel) := by
  rw [levelsOfTopic, segmentsOfSource, List.map_map]
  exact List.map_congr_left fun level _ => (filterToken level).symm

theorem filledSelected {d : Dict} {segments : List Segment} {levels : List Text}
    (filled : Filled d segments levels) :
    Selects (segments.map (·.token.filterLevel)) levels := by
  induction filled with
  | nil => rfl
  | raw tail ih => exact selectsLevel (.inr rfl) ih
  | single named value proper tail ih => exact selectsLevel (.inl rfl) ih
  | multi named value proper => exact selectsRest _

theorem lookupOk {p : Pattern} {name : Text} {params v : Value}
    (found : p.lookup name params = .ok v) : ∃ d, params = .dict d := by
  unfold lookup at found
  split at found
  case h_1 d => exact ⟨d, rfl⟩
  case h_2 => split at found <;> contradiction
  case h_6 => contradiction
  all_goals split at found <;> contradiction

theorem wildcardOk {p : Pattern} {level name : Text} {params v : Value}
    (found : p.wildcardValue level name params = .ok v) : ∃ d, params = .dict d := by
  unfold wildcardValue at found
  split at found
  · contradiction
  · exact lookupOk found

theorem partsWithoutDict {p : Pattern} {params : Value} (other : ∀ d, params ≠ .dict d) (d : Dict)
    {segments : List Segment} {parts : List Text}
    (built : p.buildSegments params segments = .ok parts) :
    p.buildSegments (.dict d) segments = .ok parts := by
  induction segments generalizing parts with
  | nil => exact built
  | cons s segments ih =>
    obtain ⟨part, others, here, rest, rfl⟩ := buildSegmentsCons.mp built
    refine buildSegmentsCons.mpr ⟨part, others, ?_, ih rest, rfl⟩
    cases s with
    | raw text => exact here
    | single name =>
      obtain ⟨v, value, _⟩ := bindOk.mp here
      obtain ⟨given, same⟩ := wildcardOk value
      exact absurd same (other given)
    | multi name =>
      obtain ⟨v, value, _⟩ := bindOk.mp here
      obtain ⟨given, same⟩ := wildcardOk value
      exact absurd same (other given)

theorem buildOfDict {p : Pattern} {params : Value} {topic : Text}
    (built : p.build params = .ok topic) : ∃ d, p.build (.dict d) = .ok topic := by
  by_cases mapping : ∃ d, params.orElse (.dict []) = .dict d
  · obtain ⟨d, same⟩ := mapping
    refine ⟨d, ?_⟩
    rw [build, dictOrElse, ← same]
    exact built
  · obtain ⟨parts, read, last⟩ := bindOk.mp built
    refine ⟨[], ?_⟩
    rw [build, dictOrElse, partsWithoutDict (fun d same => mapping ⟨d, same⟩) [] read]
    exact last

/-- Whatever the parameters are, a topic that a pattern builds is one of those that a subscription
to the pattern's topic selects. -/
theorem buildSelected (p : Pattern) (params : Value) (topic : Text)
    (built : p.build params = .ok topic) : Selects (levelsOf p.topic) (levelsOf topic) := by
  obtain ⟨d, built⟩ := buildOfDict built
  obtain ⟨levels, filled, rfl⟩ := buildOk.mp built
  have same : levelsOf (Text.join "/" levels) = levels := levelsJoin
    (filledClean (acceptedOrdered p.accepted) filled)
    (filledNonempty filled (acceptedNonempty p.accepted))
  rw [filterLevels, same]
  exact filledSelected filled

theorem buildSelectedRest :
    let p : Pattern := ⟨"a+b//+id/#rest", [.raw "a+b", .raw "", .single "id", .multi "rest"], rfl⟩
    let params : Value := .dict [(.text "id", .text "7"), (.text "rest", .tuple [])]
    p.build params = .ok ("a+b//7/" : Text) ∧
      Selects (levelsOf p.topic) (levelsOf "a+b//7/") := by
  intro p params
  have built : p.build params = .ok ("a+b//7/" : Text) := rfl
  exact ⟨built, buildSelected p params _ built⟩

end Pattern
end TopicRouting
