import TopicRouting.Proofs.Matching

/-! The topics that a pattern builds from a mapping, told level by level, and the parameters
under which it builds none. Wildcards stand for the values of their names, which must be whole
levels that a match would read in the same way. -/
namespace TopicRouting

theorem bindOk {α β : Type} {x : Except Error α} {f : α → Except Error β} {result : β} :
    (x >>= f) = .ok result ↔ ∃ a, x = .ok a ∧ f a = .ok result := by
  cases x with
  | error e => simp [bind, Except.bind]
  | ok a => simp [bind, Except.bind]

def Proper (level : Text) : Prop := level ≠ [] ∧ '/' ∉ level ∧ Segment.Unmarked level
instance (level : Text) : Decidable (Proper level) := by unfold Proper; infer_instance

namespace Pattern
open Segment

theorem noSign {level : Text} :
    ['/', '+', '#'].find? level.contains = none ↔ '/' ∉ level ∧ Unmarked level := by
  simp [Unmarked]

theorem checkLevelOk {name level : Text} {v : Value} :
    checkLevel name v = .ok level ↔ v = .text level ∧ Proper level := by
  cases v with
  | text t =>
    simp only [checkLevel, Value.text.injEq, List.isEmpty_iff]
    by_cases empty : t = []
    · rw [if_pos empty]
      refine ⟨nofun, ?_⟩
      rintro ⟨rfl, proper⟩
      exact absurd empty proper.1
    · rw [if_neg empty]
      cases signs : ['/', '+', '#'].find? t.contains with
      | some c =>
        refine ⟨nofun, ?_⟩
        rintro ⟨rfl, proper⟩
        rw [noSign.mpr proper.2] at signs
        contradiction
      | none =>
        simp only [Except.ok.injEq]
        refine ⟨?_, And.left⟩
        rintro rfl
        exact ⟨rfl, empty, noSign.mp signs⟩
  | _ => simp [checkLevel]

theorem checkLevelsOk {name : Text} {vs : List Value} {levels : List Text} :
    checkLevels name vs = .ok levels ↔
      vs = levels.map .text ∧ ∀ level ∈ levels, Proper level := by
  induction vs generalizing levels with
  | nil =>
    cases levels <;> simp [checkLevels]
  | cons v vs ih =>
    simp only [checkLevels, bindOk, ih, checkLevelOk]
    constructor
    · rintro ⟨level, ⟨rfl, proper⟩, rest, ⟨rfl, others⟩, last⟩
      cases last
      exact ⟨rfl, by simpa [proper] using others⟩
    · rintro ⟨same, proper⟩
      cases levels with
      | nil => contradiction
      | cons level rest =>
        obtain ⟨rfl, rfl⟩ := List.cons.inj same
        obtain ⟨first, others⟩ := List.forall_mem_cons.mp proper
        exact ⟨level, ⟨rfl, first⟩, rest, ⟨rfl, others⟩, rfl⟩

theorem wildcardValueOk {p : Pattern} {level name : Text} {d : Dict} {v : Value} :
    p.wildcardValue level name (.dict d) = .ok v ↔
      name ≠ [] ∧ d.find? (.text name) = some v := by
  cases name with
  | nil => simp [wildcardValue]
  | cons c name =>
    cases found : Dict.find? d (.text (c :: name)) <;> simp [wildcardValue, lookup, found]

def orEmpty (levels : List Text) : List Text := if levels = [] then [[]] else levels

inductive Filled (d : Dict) : List Segment → List Text → Prop where
  | nil : Filled d [] []
  | raw {text segments levels} (tail : Filled d segments levels) :
      Filled d (.raw text :: segments) (text :: levels)
  | single {name level segments levels} (named : name ≠ [])
      (value : d.find? (.text name) = some (.text level)) (proper : Proper level)
      (tail : Filled d segments levels) : Filled d (.single name :: segments) (level :: levels)
  | multi {name levels} (named : name ≠ [])
      (value : d.find? (.text name) = some (.list (levels.map .text)) ∨
        d.find? (.text name) = some (.tuple (levels.map .text)))
      (proper : ∀ level ∈ levels, Proper level) : Filled d [.multi name] (orEmpty levels)

theorem joinOrEmpty (levels : List Text) :
    Text.join "/" (orEmpty levels) = Text.join "/" levels := by
  cases levels <;> rfl

theorem buildSingleOk {p : Pattern} {d : Dict} {name level : Text} :
    p.buildSegment (.dict d) (.single name) = .ok level ↔
      name ≠ [] ∧ d.find? (.text name) = some (.text level) ∧ Proper level := by
  simp only [buildSegment, bindOk, wildcardValueOk, checkLevelOk]
  constructor
  · rintro ⟨v, ⟨named, value⟩, rfl, proper⟩
    exact ⟨named, value, proper⟩
  · rintro ⟨named, value, proper⟩
    exact ⟨_, ⟨named, value⟩, rfl, proper⟩

theorem buildMultiOk {p : Pattern} {d : Dict} {name part : Text} :
    p.buildSegment (.dict d) (.multi name) = .ok part ↔
      name ≠ [] ∧ ∃ levels, (d.find? (.text name) = some (.list (levels.map .text)) ∨
        d.find? (.text name) = some (.tuple (levels.map .text))) ∧
        (∀ level ∈ levels, Proper level) ∧ part = Text.join "/" levels := by
  simp only [buildSegment, bindOk, wildcardValueOk]
  constructor
  · rintro ⟨v, ⟨named, value⟩, read⟩
    cases v with
    | list vs =>
      obtain ⟨levels, checked, last⟩ := bindOk.mp read
      obtain ⟨rfl, proper⟩ := checkLevelsOk.mp checked
      exact ⟨named, levels, .inl value, proper, (Except.ok.inj last).symm⟩
    | tuple vs =>
      obtain ⟨levels, checked, last⟩ := bindOk.mp read
      obtain ⟨rfl, proper⟩ := checkLevelsOk.mp checked
      exact ⟨named, levels, .inr value, proper, (Except.ok.inj last).symm⟩
    | _ => contradiction
  · rintro ⟨named, levels, value, proper, rfl⟩
    have checked : checkLevels name (levels.map .text) = .ok levels :=
      checkLevelsOk.mpr ⟨rfl, proper⟩
    rcases value with value | value
    · exact ⟨_, ⟨named, value⟩, by simp [checked, bind, Except.bind]⟩
    · exact ⟨_, ⟨named, value⟩, by simp [checked, bind, Except.bind]⟩

theorem filledOrdinary {p : Pattern} {d : Dict} {s : Segment} (ordinary : s.Ordinary)
    {segments : List Segment} {levels : List Text} :
    Filled d (s :: segments) levels ↔ ∃ level others, levels = level :: others ∧
      p.buildSegment (.dict d) s = .ok level ∧ Filled d segments others := by
  cases s with
  | raw text =>
    constructor
    · rintro (_ | tail)
      exact ⟨_, _, rfl, rfl, tail⟩
    · rintro ⟨level, others, rfl, built, tail⟩
      cases built
      exact .raw tail
  | single name =>
    constructor
    · rintro (_ | _ | ⟨named, value, proper, tail⟩)
      exact ⟨_, _, rfl, buildSingleOk.mpr ⟨named, value, proper⟩, tail⟩
    · rintro ⟨level, others, rfl, built, tail⟩
      obtain ⟨named, value, proper⟩ := buildSingleOk.mp built
      exact .single named value proper tail
  | multi name => contradiction

theorem filledNonempty {d : Dict} {segments : List Segment} {levels : List Text}
    (filled : Filled d segments levels) (nonempty : segments ≠ []) : levels ≠ [] := by
  cases filled with
  | nil => contradiction
  | raw tail => simp
  | single named value proper tail => simp
  | @multi name levels named value proper => cases levels <;> simp [orEmpty]

theorem buildSegmentsCons {p : Pattern} {params : Value} {s : Segment} {segments : List Segment}
    {parts : List Text} :
    p.buildSegments params (s :: segments) = .ok parts ↔ ∃ part others,
      p.buildSegment params s = .ok part ∧ p.buildSegments params segments = .ok others ∧
      parts = part :: others := by
  simp only [buildSegments, bindOk, Except.ok.injEq]
  constructor
  · rintro ⟨part, here, others, rest, same⟩
    exact ⟨part, others, here, rest, same.symm⟩
  · rintro ⟨part, others, here, rest, same⟩
    exact ⟨part, here, others, rest, same.symm⟩

theorem filledOfParts {p : Pattern} {d : Dict} {segments : List Segment}
    (accepted : Accepted segments) {parts : List Text}
    (built : p.buildSegments (.dict d) segments = .ok parts) :
    ∃ levels, Filled d segments levels ∧ parts ≠ [] ∧
      Text.join "/" parts = Text.join "/" levels := by
  induction accepted generalizing parts with
  | rest name =>
    obtain ⟨part, others, here, rest, rfl⟩ := buildSegmentsCons.mp built
    cases rest
    obtain ⟨named, levels, value, proper, rfl⟩ := buildMultiOk.mp here
    refine ⟨orEmpty levels, .multi named value proper, by simp, ?_⟩
    rw [joinOne, joinOrEmpty]
  | @last s ordinary =>
    obtain ⟨part, others, here, rest, rfl⟩ := buildSegmentsCons.mp built
    cases rest
    exact ⟨[part], (filledOrdinary ordinary).mpr ⟨part, [], rfl, here, .nil⟩, by simp, rfl⟩
  | @more s segments ordinary accepted ih =>
    obtain ⟨part, others, here, rest, rfl⟩ := buildSegmentsCons.mp built
    obtain ⟨levels, filled, nonempty, same⟩ := ih rest
    have some := filledNonempty filled (acceptedNonempty accepted)
    have longer := (filledOrdinary ordinary).mpr ⟨part, levels, rfl, here, filled⟩
    refine ⟨part :: levels, longer, by simp, ?_⟩
    rw [joinMore part nonempty, joinMore part some, same]

theorem partsOfFilled (p : Pattern) {d : Dict} {segments : List Segment} {levels : List Text}
    (accepted : Accepted segments) (filled : Filled d segments levels) :
    ∃ parts, p.buildSegments (.dict d) segments = .ok parts ∧ parts ≠ [] ∧
      Text.join "/" parts = Text.join "/" levels := by
  induction accepted generalizing levels with
  | rest name =>
    cases filled with
    | @multi _ levels named value proper =>
      have here : p.buildSegment (.dict d) (.multi name) = .ok (Text.join "/" levels) :=
        buildMultiOk.mpr ⟨named, levels, value, proper, rfl⟩
      refine ⟨[Text.join "/" levels], buildSegmentsCons.mpr ⟨_, [], here, rfl, rfl⟩, by simp, ?_⟩
      rw [joinOne, joinOrEmpty]
  | @last s ordinary =>
    obtain ⟨level, others, rfl, here, tail⟩ := (filledOrdinary ordinary).mp filled
    cases tail
    exact ⟨[level], buildSegmentsCons.mpr ⟨level, [], here, rfl, rfl⟩, by simp, rfl⟩
  | @more s segments ordinary accepted ih =>
    obtain ⟨level, others, rfl, here, tail⟩ := (filledOrdinary ordinary).mp filled
    obtain ⟨parts, rest, nonempty, same⟩ := ih tail
    have some := filledNonempty tail (acceptedNonempty accepted)
    refine ⟨level :: parts, buildSegmentsCons.mpr ⟨level, parts, here, rest, rfl⟩, by simp, ?_⟩
    rw [joinMore level nonempty, joinMore level some, same]

theorem dictOrElse (d : Dict) : (Value.dict d).orElse (.dict []) = .dict d := by
  cases d <;> rfl

theorem buildOk {p : Pattern} {d : Dict} {topic : Text} :
    p.build (.dict d) = .ok topic ↔
      ∃ levels, Filled d p.segments levels ∧ topic = Text.join "/" levels := by
  simp only [build, dictOrElse, bindOk, Except.ok.injEq]
  constructor
  · rintro ⟨parts, built, rfl⟩
    obtain ⟨levels, filled, _, same⟩ := filledOfParts p.accepted built
    exact ⟨levels, filled, same⟩
  · rintro ⟨levels, filled, rfl⟩
    obtain ⟨parts, built, _, same⟩ := partsOfFilled p p.accepted filled
    exact ⟨parts, built, same⟩

end Pattern
end TopicRouting
