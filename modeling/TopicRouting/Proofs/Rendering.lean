import TopicRouting.Proofs.Accepting
import TopicRouting.Proofs.Compiling

/-! When a pattern builds no topic from a mapping, and what it builds otherwise. A level of the
pattern that is a wildcard is blocked unless the mapping has a fit value for its name; every level
that is not gives one part of the topic, and no other key counts. -/
namespace TopicRouting

/- A text that a match would never read as one level. -/
def Unusable (level : Text) : Prop := level = [] ∨ '/' ∈ level ∨ '+' ∈ level ∨ '#' ∈ level

theorem notProper {level : Text} : ¬ Proper level ↔ Unusable level := by
  simp only [Proper, Segment.Unmarked, Unusable]
  tauto

namespace Dict

def only (d : Dict) (names : List Text) : Dict :=
  d.filter fun entry => names.any fun name => entry.1.sameKey (.text name)

theorem findOnly {d : Dict} {names : List Text} {name : Text} (member : name ∈ names) :
    (d.only names).find? (.text name) = d.find? (.text name) := by
  rw [find?, only, List.find?_filter, find?]
  congr 2
  funext entry
  cases own : entry.1.sameKey (.text name) with
  | false => simp
  | true => simpa using List.any_eq_true.mpr ⟨name, member, own⟩

end Dict

namespace Segment

def HasItems (d : Dict) (name : Text) (items : List Value) : Prop :=
  d.find? (.text name) = some (.list items) ∨ d.find? (.text name) = some (.tuple items)

/-- Why a level of a pattern stands for nothing under a mapping. -/
inductive Blocked (d : Dict) : Segment → Prop where
  | unnamed {s : Segment} (wildcard : s.name? = some []) : Blocked d s
  | missing {s : Segment} {name : Text} (wildcard : s.name? = some name)
      (absent : d.find? (.text name) = none) : Blocked d s
  | notText {name : Text} {v : Value} (value : d.find? (.text name) = some v)
      (other : ∀ t, v ≠ .text t) : Blocked d (.single name)
  | notItems {name : Text} {v : Value} (value : d.find? (.text name) = some v)
      (other : ∀ items, v ≠ .list items ∧ v ≠ .tuple items) : Blocked d (.multi name)
  | itemNotText {name : Text} {items : List Value} {item : Value} (value : HasItems d name items)
      (inside : item ∈ items) (other : ∀ t, item ≠ .text t) : Blocked d (.multi name)
  | unusable {name t : Text} (value : d.find? (.text name) = some (.text t))
      (unusable : Unusable t) : Blocked d (.single name)
  | itemUnusable {name t : Text} {items : List Value} (value : HasItems d name items)
      (inside : .text t ∈ items) (unusable : Unusable t) : Blocked d (.multi name)

/-- What a level of a pattern is replaced by under a mapping. -/
inductive Replaced (d : Dict) : Segment → Text → Prop where
  | raw (text : Text) : Replaced d (.raw text) text
  | single {name level : Text} (value : d.find? (.text name) = some (.text level)) :
      Replaced d (.single name) level
  | multi {name : Text} {levels : List Text} (value : HasItems d name (levels.map .text)) :
      Replaced d (.multi name) (Text.join "/" levels)

variable {d : Dict}

theorem itemsSorted (items : List Value) :
    (∃ levels : List Text, items = levels.map .text ∧ ∀ level ∈ levels, Proper level) ∨
      ∃ item ∈ items, (∀ t, item ≠ .text t) ∨ ∃ t, item = .text t ∧ Unusable t := by
  induction items with
  | nil => exact .inl ⟨[], rfl, by simp⟩
  | cons item items ih =>
    by_cases isText : ∃ t, item = .text t
    · obtain ⟨t, rfl⟩ := isText
      by_cases proper : Proper t
      · rcases ih with ⟨levels, rfl, others⟩ | ⟨bad, inside, why⟩
        · exact .inl ⟨t :: levels, rfl, List.forall_mem_cons.mpr ⟨proper, others⟩⟩
        · exact .inr ⟨bad, List.mem_cons_of_mem _ inside, why⟩
      · exact .inr ⟨.text t, List.mem_cons_self, .inr ⟨t, rfl, notProper.mp proper⟩⟩
    · exact .inr ⟨item, List.mem_cons_self, .inl fun t same => isText ⟨t, same⟩⟩

theorem itemsGiven {name : Text} {items : List Value} (value : HasItems d name items) :
    (multi name).Given d ∨ (multi name).Blocked d := by
  rcases itemsSorted items with ⟨levels, rfl, proper⟩ | ⟨item, inside, other | ⟨t, rfl, bad⟩⟩
  · exact .inl ⟨levels, value, proper⟩
  · exact .inr (.itemNotText value inside other)
  · exact .inr (.itemUnusable value inside bad)

theorem givenOrBlocked (d : Dict) (s : Segment) : s.Given d ∨ s.Blocked d := by
  cases s with
  | raw text => exact .inl trivial
  | single name =>
    cases value : d.find? (.text name) with
    | none => exact .inr (.missing rfl value)
    | some v =>
      by_cases isText : ∃ t, v = .text t
      · obtain ⟨t, rfl⟩ := isText
        by_cases proper : Proper t
        · exact .inl ⟨t, value, proper⟩
        · exact .inr (.unusable value (notProper.mp proper))
      · exact .inr (.notText value fun t same => isText ⟨t, same⟩)
  | multi name =>
    cases value : d.find? (.text name) with
    | none => exact .inr (.missing rfl value)
    | some v =>
      cases v with
      | list items => exact itemsGiven (.inl value)
      | tuple items => exact itemsGiven (.inr value)
      | _ => exact .inr (.notItems value fun items => ⟨nofun, nofun⟩)

theorem sameItems {name : Text} {items others : List Value} (value : HasItems d name items)
    (again : HasItems d name others) : items = others := by
  rcases value with value | value <;> rcases again with again | again
  all_goals
    rw [value] at again
    cases again
  · rfl
  · rfl

theorem givenPresent {s : Segment} (given : s.Given d) {name : Text}
    (wildcard : s.name? = some name) : d.find? (.text name) ≠ none := by
  cases s with
  | raw text => contradiction
  | single other =>
    cases wildcard
    obtain ⟨level, value, _⟩ := given
    simp [value]
  | multi other =>
    cases wildcard
    obtain ⟨levels, value | value, _⟩ := given
    · simp [value]
    · simp [value]

theorem blockedNotGiven {s : Segment} (blocked : s.Blocked d) (named : s.name? ≠ some []) :
    ¬ s.Given d := by
  intro given
  cases blocked with
  | unnamed wildcard => exact named wildcard
  | missing wildcard absent => exact givenPresent given wildcard absent
  | notText value other =>
    obtain ⟨t, found, _⟩ := given
    exact other t (Option.some.inj (value.symm.trans found))
  | notItems value other =>
    obtain ⟨levels, found | found, _⟩ := given
    · exact (other _).1 (Option.some.inj (value.symm.trans found))
    · exact (other _).2 (Option.some.inj (value.symm.trans found))
  | itemNotText value inside other =>
    obtain ⟨levels, found, _⟩ := given
    rw [sameItems value found] at inside
    obtain ⟨level, _, same⟩ := List.mem_map.mp inside
    exact other level same.symm
  | unusable value bad =>
    obtain ⟨level, found, proper⟩ := given
    rw [value] at found
    cases found
    exact notProper.mpr bad proper
  | itemUnusable value inside bad =>
    obtain ⟨levels, found, proper⟩ := given
    rw [sameItems value found] at inside
    obtain ⟨level, member, same⟩ := List.mem_map.mp inside
    cases same
    exact notProper.mpr bad (proper _ member)

end Segment

namespace Pattern
open Segment

variable {p : Pattern} {d : Dict}

theorem buildsUnblocked :
    (∃ topic, p.build (.dict d) = .ok topic) ↔ ¬ ∃ s ∈ p.segments, s.Blocked d := by
  rw [builds]
  constructor
  · rintro ⟨named, given⟩ ⟨s, member, blocked⟩
    refine blockedNotGiven blocked (fun unnamed => ?_) (given s member)
    exact named [] (List.mem_filterMap.mpr ⟨s, member, unnamed⟩) rfl
  · intro free
    constructor
    · rintro name member rfl
      obtain ⟨s, inside, unnamed⟩ := List.mem_filterMap.mp member
      exact free ⟨s, inside, .unnamed unnamed⟩
    · intro s member
      exact (givenOrBlocked d s).resolve_right fun blocked => free ⟨s, member, blocked⟩

theorem partReplaced {s : Segment} {part : Text}
    (built : p.buildSegment (.dict d) s = .ok part) : s.Replaced d part := by
  cases s with
  | raw text =>
    cases built
    exact .raw _
  | single name => exact .single (buildSingleOk.mp built).2.1
  | multi name =>
    obtain ⟨_, levels, value, _, rfl⟩ := buildMultiOk.mp built
    exact .multi value

theorem partsReplaced {segments : List Segment} {parts : List Text}
    (built : p.buildSegments (.dict d) segments = .ok parts) :
    List.Forall₂ (Replaced d) segments parts := by
  induction segments generalizing parts with
  | nil =>
    cases built
    exact .nil
  | cons s segments ih =>
    obtain ⟨part, others, here, rest, rfl⟩ := buildSegmentsCons.mp built
    exact .cons (partReplaced here) (ih rest)

theorem topicReplaced {topic : Text} (built : p.build (.dict d) = .ok topic) :
    ∃ parts, topic = Text.join "/" parts ∧ List.Forall₂ (Replaced d) p.segments parts := by
  rw [build, dictOrElse] at built
  obtain ⟨parts, joined, same⟩ := bindOk.mp built
  cases same
  exact ⟨parts, rfl, partsReplaced joined⟩

section alike

variable {other : Dict}
  (same : ∀ name ∈ p.names, d.find? (.text name) = other.find? (.text name))

include same

theorem valueAlike (level : Text) {name : Text} (member : name ∈ p.names) :
    p.wildcardValue level name (.dict d) = p.wildcardValue level name (.dict other) := by
  simp only [wildcardValue, lookup, same name member]

theorem segmentAlike {s : Segment} (inside : s ∈ p.segments) :
    p.buildSegment (.dict d) s = p.buildSegment (.dict other) s := by
  cases s with
  | raw text => rfl
  | single name =>
    rw [buildSegment, valueAlike same _ (List.mem_filterMap.mpr ⟨_, inside, rfl⟩)]
    rfl
  | multi name =>
    rw [buildSegment, valueAlike same _ (List.mem_filterMap.mpr ⟨_, inside, rfl⟩)]
    rfl

theorem segmentsAlike {segments : List Segment} (inside : ∀ s ∈ segments, s ∈ p.segments) :
    p.buildSegments (.dict d) segments = p.buildSegments (.dict other) segments := by
  induction segments with
  | nil => rfl
  | cons s segments ih =>
    obtain ⟨here, rest⟩ := List.forall_mem_cons.mp inside
    rw [buildSegments, segmentAlike same here, ih rest]
    rfl

theorem buildAlike : p.build (.dict d) = p.build (.dict other) := by
  rw [build, build, dictOrElse, dictOrElse, segmentsAlike same fun _ => id]

end alike

/-- A topic is built unless some level of the pattern is blocked, level by level; the error is one
of the parameters otherwise. Keys that name no wildcard are never looked at. -/
theorem buildsUnlessBlocked (p : Pattern) (d : Dict) :
    let levels := (levelsOf p.source).map ofLevel
    ((∃ e, p.build (.dict d) = .error e) ↔ ∃ s ∈ levels, s.Blocked d) ∧
    ((∃ cause, p.build (.dict d) = .error (.parameter cause)) ↔ ∃ s ∈ levels, s.Blocked d) ∧
    ((∃ parts, p.build (.dict d) = .ok (Text.join "/" parts) ∧
      List.Forall₂ (Replaced d) levels parts) ↔ ¬ ∃ s ∈ levels, s.Blocked d) ∧
    p.build (.dict (d.only p.names)) = p.build (.dict d) := by
  intro levels
  have free := buildsUnblocked (p := p) (d := d)
  rw [segmentsOfSource] at free
  have refuses := p.buildRefuses d
  have alike : p.build (.dict (d.only p.names)) = p.build (.dict d) :=
    buildAlike fun name member => Dict.findOnly member
  cases built : p.build (.dict d) with
  | ok topic =>
    obtain ⟨parts, rfl, replaced⟩ := topicReplaced built
    rw [segmentsOfSource] at replaced
    have unblocked := free.mp ⟨_, built⟩
    exact ⟨iff_of_false (by simp) unblocked, iff_of_false (by simp) unblocked,
      iff_of_true ⟨parts, rfl, replaced⟩ unblocked, alike.trans built⟩
  | error e =>
    obtain ⟨cause, rfl⟩ := refuses e built
    have blocked : ∃ s ∈ levels, s.Blocked d := by
      by_contra unblocked
      obtain ⟨topic, other⟩ := free.mpr unblocked
      rw [built] at other
      contradiction
    exact ⟨iff_of_true ⟨_, rfl⟩ blocked, iff_of_true ⟨_, rfl⟩ blocked,
      iff_of_false (by simp) (not_not_intro blocked), alike.trans built⟩

end Pattern
end TopicRouting
