import Mathlib.Data.List.Nodup
import Mathlib.Data.List.Perm.Subperm
import TopicRouting.Bus.Step
import TopicRouting.Proofs.Mapping
import TopicRouting.Proofs.RoundTrip

/-! The mappings under which a bus has a topic for a pattern. It counts their entries first and
builds the topic then, which asks for the names of the wildcards only. Where no name comes twice
the two checks together leave no room for another key. -/
namespace TopicRouting

def Refuses {α : Type} (x : Except Error α) : Prop :=
  ∀ e, x = .error e → ∃ cause, e = .parameter cause

theorem refusesOk {α : Type} (a : α) : Refuses (.ok a : Except Error α) := nofun

theorem refusesError {α : Type} (cause : ParameterError) :
    Refuses (.error (.parameter cause) : Except Error α) := by
  rintro e ⟨⟩
  exact ⟨cause, rfl⟩

theorem refusesThen {α β : Type} {x : Except Error α} {f : α → Except Error β}
    (first : Refuses x) (next : ∀ a, Refuses (f a)) : Refuses (x >>= f) := by
  cases x with
  | error e =>
    intro other same
    cases same
    exact first e rfl
  | ok a => exact next a

namespace Segment
open Pattern (Filled orEmpty)

def Given (d : Dict) : Segment → Prop
  | .raw _ => True
  | .single name => ∃ level, d.find? (.text name) = some (.text level) ∧ Proper level
  | .multi name => ∃ levels : List Text, (d.find? (.text name) = some (.list (levels.map .text)) ∨
      d.find? (.text name) = some (.tuple (levels.map .text))) ∧ ∀ level ∈ levels, Proper level

theorem givenFilled {d : Dict} {segments : List Segment} (ordered : Ordered segments)
    (named : ∀ name ∈ segments.filterMap name?, name ≠ [])
    (given : ∀ s ∈ segments, s.Given d) : ∃ levels, Filled d segments levels := by
  induction ordered with
  | nil => exact ⟨[], .nil⟩
  | rest name =>
    obtain ⟨levels, value, proper⟩ := given _ (List.mem_singleton.mpr rfl)
    exact ⟨orEmpty levels, .multi (named name (by simp [name?])) value proper⟩
  | @cons s segments ordinary tail ih =>
    obtain ⟨here, others⟩ := List.forall_mem_cons.mp given
    cases s with
    | multi name => contradiction
    | raw text =>
      obtain ⟨levels, filled⟩ := ih named others
      exact ⟨text :: levels, .raw filled⟩
    | single name =>
      obtain ⟨namedHere, namedOthers⟩ := List.forall_mem_cons.mp named
      obtain ⟨levels, filled⟩ := ih namedOthers others
      obtain ⟨level, value, proper⟩ := here
      exact ⟨level :: levels, .single namedHere value proper filled⟩

theorem filledGiven {d : Dict} {segments : List Segment} {levels : List Text}
    (filled : Filled d segments levels) : ∀ s ∈ segments, s.Given d := by
  induction filled with
  | nil => simp
  | raw tail ih => exact List.forall_mem_cons.mpr ⟨trivial, ih⟩
  | single named value proper tail ih => exact List.forall_mem_cons.mpr ⟨⟨_, value, proper⟩, ih⟩
  | multi named value proper => exact List.forall_mem_cons.mpr ⟨⟨_, value, proper⟩, by simp⟩

theorem countNames (segments : List Segment) :
    Token.namedCount (segments.map token) =
      ((segments.filterMap name?).filter (· ≠ [])).length := by
  induction segments with
  | nil => rfl
  | cons s segments ih =>
    rw [List.map_cons, Token.namedCount, List.countP_cons, ← Token.namedCount, ih]
    cases s with
    | raw text => rfl
    | single name =>
      by_cases empty : name = [] <;> simp [token, Token.isNamed, Token.isWildcard, name?, empty]
    | multi name =>
      by_cases empty : name = [] <;> simp [token, Token.isNamed, Token.isWildcard, name?, empty]

end Segment

namespace Pattern
open Segment

theorem checkLevelRefuses (name : Text) (v : Value) : Refuses (checkLevel name v) := by
  cases v with
  | text t =>
    rw [checkLevel]
    split
    · exact refusesError _
    · split
      · exact refusesError _
      · exact refusesOk t
  | _ => exact refusesError _

theorem checkLevelsRefuses (name : Text) (vs : List Value) : Refuses (checkLevels name vs) := by
  induction vs with
  | nil => exact refusesOk []
  | cons v vs ih =>
    exact refusesThen (checkLevelRefuses name v) fun _ => refusesThen ih fun _ => refusesOk _

theorem wildcardValueRefuses (p : Pattern) (level name : Text) (d : Dict) :
    Refuses (p.wildcardValue level name (.dict d)) := by
  rw [wildcardValue]
  split
  · exact refusesError _
  · rw [lookup]
    split
    · exact refusesOk _
    · exact refusesError _

theorem buildSegmentRefuses (p : Pattern) (d : Dict) (s : Segment) :
    Refuses (p.buildSegment (.dict d) s) := by
  cases s with
  | raw text => exact refusesOk text
  | single name =>
    exact refusesThen (p.wildcardValueRefuses _ name d) fun v => checkLevelRefuses name v
  | multi name =>
    refine refusesThen (p.wildcardValueRefuses _ name d) fun v => ?_
    cases v with
    | list vs => exact refusesThen (checkLevelsRefuses name vs) fun _ => refusesOk _
    | tuple vs => exact refusesThen (checkLevelsRefuses name vs) fun _ => refusesOk _
    | _ => exact refusesError _

theorem buildRefuses (p : Pattern) (d : Dict) : Refuses (p.build (.dict d)) := by
  have segments : ∀ segments, Refuses (p.buildSegments (.dict d) segments) := by
    intro segments
    induction segments with
    | nil => exact refusesOk []
    | cons s rest ih =>
      exact refusesThen (p.buildSegmentRefuses d s) fun _ => refusesThen ih fun _ => refusesOk _
  rw [build, dictOrElse]
  exact refusesThen (segments p.segments) fun _ => refusesOk _

theorem builds {p : Pattern} {d : Dict} : (∃ topic, p.build (.dict d) = .ok topic) ↔
    (∀ name ∈ p.names, name ≠ []) ∧ ∀ s ∈ p.segments, s.Given d := by
  constructor
  · rintro ⟨topic, built⟩
    obtain ⟨levels, filled, _⟩ := buildOk.mp built
    exact ⟨filledNamed filled, filledGiven filled⟩
  · rintro ⟨named, given⟩
    obtain ⟨levels, filled⟩ := givenFilled p.ordered named given
    exact ⟨_, buildOk.mpr ⟨levels, filled, rfl⟩⟩

def keys (p : Pattern) : List Text := p.names.filter (· ≠ [])

theorem countKeys (p : Pattern) : p.parameterCount = p.keys.length := countNames p.segments

structure Takes (p : Pattern) (d : Dict) : Prop where
  named : ∀ name ∈ p.names, name ≠ []
  keys : ∀ key, key ∈ d.map Prod.fst ↔ ∃ name ∈ p.names, key = .text name
  given : ∀ s ∈ p.segments, s.Given d

theorem textsNodup {names : List Text} : (names.map Value.text).Nodup ↔ names.Nodup :=
  List.nodup_map_iff fun _ _ => Value.text.inj

theorem textsOfKeys {d : Dict} {names : List Text}
    (keys : ∀ key ∈ d.map Prod.fst, ∃ name ∈ names, key = .text name) : d.Texts := by
  intro entry member
  obtain ⟨name, _, same⟩ := keys entry.1 (List.mem_map.mpr ⟨entry, member, rfl⟩)
  exact ⟨name, same⟩

theorem Takes.texts {p : Pattern} {d : Dict} (takes : p.Takes d) : d.Texts :=
  textsOfKeys fun key member => (takes.keys key).mp member

theorem onceOfCount {p : Pattern} {d : Dict} (distinct : d.Distinct)
    (keys : ∀ key ∈ d.map Prod.fst, ∃ name ∈ p.keys, key = .text name)
    (count : d.length = p.parameterCount) : p.keys.Nodup := by
  have inside : d.map Prod.fst ⊆ p.keys.map Value.text := by
    intro key member
    obtain ⟨name, named, rfl⟩ := keys key member
    exact List.mem_map.mpr ⟨name, named, rfl⟩
  have size : (p.keys.map Value.text).length ≤ (d.map Prod.fst).length := by
    simp [count, countKeys]
  have apart := Dict.keysNodup distinct (textsOfKeys keys)
  have perm := (List.subperm_of_subset apart inside).perm_of_length_le size
  exact textsNodup.mp (perm.nodup_iff.mp apart)

end Pattern

namespace Bus

theorem topicForDict (p : Pattern) (d : Dict) :
    State.topicFor p (.dict d) =
      if d.length = p.parameterCount then p.build (.dict d)
      else .error (.parameter (.count d.length p.parameterCount)) := by
  rw [State.topicFor, Pattern.dictOrElse]
  by_cases count : d.length = p.parameterCount <;> simp [sizeOf?, count]

theorem topicForRefuses (p : Pattern) (d : Dict) : Refuses (State.topicFor p (.dict d)) := by
  rw [topicForDict]
  split
  · exact p.buildRefuses d
  · exact refusesError _

end Bus
end TopicRouting
