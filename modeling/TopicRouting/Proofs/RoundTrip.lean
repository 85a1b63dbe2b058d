import TopicRouting.Proofs.Building

/-! Building a topic and matching it gives the parameters back. Matching a topic and building it
again gives the topic back, but for a slash at its end: a multi wildcard that stands for no
levels is built with the slash before it, and all other topics are built without one. -/
namespace TopicRouting

def Value.readBack : Value → Value
  | .tuple items => .list items
  | v => v

def Segment.name? : Segment → Option Text
  | .raw _ => none
  | .single name | .multi name => some name

def Pattern.names (p : Pattern) : List Text := p.segments.filterMap Segment.name?

namespace Segment
open Pattern (Filled orEmpty)

theorem bindingNames (segments : List Segment) (levels : List Text) :
    (bindings segments levels).map Prod.fst = (segments.filterMap name?).filter (· ≠ []) := by
  induction segments generalizing levels with
  | nil => rfl
  | cons s segments ih =>
    rw [bindings, List.map_append, ih]
    cases s with
    | raw text => rfl
    | single name => by_cases empty : name = [] <;> simp [binding, bindingOf, name?, empty]
    | multi name => by_cases empty : name = [] <;> simp [binding, bindingOf, name?, empty]

theorem bindingKeys {segments : List Segment}
    (named : ∀ name ∈ segments.filterMap name?, name ≠ []) (levels : List Text) :
    (bindings segments levels).map Prod.fst = segments.filterMap name? := by
  rw [bindingNames, List.filter_eq_self]
  simpa using named

theorem withoutEmptyEndProper {levels : List Text} (proper : ∀ level ∈ levels, Proper level) :
    withoutEmptyEnd (orEmpty levels) = levels := by
  by_cases empty : levels = []
  · subst empty
    rfl
  · have lastFilled : levels.getLast? ≠ some [] :=
      fun last => (proper [] (List.mem_of_getLast? last)).1 rfl
    rw [orEmpty, if_neg empty, withoutEmptyEnd, if_neg lastFilled]

theorem restFitsProper {levels : List Text} (proper : ∀ level ∈ levels, Proper level) :
    RestFits (orEmpty levels) := by
  by_cases empty : levels = []
  · simp [orEmpty, empty, RestFits, Unmarked]
  · rw [orEmpty, if_neg empty]
    exact ⟨fun level member => (proper level member).2.2,
      fun level member => (proper level (List.dropLast_subset levels member)).1⟩

theorem filledMatches {d : Dict} {segments : List Segment} {levels : List Text}
    (filled : Filled d segments levels) : Matches segments levels := by
  induction filled with
  | nil => exact .inl rfl
  | raw tail ih => exact ⟨rfl, ih⟩
  | single named value proper tail ih => exact ⟨⟨proper.1, proper.2.2⟩, ih⟩
  | multi named value proper => exact restFitsProper proper

theorem filledClean {d : Dict} {segments : List Segment} {levels : List Text}
    (ordered : Ordered segments) (filled : Filled d segments levels) :
    ∀ level ∈ levels, '/' ∉ level := by
  induction filled with
  | nil => simp
  | raw tail ih =>
    obtain _ | _ | ⟨ordinary, ordered⟩ := ordered
    exact List.forall_mem_cons.mpr ⟨ordinary, ih ordered⟩
  | single named value proper tail ih =>
    obtain _ | _ | ⟨ordinary, ordered⟩ := ordered
    exact List.forall_mem_cons.mpr ⟨proper.2.1, ih ordered⟩
  | @multi name levels named value proper =>
    by_cases empty : levels = []
    · simp [orEmpty, empty]
    · rw [orEmpty, if_neg empty]
      exact fun level member => (proper level member).2.1

theorem filledBindings {d : Dict} {segments : List Segment} {levels : List Text}
    (filled : Filled d segments levels) {name : Text} {value : ParamValue}
    (member : (name, value) ∈ bindings segments levels) :
    (d.find? (.text name)).map Value.readBack = some value.value := by
  induction filled with
  | nil => contradiction
  | raw tail ih => exact ih member
  | @single _ level segments levels named found proper tail ih =>
    rcases List.mem_append.mp member with here | later
    · simp only [binding, bindingOf, if_neg named, List.headD_cons, List.mem_singleton,
        Prod.mk.injEq] at here
      obtain ⟨rfl, rfl⟩ := here
      rw [found]
      rfl
    · exact ih later
  | @multi _ levels named found proper =>
    simp only [bindings, binding, bindingOf, if_neg named, withoutEmptyEndProper proper,
      List.append_nil, List.mem_singleton, Prod.mk.injEq] at member
    obtain ⟨rfl, rfl⟩ := member
    rcases found with found | found <;> rw [found] <;> rfl

theorem filledNamed {d : Dict} {segments : List Segment} {levels : List Text}
    (filled : Filled d segments levels) : ∀ name ∈ segments.filterMap name?, name ≠ [] := by
  induction filled with
  | nil => simp
  | raw tail ih => exact ih
  | single named value proper tail ih => exact List.forall_mem_cons.mpr ⟨named, ih⟩
  | multi named value proper => simpa [name?] using named

def normal : List Segment → List Text → List Text
  | [], _ => []
  | s :: segments, levels =>
      if s.isMulti then orEmpty (withoutEmptyEnd levels)
      else levels.headD [] :: normal segments levels.tail

theorem normalCons {s : Segment} (ordinary : s.Ordinary) (segments : List Segment)
    (level : Text) (others : List Text) :
    normal (s :: segments) (level :: others) = level :: normal segments others := by
  simp [normal, ordinaryNotMulti ordinary]

theorem properWithoutEnd {levels : List Text} (clean : ∀ level ∈ levels, '/' ∉ level)
    (fits : RestFits levels) : ∀ level ∈ withoutEmptyEnd levels, Proper level := by
  intro level member
  unfold withoutEmptyEnd at member
  split at member
  · have inside := List.dropLast_subset levels member
    exact ⟨fits.2 level member, clean level inside, fits.1 level inside⟩
  · rename_i lastFilled
    refine ⟨?_, clean level member, fits.1 level member⟩
    rintro rfl
    obtain ⟨front, last, rfl⟩ : ∃ front last, levels = front ++ [last] :=
      ⟨_, _, (List.dropLast_concat_getLast (List.ne_nil_of_mem member)).symm⟩
    rcases List.mem_append.mp member with inside | atEnd
    · exact fits.2 [] (by rwa [List.dropLast_concat]) rfl
    · rw [List.getLast?_concat, List.mem_singleton.mp atEnd] at lastFilled
      contradiction

theorem normalMatches {segments : List Segment} (ordered : Ordered segments) {levels : List Text}
    (clean : ∀ level ∈ levels, '/' ∉ level) (found : Matches segments levels) :
    Matches segments (normal segments levels) ∧
      bindings segments (normal segments levels) = bindings segments levels := by
  induction ordered generalizing levels with
  | nil => exact ⟨.inl rfl, rfl⟩
  | rest name =>
    have proper := properWithoutEnd clean found
    refine ⟨restFitsProper proper, ?_⟩
    simp only [bindings, binding, normal, isMulti, if_pos, withoutEmptyEndProper proper]
  | @cons s segments ordinary tail ih =>
    cases levels with
    | nil => simp [Matches, ordinaryNotMulti ordinary] at found
    | cons level others =>
      obtain ⟨fits, found⟩ := (matchesCons ordinary segments level others).mp found
      obtain ⟨later, same⟩ := ih (fun l member => clean l (List.mem_cons_of_mem level member)) found
      rw [normalCons ordinary, matchesCons ordinary]
      refine ⟨⟨fits, later⟩, ?_⟩
      simp only [bindings, List.tail_cons, same]
      cases s with
      | multi name => contradiction
      | raw text => rfl
      | single name => rfl

theorem normalShape {segments : List Segment} (ordered : Ordered segments) {levels : List Text}
    (found : Matches segments levels) :
    levels = normal segments levels ∨ levels = normal segments levels ++ [[]] ∨
      (endsInMulti segments = true ∧ levels.length + 1 = segments.length ∧
        normal segments levels = levels ++ [[]]) := by
  induction ordered generalizing levels with
  | nil =>
    rcases found with rfl | rfl
    · exact .inl rfl
    · exact .inr (.inl rfl)
  | rest name =>
    simp only [normal, isMulti, if_pos, withoutEmptyEnd]
    split
    · rename_i emptyEnd
      obtain ⟨front, rfl⟩ := List.getLast?_eq_some_iff.mp emptyEnd
      rw [List.dropLast_concat]
      cases front with
      | nil => exact .inl rfl
      | cons level front => exact .inr (.inl rfl)
    · cases levels with
      | nil => exact .inr (.inr ⟨rfl, rfl, rfl⟩)
      | cons level others => exact .inl rfl
  | @cons s segments ordinary tail ih =>
    cases levels with
    | nil => simp [Matches, ordinaryNotMulti ordinary] at found
    | cons level others =>
      obtain ⟨fits, found⟩ := (matchesCons ordinary segments level others).mp found
      rw [normalCons ordinary]
      rcases ih found with same | same | ⟨multiEnd, size, same⟩
      · exact .inl (congrArg (level :: ·) same)
      · exact .inr (.inl (congrArg (level :: ·) same))
      · have nonempty : segments ≠ [] := by
          rintro rfl
          simp at size
        refine .inr (.inr ⟨?_, by simpa using size, congrArg (level :: ·) same⟩)
        rw [endsInMulti, List.getLast?_cons_of_ne_nil nonempty]
        exact multiEnd

theorem normalFilled {d : Dict} {segments : List Segment} (ordered : Ordered segments)
    {levels : List Text} (clean : ∀ level ∈ levels, '/' ∉ level) (found : Matches segments levels)
    (named : ∀ name ∈ segments.filterMap name?, name ≠ [])
    (values : ∀ name value, (name, value) ∈ bindings segments levels →
      d.find? (.text name) = some value.value) : Filled d segments (normal segments levels) := by
  induction ordered generalizing levels with
  | nil => exact .nil
  | rest name =>
    have here : name ≠ [] := named name (by simp [name?])
    refine .multi here (.inl ?_) (properWithoutEnd clean found)
    exact values name (.multi (withoutEmptyEnd levels))
      (by simp [bindings, binding, bindingOf, here])
  | @cons s segments ordinary tail ih =>
    cases levels with
    | nil => simp [Matches, ordinaryNotMulti ordinary] at found
    | cons level others =>
      obtain ⟨fits, found⟩ := (matchesCons ordinary segments level others).mp found
      obtain ⟨cleanHere, cleanRest⟩ := List.forall_mem_cons.mp clean
      have rest : Filled d segments (normal segments others) := by
        refine ih cleanRest found (fun name member => named name ?_) fun name value member =>
          values name value (List.mem_append_right _ member)
        rw [List.filterMap_cons]
        split
        · exact member
        · exact List.mem_cons_of_mem _ member
      rw [normalCons ordinary]
      cases s with
      | multi name => contradiction
      | raw text =>
        have same : level = text := fits
        exact same ▸ .raw rest
      | single name =>
        have here : name ≠ [] := named name (by simp [name?])
        have value := values name (.single level) (by simp [bindings, binding, bindingOf, here])
        exact .single here value ⟨fits.1, cleanHere, fits.2⟩ rest

end Segment

namespace Pattern
open Segment

theorem ordered (p : Pattern) : Ordered p.segments := acceptedOrdered p.accepted

theorem buildThenMatch (p : Pattern) (d : Dict) (topic : Text)
    (built : p.build (.dict d) = .ok topic) :
    ∃ params, p.match? topic = some params ∧ (params.map Prod.fst).Nodup ∧
      ∀ name, (params.find? name).map ParamValue.value =
        if name ∈ p.names then (d.find? (.text name)).map Value.readBack else none := by
  obtain ⟨levels, filled, rfl⟩ := buildOk.mp built
  have same : levelsOf (Text.join "/" levels) = levels :=
    levelsJoin (filledClean p.ordered filled) (filledNonempty filled (acceptedNonempty p.accepted))
  refine ⟨Params.bindAll [] (bindings p.segments levels), ?_, Params.bindAllUnique (by simp) _, ?_⟩
  · rw [matchLevels, same, if_pos (filledMatches filled)]
  · intro name
    have keys : (bindings p.segments levels).map Prod.fst = p.names :=
      bindingKeys (filledNamed filled) levels
    rw [Params.findBindAll, ← keys]
    cases found : (bindings p.segments levels).reverse.lookup name with
    | some value =>
      have member := Params.lookupMember found
      rw [if_pos (List.mem_map.mpr ⟨_, member, rfl⟩), filledBindings filled member]
      rfl
    | none =>
      rw [if_neg (Params.lookupAbsent found)]
      rfl

theorem buildThenMatchRepeated :
    let p : Pattern := ⟨"a+b//+id/+id/#rest",
      [.raw "a+b", .raw "", .single "id", .single "id", .multi "rest"], rfl⟩
    let d : Dict := [(.text "extra", .null), (.text "id", .text "7"),
      (.text "rest", .tuple [.text "x", .text "y"])]
    p.build (.dict d) = .ok ("a+b//7/7/x/y" : Text) ∧
      ∃ params, p.match? "a+b//7/7/x/y" = some params ∧ (params.map Prod.fst).Nodup ∧
        ∀ name, (params.find? name).map ParamValue.value =
          if name ∈ p.names then (d.find? (.text name)).map Value.readBack else none := by
  intro p d
  have built : p.build (.dict d) = .ok ("a+b//7/7/x/y" : Text) := rfl
  exact ⟨built, buildThenMatch p d _ built⟩

theorem matchedBindings {p : Pattern} (named : ∀ name ∈ p.names, name ≠ [])
    (distinct : p.names.Nodup) (levels : List Text) (name : Text) (value : ParamValue)
    (member : (name, value) ∈ bindings p.segments levels) :
    Dict.find? (Params.toDict (Params.bindAll [] (bindings p.segments levels))) (.text name) =
      some value.value := by
  have unique : ((bindings p.segments levels).map Prod.fst).Nodup := by
    rw [bindingKeys named]
    exact distinct
  rw [Params.findDict, Params.findBindAll, Params.lookupDistinct unique member]
  rfl

theorem matchThenBuild (p : Pattern) (topic : Text) (params : Params)
    (named : ∀ name ∈ p.names, name ≠ []) (distinct : p.names.Nodup)
    (found : p.match? topic = some params) :
    ∃ built, p.build (.dict params.toDict) = .ok built ∧
      (topic = built ∨ topic = built ++ ['/'] ∨
        (2 ≤ p.segments.length ∧ endsInMulti p.segments = true ∧
          (levelsOf topic).length + 1 = p.segments.length ∧ built = topic ++ ['/'])) ∧
      p.match? built = p.match? topic ∧
      (p.match? built).map (fun again => p.build (.dict again.toDict)) = some (.ok built) := by
  rw [matchLevels] at found
  split at found
  case isFalse => contradiction
  rename_i fits
  cases found
  have clean := levelsClean topic
  have filled := normalFilled p.ordered clean fits named (matchedBindings named distinct _)
  obtain ⟨fitsAgain, same⟩ := normalMatches p.ordered clean fits
  have nonempty := filledNonempty filled (acceptedNonempty p.accepted)
  have levels : levelsOf (Text.join "/" (normal p.segments (levelsOf topic))) =
      normal p.segments (levelsOf topic) := levelsJoin (filledClean p.ordered filled) nonempty
  have build := buildOk.mpr ⟨_, filled, rfl⟩
  have again : p.match? (Text.join "/" (normal p.segments (levelsOf topic))) =
      some (Params.bindAll [] (bindings p.segments (levelsOf topic))) := by
    rw [matchLevels, levels, if_pos fitsAgain, same]
  refine ⟨_, build, ?_, ?_, ?_⟩
  · rcases normalShape p.ordered fits with shape | shape | ⟨multiEnd, size, shape⟩
    · exact .inl ((joinLevels topic).symm.trans (congrArg (Text.join "/") shape))
    · refine .inr (.inl ?_)
      rw [← joinEmptyEnd nonempty, ← shape, joinLevels]
    · have some : 0 < (levelsOf topic).length := List.length_pos_iff.mpr (levelsNonempty topic)
      refine .inr (.inr ⟨by omega, multiEnd, size, ?_⟩)
      rw [shape, joinEmptyEnd (levelsNonempty topic), joinLevels]
  · rw [again, matchLevels, if_pos fits]
  · rw [again, Option.map_some, build]

theorem matchThenBuildBeforeRest :
    let p : Pattern := ⟨"config/+section/#keys",
      [.raw "config", .single "section", .multi "keys"], rfl⟩
    let params : Params := [("section", .single "net"), ("keys", .multi [])]
    p.match? "config/net" = some params ∧
      ∃ built, p.build (.dict params.toDict) = .ok built ∧
        ("config/net" = built ∨ "config/net" = built ++ ['/'] ∨
          (2 ≤ p.segments.length ∧ endsInMulti p.segments = true ∧
            (levelsOf "config/net").length + 1 = p.segments.length ∧
            built = "config/net" ++ ['/'])) ∧
        p.match? built = p.match? "config/net" ∧
        (p.match? built).map (fun again => p.build (.dict again.toDict)) = some (.ok built) := by
  intro p params
  have found : p.match? "config/net" = some params := by decide
  exact ⟨found, matchThenBuild p _ params (by decide) (by decide) found⟩

end Pattern
end TopicRouting
