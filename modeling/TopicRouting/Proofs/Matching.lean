import TopicRouting.Proofs.Fragment
import TopicRouting.Proofs.Parameters

/-! The topics that a pattern matches, told level by level: every level of the pattern takes one
level of the topic, a multi wildcard at the end takes all that are left, and a single slash may
follow. The parameters are the levels that the wildcards took. -/
namespace TopicRouting.Segment

inductive Accepted : List Segment → Prop where
  | rest (name : Text) : Accepted [multi name]
  | last {s : Segment} (ordinary : s.Ordinary) : Accepted [s]
  | more {s : Segment} {segments : List Segment} (ordinary : s.Ordinary)
      (accepted : Accepted segments) : Accepted (s :: segments)

/- The levels of a pattern from some place on, which may be its end. -/
inductive Ordered : List Segment → Prop where
  | nil : Ordered []
  | rest (name : Text) : Ordered [multi name]
  | cons {s : Segment} {segments : List Segment} (ordinary : s.Ordinary)
      (tail : Ordered segments) : Ordered (s :: segments)

theorem acceptedOrdered {segments : List Segment} (accepted : Accepted segments) :
    Ordered segments := by
  induction accepted with
  | rest name => exact .rest name
  | last ordinary => exact .cons ordinary .nil
  | more ordinary accepted ih => exact .cons ordinary ih

theorem ordinaryOfLevel {level : Text} (clean : '/' ∉ level)
    (notMulti : ∀ name, ofLevel level ≠ multi name) : (ofLevel level).Ordinary := by
  unfold ofLevel at notMulti ⊢
  split
  · trivial
  · exact absurd rfl (notMulti _)
  · exact clean

theorem acceptedRead {source : Text} {levels : List Text} {segments : List Segment}
    (clean : ∀ level ∈ levels, '/' ∉ level) (nonempty : levels ≠ [])
    (read : readAll source levels = .ok segments) :
    Accepted segments ∧ segments = levels.map ofLevel := by
  induction levels generalizing segments with
  | nil => contradiction
  | cons level levels ih =>
    have cleanHead := clean level List.mem_cons_self
    cases levels with
    | nil =>
      simp only [readAll, Except.ok.injEq] at read
      subst read
      refine ⟨?_, rfl⟩
      cases kind : ofLevel level with
      | multi name => exact .rest name
      | raw text => exact .last (kind ▸ ordinaryOfLevel cleanHead (by simp [kind]))
      | single name => exact .last (kind ▸ ordinaryOfLevel cleanHead (by simp [kind]))
    | cons next levels =>
      have notMulti : ∀ name, ofLevel level ≠ multi name := by
        intro name kind
        simp [readAll, kind] at read
      have step : readAll source (level :: next :: levels) =
          (readAll source (next :: levels)).map (ofLevel level :: ·) := by
        simp only [readAll]
        cases readAll source (next :: levels) <;> rfl
      rw [step] at read
      cases inner : readAll source (next :: levels) with
      | error e => simp [inner, Except.map] at read
      | ok rest =>
        simp only [inner, Except.map, Except.ok.injEq] at read
        subst read
        have tail := ih (fun l member => clean l (List.mem_cons_of_mem level member)) (by simp) inner
        exact ⟨.more (ordinaryOfLevel cleanHead notMulti) tail.1, by rw [tail.2]; rfl⟩

def Matches : List Segment → List Text → Prop
  | [], levels => levels = [] ∨ levels = [[]]
  | s :: segments, levels =>
      if s.isMulti then RestFits levels
      else match levels with
        | [] => False
        | level :: others => s.Fits level ∧ Matches segments others
instance decideMatches : (segments : List Segment) → (levels : List Text) →
    Decidable (Matches segments levels)
  | [], levels => by unfold Matches; infer_instance
  | s :: segments, levels => by
      have rest := fun others => decideMatches segments others
      unfold Matches
      split
      · infer_instance
      · split <;> infer_instance

theorem ordinaryNotMulti {s : Segment} (ordinary : s.Ordinary) : s.isMulti = false := by
  cases s with
  | multi name => contradiction
  | raw text => rfl
  | single name => rfl

theorem matchesCons {s : Segment} (ordinary : s.Ordinary) (segments : List Segment)
    (level : Text) (others : List Text) :
    Matches (s :: segments) (level :: others) ↔ s.Fits level ∧ Matches segments others := by
  simp [Matches, ordinaryNotMulti ordinary]

def withSlash : List Text → Text
  | [] => []
  | [level] => level
  | level :: _ => level ++ ['/']

def captures : List Segment → List Text → List Text
  | [], _ => []
  | s :: segments, levels =>
      (if s.isMulti then [Text.join "/" levels] else s.captured (withSlash levels)) ++
        captures segments levels.tail

theorem capturesCons {s : Segment} (ordinary : s.Ordinary) (segments : List Segment)
    (level : Text) (others : List Text) :
    captures (s :: segments) (level :: others) =
      s.captured (withSlash (level :: others)) ++ captures segments others := by
  simp [captures, ordinaryNotMulti ordinary]

def levelsAfter (tail : Text) : List Text := if tail = [] then [] else levelsOf tail.tail

theorem levelsSplit {level tail : Text} (clean : '/' ∉ level) (closed : Closed tail) :
    levelsOf (level ++ tail) = level :: levelsAfter tail := by
  rcases closed with rfl | ⟨rest, rfl⟩
  · rw [List.append_nil, levelsWhole clean]
    rfl
  · exact levelsCut clean rest

theorem splitFirst (text : Text) : ∃ level tail, text = level ++ tail ∧ '/' ∉ level ∧
    Closed tail := by
  obtain ⟨level, clean, same | ⟨rest, same⟩⟩ := firstLevel text
  · exact ⟨level, [], by simp [same], clean, closedEnd⟩
  · exact ⟨level, '/' :: rest, same, clean, closedSlash rest⟩

theorem withSlashSplit (level : Text) {tail : Text} (closed : Closed tail) :
    withSlash (level :: levelsAfter tail) = level ++ tail.take 1 := by
  rcases closed with rfl | ⟨rest, rfl⟩
  · exact (List.append_nil level).symm
  · cases later : levelsOf rest with
    | nil => exact absurd later (levelsNonempty rest)
    | cons next others => simp [levelsAfter, later, withSlash]

theorem noneAfter {tail : Text} (closed : Closed tail) :
    Matches [] (levelsAfter tail) ↔ tail.tail = [] := by
  rcases closed with rfl | ⟨rest, rfl⟩
  · simp [Matches, levelsAfter]
  · simp only [Matches, levelsAfter, List.cons_ne_nil, if_false, List.tail_cons, levelsNonempty,
      false_or]
    constructor
    · intro empty
      rw [← joinLevels rest, empty, joinOne]
    · rintro rfl
      exact levelsWhole (by simp)

theorem restFitsAfter (tail : Text) :
    RestFits (levelsAfter tail) ↔ RestFits (levelsOf tail.tail) := by
  cases tail with
  | nil =>
    have empty : levelsOf [] = [[]] := levelsWhole (by simp)
    simp [levelsAfter, empty, RestFits, Unmarked]
  | cons c rest => rfl

theorem joinAfter (tail : Text) : Text.join "/" (levelsAfter tail) = tail.tail := by
  cases tail with
  | nil => rfl
  | cons c rest => exact joinLevels rest

theorem matchesNothing {segments : List Segment} (accepted : Accepted segments)
    (notRest : ∀ name, segments ≠ [multi name]) : ¬ Matches segments [] := by
  cases accepted with
  | rest name => exact absurd rfl (notRest name)
  | last ordinary => simp [Matches, ordinaryNotMulti ordinary]
  | more ordinary accepted => simp [Matches, ordinaryNotMulti ordinary]

theorem regexLast (s : Segment) (text : Text) (groups : List Text) :
    (regex [s]).run text groups final = s.last.run text groups final := rfl

theorem regexBeforeRest (s : Segment) (name text : Text) (groups : List Text) :
    (regex [s, multi name]).run text groups final =
      s.last.run text groups fun rest groups => (multi name).last.run rest groups final := rfl

theorem regexMore {segments : List Segment} (accepted : Accepted segments)
    (notRest : ∀ name, segments ≠ [multi name]) (s : Segment) (text : Text)
    (groups : List Text) :
    (regex (s :: segments)).run text groups final =
      s.piece.run text groups fun rest groups => (regex segments).run rest groups final := by
  cases accepted with
  | rest name => exact absurd rfl (notRest name)
  | @last t ordinary =>
    have single := ordinaryNotMulti ordinary
    simp [regex, Token.fragments, single, Regex.run]
  | @more t segments ordinary accepted => cases accepted <;> rfl

theorem runRegex {segments : List Segment} (accepted : Accepted segments) (text : Text)
    (groups : List Text) :
    (regex segments).run text groups final =
      if Matches segments (levelsOf text) then some (groups ++ captures segments (levelsOf text))
      else none := by
  induction accepted generalizing text groups with
  | rest name =>
    simp only [regexLast, runMulti, Matches, isMulti, if_pos, captures, joinLevels, List.append_nil]
  | @last s ordinary =>
    obtain ⟨level, tail, rfl, clean, closed⟩ := splitFirst text
    rw [regexLast, runLast ordinary clean closed groups finalEnding, levelsSplit clean closed,
      capturesCons ordinary, withSlashSplit level closed]
    simp only [matchesCons ordinary, noneAfter closed, captures, List.append_nil]
    by_cases fits : s.Fits level
    · by_cases ended : tail.tail = [] <;> simp [fits, ended, final]
    · simp [fits]
  | @more s segments ordinary accepted ih =>
    obtain ⟨level, tail, rfl, clean, closed⟩ := splitFirst text
    rw [levelsSplit clean closed, capturesCons ordinary, withSlashSplit level closed]
    simp only [matchesCons ordinary]
    by_cases isRest : ∃ name, segments = [multi name]
    · obtain ⟨name, rfl⟩ := isRest
      rw [regexBeforeRest, runLast ordinary clean closed groups (multiEnding name), runMulti]
      simp only [Matches, isMulti, if_pos, captures, restFitsAfter, joinAfter, List.append_nil,
        List.append_assoc]
      by_cases fits : s.Fits level <;> simp [fits]
    · have notRest : ∀ name, segments ≠ [multi name] := fun name same => isRest ⟨name, same⟩
      rw [regexMore accepted notRest, runPiece ordinary clean closed]
      rcases closed with rfl | ⟨rest, rfl⟩
      · have nothing : ¬ Matches segments (levelsAfter []) := matchesNothing accepted notRest
        simp only [nothing, and_false, if_false]
        split <;> rfl
      · have others : levelsAfter ('/' :: rest) = levelsOf rest := rfl
        have slashNext : ('/' :: rest).take 1 = ['/'] := rfl
        simp only [runSlash, if_pos, ih, others, slashNext, List.append_assoc]
        by_cases fits : s.Fits level <;> simp [fits]

def withoutEmptyEnd (levels : List Text) : List Text :=
  if levels.getLast? = some [] then levels.dropLast else levels

def bindingOf (name : Text) (value : ParamValue) : List (Text × ParamValue) :=
  if name = [] then [] else [(name, value)]

def binding : Segment → List Text → List (Text × ParamValue)
  | raw _, _ => []
  | single name, levels => bindingOf name (.single (levels.headD []))
  | multi name, levels => bindingOf name (.multi (withoutEmptyEnd levels))

def bindings : List Segment → List Text → List (Text × ParamValue)
  | [], _ => []
  | s :: segments, levels => s.binding levels ++ bindings segments levels.tail

theorem readSingleWithSlash {levels : List Text} (clean : ∀ level ∈ levels, '/' ∉ level) :
    Pattern.readSingle (withSlash levels) = levels.headD [] := by
  rcases levels with _ | ⟨level, _ | ⟨next, others⟩⟩
  · rfl
  · have notSlash : level.getLast? ≠ some '/' :=
      fun last => clean level List.mem_cons_self (List.mem_of_getLast? last)
    simp [withSlash, Pattern.readSingle, notSlash]
  · simp [withSlash, Pattern.readSingle]

theorem readMultiJoin {levels : List Text} (clean : ∀ level ∈ levels, '/' ∉ level) :
    Pattern.readMulti (Text.join "/" levels) = withoutEmptyEnd levels := by
  cases levels with
  | nil =>
    have empty : levelsOf (Text.join "/" []) = [[]] := levelsWhole List.not_mem_nil
    rw [Pattern.readMulti, empty]
    rfl
  | cons level levels =>
    rw [Pattern.readMulti, levelsJoin clean (by simp)]
    rfl

theorem bindOne (params : Params) (name : Text) (value : ParamValue) :
    (if name.isEmpty then params else params.put name value) =
      params.bindAll (bindingOf name value) := by
  cases name <;> rfl

theorem bindAppend (params : Params) (first second : List (Text × ParamValue)) :
    params.bindAll (first ++ second) = (params.bindAll first).bindAll second :=
  List.foldl_append

theorem readCaptures {levels : List Text} (clean : ∀ level ∈ levels, '/' ∉ level)
    (segments : List Segment) (params : Params) :
    Pattern.readParams segments (captures segments levels) params =
      params.bindAll (bindings segments levels) := by
  induction segments generalizing levels params with
  | nil => rfl
  | cons s segments ih =>
    have rest := ih fun level member => clean level (List.mem_of_mem_tail member)
    rw [bindings, bindAppend, ← rest]
    cases s with
    | raw text => rfl
    | single name =>
      have step : Pattern.readParams (single name :: segments)
            (captures (single name :: segments) levels) params =
          Pattern.readParams segments (captures segments levels.tail)
            (if name.isEmpty then params
              else params.put name (.single (Pattern.readSingle (withSlash levels)))) := rfl
      rw [step, readSingleWithSlash clean, bindOne]
      rfl
    | multi name =>
      have step : Pattern.readParams (multi name :: segments)
            (captures (multi name :: segments) levels) params =
          Pattern.readParams segments (captures segments levels.tail)
            (if name.isEmpty then params
              else params.put name (.multi (Pattern.readMulti (Text.join "/" levels)))) := rfl
      rw [step, readMultiJoin clean, bindOne]
      rfl

def endsInMulti (segments : List Segment) : Bool := segments.getLast?.any isMulti

def FitInPlace (segments : List Segment) (levels : List Text) : Prop :=
  ∀ pair ∈ segments.zip levels, pair.1.Fits pair.2

/-- The topics that a pattern is for. All levels of the pattern but a multi wildcard at its end
have their level in the topic. What the topic has left fits the multi wildcard; without one,
only the empty level behind a slash at the end may be left. -/
def Agrees (segments : List Segment) (levels : List Text) : Prop :=
  if endsInMulti segments then
    segments.length - 1 ≤ levels.length ∧ FitInPlace segments.dropLast levels ∧
      RestFits (levels.drop (segments.length - 1))
  else
    (levels.length = segments.length ∨
      levels.length = segments.length + 1 ∧ levels[segments.length]? = some []) ∧
    FitInPlace segments levels
instance (segments : List Segment) (levels : List Text) : Decidable (Agrees segments levels) := by
  unfold Agrees FitInPlace; infer_instance

theorem fitInPlaceCons (s : Segment) (segments : List Segment) (level : Text)
    (others : List Text) :
    FitInPlace (s :: segments) (level :: others) ↔ s.Fits level ∧ FitInPlace segments others := by
  simp [FitInPlace]

theorem acceptedNonempty {segments : List Segment} (accepted : Accepted segments) :
    segments ≠ [] := by
  cases accepted <;> simp

theorem agreesCons {s : Segment} {segments : List Segment} (accepted : Accepted segments)
    (level : Text) (others : List Text) :
    Agrees (s :: segments) (level :: others) ↔ s.Fits level ∧ Agrees segments others := by
  have nonempty := acceptedNonempty accepted
  have size : 0 < segments.length := List.length_pos_iff.mpr nonempty
  have atEnd : endsInMulti (s :: segments) = endsInMulti segments := by
    rw [endsInMulti, List.getLast?_cons_of_ne_nil nonempty, endsInMulti]
  unfold Agrees
  rw [atEnd]
  split
  · have rest : (level :: others).drop ((s :: segments).length - 1) =
        others.drop (segments.length - 1) := by
      obtain ⟨n, hn⟩ : ∃ n, segments.length = n + 1 := ⟨segments.length - 1, by omega⟩
      simp [hn]
    rw [rest, List.dropLast_cons_of_ne_nil nonempty, fitInPlaceCons]
    simp only [List.length_cons]
    constructor
    · rintro ⟨_, ⟨fits, others⟩, rest⟩
      exact ⟨fits, by omega, others, rest⟩
    · rintro ⟨fits, _, others, rest⟩
      exact ⟨by omega, ⟨fits, others⟩, rest⟩
  · rw [fitInPlaceCons]
    simp only [List.length_cons, List.getElem?_cons_succ, Nat.add_right_cancel_iff]
    constructor
    · rintro ⟨shape, fits, others⟩
      exact ⟨fits, shape, others⟩
    · rintro ⟨fits, shape, others⟩
      exact ⟨shape, fits, others⟩

theorem matchesAgrees {segments : List Segment} (accepted : Accepted segments)
    (levels : List Text) : Matches segments levels ↔ Agrees segments levels := by
  induction accepted generalizing levels with
  | rest name => simp [Matches, isMulti, Agrees, endsInMulti, FitInPlace]
  | @last s ordinary =>
    have notMulti := ordinaryNotMulti ordinary
    have single : endsInMulti [s] = false := notMulti
    rcases levels with _ | ⟨level, _ | ⟨next, others⟩⟩ <;>
      simp [Matches, Agrees, single, notMulti, FitInPlace, and_comm]
  | @more s segments ordinary accepted ih =>
    cases levels with
    | nil =>
      have size := List.length_pos_iff.mpr (acceptedNonempty accepted)
      have tooFew : ¬ Agrees (s :: segments) [] := by
        intro agrees
        unfold Agrees at agrees
        split at agrees
        · have enough := agrees.1
          simp only [List.length_cons, List.length_nil] at enough
          omega
        · rcases agrees.1 with same | ⟨same, _⟩ <;> simp at same
      simp [Matches, ordinaryNotMulti ordinary, tooFew]
    | cons level others => rw [matchesCons ordinary, agreesCons accepted, ih]

end TopicRouting.Segment

namespace TopicRouting.Pattern
open Segment

theorem accepted (p : Pattern) : Accepted p.segments :=
  (acceptedRead (levelsClean p.source) (levelsNonempty p.source) p.compiled).1

theorem matchLevels (p : Pattern) (topic : Text) :
    p.match? topic =
      if Matches p.segments (levelsOf topic) then
        some (Params.bindAll [] (bindings p.segments (levelsOf topic)))
      else none := by
  have groups : p.groups? topic =
      if Matches p.segments (levelsOf topic) then some (captures p.segments (levelsOf topic))
      else none := runRegex p.accepted topic []
  rw [match?, groups]
  split
  · exact congrArg some (readCaptures (levelsClean topic) p.segments [])
  · rfl

theorem matchesLevelByLevel (p : Pattern) (topic : Text) :
    let levels := levelsOf topic
    let params := Params.bindAll [] (bindings p.segments levels)
    p.match? topic = (if Agrees p.segments levels then some params else none) ∧
    (params.map Prod.fst).Nodup ∧
    ∀ name, params.find? name = (bindings p.segments levels).reverse.lookup name := by
  intro levels params
  have agrees := matchesAgrees p.accepted levels
  refine ⟨?_, Params.bindAllUnique (by simp) _, ?_⟩
  · rw [matchLevels]
    simp only [agrees, levels, params]
  · intro name
    rw [Params.findBindAll]
    exact Option.or_none

end TopicRouting.Pattern
