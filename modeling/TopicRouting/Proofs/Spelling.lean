import Mathlib.Data.List.Forall2
import TopicRouting.Proofs.Compiling

/-! What the regular expression of a pattern and its subscription topic tell of each other. Written
fragments can be read back one after another: an escaped text ends at the first slash or bracket
without a backslash, and what follows it in one fragment is no beginning of what follows it in
another. Both tell the levels of a pattern without the names of its wildcards, and no more. -/
namespace TopicRouting

namespace Regex

def escaped (text : Text) : Text := text.flatMap escape

theorem textSource (text : Text) : (ofText text).source = escaped text := by
  induction text with
  | nil => rfl
  | cons c text ih => exact congrArg (escape c ++ ·) ih

theorem escapeReads {c d : Char} {rest others : Text}
    (same : escape c ++ rest = escape d ++ others) : c = d ∧ rest = others := by
  have backslash : special.contains '\\' = true := by decide
  rw [escape, escape] at same
  split at same <;> split at same
  · simpa using same
  · rename_i ordinary
    obtain ⟨rfl, _⟩ := List.cons.inj same
    exact absurd backslash ordinary
  · rename_i ordinary _
    obtain ⟨rfl, _⟩ := List.cons.inj same
    exact absurd backslash ordinary
  · simpa using same

def Stops (text : Text) : Prop := text.head? = Option.some '/' ∨ text.head? = Option.some '('
instance (text : Text) : Decidable (Stops text) := by unfold Stops; infer_instance

theorem Stops.longer {text rest : Text} (stops : Stops text) : Stops (text ++ rest) := by
  cases text with
  | nil => simp [Stops] at stops
  | cons c text => exact stops

theorem goesOn {c : Char} (notSlash : c ≠ '/') (text rest : Text) :
    ¬ Stops (escaped (c :: text) ++ rest) := by
  intro stops
  rw [escaped, List.flatMap_cons, escape] at stops
  split at stops
  · simp [Stops] at stops
  · rename_i ordinary
    have bracket : c ≠ '(' := by
      rintro rfl
      exact ordinary (by decide)
    simp [Stops, notSlash, bracket] at stops

theorem escapedReads {text other rest others : Text} (clean : '/' ∉ text)
    (alsoClean : '/' ∉ other) (stops : Stops rest) (alsoStops : Stops others)
    (same : escaped text ++ rest = escaped other ++ others) : text = other ∧ rest = others := by
  induction text generalizing other with
  | nil =>
    cases other with
    | nil => exact ⟨rfl, same⟩
    | cons d other =>
      rw [List.mem_cons, not_or] at alsoClean
      have stops : Stops (escaped (d :: other) ++ others) := same ▸ stops
      exact absurd stops (goesOn (Ne.symm alsoClean.1) other others)
  | cons c text ih =>
    rw [List.mem_cons, not_or] at clean
    cases other with
    | nil =>
      have stops : Stops (escaped (c :: text) ++ rest) := same.symm ▸ alsoStops
      exact absurd stops (goesOn (Ne.symm clean.1) text rest)
    | cons d other =>
      rw [List.mem_cons, not_or] at alsoClean
      rw [escaped, escaped, List.flatMap_cons, List.flatMap_cons, List.append_assoc,
        List.append_assoc] at same
      obtain ⟨rfl, later⟩ := escapeReads same
      obtain ⟨rfl, rest⟩ := ih clean.2 alsoClean.2 later
      exact ⟨rfl, rest⟩

end Regex

section fragments

variable {Item Other Fragment Written : Type} {isMulti : Item → Bool} {piece last : Item → Fragment}

theorem fragmentsMap (f : Other → Item) (items : List Other) :
    Token.fragments isMulti piece last (items.map f) =
      Token.fragments (isMulti ∘ f) (piece ∘ f) (last ∘ f) items := by
  fun_induction Token.fragments (isMulti ∘ f) (piece ∘ f) (last ∘ f) items with
  | case1 => rfl
  | case2 a => rfl
  | case3 a b => rfl
  | case4 a rest notNil notOne ih =>
    cases rest with
    | nil => exact absurd rfl notNil
    | cons b rest =>
      cases rest with
      | nil => exact absurd rfl (notOne b)
      | cons c rest => exact congrArg (piece (f a) :: ·) ih

theorem fragmentsWritten (write : Fragment → Written) (items : List Item) :
    (Token.fragments isMulti piece last items).map write =
      Token.fragments isMulti (write ∘ piece) (write ∘ last) items := by
  fun_induction Token.fragments isMulti piece last items with
  | case1 => rfl
  | case2 a => rfl
  | case3 a b => simp [Token.fragments, apply_ite write]
  | case4 a rest notNil notOne ih =>
    cases rest with
    | nil => exact absurd rfl notNil
    | cons b rest =>
      cases rest with
      | nil => exact absurd rfl (notOne b)
      | cons c rest => exact congrArg (write (piece a) :: ·) ih

theorem fragmentsOfItems (items : List Item) :
    List.Forall₂ (fun item fragment => fragment = piece item ∨ fragment = last item) items
      (Token.fragments isMulti piece last items) := by
  fun_induction Token.fragments isMulti piece last items with
  | case1 => exact .nil
  | case2 a => exact .cons (.inr rfl) .nil
  | case3 a b =>
    refine .cons ?_ (.cons (.inr rfl) .nil)
    split
    · exact .inr rfl
    · exact .inl rfl
  | case4 a rest notNil notOne ih => exact .cons (.inl rfl) ih

end fragments

namespace Segment

def fragments (segments : List Segment) : List Regex :=
  Token.fragments isMulti piece last segments

def written (segments : List Segment) : Text := ((fragments segments).map Regex.source).flatten

theorem tokensSource (segments : List Segment) :
    Token.regexSource (segments.map token) = "\\A" ++ written segments ++ "\\Z" := by
  have pieces : Token.piece ∘ token = Regex.source ∘ piece := funext fun s => by cases s <;> rfl
  have lasts : Token.last ∘ token = Regex.source ∘ last := funext fun s => by cases s <;> rfl
  have multis : (fun t : Token => t.kind == .multi) ∘ token = isMulti :=
    funext fun s => by cases s <;> rfl
  rw [Token.regexSource, fragmentsMap, pieces, lasts, multis, written, fragments, fragmentsWritten]

def nameless : Segment → Segment
  | raw text => raw text
  | single _ => single []
  | multi _ => multi []

theorem namelessTwice (s : Segment) : s.nameless.nameless = s.nameless := by
  cases s <;> rfl

theorem fragmentsNameless (segments : List Segment) :
    fragments (segments.map nameless) = fragments segments := by
  have pieces : piece ∘ nameless = piece := funext fun s => by cases s <;> rfl
  have lasts : last ∘ nameless = last := funext fun s => by cases s <;> rfl
  have multis : isMulti ∘ nameless = isMulti := funext fun s => by cases s <;> rfl
  rw [fragments, fragmentsMap, pieces, lasts, multis, fragments]

def literal : Segment → Text
  | raw text => text
  | _ => []

def endings : Token.Kind → List Text
  | .raw => ["/", "(?:/|\\Z)"]
  | .single => ["([^/#+]+/)", "([^/#+]+/?)"]
  | .multi => ["((?:[^/#+]+/)*)", "((?:[^/#+]+/)*[^/#+]*)"]

theorem endingStops (kind : Token.Kind) : ∀ ending ∈ endings kind, Regex.Stops ending := by
  cases kind <;> decide

theorem endingsApart (kind other : Token.Kind) : ∀ first ∈ endings kind, ∀ second ∈ endings other,
    first <+: second → kind = other ∧ first = second := by
  cases kind <;> cases other <;> decide

theorem endingReads {kind other : Token.Kind} {first second : Text} (member : first ∈ endings kind)
    (also : second ∈ endings other) {rest others : Text}
    (same : first ++ rest = second ++ others) : kind = other ∧ rest = others := by
  have equal : kind = other ∧ first = second := by
    rcases List.append_eq_append_iff.mp same with ⟨more, longer, _⟩ | ⟨more, longer, _⟩
    · exact endingsApart kind other first member second also ⟨more, longer.symm⟩
    · exact (endingsApart other kind second also first member ⟨more, longer.symm⟩).imp .symm .symm
  rw [equal.2] at same
  exact ⟨equal.1, List.append_cancel_left same⟩

theorem fragmentWritten {s : Segment} {fragment : Regex}
    (own : fragment = s.piece ∨ fragment = s.last) : ∃ ending ∈ endings s.token.kind,
      fragment.source = Regex.escaped s.literal ++ ending := by
  have raw (text : Text) (r : Regex) : (Regex.seq (.ofText text) r).source =
      Regex.escaped text ++ r.source := congrArg (· ++ r.source) (Regex.textSource text)
  cases s with
  | raw text =>
    rcases own with rfl | rfl
    · exact ⟨_, .head _, raw text _⟩
    · exact ⟨_, .tail _ (.head _), raw text _⟩
  | single name =>
    rcases own with rfl | rfl
    · exact ⟨_, .head _, rfl⟩
    · exact ⟨_, .tail _ (.head _), rfl⟩
  | multi name =>
    rcases own with rfl | rfl
    · exact ⟨_, .head _, rfl⟩
    · exact ⟨_, .tail _ (.head _), rfl⟩

theorem namelessTold {s t : Segment} (kind : s.token.kind = t.token.kind)
    (literal : s.literal = t.literal) : s.nameless = t.nameless := by
  cases s <;> cases t <;> simp_all [token, Segment.literal, nameless]

theorem literalClean {s : Segment} (ordinary : s.Ordinary) : '/' ∉ s.literal := by
  cases s with
  | raw text => exact ordinary
  | single name => simp [Segment.literal]
  | multi name => contradiction

theorem fragmentReads {s t : Segment} {first second : Regex}
    (own : first = s.piece ∨ first = s.last) (also : second = t.piece ∨ second = t.last)
    (clean : '/' ∉ s.literal) (alsoClean : '/' ∉ t.literal) {rest others : Text}
    (same : first.source ++ rest = second.source ++ others) :
    s.nameless = t.nameless ∧ rest = others := by
  obtain ⟨ending, member, written⟩ := fragmentWritten own
  obtain ⟨other, alsoMember, alsoWritten⟩ := fragmentWritten also
  rw [written, alsoWritten, List.append_assoc, List.append_assoc] at same
  obtain ⟨literal, later⟩ := Regex.escapedReads clean alsoClean
    (endingStops s.token.kind ending member).longer
    (endingStops t.token.kind other alsoMember).longer same
  obtain ⟨kind, rest⟩ := endingReads member alsoMember later
  exact ⟨namelessTold kind literal, rest⟩

theorem fragmentNotEnd {s : Segment} {fragment : Regex}
    (own : fragment = s.piece ∨ fragment = s.last) (rest : Text) :
    fragment.source ++ rest ≠ "\\Z" := by
  intro same
  obtain ⟨ending, member, written⟩ := fragmentWritten own
  rw [written, List.append_assoc] at same
  cases literal : s.literal with
  | nil =>
    rw [literal] at same
    have stops : Regex.Stops (ending ++ rest) := (endingStops s.token.kind ending member).longer
    rw [show ending ++ rest = "\\Z" from same] at stops
    exact absurd stops (by decide)
  | cons c text =>
    rw [literal, Regex.escaped, List.flatMap_cons, List.append_assoc, Regex.escape] at same
    split at same
    · rename_i special
      obtain ⟨rfl, _⟩ := List.cons.inj (List.cons.inj same).2
      exact absurd special (by decide)
    · rename_i ordinary
      obtain ⟨rfl, _⟩ := List.cons.inj same
      exact absurd (by decide) ordinary

theorem writtenReads {segments others : List Segment} {first second : List Regex}
    (own : List.Forall₂ (fun s r => r = s.piece ∨ r = s.last) segments first)
    (also : List.Forall₂ (fun s r => r = s.piece ∨ r = s.last) others second)
    (clean : ∀ s ∈ segments, '/' ∉ s.literal) (alsoClean : ∀ s ∈ others, '/' ∉ s.literal)
    (same : (first.map Regex.source).flatten ++ "\\Z" =
      (second.map Regex.source).flatten ++ "\\Z") :
    segments.map nameless = others.map nameless := by
  induction own generalizing others second with
  | nil =>
    cases also with
    | nil => rfl
    | cons head tail =>
      rw [List.map_cons, List.flatten_cons, List.append_assoc] at same
      exact absurd same.symm (fragmentNotEnd head _)
  | cons head tail ih =>
    cases also with
    | nil =>
      rw [List.map_cons, List.flatten_cons, List.append_assoc] at same
      exact absurd same (fragmentNotEnd head _)
    | cons alsoHead alsoTail =>
      rw [List.map_cons, List.flatten_cons, List.map_cons, List.flatten_cons, List.append_assoc,
        List.append_assoc] at same
      obtain ⟨here, others⟩ := List.forall_mem_cons.mp clean
      obtain ⟨alsoHere, alsoOthers⟩ := List.forall_mem_cons.mp alsoClean
      obtain ⟨first, rest⟩ := fragmentReads head alsoHead here alsoHere same
      rw [List.map_cons, List.map_cons, first, ih alsoTail others alsoOthers rest]

theorem filterClean {level : Text} (clean : '/' ∉ level) : '/' ∉ filterOf level := by
  fun_cases filterOf level with
  | case1 name => decide
  | case2 name => decide
  | case3 level => exact clean

theorem filterLevel (level : Text) : ofLevel (filterOf level) = (ofLevel level).nameless := by
  fun_cases filterOf level with
  | case1 name => rfl
  | case2 name => rfl
  | case3 level notSingle notMulti => rw [rawLevel notSingle notMulti]; rfl

theorem filterPlace (level : Text) :
    (filterOf level).head? = some '#' ↔ level.head? = some '#' := by
  fun_cases filterOf level with
  | case1 name => simp
  | case2 name => simp
  | case3 level => rfl

theorem filterUnnamed (level : Text) : isNamed (filterOf level) = false := by
  fun_cases filterOf level with
  | case1 name => rfl
  | case2 name => rfl
  | case3 level notSingle notMulti =>
    rw [isNamed]
    · exact notSingle
    · exact notMulti

theorem filterSame (s : Segment) : s.nameless.token.filterLevel = s.token.filterLevel := by
  cases s <;> rfl

theorem orderedLiterals {segments : List Segment} (ordered : Ordered segments) :
    ∀ s ∈ segments, '/' ∉ s.literal := by
  induction ordered with
  | nil => simp
  | rest name => simp [literal]
  | cons ordinary _ ih => exact List.forall_mem_cons.mpr ⟨literalClean ordinary, ih⟩

end Segment

namespace Pattern
open Segment

variable {p q : Pattern}

theorem levelsOfTopic (p : Pattern) : levelsOf p.topic = (levelsOf p.source).map filterOf := by
  rw [topicOfSource]
  refine levelsJoin (fun level member => ?_) (by simpa using levelsNonempty p.source)
  obtain ⟨old, inside, rfl⟩ := List.mem_map.mp member
  exact filterClean (levelsClean p.source old inside)

theorem segmentsOfTopic (p : Pattern) :
    (levelsOf p.topic).map ofLevel = p.segments.map nameless := by
  rw [levelsOfTopic, segmentsOfSource, List.map_map, List.map_map]
  exact List.map_congr_left fun level _ => filterLevel level

theorem sameTopic : p.topic = q.topic ↔ p.segments.map nameless = q.segments.map nameless := by
  constructor
  · intro same
    rw [← segmentsOfTopic, ← segmentsOfTopic, same]
  · intro same
    have told (r : Pattern) :
        r.topic = Text.join "/" ((r.segments.map nameless).map (·.token.filterLevel)) := by
      rw [topic, Token.filter, tokens, List.map_map, List.map_map]
      exact congrArg _ (List.map_congr_left fun s _ => (filterSame s).symm)
    rw [told p, told q, same]

theorem sameSource :
    p.regexSource = q.regexSource ↔ p.segments.map nameless = q.segments.map nameless := by
  have told (r : Pattern) : r.regexSource = "\\A" ++ (written r.segments ++ "\\Z") := by
    rw [regexSource, tokens, tokensSource, List.append_assoc]
  rw [told p, told q]
  constructor
  · intro same
    have clean (r : Pattern) := orderedLiterals (acceptedOrdered r.accepted)
    exact writtenReads (fragmentsOfItems p.segments) (fragmentsOfItems q.segments) (clean p)
      (clean q) (List.append_cancel_left same)
  · intro same
    rw [written, written, ← fragmentsNameless, same, fragmentsNameless]

theorem regexNameless (same : p.segments.map nameless = q.segments.map nameless) :
    p.regex = q.regex := by
  have told (r : Pattern) : r.regex = (fragments (r.segments.map nameless)).foldr .seq .empty := by
    rw [fragmentsNameless]
    rfl
  rw [told p, told q, same]

theorem groupsOfTopic (same : p.topic = q.topic) (topic : Text) :
    p.groups? topic = q.groups? topic := by
  rw [groups?, groups?, regexNameless (sameTopic.mp same)]

theorem topicCompiles (p : Pattern) : ∃ again, compile p.topic = .ok again := by
  have placed : ¬ Misplaced (levelsOf p.source) := (reads _ _).mp ⟨_, p.compiled⟩
  rw [compiles, levelsOfTopic, Misplaced, ← List.map_dropLast]
  rintro ⟨_, member, sign⟩
  obtain ⟨level, inside, rfl⟩ := List.mem_map.mp member
  exact placed ⟨level, inside, (filterPlace level).mp sign⟩

theorem topicAgain {again : Pattern} (compiled : compile p.topic = .ok again) :
    again.segments = p.segments.map nameless ∧ again.parameterCount = 0 := by
  have source := compiledSource compiled
  constructor
  · rw [segmentsOfSource, source, segmentsOfTopic]
  · rw [countOfSource, source, levelsOfTopic, List.countP_map]
    exact List.countP_eq_zero.mpr fun level _ => by simp [filterUnnamed]

end Pattern
end TopicRouting
