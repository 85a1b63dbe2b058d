import TopicRouting.Proofs.Spelling

/-! What a pattern is compiled to is a regular expression, whatever its levels are: a fragment in
front of what can be read to the end is one part, or a sequence of them, and can be read, too. -/
namespace TopicRouting.RegexText
open Regex (escape escaped special)

def sign (c : Char) : Sign := if special.contains c then .escaped c else .plain c

theorem signsPlain {c : Char} (ordinary : c ≠ '\\') (text : Text) :
    signs (c :: text) = (signs text).map (.plain c :: ·) := by
  simp [signs, ordinary]

theorem signsEscape (c : Char) (rest : Text) :
    signs (escape c ++ rest) = (signs rest).map (sign c :: ·) := by
  rw [escape, sign]
  split
  · rfl
  · rename_i ordinary
    refine signsPlain ?_ rest
    rintro rfl
    exact ordinary (by decide)

theorem signsAppend {text : Text} {known : List Sign} (read : signs text = some known)
    (rest : Text) : signs (text ++ rest) = (signs rest).map (known ++ ·) := by
  fun_induction signs text generalizing known with
  | case1 =>
    cases read
    exact Option.map_id'.symm
  | case2 => contradiction
  | case3 c text ih =>
    obtain ⟨later, told, rfl⟩ := Option.map_eq_some_iff.mp read
    rw [List.cons_append, List.cons_append, signs, ih told, Option.map_map]
    rfl
  | case4 c text notAlone notEscape ih =>
    obtain ⟨later, told, rfl⟩ := Option.map_eq_some_iff.mp read
    have ordinary : c ≠ '\\' := by
      rintro rfl
      cases text with
      | nil => exact notAlone rfl rfl
      | cons d text => exact notEscape d text rfl rfl
    rw [List.cons_append, signsPlain ordinary, ih told, Option.map_map]
    rfl

def Kept (s after : State) : Prop := after.isEven = s.isEven ∧ after.conditions = s.conditions

/- Signs that can be read up to some others, whatever has been read before them. -/
def Reads (tail rest : List Sign) : Prop :=
  ∀ fuel before (s : State), s.rest = rest → 4 * rest.length + 1 ≤ fuel →
    ∃ width after, parts false before fuel s = .ok (width, after) ∧ after.rest = tail ∧ Kept s after

def IsPart (front : List Sign) : Prop :=
  0 < front.length ∧ ∀ rest fuel before (s : State), s.rest = front ++ rest →
    4 * s.rest.length ≤ fuel → ∃ part after, part.isFixed = false ∧
      parts false before (fuel + 1) s = parts false (part :: before) fuel after ∧
        after.rest = rest ∧ Kept s after

theorem readsEnd : Reads [] [.escaped 'Z'] := by
  rintro fuel before ⟨⟩ rfl enough
  obtain ⟨fuel, rfl⟩ := Nat.exists_eq_add_of_le' enough
  exact ⟨_, _, rfl, rfl, rfl, rfl⟩

theorem readsBracket (tail : List Sign) : Reads (.plain ')' :: tail) (.plain ')' :: tail) := by
  intro fuel before s here enough
  obtain ⟨fuel, rfl⟩ : ∃ less, fuel = less + 1 := ⟨fuel - 1, by omega⟩
  rw [parts]
  simp only [here]
  exact ⟨_, s, rfl, here, rfl, rfl⟩

section reading

variable {front rest tail : List Sign}

theorem IsPart.reads (isPart : IsPart front) (reads : Reads tail rest) :
    Reads tail (front ++ rest) := by
  intro fuel before s here enough
  have size := isPart.1
  rw [List.length_append] at enough
  obtain ⟨fuel, rfl⟩ : ∃ less, fuel = less + 1 := ⟨fuel - 1, by omega⟩
  obtain ⟨part, after, -, goesOn, later, even, conditions⟩ :=
    isPart.2 rest fuel before s here (by rw [here, List.length_append]; omega)
  obtain ⟨width, last, finished, atTail, stillEven, same⟩ :=
    reads fuel (part :: before) after later (by omega)
  exact ⟨width, last, goesOn.trans finished, atTail, stillEven.trans even, same.trans conditions⟩

theorem IsPart.repeated (isPart : IsPart front) {c d : Char} (sign : c = '?' ∨ c = '*' ∨ c = '+')
    (apart : d ≠ '?' ∧ d ≠ '+') (reads : Reads tail (.plain d :: rest)) :
    Reads tail (front ++ .plain c :: .plain d :: rest) := by
  intro fuel before s here enough
  have size := isPart.1
  simp only [List.length_append, List.length_cons] at enough
  obtain ⟨fuel, rfl⟩ : ∃ less, fuel = less + 2 := ⟨fuel - 2, by omega⟩
  obtain ⟨part, after, unfixed, goesOn, later, even, conditions⟩ :=
    isPart.2 (.plain c :: .plain d :: rest) (fuel + 1) before s here
      (by rw [here]; simp only [List.length_append, List.length_cons]; omega)
  obtain ⟨again, twice⟩ : ∃ again, parts false (part :: before) (fuel + 1) after =
      parts false again fuel { after with rest := .plain d :: rest } := by
    rw [parts]
    rcases sign with rfl | rfl | rfl <;>
      simp [later, repetition?, repeatLast, unfixed, apart] <;> exact ⟨_, rfl⟩
  obtain ⟨width, last, finished, atTail, stillEven, same⟩ :=
    reads fuel again { after with rest := .plain d :: rest } rfl (by simp; omega)
  exact ⟨width, last, (goesOn.trans twice).trans finished, atTail, stillEven.trans even,
    same.trans conditions⟩

end reading

theorem specialPart {c : Char} (member : special.contains c = true) (s : State) :
    escapedPart c s = .ok ({ width := .one }, s) := by
  have apart : special.all (fun d => decide (d ≠ 'x' ∧ d ≠ 'u' ∧ d ≠ 'U' ∧ d ≠ 'N' ∧ d ≠ '0' ∧
      "AbBZ".toList.contains d = false ∧ d.isDigit = false ∧ d.isAlpha = false)) = true := by
    decide
  obtain ⟨x, u, longer, name, zero, place, digit, letter⟩ :=
    of_decide_eq_true (List.all_eq_true.mp apart c (by simpa using member))
  simp only [escapedPart, character?, x, u, longer, name, zero, place, digit, letter, if_false,
    Bool.false_eq_true]
  split <;> rfl

theorem plainPart {c : Char} (ordinary : special.contains c = false) (before : List Part)
    (fuel : Nat) {s : State} {rest : List Sign} (here : s.rest = .plain c :: rest) :
    parts false before (fuel + 1) s =
      parts false ({ width := .one } :: before) fuel { s with rest := rest } := by
  have other {d : Char} (member : special.contains d = true) : c ≠ d := by
    rintro rfl
    rw [member] at ordinary
    contradiction
  have apart : c ≠ '|' ∧ c ≠ ')' ∧ c ≠ '[' ∧ c ≠ '(' ∧ c ≠ '^' ∧ c ≠ '$' ∧ c ≠ '?' ∧ c ≠ '*' ∧
      c ≠ '+' ∧ c ≠ '\x7b' := by
    refine ⟨?_, ?_, ?_, ?_, ?_, ?_, ?_, ?_, ?_, ?_⟩ <;> exact other (by decide)
  obtain ⟨bar, closing, range, opening, start, finish, option, star, plus, brace⟩ := apart
  simp [parts, here, repetition?, bar, closing, range, opening, start, finish, option, star, plus,
    brace]

theorem signPart (c : Char) : IsPart [sign c] := by
  refine ⟨by simp, fun rest fuel before s here _ => ?_⟩
  refine ⟨{ width := .one }, { s with rest := rest }, rfl, ?_, rfl, rfl, rfl⟩
  rw [sign] at here
  split at here
  · rename_i member
    rw [parts]
    simp only [here, List.singleton_append, specialPart member]
    rfl
  · rename_i ordinary
    exact plainPart (by simpa using ordinary) before fuel here

def plain (text : Text) : List Sign := text.map .plain

theorem characterPart : IsPart (plain "[^/#+]") := by
  refine ⟨by decide, ?_⟩
  rintro rest fuel before ⟨⟩ rfl -
  exact ⟨_, _, rfl, rfl, rfl, rfl, rfl⟩

theorem endPart : IsPart (plain "(?:/|" ++ [.escaped 'Z', .plain ')']) := by
  refine ⟨by decide, ?_⟩
  rintro rest fuel before ⟨⟩ rfl enough
  have size : 28 ≤ fuel := Nat.le_trans (Nat.mul_le_mul_left 4 (Nat.le_add_left 7 _)) enough
  obtain ⟨fuel, rfl⟩ := Nat.exists_eq_add_of_le' size
  exact ⟨_, _, rfl, rfl, rfl, rfl, rfl⟩

def Inside (inner : List Sign) : Prop :=
  ∀ tail, Reads (.plain ')' :: tail) (inner ++ .plain ')' :: tail)

theorem Inside.chosen {inner tail : List Sign} (inside : Inside inner) (fuel : Nat) {s : State}
    (here : s.rest = inner ++ .plain ')' :: tail) (enough : 4 * s.rest.length + 1 ≤ fuel) :
    ∃ width after, choices false (fuel + 1) s = .ok (width, after) ∧
      after.rest = .plain ')' :: tail ∧ Kept s after := by
  obtain ⟨width, after, read, later, kept⟩ := inside tail fuel [] s here (here ▸ enough)
  refine ⟨width, after, ?_, later, kept⟩
  rw [choices, read]
  simp only [bind, Except.bind, later]
  rfl

theorem groupPart {rest : List Sign} {fuel : Nat} (before : List Part) {s : State}
    (here : s.rest = .plain '(' :: rest) {part : Part} {after : State}
    (grouped : group false fuel { s with rest := rest } = .ok (some part, after)) :
    parts false before (fuel + 1) s = parts false (part :: before) fuel after := by
  rw [parts]
  simp only [here]
  simp [grouped]
  rfl

theorem groupCaptured (fuel : Nat) {s : State} (unmarked : s.rest.head? ≠ some (.plain '?')) :
    group false (fuel + 1) s = captured none false fuel s := by
  have apart (rest : List Sign) : s.rest ≠ .plain '?' :: rest := fun same =>
    unmarked (by rw [same]; rfl)
  rw [group]
  split
  case h_12 => rfl
  all_goals
    rename_i marked
    exact absurd marked (apart _)

theorem capturedPart {inner : List Sign} (inside : Inside inner)
    (unmarked : inner.head? ≠ some (.plain '?')) : IsPart (.plain '(' :: inner ++ [.plain ')']) := by
  refine ⟨by simp, fun rest fuel before s here enough => ?_⟩
  rw [List.append_assoc, List.cons_append, List.singleton_append] at here
  have size : 4 * (inner ++ .plain ')' :: rest).length + 4 ≤ fuel := by
    rw [here] at enough
    exact enough
  obtain ⟨fuel, rfl⟩ : ∃ less, fuel = less + 3 := ⟨fuel - 3, by omega⟩
  obtain ⟨width, after, read, later, even, conditions⟩ := inside.chosen fuel
    (s := { s with rest := inner ++ .plain ')' :: rest, groups := s.groups ++ [none] }) rfl
    (by simp only; omega)
  refine ⟨{ width := width },
    { after with rest := rest }.closeGroup (s.groups.length + 1) width, rfl,
    groupPart before here ?_, rfl, even, conditions⟩
  rw [groupCaptured, captured]
  · simp [State.openGroup, bind, Except.bind, read, State.close, later]
  · simp only
    cases inner with
    | nil => simp
    | cons sign inner => simpa using unmarked

theorem enclosedPart {inner : List Sign} (inside : Inside inner) :
    IsPart (plain "(?:" ++ inner ++ [.plain ')']) := by
  refine ⟨by rw [List.length_append]; exact Nat.succ_pos _, fun rest fuel before s here enough => ?_⟩
  rw [List.append_assoc, List.append_assoc, List.singleton_append] at here
  have here : s.rest = .plain '(' :: .plain '?' :: .plain ':' :: (inner ++ .plain ')' :: rest) :=
    here
  have size : 4 * (inner ++ .plain ')' :: rest).length + 12 ≤ fuel := by
    rw [here] at enough
    exact enough
  obtain ⟨fuel, rfl⟩ : ∃ less, fuel = less + 3 := ⟨fuel - 3, by omega⟩
  obtain ⟨width, after, read, later, even, conditions⟩ := inside.chosen fuel
    (s := { s with rest := inner ++ .plain ')' :: rest }) rfl (by simp only; omega)
  refine ⟨{ width := width }, { after with rest := rest }, rfl, groupPart before here ?_, rfl, even,
    conditions⟩
  simp [group, enclosed, bind, Except.bind, read, State.close, later]

theorem levelInside : Inside (plain "[^/#+]+/") := fun tail =>
  characterPart.repeated (by decide) (by decide) ((signPart '/').reads (readsBracket tail))

theorem lastInside : Inside (plain "[^/#+]+/?") := fun tail =>
  characterPart.repeated (by decide) (by decide)
    ((signPart '/').repeated (by decide) (by decide) (readsBracket tail))

theorem levelsInside : Inside (plain "(?:[^/#+]+/)*") := fun tail =>
  (enclosedPart levelInside).repeated (by decide) (by decide) (readsBracket tail)

theorem restInside : Inside (plain "(?:[^/#+]+/)*[^/#+]*") := fun tail =>
  (enclosedPart levelInside).repeated (by decide) (by decide)
    (characterPart.repeated (by decide) (by decide) (readsBracket tail))

def Readable (text : Text) : Prop := ∃ known, signs text = some known ∧ Reads [] known

theorem readableEnd : Readable "\\Z" := ⟨_, rfl, readsEnd⟩

theorem IsPart.readable {front : List Sign} (isPart : IsPart front) {text rest : Text}
    (told : signs text = some front) (readable : Readable rest) : Readable (text ++ rest) := by
  obtain ⟨known, read, reads⟩ := readable
  refine ⟨front ++ known, ?_, isPart.reads reads⟩
  rw [signsAppend told, read]
  rfl

theorem escapedReadable (text : Text) {rest : Text} (readable : Readable rest) :
    Readable (escaped text ++ rest) := by
  induction text with
  | nil => exact readable
  | cons c text ih =>
    rw [escaped, List.flatMap_cons, List.append_assoc]
    refine (signPart c).readable ?_ ih
    rw [← List.append_nil (escape c), signsEscape]
    rfl

theorem endingPart (kind : Token.Kind) :
    ∀ ending ∈ Segment.endings kind, ∃ front, signs ending = some front ∧ IsPart front := by
  cases kind <;> simp only [Segment.endings, List.forall_mem_cons, List.not_mem_nil,
    false_implies, implies_true, and_true]
  case raw => exact ⟨⟨_, rfl, signPart '/'⟩, ⟨_, rfl, endPart⟩⟩
  case single => exact ⟨⟨_, rfl, capturedPart levelInside (by decide)⟩,
    ⟨_, rfl, capturedPart lastInside (by decide)⟩⟩
  case multi => exact ⟨⟨_, rfl, capturedPart levelsInside (by decide)⟩,
    ⟨_, rfl, capturedPart restInside (by decide)⟩⟩

theorem fragmentReadable {s : Segment} {fragment : Regex}
    (own : fragment = s.piece ∨ fragment = s.last) {rest : Text} (readable : Readable rest) :
    Readable (fragment.source ++ rest) := by
  obtain ⟨ending, member, written⟩ := Segment.fragmentWritten own
  obtain ⟨front, told, isPart⟩ := endingPart s.token.kind ending member
  rw [written, List.append_assoc]
  exact escapedReadable s.literal (isPart.readable told readable)

theorem fragmentsReadable {segments : List Segment} {fragments : List Regex}
    (own : List.Forall₂ (fun s r => r = s.piece ∨ r = s.last) segments fragments) :
    Readable ((fragments.map Regex.source).flatten ++ "\\Z") := by
  induction own with
  | nil => exact readableEnd
  | cons head _ ih =>
    rw [List.map_cons, List.flatten_cons, List.append_assoc]
    exact fragmentReadable head ih

theorem checkReadable {text : Text} (readable : Readable text) :
    check ("\\A" ++ text) = .ok () := by
  obtain ⟨known, told, reads⟩ := readable
  have all : signs ("\\A" ++ text) = some (.escaped 'A' :: known) :=
    congrArg (Option.map _) told
  have enough : 4 * known.length + 1 ≤ 4 * (known.length + 1) + 2 := by omega
  obtain ⟨width, after, read, atEnd, even, conditions⟩ :=
    reads (4 * (known.length + 1) + 2) [⟨true, .none⟩] { rest := known } rfl enough
  have chosen : choices false (4 * (known.length + 1) + 4) { rest := .escaped 'A' :: known } =
      .ok (width, after) := by
    rw [choices, parts]
    simp only [escapedPart, character?]
    simp [bind, Except.bind, read, atEnd]
  rw [check, all]
  simp [bind, Except.bind, chosen, atEnd, even, conditions]

end TopicRouting.RegexText

namespace TopicRouting.Pattern
open Segment

theorem expression (p : Pattern) : Token.checkedSource p.tokens = .ok p.regexSource := by
  have read : RegexText.check p.regexSource = .ok () := by
    rw [regexSource, tokens, Segment.tokensSource, List.append_assoc]
    exact RegexText.checkReadable (RegexText.fragmentsReadable (fragmentsOfItems p.segments))
  rw [Token.checkedSource, ← regexSource, read]

/-- A text is a pattern unless a level before the last one starts with the sign for any number of
levels. What it is compiled to is an expression. The written expressions of two patterns are equal
if and only if their subscription topics are, which holds if and only if the patterns have the same
levels but for the names of wildcards; then they match the same topics, with the same captures. A
subscription topic is a pattern itself, with that topic and expression and without parameters. -/
theorem topicTellsRegex :
    (∀ source, (∃ p, compile source = .ok p) ↔
      ∀ level ∈ (levelsOf source).dropLast, level.head? ≠ some '#') ∧
    (∀ p : Pattern, Token.checkedSource p.tokens = .ok p.regexSource) ∧
    (∀ p q : Pattern, p.regexSource = q.regexSource ↔ p.topic = q.topic) ∧
    (∀ p q : Pattern, p.regexSource = q.regexSource ↔
      p.segments.map nameless = q.segments.map nameless) ∧
    (∀ p q : Pattern, p.topic = q.topic → p.groups? = q.groups?) ∧
    ∀ p : Pattern, ∃ again, compile p.topic = .ok again ∧ again.topic = p.topic ∧
      again.regexSource = p.regexSource ∧ again.parameterCount = 0 := by
  refine ⟨fun source => ?_, expression, fun p q => sameSource.trans sameTopic.symm,
    fun p q => sameSource, fun p q same => funext (groupsOfTopic same), fun p => ?_⟩
  · rw [compiles, Misplaced]
    simp
  · obtain ⟨again, compiled⟩ := topicCompiles p
    obtain ⟨segments, unnamed⟩ := topicAgain compiled
    have same : again.segments.map nameless = p.segments.map nameless := by
      rw [segments, List.map_map]
      exact List.map_congr_left fun s _ => namelessTwice s
    exact ⟨again, compiled, sameTopic.mpr same, sameSource.mpr same, unnamed⟩

end TopicRouting.Pattern
