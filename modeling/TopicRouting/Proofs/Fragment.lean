import TopicRouting.Proofs.Levels

/-! What the fragments of a pattern match at the front of a topic. A repetition first takes all
the characters it can. It may give some of them back, but what comes next then matches only
where it would have matched before, so the longest match is the one that counts. -/
namespace TopicRouting.Segment
open Regex (Next)

def isPlain (c : Char) : Bool := !("/#+" : Text).contains c

theorem plainIff (c : Char) : isPlain c = true ↔ c ≠ '/' ∧ c ≠ '#' ∧ c ≠ '+' := by
  simp [isPlain]

def Unmarked (level : Text) : Prop := '+' ∉ level ∧ '#' ∉ level
instance (level : Text) : Decidable (Unmarked level) := by unfold Unmarked; infer_instance

def Fits : Segment → Text → Prop
  | raw text, level => level = text
  | single _, level => level ≠ [] ∧ Unmarked level
  | multi _, _ => False
instance (s : Segment) (level : Text) : Decidable (Fits s level) := by
  cases s <;> unfold Fits <;> infer_instance

def RestFits (levels : List Text) : Prop :=
  (∀ level ∈ levels, Unmarked level) ∧ ∀ level ∈ levels.dropLast, level ≠ []
instance (levels : List Text) : Decidable (RestFits levels) := by
  unfold RestFits; infer_instance

def Ordinary : Segment → Prop
  | raw text => '/' ∉ text
  | single _ => True
  | multi _ => False

def captured : Segment → Text → List Text
  | raw _, _ => []
  | _, text => [text]

def Closed (tail : Text) : Prop := tail = [] ∨ ∃ rest, tail = '/' :: rest

theorem closedEnd : Closed [] := .inl rfl

theorem closedSlash (rest : Text) : Closed ('/' :: rest) := .inr ⟨rest, rfl⟩

theorem runLevelChar (c : Char) (rest : Text) (groups : List Text) (next : Next) :
    levelChar.run (c :: rest) groups next = if isPlain c then next rest groups else none := by
  by_cases marked : ("/#+" : Text).contains c <;>
    simp only [levelChar, Regex.run, isPlain, marked] <;> rfl

theorem runSlash (c : Char) (rest : Text) (groups : List Text) (next : Next) :
    slash.run (c :: rest) groups next = if c = '/' then next rest groups else none := rfl

theorem takeFront (front rest : Text) :
    (front ++ rest).take ((front ++ rest).length - rest.length) = front := by
  rw [List.length_append, Nat.add_sub_cancel, List.take_left]

/- Wherever the next match succeeds, it succeeds one character later as well. -/
def Greedy (next : Next) (groups : List Text) : Prop :=
  ∀ c rest, isPlain c = true → (next (c :: rest) groups).isSome → (next rest groups).isSome

theorem greedyOnly {next : Next} {groups : List Text}
    (only : ∀ c rest, isPlain c = true → next (c :: rest) groups = none) : Greedy next groups := by
  intro c rest plain succeeds
  rw [only c rest plain] at succeeds
  contradiction

theorem greedyDrop {next : Next} {groups : List Text} (greedy : Greedy next groups)
    (text : Text) (succeeds : (next text groups).isSome) :
    (next (text.dropWhile isPlain) groups).isSome := by
  induction text with
  | nil => exact succeeds
  | cons c rest ih =>
    by_cases plain : isPlain c
    · rw [List.dropWhile_cons_of_pos plain]
      exact ih (greedy c rest plain succeeds)
    · rwa [List.dropWhile_cons_of_neg plain]

theorem repeatedChars {next : Next} {groups : List Text} (greedy : Greedy next groups)
    (fuel : Nat) (text : Text) (enough : text.length ≤ fuel) :
    Regex.repeated (fun text groups next => levelChar.run text groups next) next fuel text groups =
      next (text.dropWhile isPlain) groups := by
  induction text generalizing fuel with
  | nil => cases fuel <;> simp [Regex.repeated, levelChar, Regex.run]
  | cons c rest ih =>
    cases fuel with
    | zero => simp at enough
    | succ fuel =>
      have shorter : rest.length < (c :: rest).length := Nat.lt_succ_self _
      simp only [Regex.repeated, runLevelChar]
      by_cases plain : isPlain c
      · rw [if_pos plain, if_pos shorter, ih fuel (by simpa using enough),
          List.dropWhile_cons_of_pos plain]
        cases after : next (rest.dropWhile isPlain) groups with
        | some result => rfl
        | none =>
          -- A success here would be one after all plain characters, too.
          have fails : next (c :: rest) groups = none := by
            cases here : next (c :: rest) groups with
            | none => rfl
            | some result =>
              have later := greedyDrop greedy rest (greedy c rest plain (by simp [here]))
              simp [after] at later
          simpa using fails
      · rw [if_neg plain, List.dropWhile_cons_of_neg plain]
        rfl

theorem runChars {next : Next} {groups : List Text} (greedy : Greedy next groups) (text : Text) :
    (Regex.many levelChar).run text groups next = next (text.dropWhile isPlain) groups :=
  repeatedChars greedy text.length text (Nat.le_refl _)

theorem markedHead {c : Char} {level : Text} (notSlash : c ≠ '/') (stop : ¬ isPlain c) :
    ¬ Unmarked (c :: level) := by
  intro unmarked
  simp only [Unmarked, List.mem_cons, not_or] at unmarked
  exact stop ((plainIff c).mpr ⟨notSlash, Ne.symm unmarked.2.1, Ne.symm unmarked.1.1⟩)

theorem dropLevel {level tail : Text} (clean : '/' ∉ level) (closed : Closed tail) :
    (Unmarked level ∧ (level ++ tail).dropWhile isPlain = tail) ∨
    (¬ Unmarked level ∧ ∃ c rest, (level ++ tail).dropWhile isPlain = c :: rest ∧
      c ≠ '/' ∧ isPlain c = false) := by
  induction level with
  | nil =>
    refine .inl ⟨by simp [Unmarked], ?_⟩
    rcases closed with rfl | ⟨rest, rfl⟩ <;> rfl
  | cons c level ih =>
    have notSlash : c ≠ '/' := fun same => clean (by simp [same])
    have clean : '/' ∉ level := fun member => clean (List.mem_cons_of_mem c member)
    by_cases plain : isPlain c
    · obtain ⟨_, notHash, notPlus⟩ := (plainIff c).mp plain
      have same : Unmarked (c :: level) ↔ Unmarked level := by
        simp [Unmarked, Ne.symm notHash, Ne.symm notPlus]
      rw [same, List.cons_append, List.dropWhile_cons_of_pos plain]
      exact ih clean
    · refine .inr ⟨markedHead notSlash plain, c, level ++ tail, ?_, notSlash, by simpa using plain⟩
      rw [List.cons_append, List.dropWhile_cons_of_neg plain]

theorem runSome {level tail : Text} (clean : '/' ∉ level) (closed : Closed tail)
    {next : Next} {groups : List Text} (greedy : Greedy next groups)
    (stops : ∀ c rest, c ≠ '/' → isPlain c = false → next (c :: rest) groups = none) :
    (Regex.some levelChar).run (level ++ tail) groups next =
      if level ≠ [] ∧ Unmarked level then next tail groups else none := by
  cases level with
  | nil =>
    rcases closed with rfl | ⟨rest, rfl⟩ <;> simp [Regex.run, levelChar]
  | cons c level =>
    have turn : (Regex.some levelChar).run (c :: level ++ tail) groups next =
        if isPlain c then next ((level ++ tail).dropWhile isPlain) groups else none := by
      simp only [Regex.run, List.cons_append, runLevelChar]
      rw [repeatedChars greedy _ _ (Nat.le_refl _)]
    have notSlash : c ≠ '/' := fun same => clean (by simp [same])
    by_cases plain : isPlain c
    · have dropped : (level ++ tail).dropWhile isPlain =
          (c :: level ++ tail).dropWhile isPlain := by
        rw [List.cons_append, List.dropWhile_cons_of_pos plain]
      rw [turn, if_pos plain, dropped]
      rcases dropLevel clean closed with ⟨unmarked, same⟩ | ⟨marked, d, rest, same, hd, sign⟩
      · rw [same, if_pos ⟨by simp, unmarked⟩]
      · rw [same, if_neg fun fits => marked fits.2, stops d rest hd sign]
    · rw [turn, if_neg plain, if_neg fun fits => markedHead notSlash plain fits.2]

theorem runText {text level tail : Text} (cleanText : '/' ∉ text) (clean : '/' ∉ level)
    (closed : Closed tail) {next : Next} {groups : List Text}
    (stops : ∀ c rest, c ≠ '/' → next (c :: rest) groups = none) :
    (Regex.ofText text).run (level ++ tail) groups next =
      if level = text then next tail groups else none := by
  induction text generalizing level with
  | nil =>
    cases level with
    | nil => rfl
    | cons c level =>
      have notSlash : c ≠ '/' := fun same => clean (by simp [same])
      rw [if_neg (List.cons_ne_nil c level)]
      exact stops c (level ++ tail) notSlash
  | cons d text ih =>
    have notSlash : d ≠ '/' := fun same => cleanText (by simp [same])
    have cleanText : '/' ∉ text := fun member => cleanText (List.mem_cons_of_mem d member)
    cases level with
    | nil =>
      rcases closed with rfl | ⟨rest, rfl⟩
      · rfl
      · simp [Regex.ofText, Regex.run, Ne.symm notSlash]
    | cons c level =>
      have clean : '/' ∉ level := fun member => clean (List.mem_cons_of_mem c member)
      have turn : (Regex.ofText (d :: text)).run (c :: level ++ tail) groups next =
          if c = d then (Regex.ofText text).run (level ++ tail) groups next else none := rfl
      rw [turn, ih cleanText clean]
      by_cases same : c = d <;> simp [same]

structure Ending (next : Next) : Prop where
  marked : ∀ c rest groups, isPlain c = false → next (c :: rest) groups = none
  plain : ∀ c rest groups, isPlain c = true → (next (c :: rest) groups).isSome → ∀ others,
    (next rest others).isSome ∨ ∃ after, rest = '/' :: after ∧ (next after others).isSome

def final : Next := fun rest groups => if rest.isEmpty then some groups else none

theorem finalEnding : Ending final where
  marked _ _ _ _ := rfl
  plain c rest groups plain succeeds := by simp [final] at succeeds

def endGroup (text : Text) (next : Next) : Next := fun rest groups =>
  next rest (groups ++ [text.take (text.length - rest.length)])

theorem endGroupSlash (level rest : Text) (groups : List Text) (next : Next) :
    endGroup (level ++ '/' :: rest) next rest groups = next rest (groups ++ [level ++ ['/']]) := by
  have front := takeFront (level ++ ['/']) rest
  rw [List.append_assoc, List.singleton_append] at front
  rw [endGroup, front]

theorem endGroupWhole (level : Text) (groups : List Text) (next : Next) :
    endGroup level next [] groups = next [] (groups ++ [level]) := by
  rw [endGroup, List.length_nil, Nat.sub_zero, List.take_length]

theorem runTurn {level tail : Text} (clean : '/' ∉ level) (closed : Closed tail)
    (groups : List Text) (next : Next) :
    (Regex.seq (.some levelChar) slash).run (level ++ tail) groups next =
      if level ≠ [] ∧ Unmarked level then slash.run tail groups next else none := by
  let after : Next := fun rest groups => slash.run rest groups next
  have stops : ∀ c rest, c ≠ '/' → after (c :: rest) groups = none :=
    fun c rest notSlash => if_neg notSlash
  have greedy : Greedy after groups :=
    greedyOnly fun c rest plain => stops c rest ((plainIff c).mp plain).1
  exact runSome clean closed greedy fun c rest notSlash _ => stops c rest notSlash

theorem runPiece {s : Segment} (ordinary : s.Ordinary) {level tail : Text} (clean : '/' ∉ level)
    (closed : Closed tail) (groups : List Text) (next : Next) :
    s.piece.run (level ++ tail) groups next =
      if s.Fits level then
        slash.run tail groups fun rest groups => next rest (groups ++ s.captured (level ++ ['/']))
      else none := by
  cases s with
  | raw text =>
    let after : Next := fun rest groups => slash.run rest groups next
    have stops : ∀ c rest, c ≠ '/' → after (c :: rest) groups = none :=
      fun c rest notSlash => if_neg notSlash
    have found := runText ordinary clean closed stops
    simp only [captured, List.append_nil]
    exact found
  | single name =>
    have found := runTurn clean closed groups (endGroup (level ++ tail) next)
    refine Eq.trans found ?_
    rcases closed with rfl | ⟨rest, rfl⟩
    · rfl
    · simp only [runSlash, if_pos, endGroupSlash]
      rfl
  | multi name => contradiction

theorem runOptional (r : Regex) (text : Text) (groups : List Text) (next : Next) :
    r.optional.run text groups next = (r.run text groups next).or (next text groups) := by
  simp only [Regex.run, Option.orElse_eq_orElse, Option.orElse_eq_or]

theorem optionalGreedy {next : Next} (ending : Ending next) (text : Text) (groups : List Text) :
    Greedy (fun rest groups => slash.optional.run rest groups (endGroup text next)) groups := by
  intro c rest plain succeeds
  have notSlash := ((plainIff c).mp plain).1
  simp only [runOptional, runSlash, if_neg notSlash, Option.none_or] at succeeds
  have later := ending.plain c rest _ plain succeeds
  simp only [runOptional, Option.isSome_or, Bool.or_eq_true]
  rcases rest with _ | ⟨d, rest⟩
  · rcases later _ with here | ⟨after, same, _⟩
    · exact .inr here
    · contradiction
  · by_cases same : d = '/'
    · rcases later (groups ++ [text.take (text.length - rest.length)]) with
        here | ⟨after, same, there⟩
      · subst same
        rw [ending.marked '/' rest _ rfl] at here
        contradiction
      · cases same
        exact .inl there
    · rcases later _ with here | ⟨after, slashNext, _⟩
      · exact .inr here
      · exact absurd (List.head_eq_of_cons_eq slashNext) same

theorem runLast {s : Segment} (ordinary : s.Ordinary) {level tail : Text} (clean : '/' ∉ level)
    (closed : Closed tail) (groups : List Text) {next : Next} (ending : Ending next) :
    s.last.run (level ++ tail) groups next =
      if s.Fits level then
        next tail.tail (groups ++ s.captured (level ++ tail.take 1))
      else none := by
  cases s with
  | raw text =>
    let after : Next := fun rest groups => (Regex.either slash .atEnd).run rest groups next
    have stops : ∀ c rest, c ≠ '/' → after (c :: rest) groups = none := by
      intro c rest notSlash
      simp [after, Regex.run, runSlash, notSlash]
    have found := runText ordinary clean closed stops
    refine Eq.trans found ?_
    simp only [Fits, captured, List.append_nil]
    rcases closed with rfl | ⟨rest, rfl⟩ <;> simp [after, Regex.run, slash]
  | single name =>
    let after : Next := fun rest groups =>
      slash.optional.run rest groups (endGroup (level ++ tail) next)
    have stops : ∀ c rest, c ≠ '/' → isPlain c = false → after (c :: rest) groups = none := by
      intro c rest notSlash sign
      simp only [after, runOptional, runSlash, if_neg notSlash, Option.none_or]
      exact ending.marked c rest _ sign
    have found := runSome clean closed (optionalGreedy ending _ groups) stops
    refine Eq.trans found ?_
    rcases closed with rfl | ⟨rest, rfl⟩
    · have whole := endGroupWhole level groups next
      simp only [runOptional, List.append_nil, whole, List.take_nil]
      rfl
    · have notHere : endGroup (level ++ '/' :: rest) next ('/' :: rest) groups = none :=
        ending.marked '/' rest _ rfl
      simp only [runOptional, runSlash, if_pos, endGroupSlash, notHere, Option.or_none]
      rfl
  | multi name => contradiction

theorem restFitsOne (level : Text) : RestFits [level] ↔ Unmarked level := by
  simp [RestFits]

theorem restFitsMore (level : Text) {levels : List Text} (nonempty : levels ≠ []) :
    RestFits (level :: levels) ↔ (level ≠ [] ∧ Unmarked level) ∧ RestFits levels := by
  simp only [RestFits, List.dropLast_cons_of_ne_nil nonempty, List.forall_mem_cons]
  constructor
  · rintro ⟨⟨unmarked, others⟩, filled, rest⟩
    exact ⟨⟨filled, unmarked⟩, others, rest⟩
  · rintro ⟨⟨filled, unmarked⟩, others, rest⟩
    exact ⟨⟨unmarked, others⟩, filled, rest⟩

theorem repeatedTurns {next : Next} (only : ∀ c rest groups, next (c :: rest) groups = none)
    (groups : List Text) (text : Text) (fuel : Nat) (enough : text.length ≤ fuel) :
    Regex.repeated
        (fun text groups next => (Regex.seq (.some levelChar) slash).run text groups next)
        (fun rest groups => (Regex.many levelChar).run rest groups next) fuel text groups =
      if RestFits (levelsOf text) then next [] groups else none := by
  have greedy : Greedy next groups := greedyOnly fun c rest _ => only c rest groups
  induction text using levelInduction generalizing fuel with
  | whole level clean =>
    have here : (Regex.many levelChar).run level groups next =
        if Unmarked level then next [] groups else none := by
      rw [runChars greedy]
      rcases dropLevel clean closedEnd with ⟨unmarked, same⟩ | ⟨marked, c, rest, same, _, _⟩
      · rw [List.append_nil] at same
        rw [same, if_pos unmarked]
      · rw [List.append_nil] at same
        rw [same, if_neg marked, only]
    rw [levelsWhole clean]
    simp only [restFitsOne, ← here]
    cases fuel with
    | zero => rfl
    | succ fuel =>
      have turn := fun next => runTurn clean closedEnd groups next
      simp only [List.append_nil] at turn
      simp only [Regex.repeated, turn]
      split <;> rfl
  | cut level rest clean ih =>
    cases fuel with
    | zero => simp at enough
    | succ fuel =>
      have shorter : rest.length < (level ++ '/' :: rest).length := by
        simp only [List.length_append, List.length_cons]
        omega
      have smaller : rest.length ≤ fuel := by omega
      -- Without the turn, the characters stop at the slash, and nothing matches there.
      have here : (Regex.many levelChar).run (level ++ '/' :: rest) groups next = none := by
        rw [runChars greedy]
        rcases dropLevel clean (closedSlash rest) with ⟨_, same⟩ | ⟨_, c, more, same, _, _⟩ <;>
          rw [same, only]
      simp only [Regex.repeated, runTurn clean (closedSlash rest), runSlash, if_pos shorter,
        ih fuel smaller, here, levelsCut clean, restFitsMore level (levelsNonempty rest)]
      by_cases fits : level ≠ [] ∧ Unmarked level <;> simp [fits]

theorem runRest {next : Next} (only : ∀ c rest groups, next (c :: rest) groups = none)
    (text : Text) (groups : List Text) :
    (Regex.seq levels (.many levelChar)).run text groups next =
      if RestFits (levelsOf text) then next [] groups else none :=
  repeatedTurns only groups text text.length (Nat.le_refl _)

theorem runMulti (name text : Text) (groups : List Text) :
    (multi name).last.run text groups final =
      if RestFits (levelsOf text) then some (groups ++ [text]) else none := by
  have only : ∀ c rest groups, endGroup text final (c :: rest) groups = none := fun _ _ _ => rfl
  have found := runRest only text groups
  rw [endGroupWhole] at found
  exact found

theorem restFitsCons {level : Text} {others : List Text} (fits : RestFits (level :: others)) :
    Unmarked level ∧ RestFits others ∧ (others ≠ [] → level ≠ []) := by
  cases others with
  | nil => exact ⟨(restFitsOne level).mp fits, by simp [RestFits], fun some => absurd rfl some⟩
  | cons next others =>
    obtain ⟨⟨filled, unmarked⟩, rest⟩ := (restFitsMore level (by simp)).mp fits
    exact ⟨unmarked, rest, fun _ => filled⟩

theorem multiEnding (name : Text) :
    Ending fun rest groups => (multi name).last.run rest groups final where
  marked c rest groups sign := by
    rw [runMulti, if_neg]
    intro fits
    by_cases slashNext : c = '/'
    · subst slashNext
      have cut : levelsOf ('/' :: rest) = [] :: levelsOf rest := levelsCut List.not_mem_nil rest
      rw [cut] at fits
      exact (restFitsCons fits).2.2 (levelsNonempty rest) rfl
    · obtain ⟨level, others, _, same⟩ := levelsCons slashNext rest
      rw [same] at fits
      exact markedHead slashNext (by simp [sign]) (restFitsCons fits).1
  plain c rest groups plain succeeds others := by
    have fits : RestFits (levelsOf (c :: rest)) := by
      rw [runMulti] at succeeds
      by_cases fits : RestFits (levelsOf (c :: rest))
      · exact fits
      · simp [fits] at succeeds
    obtain ⟨level, tail, here, longer⟩ := levelsCons ((plainIff c).mp plain).1 rest
    rw [longer] at fits
    obtain ⟨unmarked, restFits, _⟩ := restFitsCons fits
    have unmarked : Unmarked level :=
      ⟨fun member => unmarked.1 (List.mem_cons_of_mem c member),
        fun member => unmarked.2 (List.mem_cons_of_mem c member)⟩
    have whenFilled : (tail ≠ [] → level ≠ []) → RestFits (levelsOf rest) := by
      intro filled
      rw [here]
      cases tail with
      | nil => exact (restFitsOne level).mpr unmarked
      | cons next tail =>
        exact (restFitsMore level (by simp)).mpr ⟨⟨filled (by simp), unmarked⟩, restFits⟩
    simp only [runMulti]
    obtain ⟨first, clean, same | ⟨after, same⟩⟩ := firstLevel rest
    · rw [same, levelsWhole clean] at here
      have alone : tail = [] := (List.tail_eq_of_cons_eq here).symm
      exact .inl (by simp [whenFilled (fun some => absurd alone some)])
    · rw [same, levelsCut clean] at here
      obtain ⟨rfl, rfl⟩ := List.cons.inj here
      by_cases empty : first = []
      · subst empty
        exact .inr ⟨after, same, by simp [restFits]⟩
      · exact .inl (by simp [whenFilled fun _ => empty])

end TopicRouting.Segment
