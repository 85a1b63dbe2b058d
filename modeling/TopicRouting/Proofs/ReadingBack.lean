import TopicRouting.Payload
import TopicRouting.Proofs.Drafting
import TopicRouting.Proofs.Mapping
import TopicRouting.Proofs.Numerals
import TopicRouting.Proofs.Quoting

/-! What was written as JSON is read back as it was, as long as no more brackets stand inside each
other than the reader opens; beyond that it gives up. Values go by their text, whatever follows. -/
namespace TopicRouting.Json

mutual

def Form : Value → Prop
  | .null | .bool _ | .text _ => True
  | .int i => i.natAbs < 10 ^ Number.digitLimit
  | .list xs => Forms xs
  | .dict kvs => Members kvs
  | _ => False

def Forms : List Value → Prop
  | [] => True
  | x :: xs => Form x ∧ Forms xs

def Members : List (Value × Value) → Prop
  | [] => True
  | (k, v) :: kvs =>
      (∃ name, k = .text name ∧ ∀ entry ∈ kvs, entry.1 ≠ .text name) ∧ Form v ∧ Members kvs

end

mutual

def nesting : Value → Nat
  | .list xs | .tuple xs => nestings xs + 1
  | .dict kvs => memberNesting kvs + 1
  | _ => 0

def nestings : List Value → Nat
  | [] => 0
  | x :: xs => max (nesting x) (nestings xs)

def memberNesting : List (Value × Value) → Nat
  | [] => 0
  | (_, v) :: kvs => max (nesting v) (memberNesting kvs)

end

def reached {α : Type} (needed depth : Nat) (found : α × Text) : Except ReadError (α × Text) :=
  if needed ≤ depth then .ok found else .error .tooDeep

def Opens (text : Text) : Prop :=
  ∃ c rest, text = c :: rest ∧ isBlank c = false ∧ c ≠ ']' ∧ c ≠ '\x7d'

theorem skipOpens {text : Text} (opens : Opens text) (rest : Text) :
    skip (text ++ rest) = text ++ rest := by
  obtain ⟨c, others, rfl, filled, _⟩ := opens
  simp [skip, filled]

theorem skipGap {gap : Text} (blank : Blank gap) {text : Text} (opens : Opens text) (rest : Text) :
    skip (gap ++ (text ++ rest)) = text ++ rest := by
  rw [skip, List.dropWhile_append_of_pos blank]
  exact skipOpens opens rest

def ReadsBack (v : Value) (text : Text) : Prop :=
  Opens text ∧ ∀ (rest : Text) (fuel depth : Nat), Stops rest → 2 * text.length + 1 ≤ fuel →
    readValue fuel depth (text ++ rest) = reached (nesting v) depth (v, rest)

def ItemsBack (xs : List Value) (text : Text) : Prop :=
  Opens text ∧ ∀ (gap rest : Text) (fuel depth : Nat), Blank gap → 2 * text.length + 2 ≤ fuel →
    readItems fuel depth (text ++ (gap ++ ']' :: rest)) = reached (nestings xs) depth (xs, rest)

def MembersBack (kvs : List (Value × Value)) (text : Text) : Prop :=
  Opens text ∧ ∀ (gap rest : Text) (fuel depth : Nat), Blank gap → 2 * text.length + 2 ≤ fuel →
    readMembers fuel depth (text ++ (gap ++ '\x7d' :: rest)) =
      reached (memberNesting kvs) depth (kvs, rest)

theorem nullBack : ReadsBack .null "null" := by
  refine ⟨⟨'n', _, rfl, rfl, by decide, by decide⟩, fun rest fuel depth _ enough => ?_⟩
  obtain ⟨fuel, rfl⟩ : ∃ n, fuel = n + 1 := ⟨fuel - 1, by omega⟩
  rfl

theorem boolBack (b : Bool) :
    ReadsBack (.bool b) (if b then ("true" : String) else ("false" : String)) := by
  cases b
  · refine ⟨⟨'f', _, rfl, rfl, by decide, by decide⟩, fun rest fuel depth _ enough => ?_⟩
    obtain ⟨fuel, rfl⟩ : ∃ n, fuel = n + 1 := ⟨fuel - 1, by omega⟩
    rfl
  · refine ⟨⟨'t', _, rfl, rfl, by decide, by decide⟩, fun rest fuel depth _ enough => ?_⟩
    obtain ⟨fuel, rfl⟩ : ∃ n, fuel = n + 1 := ⟨fuel - 1, by omega⟩
    rfl

theorem textBack (t : Text) : ReadsBack (.text t) (string t) := by
  refine ⟨⟨'"', _, rfl, rfl, by decide, by decide⟩, fun rest fuel depth _ enough => ?_⟩
  obtain ⟨fuel, rfl⟩ : ∃ n, fuel = n + 1 := ⟨fuel - 1, by omega⟩
  have shape : string t ++ rest = '"' :: (t.flatMap escape ++ '"' :: rest) := by simp [string]
  rw [shape, readValue, readQuoted]
  rfl

theorem opensDigit {c : Char} (digit : c.isDigit = true) (digits : Text) : Opens (c :: digits) := by
  have other {d : Char} (letter : d.isDigit = false) : c ≠ d := by
    rintro rfl
    rw [digit] at letter
    contradiction
  exact ⟨c, digits, rfl, by simp [isBlank, other], other rfl, other rfl⟩

theorem intBack {i : Int} (short : i.natAbs < 10 ^ Number.digitLimit) :
    ReadsBack (.int i) (Text.ofInt i) := by
  refine ⟨?_, fun rest fuel depth stops enough => ?_⟩
  · cases i with
    | ofNat n =>
      obtain ⟨c, digits, shape, digit⟩ := digitsOfNat n
      rw [Text.ofInt, shape]
      exact opensDigit digit digits
    | negSucc n => exact ⟨'-', _, rfl, rfl, by decide, by decide⟩
  · obtain ⟨fuel, rfl⟩ : ∃ n, fuel = n + 1 := ⟨fuel - 1, by omega⟩
    exact readInt short stops fuel depth

theorem opensAppend {text : Text} (opens : Opens text) (rest : Text) : Opens (text ++ rest) := by
  obtain ⟨c, others, rfl, filled, notClosing⟩ := opens
  exact ⟨c, others ++ rest, rfl, filled, notClosing⟩

theorem stopsComma (rest : Text) : Stops (',' :: rest) := by simp [Stops]

theorem stopsBracket (rest : Text) : Stops (']' :: rest) := by simp [Stops]

theorem stopsBrace (rest : Text) : Stops ('\x7d' :: rest) := by simp [Stops]

theorem skipClosing {gap : Text} (blank : Blank gap) {c : Char} (filled : isBlank c = false)
    (rest : Text) : skip (gap ++ c :: rest) = c :: rest := by
  rw [skip, List.dropWhile_append_of_pos blank, List.dropWhile_cons_of_neg (by simp [filled])]

theorem lastItem {x : Value} {text : Text} (back : ReadsBack x text) : ItemsBack [x] text := by
  refine ⟨back.1, fun gap rest fuel depth blank enough => ?_⟩
  obtain ⟨fuel, rfl⟩ : ∃ n, fuel = n + 1 := ⟨fuel - 1, by omega⟩
  have needed : nestings [x] = nesting x := Nat.max_zero _
  rw [readItems, back.2 _ fuel depth (stopsGap blank (stopsBracket rest)) (by omega), needed,
    reached, reached]
  split
  · simp only [bind, Except.bind, skipClosing blank (c := ']') rfl]
  · rfl

theorem moreItems {x : Value} {xs : List Value} {text others space : Text}
    (back : ReadsBack x text) (spaced : Blank space) (itemsBack : ItemsBack xs others) :
    ItemsBack (x :: xs) (text ++ ',' :: (space ++ others)) := by
  refine ⟨opensAppend back.1 _, fun gap rest fuel depth blank enough => ?_⟩
  simp only [List.length_append, List.length_cons] at enough
  obtain ⟨fuel, rfl⟩ : ∃ n, fuel = n + 1 := ⟨fuel - 1, by omega⟩
  have tail := itemsBack.2 gap rest fuel depth blank (by omega)
  have skipped := skipGap spaced itemsBack.1 (gap ++ ']' :: rest)
  rw [List.append_assoc, List.cons_append, List.append_assoc, readItems,
    back.2 _ fuel depth (stopsComma _) (by omega)]
  have needed : nestings (x :: xs) = max (nesting x) (nestings xs) := rfl
  rw [needed]
  by_cases first : nesting x ≤ depth
  · rw [reached, if_pos first]
    change (readItems fuel depth (skip (space ++ (others ++ (gap ++ ']' :: rest)))) >>= fun found =>
      Except.ok (x :: found.1, found.2)) = _
    rw [skipped, tail]
    by_cases later : nestings xs ≤ depth
    · rw [reached, reached, if_pos later, if_pos (Nat.max_le.mpr ⟨first, later⟩)]
      rfl
    · rw [reached, reached, if_neg later, if_neg fun both => later (Nat.max_le.mp both).2]
      rfl
  · rw [reached, reached, if_neg first, if_neg fun both => first (Nat.max_le.mp both).1]
    rfl

def member (name text : Text) : Text := string name ++ ": " ++ text

theorem memberShape (name text rest : Text) :
    member name text ++ rest =
      '"' :: (name.flatMap escape ++ '"' :: ':' :: ' ' :: (text ++ rest)) := by
  simp [member, string]

theorem opensMember (name text : Text) : Opens (member name text) := by
  refine ⟨'"', name.flatMap escape ++ '"' :: ':' :: ' ' :: text, ?_, rfl, by decide, by decide⟩
  simpa using memberShape name text []

theorem lastMember (name : Text) {v : Value} {text : Text} (back : ReadsBack v text) :
    MembersBack [(.text name, v)] (member name text) := by
  refine ⟨opensMember name text, fun gap rest fuel depth blank enough => ?_⟩
  obtain ⟨fuel, rfl⟩ : ∃ n, fuel = n + 1 := ⟨fuel - 1, by omega⟩
  have size : text.length ≤ (member name text).length := by
    simp only [member, List.length_append]
    omega
  have skipped : skip (' ' :: (text ++ (gap ++ '\x7d' :: rest))) =
      text ++ (gap ++ '\x7d' :: rest) := skipOpens back.1 _
  have colon (tail : Text) : skip (':' :: tail) = ':' :: tail := rfl
  have needed : memberNesting [(.text name, v)] = nesting v := Nat.max_zero _
  rw [memberShape, readMembers, readQuoted]
  simp only [colon, skipped]
  rw [back.2 _ fuel depth (stopsGap blank (stopsBrace rest)) (by omega), needed, reached, reached]
  split
  · simp only [bind, Except.bind, skipClosing blank (c := '\x7d') rfl]
  · rfl

theorem moreMembers (name : Text) {v : Value} {kvs : List (Value × Value)}
    {text others space : Text} (back : ReadsBack v text) (spaced : Blank space)
    (membersBack : MembersBack kvs others) :
    MembersBack ((.text name, v) :: kvs) (member name text ++ ',' :: (space ++ others)) := by
  refine ⟨opensAppend (opensMember name text) _, fun gap rest fuel depth blank enough => ?_⟩
  have size : text.length ≤ (member name text).length := by
    simp only [member, List.length_append]
    omega
  simp only [List.length_append, List.length_cons] at enough
  obtain ⟨fuel, rfl⟩ : ∃ n, fuel = n + 1 := ⟨fuel - 1, by omega⟩
  have tail := membersBack.2 gap rest fuel depth blank (by omega)
  have skipped : skip (' ' :: (text ++ ',' :: (space ++ (others ++ (gap ++ '\x7d' :: rest))))) =
      text ++ ',' :: (space ++ (others ++ (gap ++ '\x7d' :: rest))) := skipOpens back.1 _
  have skippedOthers := skipGap spaced membersBack.1 (gap ++ '\x7d' :: rest)
  have colon (tail : Text) : skip (':' :: tail) = ':' :: tail := rfl
  have needed : memberNesting ((.text name, v) :: kvs) = max (nesting v) (memberNesting kvs) := rfl
  rw [List.append_assoc, List.cons_append, List.append_assoc, memberShape, readMembers, readQuoted]
  simp only [colon, skipped]
  rw [back.2 _ fuel depth (stopsComma _) (by omega), needed]
  by_cases first : nesting v ≤ depth
  · rw [reached, if_pos first]
    change (readMembers fuel depth (skip (space ++ (others ++ (gap ++ '\x7d' :: rest)))) >>=
      fun found => Except.ok ((Value.text name, v) :: found.1, found.2)) = _
    rw [skippedOthers, tail]
    by_cases later : memberNesting kvs ≤ depth
    · rw [reached, reached, if_pos later, if_pos (Nat.max_le.mpr ⟨first, later⟩)]
      rfl
    · rw [reached, reached, if_neg later, if_neg fun both => later (Nat.max_le.mp both).2]
      rfl
  · rw [reached, reached, if_neg first, if_neg fun both => first (Nat.max_le.mp both).1]
    rfl

theorem listBack {xs : List Value} {text before after : Text} (opening : Blank before)
    (closing : Blank after) (back : ItemsBack xs text) :
    ReadsBack (.list xs) ('[' :: (before ++ text ++ (after ++ [']']))) := by
  refine ⟨⟨'[', _, rfl, rfl, by decide, by decide⟩, fun rest fuel depth _ enough => ?_⟩
  simp only [List.length_append, List.length_cons, List.length_nil] at enough
  obtain ⟨fuel, rfl⟩ : ∃ n, fuel = n + 1 := ⟨fuel - 1, by omega⟩
  have shape : '[' :: (before ++ text ++ (after ++ [']'])) ++ rest =
      '[' :: (before ++ (text ++ (after ++ ']' :: rest))) := by simp
  have needed : nesting (.list xs) = nestings xs + 1 := rfl
  rw [shape, needed]
  cases depth with
  | zero => simp [readValue, reached]
  | succ depth =>
    have inside := back.2 after rest fuel depth closing (by omega)
    rw [readValue, skipGap opening back.1]
    obtain ⟨c, others, rfl, _, notClosing, _⟩ := back.1
    split
    · rename_i same
      exact absurd (List.cons.inj same).1 notClosing
    · rw [inside]
      simp only [reached, Nat.add_le_add_iff_right]
      split <;> rfl

theorem dictBack {kvs : List (Value × Value)} {text before after : Text} (opening : Blank before)
    (closing : Blank after) (back : MembersBack kvs text) (distinct : Dict.ofEntries kvs = kvs) :
    ReadsBack (.dict kvs) ('\x7b' :: (before ++ text ++ (after ++ ['\x7d']))) := by
  refine ⟨⟨'\x7b', _, rfl, rfl, by decide, by decide⟩, fun rest fuel depth _ enough => ?_⟩
  simp only [List.length_append, List.length_cons, List.length_nil] at enough
  obtain ⟨fuel, rfl⟩ : ∃ n, fuel = n + 1 := ⟨fuel - 1, by omega⟩
  have shape : '\x7b' :: (before ++ text ++ (after ++ ['\x7d'])) ++ rest =
      '\x7b' :: (before ++ (text ++ (after ++ '\x7d' :: rest))) := by simp
  have needed : nesting (.dict kvs) = memberNesting kvs + 1 := rfl
  rw [shape, needed]
  cases depth with
  | zero => simp [readValue, reached]
  | succ depth =>
    have inside := back.2 after rest fuel depth closing (by omega)
    rw [readValue, skipGap opening back.1]
    obtain ⟨c, others, rfl, _, _, notClosing⟩ := back.1
    split
    · rename_i same
      exact absurd (List.cons.inj same).1 notClosing
    · rw [inside]
      simp only [reached, Nat.add_le_add_iff_right]
      split
      · change Except.ok (Value.dict (Dict.ofEntries kvs), rest) = _
        rw [distinct]
      · rfl

theorem emptyListBack : ReadsBack (.list []) "[]" := by
  refine ⟨⟨'[', _, rfl, rfl, by decide, by decide⟩, fun rest fuel depth _ enough => ?_⟩
  obtain ⟨fuel, rfl⟩ : ∃ n, fuel = n + 1 := ⟨fuel - 1, by omega⟩
  cases depth <;> rfl

theorem emptyDictBack : ReadsBack (.dict []) "\x7b\x7d" := by
  refine ⟨⟨'\x7b', _, rfl, rfl, by decide, by decide⟩, fun rest fuel depth _ enough => ?_⟩
  obtain ⟨fuel, rfl⟩ : ∃ n, fuel = n + 1 := ⟨fuel - 1, by omega⟩
  cases depth <;> rfl

theorem overlayFresh {d kvs : Dict} (form : Members kvs)
    (apart : ∀ entry ∈ d, ∀ later ∈ kvs, entry.1 ≠ later.1) : Dict.overlay d kvs = d ++ kvs := by
  induction kvs generalizing d with
  | nil => exact (List.append_nil d).symm
  | cons entry kvs ih =>
    obtain ⟨key, value⟩ := entry
    obtain ⟨⟨name, rfl, fresh⟩, _, rest⟩ := form
    have step : Dict.overlay d ((.text name, value) :: kvs) =
        Dict.overlay (d.put (.text name) value) kvs := rfl
    have here : ∀ entry ∈ d, entry.1 ≠ .text name := fun entry member =>
      apart entry member _ List.mem_cons_self
    rw [step, Dict.putFresh here, ih rest, List.append_assoc, List.singleton_append]
    intro entry member later inside
    rcases List.mem_append.mp member with old | new
    · exact apart entry old later (List.mem_cons_of_mem _ inside)
    · rw [List.mem_singleton.mp new]
      exact (fresh later inside).symm

theorem ofEntriesForm {kvs : Dict} (form : Members kvs) : Dict.ofEntries kvs = kvs :=
  overlayFresh form (by simp)

mutual

/- The text of a value on one line, with a blank after each comma and each colon. -/
inductive Spells : Value → Text → Prop
  | null : Spells .null "null"
  | bool (b : Bool) : Spells (.bool b) (if b then ("true" : String) else ("false" : String))
  | int (i : Int) : Spells (.int i) (Text.ofInt i)
  | text (t : Text) : Spells (.text t) (string t)
  | emptyList : Spells (.list []) "[]"
  | list {xs : List Value} {text : Text} (items : SpellsItems xs text) :
      Spells (.list xs) ('[' :: text ++ [']'])
  | emptyDict : Spells (.dict []) "\x7b\x7d"
  | dict {kvs : List (Value × Value)} {text : Text} (members : SpellsMembers kvs text) :
      Spells (.dict kvs) ('\x7b' :: text ++ ['\x7d'])

inductive SpellsItems : List Value → Text → Prop
  | last {x : Value} {text : Text} (item : Spells x text) : SpellsItems [x] text
  | more {x : Value} {xs : List Value} {text others : Text} (item : Spells x text)
      (rest : SpellsItems xs others) : SpellsItems (x :: xs) (text ++ ',' :: ' ' :: others)

inductive SpellsMembers : List (Value × Value) → Text → Prop
  | last (name : Text) {v : Value} {text : Text} (value : Spells v text) :
      SpellsMembers [(.text name, v)] (member name text)
  | more (name : Text) {v : Value} {kvs : List (Value × Value)} {text others : Text}
      (value : Spells v text) (rest : SpellsMembers kvs others) :
      SpellsMembers ((.text name, v) :: kvs) (member name text ++ ',' :: ' ' :: others)

end

open Draft (Fits fitsAlways)

theorem leadForm {x : Value} (form : Form x) (before : Text) :
    (lead before x).result = .ok before := by
  cases x with
  | int i =>
    rw [lead, writeShort form]
    rfl
  | _ => rfl

theorem keyLead (name before : Text) :
    Fits (fun _ => .ofResult ((key (.text name)).map fun name => before ++ string name ++ ": ")) 0
      (before ++ (string name ++ ": ")) :=
  fitsAlways (by simp [key, Except.map])

section writing

variable {layout : Layout} {other : Unwritable} {depth needed more : Nat}
  {before text others : Text} {v : Value} {xs : List Value} {kvs : List (Value × Value)}

theorem fitsList (nonempty : xs ≠ [])
    (items : Fits (fun room => writeItems layout other depth room ('[' :: layout.inside depth) xs)
      needed ('[' :: layout.inside depth ++ text)) :
    Fits (fun room => writeAt layout other depth room (.list xs)) (needed + 1)
      ('[' :: (layout.inside depth ++ text ++ (layout.inside (depth - 1) ++ [']']))) := by
  have whole := (items.append (fitsAlways (Draft.resultDone
    (layout.inside (depth - 1) ++ [']'])))).deeper
  have filled : xs.isEmpty = false := by simpa using nonempty
  simp only [writeAt, filled, Bool.false_eq_true, if_false]
  simpa [List.append_assoc] using whole

theorem fitsDict (nonempty : kvs ≠ [])
    (members : Fits (fun room => writeMembers layout other depth room [] kvs) needed text) :
    Fits (fun room => writeAt layout other depth room (.dict kvs)) (needed + 1)
      ('\x7b' :: (layout.inside depth ++ text ++ (layout.inside (depth - 1) ++ ['\x7d']))) := by
  have whole := (((fitsAlways (Draft.resultDone ('\x7b' :: layout.inside depth))).append
    members).append (fitsAlways (Draft.resultDone
      (layout.inside (depth - 1) ++ ['\x7d'])))).deeper
  have filled : kvs.isEmpty = false := by simpa using nonempty
  simp only [writeAt, filled, Bool.false_eq_true, if_false]
  simpa [List.append_assoc] using whole

theorem fitsInt {i : Int} (short : i.natAbs < 10 ^ Number.digitLimit) :
    Fits (fun room => writeAt layout other depth room (.int i)) 0 (Text.ofInt i) := by
  simp only [writeAt, writeShort short]
  exact fitsAlways rfl

theorem fitsEmptyList : Fits (fun room => writeAt layout other depth room (.list [])) 1 "[]" :=
  fun room => by cases room <;> rfl

theorem fitsEmptyDict :
    Fits (fun room => writeAt layout other depth room (.dict [])) 1 "\x7b\x7d" :=
  fun room => by cases room <;> rfl

theorem fitsItem {x : Value} (form : Form x)
    (first : Fits (fun room => writeAt layout other (depth + 1) room x) needed text)
    (rest : Fits (fun room => writeItems layout other depth room (',' :: layout.afterComma depth) xs)
      more others) :
    Fits (fun room => writeItems layout other depth room before (x :: xs)) (max needed more)
      (before ++ (text ++ others)) := by
  have whole := ((fitsAlways (leadForm form before)).append first).append rest
  simpa [writeItems] using whole

theorem fitsMember (name : Text)
    (first : Fits (fun room => writeAt layout other (depth + 1) room v) needed text)
    (rest : Fits (fun room => writeMembers layout other depth room (',' :: layout.afterComma depth)
      kvs) more others) :
    Fits (fun room => writeMembers layout other depth room before ((.text name, v) :: kvs))
      (max needed more) (before ++ (member name text ++ others)) := by
  have whole := ((keyLead name before).append first).append rest
  simpa [writeMembers, member] using whole

theorem fitsNoItems : Fits (fun room => writeItems layout other depth room before []) 0 [] :=
  fitsAlways rfl

theorem fitsNoMembers : Fits (fun room => writeMembers layout other depth room before []) 0 [] :=
  fitsAlways rfl

end writing

mutual

theorem valueShown (other : Unwritable) : ∀ v : Value, Form v → ∃ text, Spells v text ∧
    ∀ depth, Fits (fun room => writeAt oneLine other depth room v) (nesting v) text
  | .null, _ => ⟨_, .null, fun _ => fitsAlways rfl⟩
  | .bool b, _ => ⟨_, .bool b, fun _ => fitsAlways rfl⟩
  | .int i, short => ⟨_, .int i, fun _ => fitsInt short⟩
  | .text t, _ => ⟨_, .text t, fun _ => fitsAlways rfl⟩
  | .list [], _ => ⟨_, .emptyList, fun _ => fitsEmptyList⟩
  | .list (x :: xs), form => by
    obtain ⟨text, items, fits⟩ := itemsShown other (x :: xs) (by simp) form
    refine ⟨_, .list items, fun depth => ?_⟩
    simpa [oneLine, nesting] using fitsList (by simp) (fits depth ('[' :: oneLine.inside depth))
  | .dict [], _ => ⟨_, .emptyDict, fun _ => fitsEmptyDict⟩
  | .dict (entry :: kvs), form => by
    obtain ⟨text, members, fits⟩ := membersShown other (entry :: kvs) (by simp) form
    refine ⟨_, .dict members, fun depth => ?_⟩
    simpa [oneLine, nesting] using fitsDict (by simp) (fits depth [])

theorem itemsShown (other : Unwritable) : ∀ xs : List Value, xs ≠ [] → Forms xs →
    ∃ text, SpellsItems xs text ∧ ∀ depth before,
      Fits (fun room => writeItems oneLine other depth room before xs) (nestings xs) (before ++ text)
  | [], nonempty, _ => absurd rfl nonempty
  | [x], _, form => by
    obtain ⟨text, item, fits⟩ := valueShown other x form.1
    refine ⟨text, .last item, fun depth before => ?_⟩
    simpa [nestings] using fitsItem form.1 (fits (depth + 1)) fitsNoItems
  | x :: y :: xs, _, form => by
    obtain ⟨text, item, fits⟩ := valueShown other x form.1
    obtain ⟨others, rest, fitsRest⟩ := itemsShown other (y :: xs) (by simp) form.2
    refine ⟨_, .more item rest, fun depth before => ?_⟩
    exact fitsItem form.1 (fits (depth + 1)) (fitsRest depth (',' :: oneLine.afterComma depth))

theorem membersShown (other : Unwritable) : ∀ kvs : List (Value × Value), kvs ≠ [] →
    Members kvs → ∃ text, SpellsMembers kvs text ∧ ∀ depth before,
      Fits (fun room => writeMembers oneLine other depth room before kvs) (memberNesting kvs)
        (before ++ text)
  | [], nonempty, _ => absurd rfl nonempty
  | [(k, v)], _, ⟨⟨name, named, _⟩, form, _⟩ => by
    obtain ⟨text, value, fits⟩ := valueShown other v form
    subst named
    refine ⟨_, .last name value, fun depth before => ?_⟩
    simpa [memberNesting] using fitsMember name (fits (depth + 1)) fitsNoMembers
  | (k, v) :: entry :: kvs, _, ⟨⟨name, named, _⟩, form, members⟩ => by
    obtain ⟨text, value, fits⟩ := valueShown other v form
    obtain ⟨others, rest, fitsRest⟩ := membersShown other (entry :: kvs) (by simp) members
    subst named
    refine ⟨_, .more name value rest, fun depth before => ?_⟩
    exact fitsMember name (fits (depth + 1)) (fitsRest depth (',' :: oneLine.afterComma depth))

end

mutual

theorem Spells.back {v : Value} {text : Text} : Spells v text → Form v → ReadsBack v text
  | .null, _ => nullBack
  | .bool b, _ => boolBack b
  | .int _, short => intBack short
  | .text t, _ => textBack t
  | .emptyList, _ => emptyListBack
  | .list items, form => listBack blankNone blankNone (items.back form)
  | .emptyDict, _ => emptyDictBack
  | .dict members, form => dictBack blankNone blankNone (members.back form) (ofEntriesForm form)

theorem SpellsItems.back {xs : List Value} {text : Text} :
    SpellsItems xs text → Forms xs → ItemsBack xs text
  | .last item, form => lastItem (item.back form.1)
  | .more item rest, form => moreItems (item.back form.1) blankSpace (rest.back form.2)

theorem SpellsMembers.back {kvs : List (Value × Value)} {text : Text} :
    SpellsMembers kvs text → Members kvs → MembersBack kvs text
  | .last name value, form => lastMember name (value.back form.2.1)
  | .more name value rest, form =>
    moreMembers name (value.back form.2.1) blankSpace (rest.back form.2.2)

end

def writeWithin (limit : Nat) (v : Value) : Except WriteError Text :=
  (writeAt oneLine .refused 1 limit v).result

def readWithin (limit : Nat) (text : Text) : Except ReadError Value := do
  let (value, rest) ← readValue (2 * text.length + 2) limit (skip text)
  if (skip rest).isEmpty then .ok value else .error .malformed

theorem readsWhole {v : Value} {text : Text} (reads : ReadsBack v text) (limit : Nat) :
    readWithin limit text = if nesting v ≤ limit then .ok v else .error .tooDeep := by
  obtain ⟨opens, back⟩ := reads
  have whole := back [] (2 * text.length + 2) limit stopsEnd (by omega)
  have skipped := skipOpens opens []
  rw [List.append_nil] at whole skipped
  rw [readWithin, skipped, whole, reached]
  split <;> rfl

theorem readSpelled {v : Value} {text : Text} (spells : Spells v text) (form : Form v)
    (limit : Nat) :
    readWithin limit text = if nesting v ≤ limit then .ok v else .error .tooDeep :=
  readsWhole (spells.back form) limit

theorem readWritten {v : Value} (form : Form v) : ∃ text, Spells v text ∧ ∀ limit,
    writeWithin limit v = (if nesting v ≤ limit then .ok text else .error .tooDeep) ∧
    readWithin limit text = if nesting v ≤ limit then .ok v else .error .tooDeep := by
  obtain ⟨text, spells, fits⟩ := valueShown .refused v form
  exact ⟨text, spells, fun limit => ⟨fits 1 limit, readSpelled spells form limit⟩⟩

end TopicRouting.Json

namespace TopicRouting.Payload

theorem textOfBytes (text : Text) : textOf (bytesOf text) = some text := by
  have encoded : bytesOf text = text.utf8Encode := by
    rw [bytesOf, String.toUTF8_eq_toByteArray, String.toByteArray_ofList]
  rw [textOf, encoded, List.utf8Decode?_utf8Encode]
  simp

theorem encodeForm {v : Value} (form : Json.Form v) :
    encode v = ((write v).mapError Error.ofWrite).map bytesOf := by
  cases v <;> first | rfl | contradiction

theorem decodeEncoded {v : Value} {text : Text} (form : Json.Form v)
    (same : ∀ limit,
      Json.writeWithin limit v = (if Json.nesting v ≤ limit then .ok text else .error .tooDeep) ∧
      Json.readWithin limit text = if Json.nesting v ≤ limit then .ok v else .error .tooDeep) :
    encode v = (if Json.nesting v ≤ Json.depthLimit then .ok (bytesOf text)
      else .error .tooDeep) ∧
    decode (.bytes (bytesOf text)) =
      if Json.nesting v ≤ Json.depthLimit then .ok (some v) else .error .tooDeep := by
  obtain ⟨written, back⟩ := same Json.depthLimit
  have written : Json.write v = _ := written
  have back : Json.read text = _ := back
  rw [encodeForm form, write, written, decode, textOfBytes]
  dsimp only
  rw [ofText, back]
  by_cases shallow : Json.nesting v ≤ Json.depthLimit
  · simp only [if_pos shallow]
    exact ⟨rfl, trivial⟩
  · simp only [if_neg shallow]
    exact ⟨rfl, trivial⟩

end TopicRouting.Payload
