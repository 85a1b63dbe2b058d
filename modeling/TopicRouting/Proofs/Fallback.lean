import TopicRouting.Proofs.ReadingBack

/-! What has no JSON form goes out as its plain text, and that text is never read as JSON. It looks
like JSON for a while: the reader stays in step with it, bracket by bracket, and comes no further
than the first item that JSON cannot say. -/
namespace TopicRouting.Json

mutual

/- What is made of nulls, truths, whole numbers that can be read, texts and bytes, and holds no more
than these. Keys are what cannot change. -/
def Shown : Value → Prop
  | .null | .bool _ | .text _ | .bytes _ | .byteArray _ => True
  | .int i => i.natAbs < 10 ^ Number.digitLimit
  | .list xs | .tuple xs | .set xs => ShownItems xs
  | .dict kvs => ShownEntries kvs
  | _ => False

def ShownItems : List Value → Prop
  | [] => True
  | x :: xs => Shown x ∧ ShownItems xs

def ShownEntries : List (Value × Value) → Prop
  | [] => True
  | (k, v) :: kvs => (Shown k ∧ k.isKey = true) ∧ Shown v ∧ ShownEntries kvs

end

/- Somewhere in the value is what JSON cannot say: bytes, a set, or a key of bytes or a tuple. -/
inductive Unwritten : Value → Prop
  | bytes (b : ByteArray) : Unwritten (.bytes b)
  | byteArray (b : ByteArray) : Unwritten (.byteArray b)
  | set (xs : List Value) : Unwritten (.set xs)
  | item {x : Value} {xs : List Value} (inside : x ∈ xs) (unwritten : Unwritten x) :
      Unwritten (.list xs)
  | tupled {x : Value} {xs : List Value} (inside : x ∈ xs) (unwritten : Unwritten x) :
      Unwritten (.tuple xs)
  | bytesKey {b : ByteArray} {v : Value} {kvs : List (Value × Value)}
      (inside : (.bytes b, v) ∈ kvs) : Unwritten (.dict kvs)
  | tupleKey {xs : List Value} {v : Value} {kvs : List (Value × Value)}
      (inside : (.tuple xs, v) ∈ kvs) : Unwritten (.dict kvs)
  | value {k v : Value} {kvs : List (Value × Value)} (inside : (k, v) ∈ kvs)
      (unwritten : Unwritten v) : Unwritten (.dict kvs)

/- What a reader may come to that follows a shown text: the end of the text if there is nothing
unwritten in it, and the limit to its brackets if these are as deep as the text. -/
def InStep {α : Type} (written : Prop) (needed depth : Nat) (rest : Text) :
    Except ReadError (α × Text) → Prop
  | .ok (_, after) => after = rest ∧ written
  | .error .malformed => True
  | .error .tooDeep => depth ≤ needed
  | .error (.tooManyDigits _) => False

section unwritten

variable {x k v : Value} {xs : List Value} {kvs : List (Value × Value)}

theorem writtenEmpty : ¬ Unwritten (.list []) ∧ ¬ Unwritten (.dict []) := by
  constructor <;> intro unwritten <;> cases unwritten <;> contradiction

theorem unwrittenItem : Unwritten (.list (x :: xs)) ↔ Unwritten x ∨ Unwritten (.list xs) := by
  constructor
  · intro unwritten
    cases unwritten with
    | item inside unwritten =>
      rcases List.mem_cons.mp inside with rfl | later
      · exact .inl unwritten
      · exact .inr (.item later unwritten)
  · rintro (first | others)
    · exact .item List.mem_cons_self first
    · cases others with
      | item inside unwritten => exact .item (List.mem_cons_of_mem _ inside) unwritten

theorem unwrittenTuple : Unwritten (.tuple xs) ↔ Unwritten (.list xs) := by
  constructor <;> intro unwritten
  · cases unwritten with
    | tupled inside unwritten => exact .item inside unwritten
  · cases unwritten with
    | item inside unwritten => exact .tupled inside unwritten

theorem unwrittenEntry (shown : Shown k) (unchanging : k.isKey = true) :
    Unwritten (.dict ((k, v) :: kvs)) ↔
      key k = .error .noForm ∨ Unwritten v ∨ Unwritten (.dict kvs) := by
  constructor
  · intro unwritten
    cases unwritten with
    | bytesKey inside =>
      rcases List.mem_cons.mp inside with first | later
      · cases first
        exact .inl rfl
      · exact .inr (.inr (.bytesKey later))
    | tupleKey inside =>
      rcases List.mem_cons.mp inside with first | later
      · cases first
        exact .inl rfl
      · exact .inr (.inr (.tupleKey later))
    | value inside unwritten =>
      rcases List.mem_cons.mp inside with first | later
      · cases first
        exact .inr (.inl unwritten)
      · exact .inr (.inr (.value later unwritten))
  · rintro (nameless | value | others)
    · cases k with
      | bytes b => exact .bytesKey List.mem_cons_self
      | tuple xs => exact .tupleKey List.mem_cons_self
      | date d => exact shown.elim
      | moment m => exact shown.elim
      | int i => simp [key, writeShort shown] at nameless
      | _ =>
        clear shown
        contradiction
    · exact .value List.mem_cons_self value
    · cases others with
      | bytesKey inside => exact .bytesKey (List.mem_cons_of_mem _ inside)
      | tupleKey inside => exact .tupleKey (List.mem_cons_of_mem _ inside)
      | value inside unwritten => exact .value (List.mem_cons_of_mem _ inside) unwritten

theorem writtenItem (first : ¬ Unwritten x) (others : ¬ Unwritten (.list xs)) :
    ¬ Unwritten (.list (x :: xs)) := fun unwritten =>
  (unwrittenItem.mp unwritten).elim first others

theorem writtenEntry (named : ∃ t, k = .text t) (value : ¬ Unwritten v)
    (others : ¬ Unwritten (.dict kvs)) : ¬ Unwritten (.dict ((k, v) :: kvs)) := by
  obtain ⟨t, rfl⟩ := named
  rw [unwrittenEntry (k := .text t) trivial rfl, not_or, not_or]
  exact ⟨nofun, value, others⟩

def Refused (unwritten wide : Prop) : Except WriteError Text → Prop
  | .ok _ => ¬ unwritten
  | .error .noForm => unwritten
  | .error .tooDeep => ¬ wide
  | .error .tooManyDigits => False

section refusing

variable {unwritten wide later laterWide : Prop} {a b : Draft}

theorem Refused.append (first : Refused unwritten wide a.result)
    (second : Refused later laterWide b.result) :
    Refused (unwritten ∨ later) (wide ∧ laterWide) (a ++ b).result := by
  rw [Draft.resultAppend]
  match shown : a.result, first with
  | .ok _, written =>
    match b.result, second with
    | .ok _, writtenLater => exact not_or.mpr ⟨written, writtenLater⟩
    | .error .noForm, refused => exact .inr refused
    | .error .tooDeep, narrow => exact fun both => narrow both.2
  | .error .noForm, refused => exact .inl refused
  | .error .tooDeep, narrow => exact fun both => narrow both.1

theorem Refused.of {result : Except WriteError Text} (refused : Refused unwritten wide result)
    (same : unwritten ↔ later) (narrower : laterWide → wide) : Refused later laterWide result :=
  match result, refused with
  | .ok _, written => mt same.mpr written
  | .error .noForm, unwritten => same.mp unwritten
  | .error .tooDeep, narrow => mt narrower narrow

theorem Refused.closed (inside : Refused unwritten wide a.result) (text : Text) :
    Refused unwritten wide (a ++ Draft.done text).result := by
  have last : Refused False True (Draft.done text).result := not_false
  exact (inside.append last).of (or_iff_left not_false) fun room => ⟨room, trivial⟩

theorem Refused.opened (inside : Refused unwritten wide a.result) (text : Text) :
    Refused unwritten wide (Draft.done text ++ a).result := by
  have first : Refused False True (Draft.done text).result := not_false
  exact (first.append inside).of (or_iff_right not_false) fun room => ⟨trivial, room⟩

theorem Refused.brackets {needed room : Nat} {empty : Bool} {short : Text}
    (inside : Refused unwritten (needed ≤ room - 1) a.result)
    (none : empty = true → ¬ unwritten) : Refused unwritten (needed + 1 ≤ room)
      (if room = 0 then Draft.stop .tooDeep else if empty then .done short else a).result := by
  by_cases narrow : room = 0
  · rw [if_pos narrow]
    exact Nat.not_le.mpr (by omega)
  · rw [if_neg narrow]
    cases empty with
    | true => exact none rfl
    | false => exact inside.of Iff.rfl fun wide => by omega

end refusing

mutual

/- The room that is needed for the JSON of a value, until it is refused, and for its literal. -/
def extent : Value → Nat
  | .list xs | .tuple xs => extents xs + 1
  | .set xs => extents xs + 2
  | .dict kvs => entryExtent kvs + 1
  | .bytes _ | .byteArray _ => 2
  | _ => 0

def extents : List Value → Nat
  | [] => 0
  | x :: xs => max (extent x) (extents xs)

def entryExtent : List (Value × Value) → Nat
  | [] => 0
  | (k, v) :: kvs => max (max (extent k) (extent v)) (entryExtent kvs)

end

theorem refusedLeaf {v : Value} (unwritten : Unwritten v) {needed room : Nat} (some : 2 ≤ needed) :
    Refused (Unwritten v) (needed ≤ room)
      (Draft.ofResult (Unwritable.refused.write room v)).result := by
  rw [Draft.resultOf, Unwritable.write]
  split
  · exact Nat.not_le.mpr (by omega)
  · exact unwritten

theorem leadShown (shown : Shown x) (before : Text) : (lead before x).result = .ok before := by
  cases x with
  | int i =>
    rw [lead, writeShort shown]
    rfl
  | _ => rfl

theorem refusedKey (shown : Shown k) (unchanging : k.isKey = true) (f : Text → Text) :
    Refused (key k = .error .noForm) True (Draft.ofResult ((key k).map f)).result := by
  rw [Draft.resultOf]
  cases k with
  | int i =>
    simp only [key, writeShort shown]
    intro refused
    cases refused
  | bytes b => rfl
  | tuple xs => rfl
  | date d => exact shown.elim
  | moment m => exact shown.elim
  | float x => exact shown.elim
  | byteArray b => contradiction
  | list xs => contradiction
  | set xs => contradiction
  | dict kvs => contradiction
  | _ =>
    intro refused
    cases refused

mutual

theorem refusedUnwritten : ∀ v : Value, Shown v → ∀ depth room,
    Refused (Unwritten v) (extent v ≤ room) (writeAt oneLine .refused depth room v).result
  | .null, _, _, _ | .bool _, _, _, _ | .text _, _, _, _ => nofun
  | .int i, short, depth, room => by
    simp only [writeAt, writeShort short]
    nofun
  | .bytes b, _, _, _ => refusedLeaf (.bytes b) (Nat.le_refl 2)
  | .byteArray b, _, _, _ => refusedLeaf (.byteArray b) (Nat.le_refl 2)
  | .set xs, _, _, _ => refusedLeaf (.set xs) (Nat.le_add_left 2 _)
  | .list xs, shown, depth, room => by
    have items := refusedItems xs shown depth (room - 1) ('[' :: oneLine.inside depth)
    refine (items.closed _).brackets fun empty => ?_
    rw [List.isEmpty_iff.mp empty]
    exact writtenEmpty.1
  | .tuple xs, shown, depth, room => by
    have items := refusedItems xs shown depth (room - 1) ('[' :: oneLine.inside depth)
    refine ((items.of unwrittenTuple.symm id).closed _).brackets fun empty => ?_
    rw [List.isEmpty_iff.mp empty, unwrittenTuple]
    exact writtenEmpty.1
  | .dict kvs, shown, depth, room => by
    have members := refusedMembers kvs shown depth (room - 1) []
    refine ((members.opened _).closed _).brackets fun empty => ?_
    rw [List.isEmpty_iff.mp empty]
    exact writtenEmpty.2

theorem refusedItems : ∀ xs : List Value, ShownItems xs → ∀ depth room before,
    Refused (Unwritten (.list xs)) (extents xs ≤ room)
      (writeItems oneLine .refused depth room before xs).result
  | [], _, _, _, _ => writtenEmpty.1
  | x :: xs, shown, depth, room, before => by
    have first := (refusedUnwritten x shown.1 (depth + 1) room).opened before
    have rest := refusedItems xs shown.2 depth room (',' :: oneLine.afterComma depth)
    have led : lead before x = .done before := Draft.resultOk.mp (leadShown shown.1 before)
    rw [writeItems, led]
    exact (first.append rest).of unwrittenItem.symm fun wide => Nat.max_le.mp wide

theorem refusedMembers : ∀ kvs : List (Value × Value), ShownEntries kvs → ∀ depth room before,
    Refused (Unwritten (.dict kvs)) (entryExtent kvs ≤ room)
      (writeMembers oneLine .refused depth room before kvs).result
  | [], _, _, _, _ => writtenEmpty.2
  | (k, v) :: kvs, shown, depth, room, before => by
    have name := refusedKey shown.1.1 shown.1.2 fun name => before ++ string name ++ ": "
    have value := refusedUnwritten v shown.2.1 (depth + 1) room
    have rest := refusedMembers kvs shown.2.2 depth room (',' :: oneLine.afterComma depth)
    refine ((name.append value).append rest).of ?_ fun wide => ?_
    · rw [unwrittenEntry shown.1.1 shown.1.2, or_assoc]
    · obtain ⟨here, later⟩ := Nat.max_le.mp wide
      exact ⟨⟨trivial, (Nat.max_le.mp here).2⟩, later⟩

end

def Narrow (wide : Prop) (stops : Option WriteError) : Prop :=
  stops = none ∨ stops = some .tooDeep ∧ ¬ wide

section narrow

variable {wide later : Prop} {a b : Option WriteError}

theorem Narrow.orElse (first : Narrow wide a) (second : Narrow later b) :
    Narrow (wide ∧ later) (a <|> b) := by
  rcases first with rfl | ⟨rfl, narrow⟩
  · exact second.imp_right fun ⟨same, narrow⟩ => ⟨same, fun both => narrow both.2⟩
  · exact .inr ⟨rfl, fun both => narrow both.1⟩

theorem Narrow.of (narrow : Narrow wide a) (narrower : later → wide) : Narrow later a :=
  narrow.imp_right fun ⟨same, small⟩ => ⟨same, mt narrower small⟩

theorem Narrow.deeper {needed cost room : Nat} {inside : Nat → Option WriteError}
    (narrow : Narrow (needed ≤ room - cost) (inside (room - cost))) :
    Narrow (needed + cost ≤ room) (Value.deeper cost room inside) := by
  rw [Value.deeper]
  split
  · exact .inr ⟨rfl, by omega⟩
  · exact narrow.of fun wide => by omega

end narrow

mutual

theorem literalNarrow : ∀ v : Value, Shown v → ∀ room,
    Narrow (extent v ≤ room) (v.literalStop? room)
  | .null, _, _ | .bool _, _, _ | .text _, _, _ | .bytes _, _, _ | .byteArray _, _, _ => .inl rfl
  | .int i, short, _ => .inl (if_neg (by simp [notLong short]))
  | .list xs, shown, room | .tuple xs, shown, room => by
    rw [Value.literalStop?, extent]
    exact (literalsNarrow xs shown (room - 1)).deeper
  | .set [], _, _ => .inl rfl
  | .set (x :: xs), shown, room => by
    rw [Value.literalStop?, extent]
    · exact (literalsNarrow (x :: xs) shown (room - 2)).deeper
    · simp
  | .dict kvs, shown, room => by
    rw [Value.literalStop?, extent]
    exact (entriesNarrow kvs shown (room - 1)).deeper

theorem literalsNarrow : ∀ xs : List Value, ShownItems xs → ∀ room,
    Narrow (extents xs ≤ room) (Value.literalsStop? room xs)
  | [], _, _ => .inl rfl
  | x :: xs, shown, room =>
    ((literalNarrow x shown.1 room).orElse (literalsNarrow xs shown.2 room)).of Nat.max_le.mp

theorem entriesNarrow : ∀ kvs : List (Value × Value), ShownEntries kvs → ∀ room,
    Narrow (entryExtent kvs ≤ room) (Value.entriesStop? room kvs)
  | [], _, _ => .inl rfl
  | (k, v) :: kvs, shown, room =>
    ((literalNarrow k shown.1.1 room).orElse ((literalNarrow v shown.2.1 room).orElse
      (entriesNarrow kvs shown.2.2 room))).of fun wide =>
        ⟨(Nat.max_le.mp (Nat.max_le.mp wide).1).1, (Nat.max_le.mp (Nat.max_le.mp wide).1).2,
          (Nat.max_le.mp wide).2⟩

end

end unwritten

section characters

theorem readUnknown {e : Char} (unknown : escaped? e = none) (notUnit : e ≠ 'u') (rest : Text) :
    readString ('\\' :: e :: rest) = none := by
  rw [readString]
  · rw [unknown]
    rfl
  · rintro a b c d rest rfl
    contradiction

theorem printableShown {c : Char} (printable : Text.isPrintable c = true) : ' ' ≤ c := by
  have large : 32 ≤ c.toNat := by
    rw [Text.isPrintable] at printable
    split at printable
    · exact of_decide_eq_true printable
    · omega
  exact large

theorem readShownChar {c : Char} (mark : c ≠ '"') (rest : Text) :
    readString (Text.quotedChar '"' c ++ rest) = none ∨
      ∃ d, readString (Text.quotedChar '"' c ++ rest) = prepended d (readString rest) := by
  unfold Text.quotedChar
  split
  · exact .inr ⟨_, readShort rfl (by decide) rest⟩
  rename_i backslash
  split
  · exact .inr ⟨_, readShort rfl (by decide) rest⟩
  split
  · exact .inr ⟨_, readShort rfl (by decide) rest⟩
  split
  · exact .inr ⟨_, readShort rfl (by decide) rest⟩
  split
  · rename_i printable
    exact .inr ⟨c, readPlain mark backslash (printableShown printable) rest⟩
  split
  · exact .inl (readUnknown rfl (by decide) _)
  split
  · rename_i small
    have whole := notHalf c
    have high : isHigh c.toNat = false := by simp [isHigh]; omega
    have low : isLow c.toNat = false := by simp [isLow]; omega
    exact .inr ⟨_, readUnit small high low rest⟩
  · exact .inl (readUnknown rfl (by decide) _)

theorem readShownText {t : Text} (unmarked : '"' ∉ t) (rest : Text) :
    readString (t.flatMap (Text.quotedChar '"') ++ '"' :: rest) = none ∨
      ∃ u, readString (t.flatMap (Text.quotedChar '"') ++ '"' :: rest) = some (u, rest) := by
  induction t with
  | nil => exact .inr ⟨[], rfl⟩
  | cons c t ih =>
    rw [List.mem_cons, not_or] at unmarked
    rw [List.flatMap_cons, List.append_assoc]
    rcases readShownChar (Ne.symm unmarked.1) (t.flatMap (Text.quotedChar '"') ++ '"' :: rest) with
      stops | ⟨d, goesOn⟩
    · exact .inl stops
    · rw [goesOn]
      rcases ih unmarked.2 with stops | ⟨u, ends⟩
      · exact .inl (by rw [stops]; rfl)
      · exact .inr ⟨d :: u, by rw [ends]; rfl⟩

end characters

section starts

theorem refusesStart {c : Char} (opening : c ≠ '"' ∧ c ≠ '[' ∧ c ≠ '\x7b' ∧ c ≠ '-')
    (letter : ∀ word ∈ words, word.1.head? ≠ some c) (digit : c.isDigit = false) (rest : Text)
    (fuel depth : Nat) : readValue (fuel + 1) depth (c :: rest) = .error .malformed := by
  have noNumber : readNumber false (c :: rest) = .error .malformed := by
    have whole : readWhole (c :: rest) = none := by
      rw [readWhole]
      · simp [digitRun, digit]
      · rintro others same
        cases same
        contradiction
    rw [readNumber, whole]
  rw [readValue]
  · rw [readWordNone letter]
    exact noNumber
  all_goals
    rintro others same
    cases same
    simp at opening

theorem readNone (rest : Text) (fuel depth : Nat) :
    readValue (fuel + 1) depth ('N' :: 'o' :: rest) = .error .malformed := by
  have noWord : readWord ('N' :: 'o' :: rest) = none := by simp [readWord, words, after?]
  rw [readValue]
  · rw [noWord]
    rfl
  all_goals
    intro others same
    cases same

theorem parenthesis (xs : List Value) : ∃ others, (Value.tuple xs).literal = '(' :: others :=
  match xs with
  | [] | [_] | _ :: _ :: _ => ⟨_, rfl⟩

theorem quoteMarks (t : Text) :
    (Text.quoteMark t = '"' ∧ '"' ∉ t) ∨ Text.quoteMark t = '\'' := by
  rw [Text.quoteMark]
  split
  · rename_i single
    exact .inl ⟨rfl, by simp_all⟩
  · exact .inr rfl

theorem literalStart {v : Value} (shown : Shown v) :
    (∃ t, v = .text t ∧ '"' ∉ t ∧
      v.literal = '"' :: (t.flatMap (Text.quotedChar '"') ++ ['"'])) ∨
    ∃ c rest, v.literal = c :: rest ∧ c ≠ '"' := by
  cases v with
  | text t =>
    rcases quoteMarks t with ⟨double, unmarked⟩ | single
    · exact .inl ⟨t, rfl, unmarked, by rw [Value.literal, Text.quoted, double]; rfl⟩
    · exact .inr ⟨_, _, rfl, by rw [single]; decide⟩
  | int i =>
    clear shown
    cases i with
    | ofNat n =>
      obtain ⟨c, digits, same, digit⟩ := digitsOfNat n
      refine .inr ⟨c, digits, same, ?_⟩
      rintro rfl
      contradiction
    | negSucc n => exact .inr ⟨_, _, rfl, by decide⟩
  | tuple xs =>
    obtain ⟨others, shape⟩ := parenthesis xs
    exact .inr ⟨_, others, shape, by decide⟩
  | set xs =>
    cases xs with
    | nil => exact .inr ⟨_, _, rfl, by decide⟩
    | cons x xs => exact .inr ⟨_, _, rfl, by decide⟩
  | bool b => cases b <;> exact .inr ⟨_, _, rfl, by decide⟩
  | float x => exact shown.elim
  | date d => exact shown.elim
  | moment m => exact shown.elim
  | _ => exact .inr ⟨_, _, rfl, by decide⟩

theorem opensLiteral {v : Value} (shown : Shown v) : Opens v.literal := by
  cases v with
  | text t =>
    rcases quoteMarks t with ⟨double, _⟩ | single
    · exact ⟨_, _, rfl, by rw [double]; decide⟩
    · exact ⟨_, _, rfl, by rw [single]; decide⟩
  | int i => exact (intBack shown).1
  | tuple xs =>
    obtain ⟨others, shape⟩ := parenthesis xs
    exact ⟨_, others, shape, by decide⟩
  | set xs =>
    cases xs with
    | nil => exact ⟨_, _, rfl, by decide⟩
    | cons x xs => exact ⟨_, _, rfl, by decide⟩
  | bool b => cases b <;> exact ⟨_, _, rfl, by decide⟩
  | float x => exact shown.elim
  | date d => exact shown.elim
  | moment m => exact shown.elim
  | _ => exact ⟨_, _, rfl, by decide⟩

theorem opensLiterals {xs : List Value} (nonempty : xs ≠ []) (shown : ShownItems xs) :
    Opens (Value.literals xs) := by
  match xs with
  | [] => contradiction
  | [x] => exact opensLiteral shown.1
  | x :: y :: xs =>
    rw [Value.literals, List.append_assoc]
    · exact opensAppend (opensLiteral shown.1) _
    · simp

theorem opensEntries {kvs : List (Value × Value)} (nonempty : kvs ≠ []) (shown : ShownEntries kvs) :
    Opens (Value.entryLiterals kvs) := by
  match kvs with
  | [] => contradiction
  | [(k, v)] =>
    rw [Value.entryLiterals, List.append_assoc]
    exact opensAppend (opensLiteral shown.1.1) _
  | (k, v) :: entry :: kvs =>
    rw [Value.entryLiterals]
    · simp only [List.append_assoc]
      exact opensAppend (opensLiteral shown.1.1) _
    · simp

end starts

section steps

variable {α β : Type} {written later : Prop} {needed total depth limit : Nat} {middle rest : Text}

theorem InStep.mono {found : Except ReadError (α × Text)}
    (first : InStep written needed depth rest found) (weaker : written → later) :
    InStep later needed depth rest found :=
  match found, first with
  | .ok _, ⟨same, holds⟩ => ⟨same, weaker holds⟩
  | .error .malformed, _ => trivial
  | .error .tooDeep, tooDeep => tooDeep

theorem InStep.andThen {found : Except ReadError (α × Text)}
    {next : α × Text → Except ReadError (β × Text)}
    (first : InStep written needed depth middle found)
    (deeper : depth ≤ needed → limit ≤ total)
    (goesOn : ∀ a, written → InStep later total limit rest (next (a, middle))) :
    InStep later total limit rest (found >>= next) :=
  match found, first with
  | .ok (a, _), ⟨rfl, holds⟩ => goesOn a holds
  | .error .malformed, _ => trivial
  | .error .tooDeep, tooDeep => deeper tooDeep

theorem membersRefuse {c : Char} (other : c ≠ '"') (fuel depth : Nat) (rest : Text) :
    readMembers fuel depth (c :: rest) = .error .malformed := by
  cases fuel with
  | zero => rfl
  | succ fuel =>
    rw [readMembers]
    rintro others same
    exact other (List.cons.inj same).1

theorem setRefused {xs : List Value} (nonempty : xs ≠ []) (shown : ShownItems xs) (fuel depth : Nat)
    (rest : Text) :
    readMembers fuel depth (Value.literals xs ++ '\x7d' :: rest) = .error .malformed := by
  obtain ⟨x, more, same, noColon⟩ : ∃ x more, Value.literals xs ++ '\x7d' :: rest =
      x.literal ++ more ∧ Shown x ∧ ∀ others, skip more ≠ ':' :: others := by
    match xs with
    | [] => contradiction
    | [x] =>
      refine ⟨x, '\x7d' :: rest, rfl, shown.1, ?_⟩
      rintro others same
      cases same
    | x :: y :: xs =>
      refine ⟨x, ',' :: ' ' :: (Value.literals (y :: xs) ++ '\x7d' :: rest), ?_, shown.1, ?_⟩
      · rw [Value.literals, List.append_assoc, List.append_assoc]
        · rfl
        · simp
      · rintro others same
        cases same
  rw [same]
  rcases literalStart noColon.1 with ⟨t, rfl, unmarked, literal⟩ | ⟨c, others, literal, other⟩
  · cases fuel with
    | zero => rfl
    | succ fuel =>
      rw [literal, List.cons_append, List.append_assoc, List.singleton_append, readMembers]
      rcases readShownText unmarked more with stops | ⟨u, ends⟩
      · rw [stops]
      · rw [ends]
        dsimp only
        split
        · rename_i found
          exact absurd found (noColon.2 _)
        · rfl
  · rw [literal, List.cons_append, membersRefuse other]

def afterMember (fuel depth : Nat) (name : Text) :
    Value × Text → Except ReadError (List (Value × Value) × Text)
  | (value, rest) =>
    match skip rest with
    | '\x7d' :: rest => .ok ([(.text name, value)], rest)
    | ',' :: rest => do
        let (kvs, rest) ← readMembers fuel depth (skip rest)
        .ok ((.text name, value) :: kvs, rest)
    | _ => .error .malformed

theorem readMember {text more : Text} {name : Text}
    (named : readString text = some (name, ':' :: more)) (fuel depth : Nat) :
    readMembers (fuel + 1) depth ('"' :: text) =
      readValue fuel depth (skip more) >>= afterMember fuel depth name := by
  have colon : skip (':' :: more) = ':' :: more := rfl
  rw [readMembers, named]
  dsimp only
  rw [colon]
  rfl

theorem memberInStep {k v : Value} (shown : Shown k) (opens : Opens v.literal) {more : Text}
    {fuel : Nat}
    (value : InStep written needed depth more (readValue fuel depth (v.literal ++ more)))
    (deeper : depth ≤ needed → depth ≤ total)
    (goesOn : ∀ name w, (∃ t, k = .text t) → written →
      InStep later total depth rest (afterMember fuel depth name (w, more))) :
    InStep later total depth rest
      (readMembers (fuel + 1) depth (k.literal ++ ':' :: ' ' :: (v.literal ++ more))) := by
  rcases literalStart shown with ⟨t, rfl, unmarked, literal⟩ | ⟨c, others, literal, other⟩
  · rw [literal, List.cons_append, List.append_assoc, List.singleton_append]
    rcases readShownText unmarked (':' :: ' ' :: (v.literal ++ more)) with stops | ⟨name, ends⟩
    · rw [readMembers, stops]
      trivial
    · have skipped : skip (' ' :: (v.literal ++ more)) = v.literal ++ more := skipOpens opens more
      rw [readMember ends, skipped]
      exact value.andThen deeper fun w holds => goesOn name w ⟨t, rfl⟩ holds
  · rw [literal, List.cons_append, membersRefuse other]
    trivial

theorem bareInStep {v : Value} {c : Char} {others : Text} (shape : v.literal = c :: others)
    (opening : c ≠ '"' ∧ c ≠ '[' ∧ c ≠ '\x7b' ∧ c ≠ '-')
    (letter : ∀ word ∈ words, word.1.head? ≠ some c) (digit : c.isDigit = false) (rest : Text)
    (fuel depth : Nat) :
    InStep written needed depth rest (readValue (fuel + 1) depth (v.literal ++ rest)) := by
  rw [shape, List.cons_append, refusesStart opening letter digit]
  trivial

theorem textInStep (t rest : Text) (fuel depth : Nat) :
    InStep True needed depth rest
      (readValue (fuel + 1) depth ((Value.text t).literal ++ rest)) := by
  have shape : (Value.text t).literal ++ rest = Text.quoteMark t ::
      (t.flatMap (Text.quotedChar (Text.quoteMark t)) ++ Text.quoteMark t :: rest) := by
    simp [Value.literal, Text.quoted]
  rw [shape]
  rcases quoteMarks t with ⟨double, unmarked⟩ | single
  · rw [double, readValue]
    rcases readShownText unmarked rest with stops | ⟨u, ends⟩
    · rw [stops]
      trivial
    · rw [ends]
      exact ⟨rfl, trivial⟩
  · rw [single, refusesStart (by decide) (by decide) (by decide)]
    trivial

theorem listInStep {xs : List Value} (nonempty : xs ≠ []) (shown : ShownItems xs) {fuel : Nat}
    (items : ∀ depth, InStep written (nestings xs) depth rest
      (readItems fuel depth (Value.literals xs ++ ']' :: rest))) (depth : Nat) :
    InStep written (nesting (.list xs)) depth rest
      (readValue (fuel + 1) depth ((Value.list xs).literal ++ rest)) := by
  have opens := opensLiterals nonempty shown
  have shape : (Value.list xs).literal ++ rest = '[' :: (Value.literals xs ++ ']' :: rest) := by
    simp [Value.literal]
  rw [shape]
  cases depth with
  | zero =>
    rw [readValue]
    exact Nat.zero_le _
  | succ depth =>
    have inside := items depth
    rw [readValue, skipOpens opens]
    obtain ⟨c, others, same, _, notClosing, _⟩ := opens
    rw [same] at inside ⊢
    split
    · rename_i closing
      exact absurd (List.cons.inj closing).1 notClosing
    · exact inside.andThen (fun deep => Nat.add_le_add_right deep 1) fun _ holds => ⟨rfl, holds⟩

theorem readBrace {text : Text} (opens : Opens text) (rest : Text) (fuel depth : Nat) :
    readValue (fuel + 1) (depth + 1) ('\x7b' :: (text ++ rest)) =
      readMembers fuel depth (text ++ rest) >>= fun found =>
        .ok (.dict (Dict.ofEntries found.1), found.2) := by
  rw [readValue, skipOpens opens]
  obtain ⟨c, others, rfl, _, _, notClosing⟩ := opens
  split
  · rename_i closing
    exact absurd (List.cons.inj closing).1 notClosing
  · rfl

theorem braceInStep {text : Text} (opens : Opens text) {fuel : Nat}
    (members : ∀ depth, InStep written needed depth rest
      (readMembers fuel depth (text ++ '\x7d' :: rest))) (depth : Nat) :
    InStep written (needed + 1) depth rest
      (readValue (fuel + 1) depth ('\x7b' :: (text ++ '\x7d' :: rest))) := by
  cases depth with
  | zero =>
    rw [readValue]
    exact Nat.zero_le _
  | succ depth =>
    rw [readBrace opens]
    exact (members depth).andThen (fun deep => Nat.add_le_add_right deep 1) fun _ holds =>
      ⟨rfl, holds⟩

theorem setInStep {xs : List Value} (nonempty : xs ≠ []) (shown : ShownItems xs) (fuel depth : Nat)
    (rest : Text) :
    InStep written needed depth rest
      (readValue (fuel + 1) depth ('\x7b' :: (Value.literals xs ++ '\x7d' :: rest))) := by
  cases depth with
  | zero =>
    rw [readValue]
    exact Nat.zero_le _
  | succ depth =>
    rw [readBrace (opensLiterals nonempty shown), setRefused nonempty shown]
    trivial

end steps

mutual

/- By recursion on the value: what is left of the text once the reader has found a value is what
followed the value that was shown. -/
theorem valueInStep : ∀ v : Value, Shown v → ∀ (rest : Text) (fuel depth : Nat), Stops rest →
    InStep (¬ Unwritten v) (nesting v) depth rest (readValue fuel depth (v.literal ++ rest))
  | _, _, _, 0, _, _ => trivial
  | .null, _, rest, fuel + 1, depth, _ => by
    have refused := readNone ('n' :: 'e' :: rest) fuel depth
    exact refused ▸ trivial
  | .bool b, _, rest, fuel + 1, depth, _ => by
    have refused : readValue (fuel + 1) depth ((Value.bool b).literal ++ rest) =
        .error .malformed := by
      cases b <;> exact refusesStart (by decide) (by decide) (by decide) _ fuel depth
    rw [refused]
    trivial
  | .int i, short, rest, fuel + 1, depth, stops => by
    rw [Value.literal, readInt short stops]
    exact ⟨rfl, nofun⟩
  | .text t, _, rest, fuel + 1, depth, _ =>
    (textInStep t rest fuel depth).mono fun _ => nofun
  | .bytes _, _, rest, fuel + 1, depth, _ =>
    bareInStep rfl (by decide) (by decide) (by decide) rest fuel depth
  | .byteArray _, _, rest, fuel + 1, depth, _ =>
    bareInStep rfl (by decide) (by decide) (by decide) rest fuel depth
  | .tuple xs, _, rest, fuel + 1, depth, _ => by
    obtain ⟨others, shape⟩ := parenthesis xs
    exact bareInStep shape (by decide) (by decide) (by decide) rest fuel depth
  | .set [], _, rest, fuel + 1, depth, _ =>
    bareInStep rfl (by decide) (by decide) (by decide) rest fuel depth
  | .set (x :: xs), shown, rest, fuel + 1, depth, _ => by
    have shape : (Value.set (x :: xs)).literal ++ rest =
        '\x7b' :: (Value.literals (x :: xs) ++ '\x7d' :: rest) := by
      simp [Value.literal]
    rw [shape]
    exact setInStep (by simp) shown fuel depth rest
  | .list [], _, rest, fuel + 1, depth, _ => by
    cases depth with
    | zero => exact Nat.zero_le _
    | succ depth => exact ⟨rfl, writtenEmpty.1⟩
  | .list (x :: xs), shown, rest, fuel + 1, depth, _ =>
    listInStep (by simp) shown (itemsInStep (x :: xs) (by simp) shown rest fuel) depth
  | .dict [], _, rest, fuel + 1, depth, _ => by
    cases depth with
    | zero => exact Nat.zero_le _
    | succ depth => exact ⟨rfl, writtenEmpty.2⟩
  | .dict (entry :: kvs), shown, rest, fuel + 1, depth, _ => by
    have members := membersInStep (entry :: kvs) (by simp) shown rest fuel
    have shape : (Value.dict (entry :: kvs)).literal ++ rest =
        '\x7b' :: (Value.entryLiterals (entry :: kvs) ++ '\x7d' :: rest) := by
      simp [Value.literal]
    rw [shape]
    exact braceInStep (opensEntries (by simp) shown) members depth

theorem itemsInStep : ∀ xs : List Value, xs ≠ [] → ShownItems xs →
    ∀ (rest : Text) (fuel depth : Nat),
    InStep (¬ Unwritten (.list xs)) (nestings xs) depth rest
      (readItems fuel depth (Value.literals xs ++ ']' :: rest))
  | [], nonempty, _, _, _, _ => absurd rfl nonempty
  | _, _, _, _, 0, _ => trivial
  | [x], _, shown, rest, fuel + 1, depth => by
    have first := valueInStep x shown.1 (']' :: rest) fuel depth (stopsBracket rest)
    rw [readItems]
    exact first.andThen (fun deep => Nat.le_trans deep (Nat.le_max_left _ _)) fun _ holds =>
      ⟨rfl, writtenItem holds writtenEmpty.1⟩
  | x :: y :: xs, _, shown, rest, fuel + 1, depth => by
    have first := valueInStep x shown.1 (',' :: ' ' :: (Value.literals (y :: xs) ++ ']' :: rest))
      fuel depth (stopsComma _)
    have others := itemsInStep (y :: xs) (by simp) shown.2 rest fuel depth
    have shape : Value.literals (x :: y :: xs) ++ ']' :: rest =
        x.literal ++ ',' :: ' ' :: (Value.literals (y :: xs) ++ ']' :: rest) := by
      simp [Value.literals]
    have skipped : skip (' ' :: (Value.literals (y :: xs) ++ ']' :: rest)) =
        Value.literals (y :: xs) ++ ']' :: rest := skipOpens (opensLiterals (by simp) shown.2) _
    rw [shape, readItems]
    refine first.andThen (fun deep => Nat.le_trans deep (Nat.le_max_left _ _)) fun w holds => ?_
    change InStep _ _ _ _ (readItems fuel depth
      (skip (' ' :: (Value.literals (y :: xs) ++ ']' :: rest))) >>= _)
    rw [skipped]
    exact others.andThen (fun deep => Nat.le_trans deep (Nat.le_max_right _ _)) fun _ othersHold =>
      ⟨rfl, writtenItem holds othersHold⟩

theorem membersInStep : ∀ kvs : List (Value × Value), kvs ≠ [] → ShownEntries kvs →
    ∀ (rest : Text) (fuel depth : Nat),
    InStep (¬ Unwritten (.dict kvs)) (memberNesting kvs) depth rest
      (readMembers fuel depth (Value.entryLiterals kvs ++ '\x7d' :: rest))
  | [], nonempty, _, _, _, _ => absurd rfl nonempty
  | _, _, _, _, 0, _ => trivial
  | [(k, v)], _, shown, rest, fuel + 1, depth => by
    have value := valueInStep v shown.2.1 ('\x7d' :: rest) fuel depth (stopsBrace rest)
    have shape : Value.entryLiterals [(k, v)] ++ '\x7d' :: rest =
        k.literal ++ ':' :: ' ' :: (v.literal ++ '\x7d' :: rest) := by
      simp [Value.entryLiterals]
    rw [shape]
    exact memberInStep shown.1.1 (opensLiteral shown.2.1) value
      (fun deep => Nat.le_trans deep (Nat.le_max_left _ _)) fun name w named holds =>
        ⟨rfl, writtenEntry named holds writtenEmpty.2⟩
  | (k, v) :: entry :: kvs, _, shown, rest, fuel + 1, depth => by
    have value := valueInStep v shown.2.1
      (',' :: ' ' :: (Value.entryLiterals (entry :: kvs) ++ '\x7d' :: rest)) fuel depth
      (stopsComma _)
    have others := membersInStep (entry :: kvs) (by simp) shown.2.2 rest fuel depth
    have shape : Value.entryLiterals ((k, v) :: entry :: kvs) ++ '\x7d' :: rest =
        k.literal ++ ':' :: ' ' :: (v.literal ++
          ',' :: ' ' :: (Value.entryLiterals (entry :: kvs) ++ '\x7d' :: rest)) := by
      simp [Value.entryLiterals]
    have skipped : skip (' ' :: (Value.entryLiterals (entry :: kvs) ++ '\x7d' :: rest)) =
        Value.entryLiterals (entry :: kvs) ++ '\x7d' :: rest :=
      skipOpens (opensEntries (by simp) shown.2.2) _
    rw [shape]
    refine memberInStep shown.1.1 (opensLiteral shown.2.1) value
      (fun deep => Nat.le_trans deep (Nat.le_max_left _ _)) fun name w named holds => ?_
    change InStep _ _ _ _ (readMembers fuel depth
      (skip (' ' :: (Value.entryLiterals (entry :: kvs) ++ '\x7d' :: rest))) >>= _)
    rw [skipped]
    exact others.andThen (fun deep => Nat.le_trans deep (Nat.le_max_right _ _)) fun _ othersHold =>
      ⟨rfl, writtenEntry named holds othersHold⟩

end

theorem readUnwritten {v : Value} (shown : Shown v) (unwritten : Unwritten v) (limit : Nat) :
    readWithin limit v.literal = .error .malformed ∨
      limit ≤ nesting v ∧ readWithin limit v.literal = .error .tooDeep := by
  have skipped := skipOpens (opensLiteral shown) []
  have inStep := valueInStep v shown [] (2 * v.literal.length + 2) limit stopsEnd
  rw [List.append_nil] at skipped inStep
  rw [readWithin, skipped]
  generalize readValue (2 * v.literal.length + 2) limit v.literal = read at inStep ⊢
  cases read with
  | ok _ => exact absurd unwritten inStep.2
  | error e =>
    cases e with
    | malformed => exact .inl rfl
    | tooDeep => exact .inr ⟨inStep, rfl⟩
    | tooManyDigits => exact inStep.elim

end TopicRouting.Json

namespace TopicRouting.Payload
open Json (Shown Unwritten nesting extent writeWithin readWithin depthLimit)

theorem plainUnwritten {v : Value} (shown : Shown v) (unwritten : Unwritten v) :
    v.plain = v.literal := by
  cases v with
  | text t => cases unwritten
  | date d => exact shown.elim
  | moment m => exact shown.elim
  | _ => rfl

/- What has no JSON form, other than bytes themselves, goes out as its plain text; whatever the
limit to the brackets, the reader does not take that text for JSON. Only brackets inside each other
beyond the limit keep it from going out. -/
theorem fallbackNeverJson {v : Value} (shown : Shown v) (unwritten : Unwritten v)
    (notBytes : ∀ b, v ≠ .bytes b) (notByteArray : ∀ b, v ≠ .byteArray b) :
    (∀ limit, extent v ≤ limit →
      writeWithin limit v = .error .noForm ∧ v.plainWithin limit = .ok v.plain) ∧
      (encode v = .ok (bytesOf v.plain) ∨
        depthLimit < extent v ∧ encode v = .error .tooDeep) ∧
      textOf (bytesOf v.plain) = some v.plain ∧
      (∀ limit, nesting v < limit → readWithin limit v.plain = .error .malformed) ∧
      (decode (.bytes (bytesOf v.plain)) = .ok none ∨
        depthLimit ≤ nesting v ∧ decode (.bytes (bytesOf v.plain)) = .error .tooDeep) := by
  have refused (limit : Nat) := Json.refusedUnwritten v shown 1 limit
  have narrow := Json.literalNarrow v shown
  have plain := plainUnwritten shown unwritten
  have sent : encode v = ((write v).mapError Error.ofWrite).map bytesOf := by
    rw [encode]
    · exact notBytes
    · exact notByteArray
  refine ⟨fun limit wide => ?_, ?_, textOfBytes _, fun limit shallow => ?_, ?_⟩
  · have written := refused limit
    have shownWithin := (narrow limit).resolve_right fun ⟨_, small⟩ => small wide
    rw [Value.plainWithin, shownWithin]
    refine ⟨?_, rfl⟩
    rw [writeWithin]
    revert written
    cases (Json.writeAt Json.oneLine .refused 1 limit v).result with
    | ok _ => exact fun written => absurd unwritten written
    | error cause =>
      cases cause with
      | noForm => exact fun _ => rfl
      | tooDeep => exact fun small => absurd wide small
      | tooManyDigits => exact False.elim
  · have written : Json.Refused (Unwritten v) (extent v ≤ depthLimit) (Json.write v) :=
      refused depthLimit
    rw [sent, write]
    revert written
    cases Json.write v with
    | ok _ => exact fun written => absurd unwritten written
    | error cause =>
      cases cause with
      | noForm =>
        intro _
        rcases narrow plainLimit with none | ⟨stops, small⟩
        · rw [Value.plainWithin, none]
          exact .inl rfl
        · rw [Value.plainWithin, stops]
          exact .inr ⟨Nat.lt_of_le_of_lt (Nat.le_add_right _ 3) (Nat.not_le.mp small), rfl⟩
      | tooDeep => exact fun small => .inr ⟨Nat.not_le.mp small, rfl⟩
      | tooManyDigits => exact False.elim
  · rcases Json.readUnwritten shown unwritten limit with malformed | ⟨deep, _⟩
    · rw [plain, malformed]
    · omega
  · have whole : decode (.bytes (bytesOf v.plain)) = ofText v.literal := by
      rw [decode, textOfBytes, plain]
    have limited : Json.read v.literal = readWithin depthLimit v.literal := rfl
    rw [whole, ofText, limited]
    rcases Json.readUnwritten shown unwritten depthLimit with malformed | ⟨deep, tooDeep⟩
    · rw [malformed]
      exact .inl rfl
    · rw [tooDeep]
      exact .inr ⟨deep, rfl⟩

theorem fallbackNeverJsonLate :
    let v : Value := .dict [(.text "it's", .list [.text "don't", .list [], .int 12]),
      (.text "o'clock", .bytes (bytesOf "x"))]
    Shown v ∧ Unwritten v ∧ ∃ b, encode v = .ok b ∧ decode (.bytes b) = .ok none := by
  intro v
  have shown : Shown v := by
    have short : 12 < 10 ^ Number.digitLimit :=
      Nat.lt_trans (by decide : 12 < 10 ^ 2) (Nat.pow_lt_pow_right (by decide) (by decide))
    simp [v, Shown, Json.ShownEntries, Json.ShownItems, short]
    decide
  have unwritten : Unwritten v := .value (List.mem_cons_of_mem _ List.mem_cons_self) (.bytes _)
  obtain ⟨_, sent, _, _, read⟩ := fallbackNeverJson shown unwritten nofun nofun
  have sent := sent.resolve_right fun ⟨deep, _⟩ => absurd deep (by decide)
  have read := read.resolve_right fun ⟨deep, _⟩ => absurd deep (by decide)
  exact ⟨shown, unwritten, _, sent, read⟩

end TopicRouting.Payload
