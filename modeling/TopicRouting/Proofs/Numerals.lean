import Mathlib.Algebra.Ring.Nat
import TopicRouting.Json.Reader

/-! A whole number is read back from its digits. It ends where nothing follows that could be part
of a number. -/
namespace TopicRouting.Json

def Blank (text : Text) : Prop := ∀ c ∈ text, isBlank c = true

theorem blankNone : Blank [] := by simp [Blank]

theorem blankSpace : Blank [' '] := by simp [Blank, isBlank]

theorem blankChar {c : Char} (blank : isBlank c = true) :
    c = ' ' ∨ c = '\t' ∨ c = '\n' ∨ c = '\r' := by
  simpa [isBlank, or_assoc] using blank

/- What may follow a value inside brackets, or nothing at all. -/
def Stops (rest : Text) : Prop :=
  ∀ c ∈ rest.head?, c = ',' ∨ c = ']' ∨ c = '\x7d' ∨ isBlank c = true

theorem stopsEnd : Stops [] := by simp [Stops]

theorem stopsCases {c : Char} {rest : Text} (stops : Stops (c :: rest)) :
    c ∈ [',', ']', '\x7d', ' ', '\t', '\n', '\r'] := by
  rcases stops c rfl with rfl | rfl | rfl | blank
  · decide
  · decide
  · decide
  · rcases blankChar blank with rfl | rfl | rfl | rfl <;> decide

theorem stopsGap {gap rest : Text} (blank : Blank gap) (stops : Stops rest) :
    Stops (gap ++ rest) := by
  cases gap with
  | nil => exact stops
  | cons c gap =>
    rintro d ⟨⟩
    exact .inr (.inr (.inr (blank c List.mem_cons_self)))

theorem wholeDigits {n : Nat} (positive : 0 < n) :
    ∃ c digits, Nat.toDigits 10 n = c :: digits ∧ c ≠ '0' := by
  induction n using Nat.strongRecOn with
  | ind n ih =>
    by_cases small : n < 10
    · refine ⟨n.digitChar, [], Nat.toDigits_of_lt_base small, ?_⟩
      rw [Ne, Nat.digitChar_eq_zero]
      omega
    · obtain ⟨c, digits, same, filled⟩ := ih (n / 10) (by omega) (by omega)
      refine ⟨c, digits ++ [(n % 10).digitChar], ?_, filled⟩
      rw [Nat.toDigits_of_base_le (by decide) (by omega), same, List.cons_append]

theorem stopsNoDigit {rest : Text} (stops : Stops rest) : ∀ c ∈ rest.head?, c.isDigit = false := by
  cases rest with
  | nil => simp
  | cons c rest =>
    rintro d ⟨⟩
    have none : ∀ c ∈ [',', ']', '\x7d', ' ', '\t', '\n', '\r'], c.isDigit = false := by simp
    exact none c (stopsCases stops)

theorem digitRunEnds {digits rest : Text} (all : ∀ c ∈ digits, c.isDigit = true)
    (ends : ∀ c ∈ rest.head?, c.isDigit = false) : digitRun (digits ++ rest) = (digits, rest) := by
  rw [digitRun, List.takeWhile_append_of_pos all, List.dropWhile_append_of_pos all]
  cases rest with
  | nil => simp
  | cons c rest =>
    have other := ends c rfl
    simp [other]

structure Whole (digits : Text) : Prop where
  all : ∀ c ∈ digits, c.isDigit = true
  leading : digits = ['0'] ∨ ∃ c others, digits = c :: others ∧ c ≠ '0'

theorem wholeOfNat (n : Nat) : Whole (Text.ofNat n) where
  all _ member := Nat.isDigit_of_mem_toDigits (by decide) (by decide) member
  leading := by
    rcases Nat.eq_zero_or_pos n with rfl | positive
    · exact .inl rfl
    · exact .inr (wholeDigits positive)

theorem readWholeEnds {digits rest : Text} (whole : Whole digits)
    (ends : ∀ c ∈ rest.head?, c.isDigit = false) :
    readWhole (digits ++ rest) = some (digits, rest) := by
  rcases whole.leading with rfl | ⟨c, others, rfl, filled⟩
  · rfl
  · have run := digitRunEnds whole.all ends
    rw [List.cons_append] at run ⊢
    rw [readWhole]
    · simp [run]
    · intro others same
      exact filled (List.cons.inj same).1

theorem readFractionStops {rest : Text} (stops : Stops rest) :
    readFraction rest = (none, rest) := by
  cases rest with
  | nil => rfl
  | cons c rest =>
    have other : c ≠ '.' := by
      rintro rfl
      have inside := stopsCases stops
      contradiction
    rw [readFraction]
    rintro others ⟨⟩
    exact other rfl

theorem readExponentStops {rest : Text} (stops : Stops rest) :
    readExponent rest = (none, rest) := by
  cases rest with
  | nil => rfl
  | cons c rest =>
    have other : ¬ (c = 'e' ∨ c = 'E') := by
      rintro (rfl | rfl)
      all_goals
        have inside := stopsCases stops
        contradiction
    simp only [readExponent, if_neg other]

theorem shortDigits {n : Nat} (short : n < 10 ^ Number.digitLimit) :
    (Text.ofNat n).length ≤ Number.digitLimit :=
  (Nat.length_toDigits_le_iff (by decide) (by decide)).mpr short

theorem notLong {i : Int} (short : i.natAbs < 10 ^ Number.digitLimit) :
    Number.isLong i = false := decide_eq_false (Nat.not_lt.mpr (shortDigits short))

theorem writeShort {i : Int} (short : i.natAbs < 10 ^ Number.digitLimit) :
    Number.write i = .ok (Text.ofInt i) := by
  rw [Number.write, notLong short]
  rfl

theorem readWholeNumber (negative : Bool) {n : Nat} (short : n < 10 ^ Number.digitLimit)
    {rest : Text} (stops : Stops rest) :
    readNumber negative (Text.ofNat n ++ rest) =
      .ok (.int (if negative then -Int.ofNat n else Int.ofNat n), rest) := by
  have value : Text.toNat (Text.ofNat n) = n := Nat.ofDigitChars_ten_toDigits
  simp only [readNumber, readWholeEnds (wholeOfNat n) (stopsNoDigit stops),
    readFractionStops stops, readExponentStops stops, value, Option.isNone_none, Bool.and_self,
    if_true, if_neg (Nat.not_lt.mpr (shortDigits short))]

theorem readWordNone {c : Char} (letter : ∀ word ∈ words, word.1.head? ≠ some c) (rest : Text) :
    readWord (c :: rest) = none := by
  refine List.findSome?_eq_none_iff.mpr fun (word, value) member => ?_
  have first := letter (word, value) member
  cases word with
  | nil => simp [words] at member
  | cons d word =>
    have other : d ≠ c := fun same => first (congrArg some same)
    simp [after?, other]

theorem readDigits {c : Char} {digits : Text} (digit : c.isDigit = true) (fuel depth : Nat) :
    readValue (fuel + 1) depth (c :: digits) = readNumber false (c :: digits) := by
  have letter : ∀ word ∈ words, word.1.head? ≠ some c := by
    intro word member same
    simp only [words, List.mem_cons, List.not_mem_nil, or_false] at member
    rcases member with rfl | rfl | rfl | rfl | rfl | rfl <;>
      (cases same; contradiction)
  rw [readValue]
  · rw [readWordNone letter]
  all_goals
    intro rest same
    cases same
    contradiction

theorem readNegative {c : Char} {digits : Text} (digit : c.isDigit = true) (fuel depth : Nat) :
    readValue (fuel + 1) depth ('-' :: c :: digits) = readNumber true (c :: digits) := by
  have noWord : readWord ('-' :: c :: digits) = none := by
    have other : c ≠ 'I' := by
      rintro rfl
      contradiction
    simp [readWord, words, after?, Ne.symm other]
  rw [readValue, noWord]

theorem digitsOfNat (n : Nat) : ∃ c digits, Text.ofNat n = c :: digits ∧ c.isDigit = true := by
  cases shape : Text.ofNat n with
  | nil => exact absurd shape Nat.toDigits_ne_nil
  | cons c digits =>
    have member : c ∈ Nat.toDigits 10 n := by
      have here : c ∈ Text.ofNat n := by rw [shape]; exact List.mem_cons_self
      exact here
    exact ⟨c, digits, rfl, Nat.isDigit_of_mem_toDigits (by decide) (by decide) member⟩

theorem readInt {i : Int} (short : i.natAbs < 10 ^ Number.digitLimit) {rest : Text}
    (stops : Stops rest) (fuel depth : Nat) :
    readValue (fuel + 1) depth (Text.ofInt i ++ rest) = .ok (.int i, rest) := by
  cases i with
  | ofNat n =>
    obtain ⟨c, digits, shape, digit⟩ := digitsOfNat n
    have number := readWholeNumber false short stops
    rw [Int.ofNat_eq_natCast, Int.natAbs_natCast, shape, List.cons_append] at number
    rw [Text.ofInt, shape, List.cons_append, readDigits digit, number]
    rfl
  | negSucc n =>
    obtain ⟨c, digits, shape, digit⟩ := digitsOfNat (n + 1)
    have number := readWholeNumber true short stops
    rw [Int.natAbs_negSucc, Nat.succ_eq_add_one, shape, List.cons_append] at number
    rw [Text.ofInt, shape, List.cons_append, List.cons_append, readNegative digit, number]
    rfl

end TopicRouting.Json
