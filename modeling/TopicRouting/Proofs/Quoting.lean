import TopicRouting.Json.Reader
import TopicRouting.Json.Writer

/-! A text is read back from between its marks. Every character has its own escape, and what
follows the escape is left to be read. -/
namespace TopicRouting.Text

theorem hexOne {n : Nat} (small : n < 16) : hex 1 n = [n.digitChar] := by
  simp [hex, Nat.toDigits_of_lt_base small]

theorem hexMore (width n : Nat) :
    hex (width + 2) n = hex (width + 1) (n / 16) ++ [(n % 16).digitChar] := by
  by_cases small : n < 16
  · have none : n / 16 = 0 := Nat.div_eq_of_lt small
    have same : n % 16 = n := Nat.mod_eq_of_lt small
    simp only [hex, none, same, Nat.toDigits_of_lt_base small, Nat.toDigits_zero,
      List.length_singleton, Nat.add_one_sub_one, List.replicate_succ', List.append_assoc]
  · have more := Nat.toDigits_of_base_le (b := 16) (n := n) (by decide) (by omega)
    have fill (k : Nat) : width + 2 - (k + 1) = width + 1 - k := by omega
    simp only [hex, more, List.length_append, List.length_singleton, fill, List.append_assoc]

theorem hexFour {n : Nat} (small : n < 65536) :
    hex 4 n = [(n / 4096).digitChar, (n / 256 % 16).digitChar, (n / 16 % 16).digitChar,
      (n % 16).digitChar] := by
  have first : n / 16 / 16 / 16 < 16 := by omega
  have second : n / 16 / 16 = n / 256 := Nat.div_div_eq_div_mul n 16 16
  have third : n / 256 / 16 = n / 4096 := Nat.div_div_eq_div_mul n 256 16
  rw [hexMore, hexMore, hexMore, hexOne first, second, third]
  rfl

end TopicRouting.Text

namespace TopicRouting.Json

theorem hexValue {n : Nat} (small : n < 16) : hexDigit? n.digitChar = some n := by
  have all : ∀ n < 16, hexDigit? n.digitChar = some n := by decide
  exact all n small

theorem unitOfHex {n : Nat} (small : n < 65536) :
    unit? (n / 4096).digitChar (n / 256 % 16).digitChar (n / 16 % 16).digitChar
      (n % 16).digitChar = some n := by
  have first := hexValue (n := n / 4096) (by omega)
  have second := hexValue (n := n / 256 % 16) (by omega)
  have third := hexValue (n := n / 16 % 16) (by omega)
  have fourth := hexValue (n := n % 16) (by omega)
  have sum : 4096 * (n / 4096) + 256 * (n / 256 % 16) + 16 * (n / 16 % 16) + n % 16 = n := by
    omega
  simp [unit?, first, second, third, fourth, sum]

def prepended (c : Char) (found : Option (Text × Text)) : Option (Text × Text) :=
  found.map fun (text, after) => (c :: text, after)

theorem readUnit {n : Nat} (small : n < 65536) (high : isHigh n = false) (low : isLow n = false)
    (rest : Text) :
    readString (unitEscape n ++ rest) = prepended (Char.ofNat n) (readString rest) := by
  have unit := unitOfHex small
  have shape : unitEscape n ++ rest = '\\' :: 'u' :: (n / 4096).digitChar ::
      (n / 256 % 16).digitChar :: (n / 16 % 16).digitChar :: (n % 16).digitChar :: rest := by
    rw [unitEscape, Text.hexFour small]
    rfl
  rw [shape, readString]
  simp only [unit, high, low, Option.bind_eq_bind, Option.bind_some, Bool.false_eq_true, if_false]
  cases readString rest <;> rfl

theorem readPair {n m : Nat} (smallHigh : n < 65536) (smallLow : m < 65536)
    (high : isHigh n = true) (low : isLow m = true) (rest : Text) :
    readString (unitEscape n ++ (unitEscape m ++ rest)) =
      prepended (Char.ofNat (0x10000 + (n - 0xD800) * 0x400 + (m - 0xDC00))) (readString rest) := by
  have first := unitOfHex smallHigh
  have second := unitOfHex smallLow
  have shape : unitEscape n ++ (unitEscape m ++ rest) = '\\' :: 'u' :: (n / 4096).digitChar ::
      (n / 256 % 16).digitChar :: (n / 16 % 16).digitChar :: (n % 16).digitChar ::
      '\\' :: 'u' :: (m / 4096).digitChar ::
      (m / 256 % 16).digitChar :: (m / 16 % 16).digitChar :: (m % 16).digitChar :: rest := by
    rw [unitEscape, unitEscape, Text.hexFour smallHigh, Text.hexFour smallLow]
    rfl
  rw [shape, readString]
  simp only [first, second, high, low, Option.bind_eq_bind, Option.bind_some, if_true]
  cases readString rest <;> rfl

theorem readPlain {c : Char} (mark : c ≠ '"') (backslash : c ≠ '\\') (shown : ' ' ≤ c)
    (rest : Text) : readString (c :: rest) = prepended c (readString rest) := by
  have allowed : ¬ (c < ' ' ∨ c = '\\') := by
    rintro (control | same)
    · exact absurd control (Char.not_lt.mpr shown)
    · exact backslash same
  rw [readString.eq_def]
  split
  · contradiction
  · simp_all
  · simp_all
  · simp_all
  · rename_i same
    cases same
    rw [if_neg allowed]
    cases readString rest <;> rfl

theorem readShort {e c : Char} (short : escaped? e = some c) (notUnit : e ≠ 'u') (rest : Text) :
    readString ('\\' :: e :: rest) = prepended c (readString rest) := by
  rw [readString]
  · simp only [short, Option.bind_eq_bind, Option.bind_some]
    cases readString rest <;> rfl
  · rintro a b c d rest rfl
    contradiction

theorem notHalf (c : Char) : c.toNat < 0xD800 ∨ 0xE000 ≤ c.toNat ∧ c.toNat < 0x110000 := by
  rcases c.valid with low | ⟨high, top⟩
  · exact .inl low
  · exact .inr ⟨high, top⟩

theorem readEscape (c : Char) (rest : Text) :
    readString (escape c ++ rest) = prepended c (readString rest) := by
  unfold escape
  iterate 7
    split
    · subst c
      exact readShort rfl (by decide) rest
  split
  · rename_i mark backslash _ _ _ _ _ shown
    exact readPlain mark backslash shown.1 rest
  split
  · rename_i small
    have whole := notHalf c
    have high : isHigh c.toNat = false := by simp [isHigh]; omega
    have low : isLow c.toNat = false := by simp [isLow]; omega
    rw [readUnit small high low, Char.ofNat_toNat]
  · rename_i large
    have whole := notHalf c
    have high : isHigh (0xD800 + (c.toNat - 0x10000) / 0x400) = true := by simp [isHigh]; omega
    have low : isLow (0xDC00 + (c.toNat - 0x10000) % 0x400) = true := by simp [isLow]; omega
    rw [List.append_assoc, readPair (by omega) (by omega) high low]
    have same : 0x10000 + (0xD800 + (c.toNat - 0x10000) / 0x400 - 0xD800) * 0x400 +
        (0xDC00 + (c.toNat - 0x10000) % 0x400 - 0xDC00) = c.toNat := by omega
    rw [same, Char.ofNat_toNat]

theorem readQuoted (text rest : Text) :
    readString (text.flatMap escape ++ '"' :: rest) = some (text, rest) := by
  induction text with
  | nil => rfl
  | cons c text ih => rw [List.flatMap_cons, List.append_assoc, readEscape, ih]; rfl

end TopicRouting.Json
