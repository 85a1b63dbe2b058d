import TopicRouting.Proofs.Payloads
import TopicRouting.Proofs.Shortest

/-! A finite number is read back from its JSON text. Its digits are laid out around a point or
before a power of ten; either way they are read as a decimal of the same size, which is near to no
other number. -/
namespace TopicRouting.Json

structure Pieces where
  whole : Text
  fraction : Text
  power : Option (Bool × Text)

namespace Pieces

def powerText : Option (Bool × Text) → Text
  | none => []
  | some (negative, digits) => 'e' :: (if negative then '-' else '+') :: digits

def text (p : Pieces) : Text :=
  p.whole ++ ((if p.fraction.isEmpty then [] else '.' :: p.fraction) ++ powerText p.power)

def exponent (p : Pieces) : Int :=
  match p.power with
  | none => 0
  | some (negative, digits) => Binary64.signed negative (Text.toNat digits)

structure Valid (p : Pieces) : Prop where
  whole : Whole p.whole
  fraction : ∀ c ∈ p.fraction, c.isDigit = true
  power : ∀ sign digits, p.power = some (sign, digits) →
    digits ≠ [] ∧ ∀ c ∈ digits, c.isDigit = true
  some : p.fraction ≠ [] ∨ p.power.isSome = true

variable {p : Pieces} {rest : Text}

theorem powerNoDigit (power : Option (Bool × Text)) (stops : Stops rest) :
    ∀ c ∈ (powerText power ++ rest).head?, c.isDigit = false := by
  cases power with
  | none => exact stopsNoDigit stops
  | some power =>
    rintro c ⟨⟩
    rfl

theorem readPower (power : Option (Bool × Text))
    (valid : ∀ sign digits, power = some (sign, digits) →
      digits ≠ [] ∧ ∀ c ∈ digits, c.isDigit = true) (stops : Stops rest) :
    readExponent (powerText power ++ rest) =
      (power.map fun part => Binary64.signed part.1 (Text.toNat part.2), rest) := by
  rcases power with _ | ⟨negative, digits⟩
  · exact readExponentStops stops
  · obtain ⟨filled, all⟩ := valid negative digits rfl
    have run := digitRunEnds all (stopsNoDigit stops)
    cases negative <;> simp [powerText, readExponent, run, filled, Binary64.signed]

theorem readPieces (valid : p.Valid) (negative : Bool) (stops : Stops rest) :
    readNumber negative (p.text ++ rest) =
      .ok (.float (Binary64.ofWritten ⟨negative, p.whole, p.fraction, p.exponent⟩), rest) := by
  obtain ⟨whole, fraction, power⟩ := p
  have powers := readPower power valid.power stops
  have value : ((power.map fun part => Binary64.signed part.1 (Text.toNat part.2)).getD 0) =
      exponent ⟨whole, fraction, power⟩ := by cases power <;> rfl
  cases fraction with
  | nil =>
    -- Without a fraction there is a power, whose mark is no digit and no point.
    obtain ⟨part, rfl⟩ := Option.isSome_iff_exists.mp (valid.some.resolve_left (· rfl))
    have read := readWholeEnds valid.whole (powerNoDigit (some part) stops)
    have noFraction : readFraction (powerText (some part) ++ rest) =
        (none, powerText (some part) ++ rest) := rfl
    simp only [text, List.isEmpty_nil, if_true, List.nil_append, List.append_assoc, readNumber,
      read, noFraction, powers, value]
    rfl
  | cons digit digits =>
    have ends : ∀ c ∈ ('.' :: (digit :: digits) ++ (powerText power ++ rest)).head?,
        c.isDigit = false := by
      rintro c ⟨⟩
      rfl
    have read := readWholeEnds valid.whole ends
    have run := digitRunEnds valid.fraction (powerNoDigit power stops)
    have readDigits : readFraction ('.' :: (digit :: digits) ++ (powerText power ++ rest)) =
        (some (digit :: digits), powerText power ++ rest) := by
      simp only [List.cons_append] at run ⊢
      simp [readFraction, run]
    simp only [text, List.isEmpty_cons, Bool.false_eq_true, if_false, List.append_assoc, readNumber,
      read, readDigits, powers, value]
    rfl

def value (p : Pieces) : ℚ :=
  Text.toNat (p.whole ++ p.fraction) * 10 ^ (p.exponent - p.fraction.length)

theorem zerosBefore (n k : Nat) : Text.toNat (List.replicate k '0' ++ Text.ofNat n) = n := by
  rw [Text.toNat, Nat.ofDigitChars_append, Nat.ofDigitChars_replicate_zero, Nat.mul_zero]
  exact Nat.ofDigitChars_ten_toDigits

theorem zerosAfter (n k : Nat) :
    Text.toNat (Text.ofNat n ++ List.replicate k '0') = 10 ^ k * n := by
  rw [Text.toNat, Nat.ofDigitChars_append, Nat.ofDigitChars_replicate_zero]
  exact congrArg (10 ^ k * ·) Nat.ofDigitChars_ten_toDigits

theorem powerShown (shown : Int) (k : Nat) :
    Binary64.signed (decide (shown < 0))
      (Text.toNat (List.replicate k '0' ++ Text.ofNat shown.natAbs)) = shown := by
  rw [zerosBefore, Binary64.signed]
  simp only [decide_eq_true_eq, Int.ofNat_eq_natCast]
  split <;> omega

theorem opensDigits (valid : p.Valid) :
    ∃ c others, p.text = c :: others ∧ c.isDigit = true := by
  obtain ⟨c, others, shape⟩ : ∃ c others, p.whole = c :: others := by
    rcases valid.whole.leading with same | ⟨c, others, same, _⟩
    · exact ⟨'0', [], same⟩
    · exact ⟨c, others, same⟩
  refine ⟨c, _, congrArg (· ++ _) shape, valid.whole.all c ?_⟩
  rw [shape]
  exact List.mem_cons_self

theorem printableText (valid : p.Valid) : Printable p.text := by
  have digits {text : Text} (all : ∀ c ∈ text, c.isDigit = true) : Printable text :=
    fun c member => printableDigit (all c member)
  refine printableAppend.mpr ⟨digits valid.whole.all, printableAppend.mpr ⟨?_, ?_⟩⟩
  · split
    · decide
    · exact printableCons.mpr ⟨by decide, digits valid.fraction⟩
  · cases power : p.power with
    | none => decide
    | some part =>
      obtain ⟨sign, text⟩ := part
      refine printableCons.mpr ⟨by decide, printableCons.mpr ⟨?_, digits (valid.power _ _ power).2⟩⟩
      cases sign <;> decide

section layout

variable {digits : Nat} {exponent : Int}

theorem someDigits (n : Nat) : Text.ofNat n ≠ [] := Nat.toDigits_ne_nil

theorem digitsValue (n : Nat) : Text.toNat (Text.ofNat n) = n := Nat.ofDigitChars_ten_toDigits

theorem allZeros (k : Nat) : ∀ c ∈ List.replicate k '0', c.isDigit = true := by
  intro c member
  rw [List.eq_of_mem_replicate member]
  rfl

theorem piecesBelow (small : exponent + (Text.ofNat digits).length ≤ 0) : ∃ p : Pieces,
    p.Valid ∧ p.value = digits * 10 ^ exponent ∧ p.text = ("0." : String).toList ++
      List.replicate (-(exponent + (Text.ofNat digits).length)).toNat '0' ++ Text.ofNat digits := by
  generalize zeros : (-(exponent + (Text.ofNat digits).length)).toNat = k
  refine ⟨⟨['0'], List.replicate k '0' ++ Text.ofNat digits, none⟩,
    ⟨⟨by simp, .inl rfl⟩, ?_, by simp, .inl (by simp [someDigits])⟩, ?_, ?_⟩
  · exact List.forall_mem_append.mpr ⟨allZeros k, (wholeOfNat digits).all⟩
  · have number : Text.toNat (['0'] ++ (List.replicate k '0' ++ Text.ofNat digits)) = digits :=
      zerosBefore digits (k + 1)
    rw [value, number]
    congr 2
    simp only [Pieces.exponent, List.length_append, List.length_replicate]
    omega
  · simp [text, powerText, someDigits]

theorem piecesWhole (positive : 0 < digits) {size : Nat}
    (point : exponent + (Text.ofNat digits).length = size)
    (long : (Text.ofNat digits).length ≤ size) : ∃ p : Pieces,
    p.Valid ∧ p.value = digits * 10 ^ exponent ∧ p.text = Text.ofNat digits ++
      List.replicate (size - (Text.ofNat digits).length) '0' ++ (".0" : String).toList := by
  obtain ⟨c, others, shape, filled⟩ := wholeDigits positive
  generalize zeros : size - (Text.ofNat digits).length = k
  refine ⟨⟨Text.ofNat digits ++ List.replicate k '0', ['0'], none⟩,
    ⟨⟨?_, .inr ⟨c, others ++ List.replicate k '0', ?_, filled⟩⟩, by simp, by simp, .inl (by simp)⟩,
    ?_, ?_⟩
  · exact List.forall_mem_append.mpr ⟨(wholeOfNat digits).all, allZeros k⟩
  · exact congrArg (· ++ List.replicate k '0') shape
  · have number : Text.toNat (Text.ofNat digits ++ List.replicate k '0' ++ ['0']) =
        10 ^ (k + 1) * digits := by
      rw [← zerosAfter digits (k + 1), List.replicate_succ', List.append_assoc]
    have size : exponent = k := by omega
    rw [value, number, size]
    simp only [Pieces.exponent, List.length_singleton]
    rw [zpow_sub₀ (by norm_num), zpow_natCast 10 k, zpow_natCast 10 1]
    push_cast
    ring
  · simp [text, powerText]

theorem piecesBetween (positive : 0 < digits) {size : Nat} (some : 0 < size)
    (point : exponent + (Text.ofNat digits).length = size)
    (short : size < (Text.ofNat digits).length) : ∃ p : Pieces,
    p.Valid ∧ p.value = digits * 10 ^ exponent ∧
      p.text = (Text.ofNat digits).take size ++ '.' :: (Text.ofNat digits).drop size := by
  obtain ⟨c, others, shape, filled⟩ := wholeDigits positive
  obtain ⟨size, rfl⟩ : ∃ n, size = n + 1 := ⟨size - 1, by omega⟩
  have all := (wholeOfNat digits).all
  refine ⟨⟨(Text.ofNat digits).take (size + 1), (Text.ofNat digits).drop (size + 1), none⟩,
    ⟨⟨?_, .inr ⟨c, others.take size, ?_, filled⟩⟩, ?_, by simp, .inl (by simpa using short)⟩,
    ?_, ?_⟩
  · exact fun c member => all c (List.mem_of_mem_take member)
  · exact congrArg (List.take (size + 1)) shape
  · exact fun c member => all c (List.mem_of_mem_drop member)
  · rw [value, List.take_append_drop, digitsValue]
    congr 2
    simp only [Pieces.exponent, List.length_drop]
    omega
  · have rest : (Text.ofNat digits).drop (size + 1) ≠ [] := by simpa using short
    simp [text, powerText, rest]

theorem piecesPower (positive : 0 < digits) {shown : Int}
    (point : exponent + (Text.ofNat digits).length - 1 = shown) : ∃ p : Pieces,
    p.Valid ∧ p.value = digits * 10 ^ exponent ∧
      p.text = (match Text.ofNat digits with
        | first :: second :: rest => first :: '.' :: second :: rest
        | short => short) ++ 'e' :: (if shown < 0 then '-' else '+') ::
          (List.replicate (2 - (Text.ofNat shown.natAbs).length) '0' ++
            Text.ofNat shown.natAbs) := by
  obtain ⟨c, others, shape, filled⟩ := wholeDigits positive
  have shape : Text.ofNat digits = c :: others := shape
  have all := (wholeOfNat digits).all
  have number := digitsValue digits
  generalize zeros : 2 - (Text.ofNat shown.natAbs).length = k
  rw [shape] at point all number ⊢
  refine ⟨⟨[c], others, some (shown < 0, List.replicate k '0' ++ Text.ofNat shown.natAbs)⟩,
    ⟨⟨?_, .inr ⟨c, [], rfl, filled⟩⟩, ?_, ?_, .inr rfl⟩, ?_, ?_⟩
  · exact List.forall_mem_singleton.mpr (all c List.mem_cons_self)
  · exact fun c member => all c (List.mem_cons_of_mem _ member)
  · rintro sign digits ⟨⟩
    exact ⟨by simp [someDigits], List.forall_mem_append.mpr ⟨allZeros k, (wholeOfNat _).all⟩⟩
  · simp only [value, List.singleton_append, number, Pieces.exponent, powerShown]
    congr 2
    simp only [List.length_cons] at point
    omega
  · cases others <;> simp [text, powerText]

theorem layoutPieces (positive : 0 < digits) (exponent : Int) : ∃ p : Pieces,
    p.Valid ∧ p.value = digits * 10 ^ exponent ∧ p.text = Binary64.layout digits exponent := by
  simp only [Binary64.layout, Int.ofNat_eq_natCast]
  split
  · split
    · exact piecesBelow ‹_›
    obtain ⟨size, point⟩ : ∃ n : Nat, exponent + (Text.ofNat digits).length = n :=
      ⟨(exponent + (Text.ofNat digits).length).toNat, by omega⟩
    rw [point, Int.toNat_natCast]
    split
    · exact piecesWhole positive point ‹_›
    · exact piecesBetween positive (by omega) point (by omega)
  · exact piecesPower positive rfl

end layout

end Pieces

theorem numberFinite {x : Binary64} {negative : Bool} {m : Nat} {e : Int}
    (parts : x.parts = .finite negative m e) :
    number x = (if negative then ['-'] else []) ++
      if m = 0 then ("0.0" : String).toList
      else Binary64.layout (Binary64.shortest m e).1 (Binary64.shortest m e).2 := by
  rw [number, parts]
  simp only [Binary64.text, parts]
  cases negative <;> (split <;> rfl)

theorem floatPieces {x : Binary64} {negative : Bool} {m : Nat} {e : Int}
    (parts : x.parts = .finite negative m e) : ∃ p : Pieces, p.Valid ∧
      number x = (if negative then ['-'] else []) ++ p.text ∧
      Binary64.ofWritten ⟨negative, p.whole, p.fraction, p.exponent⟩ = x := by
  obtain ⟨normal, same⟩ := Binary64.partsWord parts
  rw [numberFinite parts]
  by_cases zero : m = 0
  · subst zero
    obtain rfl := normal.full (by decide)
    refine ⟨⟨['0'], ['0'], none⟩, ⟨⟨by simp, .inl rfl⟩, by simp, by simp, .inl (by simp)⟩, ?_, ?_⟩
    · rw [if_pos rfl]
      rfl
    · rw [same]
      cases negative <;> rfl
  · have filled : 0 < m := Nat.pos_of_ne_zero zero
    obtain ⟨positive, near⟩ := Binary64.shortestNear normal filled
    obtain ⟨p, valid, value, text⟩ :=
      Pieces.layoutPieces (Nat.pos_of_ne_zero positive) (Binary64.shortest m e).2
    refine ⟨p, valid, by rw [text, if_neg zero], ?_⟩
    rw [← value, Pieces.value] at near
    rw [same]
    exact Binary64.ofDecimalNear negative normal filled near

def Finite (x : Binary64) : Prop := ∃ negative m e, x.parts = .finite negative m e

theorem floatBack {x : Binary64} (finite : Finite x) : ReadsBack (.float x) (number x) := by
  obtain ⟨negative, m, e, parts⟩ := finite
  obtain ⟨p, valid, text, value⟩ := floatPieces parts
  obtain ⟨c, others, shape, digit⟩ := Pieces.opensDigits valid
  rw [text]
  refine ⟨?_, fun rest fuel depth stops enough => ?_⟩
  · cases negative
    · rw [shape]
      exact opensDigit digit others
    · exact ⟨'-', _, rfl, rfl, by decide, by decide⟩
  · obtain ⟨fuel, rfl⟩ : ∃ n, fuel = n + 1 := ⟨fuel - 1, by omega⟩
    have read := Pieces.readPieces valid negative stops
    rw [value, shape, List.cons_append] at read
    cases negative
    · exact (congrArg (readValue (fuel + 1) depth) (by rw [shape]; rfl)).trans
        ((readDigits digit fuel depth).trans read)
    · exact (congrArg (readValue (fuel + 1) depth) (by rw [shape]; rfl)).trans
        ((readNegative digit fuel depth).trans read)

theorem printableNumber {x : Binary64} (finite : Finite x) : Printable (number x) := by
  obtain ⟨negative, m, e, parts⟩ := finite
  obtain ⟨p, valid, text, _⟩ := floatPieces parts
  rw [text]
  refine printableAppend.mpr ⟨?_, Pieces.printableText valid⟩
  cases negative <;> decide

end TopicRouting.Json
