import Mathlib.Algebra.Order.Archimedean.Basic
import Mathlib.Algebra.Order.Field.Basic
import Mathlib.Data.Rat.Cast.Order
import Mathlib.Tactic.Linarith
import Mathlib.Tactic.NormNum
import Mathlib.Tactic.Ring
import TopicRouting.Number.Binary64

/-! Which decimals are read as a finite number: those between the midpoints to its neighbours,
and the midpoints themselves if its mantissa is even. Below a power of two the neighbour is only
half as far away. -/
namespace TopicRouting.Binary64

theorem powerSplit (b : Nat) (k : Int) :
    (b : ℚ) ^ k = (Nat.pow b k.toNat : ℕ) / (Nat.pow b (-k).toNat : ℕ) := by
  rcases k with n | n
  · simp
  · have out : (Int.negSucc n).toNat = 0 := rfl
    have back : (-Int.negSucc n).toNat = n + 1 := rfl
    rw [out, back, zpow_negSucc]
    simp

theorem powerTwo (k : Int) :
    (2 : ℚ) ^ k = (Nat.pow 2 k.toNat : ℕ) / (Nat.pow 2 (-k).toNat : ℕ) := by
  have split := powerSplit 2 k
  rwa [Nat.cast_ofNat] at split

theorem powerTen (k : Int) :
    (10 : ℚ) ^ k = (Nat.pow 10 k.toNat : ℕ) / (Nat.pow 10 (-k).toNat : ℕ) := by
  have split := powerSplit 10 k
  rwa [Nat.cast_ofNat] at split

/- A mantissa and an exponent as finite numbers have them. All bits of the mantissa are in use,
unless the exponent is the least. -/
structure Normal (m : Nat) (e : Int) : Prop where
  least : -1074 ≤ e
  most : e ≤ 971
  small : m < 2 ^ 53
  full : m < 2 ^ 52 → e = -1074

def word (negative : Bool) (m : Nat) (e : Int) : Binary64 :=
  ofWord (signBit negative + ((e + 1074).toNat * Nat.pow 2 52 + m))

theorem partsWord {x : Binary64} {negative : Bool} {m : Nat} {e : Int}
    (parts : x.parts = .finite negative m e) : Normal m e ∧ x = word negative m e := by
  have bound := x.bits.toNat_lt
  have same : x = ofWord x.bits.toNat := by simp [ofWord]
  have sign : (x.bits.toNat / 2 ^ 63 == 1) = negative →
      signBit negative = x.bits.toNat / 2 ^ 63 * 2 ^ 63 := by
    rintro rfl
    obtain none | one : x.bits.toNat / 2 ^ 63 = 0 ∨ x.bits.toNat / 2 ^ 63 = 1 := by omega
    · rw [none]
      rfl
    · rw [one]
      rfl
  rw [same, word]
  simp only [Binary64.parts, Nat.pow_eq, Int.ofNat_eq_natCast] at parts
  split at parts
  · split at parts <;> contradiction
  · split at parts
    · obtain ⟨signed, rfl, rfl⟩ := Parts.finite.inj parts
      rw [sign signed]
      refine ⟨⟨by omega, by omega, by omega, by omega⟩, congrArg ofWord ?_⟩
      simp only [Nat.pow_eq]
      omega
    · obtain ⟨signed, rfl, rfl⟩ := Parts.finite.inj parts
      rw [sign signed]
      refine ⟨⟨by omega, by omega, by omega, by omega⟩, congrArg ofWord ?_⟩
      simp only [Nat.pow_eq]
      omega

theorem roundNearest {n d m : Nat} (positive : 0 < d) (low : 2 * m * d ≤ 2 * n + d)
    (high : 2 * n ≤ 2 * m * d + d)
    (apart : m % 2 = 1 → 2 * m * d < 2 * n + d ∧ 2 * n < 2 * m * d + d) :
    roundHalfEven n d = m := by
  have whole := Nat.div_add_mod n d
  have part := Nat.mod_lt n positive
  have rest := Nat.zero_le (n % d)
  have above : m < n / d + 2 := by
    refine Nat.lt_of_mul_lt_mul_left (a := 2 * d) ?_
    linarith
  have below : n / d < m + 1 := by
    refine Nat.lt_of_mul_lt_mul_left (a := 2 * d) ?_
    linarith
  unfold roundHalfEven
  obtain same | same : m = n / d ∨ m = n / d + 1 := by omega
  · have times : 2 * m * d = 2 * (d * (n / d)) := by rw [same]; ring
    rw [times] at low high apart
    simp only
    split
    · exact same.symm
    · split <;> omega
  · have times : 2 * m * d = 2 * (d * (n / d)) + 2 * d := by rw [same]; ring
    rw [times] at low high apart
    simp only
    split
    · omega
    · split <;> omega

def lowest (m : Nat) (e : Int) : Nat :=
  4 * m - if m = Nat.pow 2 52 ∧ e ≠ -1074 then 1 else 2

def Between (closed : Bool) (low high v : ℚ) : Prop :=
  if closed then low ≤ v ∧ v ≤ high else low < v ∧ v < high

theorem Between.bounds {closed : Bool} {low high v : ℚ} (between : Between closed low high v) :
    low ≤ v ∧ v ≤ high := by
  cases closed
  · exact ⟨le_of_lt between.1, le_of_lt between.2⟩
  · exact between

theorem Between.widen {closed : Bool} {low high v low' high' : ℚ}
    (between : Between closed low high v) (lower : low' ≤ low) (higher : high ≤ high') :
    Between closed low' high' v := by
  cases closed
  · exact ⟨lower.trans_lt between.1, between.2.trans_le higher⟩
  · exact ⟨lower.trans between.1, between.2.trans higher⟩

theorem Between.scale {closed : Bool} {low high v unit : ℚ} (positive : 0 < unit) :
    Between closed (low * unit) (high * unit) (v * unit) ↔ Between closed low high v := by
  simp only [Between, mul_le_mul_iff_left₀ positive, mul_lt_mul_iff_left₀ positive]

theorem roundBetween {n d m : Nat} (positive : 0 < d)
    (between : Between (m % 2 = 0) (m - 1 / 2) (m + 1 / 2) ((n : ℚ) / d)) :
    roundHalfEven n d = m := by
  have below : (0 : ℚ) < d := by exact_mod_cast positive
  obtain ⟨low, high⟩ := between.bounds
  rw [le_div_iff₀ below] at low
  rw [div_le_iff₀ below] at high
  refine roundNearest positive ?_ ?_ fun odd => ?_
  · exact_mod_cast (by linarith : (2 * m * d : ℚ) ≤ 2 * n + d)
  · exact_mod_cast (by linarith : (2 * n : ℚ) ≤ 2 * m * d + d)
  · rw [Between, if_neg (by simp [odd]), lt_div_iff₀ below, div_lt_iff₀ below] at between
    constructor
    · exact_mod_cast (by linarith [between.1] : (2 * m * d : ℚ) < 2 * n + d)
    · exact_mod_cast (by linarith [between.2] : (2 * n : ℚ) < 2 * m * d + d)

/- What is read as the number with a mantissa and an exponent. -/
def Near (m : Nat) (e : Int) (v : ℚ) : Prop :=
  Between (m % 2 = 0) (lowest m e * 2 ^ (e - 2)) ((4 * m + 2 : ℕ) * 2 ^ (e - 2)) v

theorem scaledValue (n d : Nat) (k : Int) :
    ((scaled n d k).1 : ℚ) / (scaled n d k).2 = n / d * 2 ^ k := by
  rw [powerTwo k, scaled, Nat.cast_mul, Nat.cast_mul, mul_div_mul_comm]

theorem scaledPositive {d : Nat} (positive : 0 < d) (n : Nat) (k : Int) :
    0 < (scaled n d k).2 := Nat.mul_pos positive (Nat.pow_pos (by decide))

theorem powerLess {j k : Int} : (2 : ℚ) ^ j < 2 ^ k ↔ j < k :=
  zpow_lt_zpow_iff_right₀ (by norm_num)

theorem log2Bounds {n : Nat} (positive : 0 < n) :
    (2 : ℚ) ^ (n.log2 : Int) ≤ n ∧ (n : ℚ) < 2 ^ ((n.log2 : Int) + 1) := by
  have low : 2 ^ n.log2 ≤ n := Nat.log2_self_le (by omega)
  have high : n < 2 ^ (n.log2 + 1) := Nat.lt_log2_self
  constructor
  · exact_mod_cast low
  · exact_mod_cast high

def guessed (n d : Nat) : Int := Int.ofNat n.log2 - Int.ofNat d.log2

theorem guessedBounds {n d : Nat} (some : 0 < n) (positive : 0 < d) :
    (2 : ℚ) ^ (guessed n d - 1) < n / d ∧ (n : ℚ) / d < 2 ^ (guessed n d + 1) := by
  obtain ⟨lowN, highN⟩ := log2Bounds some
  obtain ⟨lowD, highD⟩ := log2Bounds positive
  have below : (0 : ℚ) < d := by exact_mod_cast positive
  have two (k : Int) : (0 : ℚ) < 2 ^ k := zpow_pos (by norm_num) k
  have sum (j : Int) {k l : Int} (same : j + k = l) : (2 : ℚ) ^ j * 2 ^ k = 2 ^ l := by
    rw [← zpow_add₀ (by norm_num), same]
  rw [lt_div_iff₀ below, div_lt_iff₀ below]
  simp only [guessed, Int.ofNat_eq_natCast]
  constructor
  · calc _ < 2 ^ ((n.log2 : Int) - d.log2 - 1) * 2 ^ ((d.log2 : Int) + 1) :=
          mul_lt_mul_of_pos_left highD (two _)
      _ = 2 ^ (n.log2 : Int) := sum _ (by omega)
      _ ≤ n := lowN
  · calc (n : ℚ) < 2 ^ ((n.log2 : Int) + 1) := highN
      _ = 2 ^ ((n.log2 : Int) - d.log2 + 1) * 2 ^ (d.log2 : Int) := (sum _ (by omega)).symm
      _ ≤ _ := mul_le_mul_of_nonneg_left lowD (two _).le

theorem magnitudeFound {n d : Nat} (some : 0 < n) (positive : 0 < d) {k : Int}
    (low : (2 : ℚ) ^ k ≤ n / d) (high : (n : ℚ) / d < 2 ^ (k + 1)) :
    let (a, b) := scaled n d (-guessed n d)
    (if a < b then guessed n d - 1 else guessed n d) = k := by
  obtain ⟨reached, above⟩ := guessedBounds some positive
  have upper := powerLess.mp (low.trans_lt above)
  have lower := powerLess.mp (reached.trans high)
  have filled : (0 : ℚ) < (scaled n d (-guessed n d)).2 := by
    exact_mod_cast scaledPositive positive n (-guessed n d)
  have less : (scaled n d (-guessed n d)).1 < (scaled n d (-guessed n d)).2 ↔
      (n : ℚ) / d < 2 ^ guessed n d := by
    rw [← Nat.cast_lt (α := ℚ), ← div_lt_one filled, scaledValue, zpow_neg,
      ← div_eq_mul_inv, div_lt_one (zpow_pos (by norm_num) _)]
  simp only [less]
  split
  · rename_i under
    have := powerLess.mp (low.trans_lt under)
    omega
  · rename_i reaches
    have := powerLess.mp ((not_lt.mp reaches).trans_lt high)
    omega

theorem ofFractionAt {negative : Bool} {n d m : Nat} {k e : Int} (some : 0 < n)
    (positive : 0 < d) (low : (2 : ℚ) ^ k ≤ n / d) (high : (n : ℚ) / d < 2 ^ (k + 1))
    (exponent : max (k - 52) (-1074) = e)
    (between : Between (m % 2 = 0) ((m - 1 / 2) * 2 ^ e) ((m + 1 / 2) * 2 ^ e) (n / d))
    (finite : (e + 1074).toNat * Nat.pow 2 52 + m < 2047 * Nat.pow 2 52) :
    ofFraction negative n d =
      ofWord (signBit negative + ((e + 1074).toNat * Nat.pow 2 52 + m)) := by
  have found := magnitudeFound some positive low high
  have two : (0 : ℚ) < 2 ^ e := zpow_pos (by norm_num) e
  have value : ((scaled n d (-e)).1 : ℚ) / (scaled n d (-e)).2 * 2 ^ e = n / d := by
    rw [scaledValue, zpow_neg, inv_mul_cancel_right₀ two.ne']
  have nearest : roundHalfEven (scaled n d (-e)).1 (scaled n d (-e)).2 = m := by
    rw [← value, Between.scale two] at between
    exact roundBetween (scaledPositive positive n (-e)) between
  unfold guessed at found
  simp only at found
  rw [ofFraction, if_neg some.ne']
  simp only [found, exponent, nearest, if_neg (Nat.not_le.mpr finite)]

theorem powerQuarters {e j : Int} (k : Nat) (same : j = e - 2 + k) :
    (2 : ℚ) ^ j = 2 ^ k * 2 ^ (e - 2) := by
  rw [same, zpow_add₀ (by norm_num), zpow_natCast, mul_comm]

theorem Normal.finite {m : Nat} {e : Int} (normal : Normal m e) :
    (e + 1074).toNat * Nat.pow 2 52 + m < 2047 * Nat.pow 2 52 := by
  obtain ⟨_, most, small, _⟩ := normal
  simp only [Nat.pow_eq]
  omega

theorem Normal.carried {e : Int} (normal : Normal (2 ^ 52) e) (more : e ≠ -1074)
    (negative : Bool) : word negative (2 ^ 52) e =
      ofWord (signBit negative + ((e - 1 + 1074).toNat * Nat.pow 2 52 + 2 ^ 53)) := by
  have := normal.least
  refine congrArg (ofWord <| signBit negative + ·) ?_
  simp only [Nat.pow_eq]
  omega

section near

variable {m : Nat} {e : Int} {v : ℚ} (normal : Normal m e) (near : Near m e v)

include near in
theorem Near.around : Between (m % 2 = 0) ((m - 1 / 2) * 2 ^ e) ((m + 1 / 2) * 2 ^ e) v := by
  have unit : (0 : ℚ) < 2 ^ (e - 2) := zpow_pos (by norm_num) _
  have least : (4 * m : ℚ) ≤ lowest m e + 2 := by
    have quarters : 4 * m ≤ lowest m e + 2 := by
      rw [lowest]
      split <;> omega
    exact_mod_cast quarters
  rw [powerQuarters (e := e) 2 (by omega)]
  refine near.widen ?_ ?_
  · linarith [mul_le_mul_of_nonneg_right least unit.le]
  · push_cast
    linarith

include normal near in
theorem Near.below : v < 2 ^ (e + 53) := by
  have unit : (0 : ℚ) < 2 ^ (e - 2) := zpow_pos (by norm_num) _
  have small := normal.small
  rw [powerQuarters (e := e) 55 (by omega)]
  refine near.bounds.2.trans_lt (mul_lt_mul_of_pos_right ?_ unit)
  exact_mod_cast (by omega : 4 * m + 2 < 2 ^ 55)

include normal near in
theorem Near.short (more : e ≠ -1074) (short : v < 2 ^ (e + 52)) :
    m = 2 ^ 52 ∧ (2 ^ 53 - 1 / 2) * 2 ^ (e - 1) ≤ v := by
  have unit : (0 : ℚ) < 2 ^ (e - 2) := zpow_pos (by norm_num) _
  have low := near.bounds.1
  have bound : (lowest m e : ℚ) < 2 ^ 54 := by
    rw [powerQuarters (e := e) 54 (by omega)] at short
    exact lt_of_mul_lt_mul_right (low.trans_lt short) unit.le
  have small : lowest m e < 2 ^ 54 := by exact_mod_cast bound
  have most : ¬ m < 2 ^ 52 := fun few => more (normal.full few)
  obtain rfl : m = 2 ^ 52 := by
    rw [lowest] at small
    split at small <;> omega
  have least : lowest (2 ^ 52) e = 2 ^ 54 - 1 := by simp [lowest, more]
  rw [least] at low
  refine ⟨rfl, (le_of_eq ?_).trans low⟩
  rw [powerQuarters (e := e) 1 (by omega)]
  push_cast
  ring

end near

theorem ofFractionNear {n d m : Nat} {e : Int} (negative : Bool) (normal : Normal m e)
    (some : 0 < n) (positive : 0 < d) (near : Near m e (n / d)) :
    ofFraction negative n d = word negative m e := by
  have least := normal.least
  by_cases reached : (2 : ℚ) ^ (e + 52) ≤ n / d
  · refine ofFractionAt some positive reached ?_ (by omega) near.around normal.finite
    rw [show e + 52 + 1 = e + 53 by omega]
    exact near.below normal
  have short := not_le.mp reached
  by_cases tiny : e = -1074
  · have fraction : (0 : ℚ) < n / d :=
      div_pos (by exact_mod_cast some) (by exact_mod_cast positive)
    obtain ⟨k, low, high⟩ := exists_mem_Ico_zpow fraction (by norm_num : (1 : ℚ) < 2)
    have := powerLess.mp (low.trans_lt short)
    exact ofFractionAt some positive low high (by omega) near.around normal.finite
  -- It has the next lower exponent, and its mantissa is rounded up and carried.
  obtain ⟨rfl, low⟩ := near.short normal tiny short
  have half : (0 : ℚ) < 2 ^ (e - 1) := zpow_pos (by norm_num) _
  rw [normal.carried tiny]
  refine ofFractionAt (k := e + 51) some positive ?_ ?_ (by omega) ⟨?_, ?_⟩ ?_
  · refine le_trans ?_ low
    rw [show e + 51 = e - 1 + (52 : Nat) by omega, zpow_add₀ (by norm_num), mul_comm, zpow_natCast]
    exact mul_le_mul_of_nonneg_right (by norm_num) half.le
  · rwa [show e + 51 + 1 = e + 52 by omega]
  · exact_mod_cast low
  · refine short.le.trans ?_
    rw [show e + 52 = e - 1 + (53 : Nat) by omega, zpow_add₀ (by norm_num), mul_comm, zpow_natCast]
    exact mul_le_mul_of_nonneg_right (by norm_num) half.le
  · have most := normal.most
    simp only [Nat.pow_eq]
    omega

theorem eightTen {k : Int} (positive : 0 ≤ k) : (2 : ℚ) ^ (3 * k) ≤ 10 ^ k := by
  rw [zpow_mul]
  exact zpow_le_zpow_left₀ positive (by norm_num) (by norm_num)

theorem Near.range {m : Nat} {e : Int} {v : ℚ} (near : Near m e v) (normal : Normal m e)
    (filled : 0 < m) : (10 : ℚ) ^ (-400 : Int) < v ∧ v < 10 ^ (400 : Int) := by
  have unit : (0 : ℚ) < 2 ^ (e - 2) := zpow_pos (by norm_num) _
  obtain ⟨low, high⟩ := near.bounds
  constructor
  · have some : 1 ≤ lowest m e := by
      rw [lowest]
      split <;> omega
    have one : (1 : ℚ) ≤ lowest m e := by exact_mod_cast some
    calc (10 : ℚ) ^ (-400 : Int) ≤ 2 ^ (-(3 * 400) : Int) := by
          rw [zpow_neg, zpow_neg]
          exact inv_anti₀ (zpow_pos (by norm_num) _) (eightTen (by decide))
      _ < 2 ^ (e - 2) := powerLess.mpr (by have := normal.least; omega)
      _ ≤ lowest m e * 2 ^ (e - 2) := le_mul_of_one_le_left unit.le one
      _ ≤ v := low
  · have small : ((4 * m + 2 : ℕ) : ℚ) ≤ 2 ^ 55 := by
      have := normal.small
      exact_mod_cast (by omega : 4 * m + 2 ≤ 2 ^ 55)
    calc v ≤ (4 * m + 2 : ℕ) * 2 ^ (e - 2) := high
      _ ≤ 2 ^ 55 * 2 ^ (e - 2) := mul_le_mul_of_nonneg_right small unit.le
      _ = 2 ^ (e - 2 + (55 : Nat)) := (powerQuarters 55 rfl).symm
      _ < 2 ^ (3 * 400 : Int) := powerLess.mpr (by have := normal.most; omega)
      _ ≤ 10 ^ (400 : Int) := eightTen (by decide)

theorem digitsBounds {n : Nat} (some : 0 < n) : ∃ k, (Text.ofNat n).length = k + 1 ∧
    10 ^ k ≤ n ∧ n < 10 ^ (k + 1) := by
  have length : 0 < (Text.ofNat n).length := Nat.length_toDigits_pos
  have fits {k : Nat} (filled : 0 < k) : (Text.ofNat n).length ≤ k ↔ n < 10 ^ k :=
    Nat.length_toDigits_le_iff (by decide) filled
  obtain ⟨k, same⟩ : ∃ k, (Text.ofNat n).length = k + 1 := ⟨_, (Nat.succ_pred length.ne').symm⟩
  refine ⟨k, same, ?_, (fits (by omega)).mp same.le⟩
  rcases Nat.eq_zero_or_pos k with rfl | filled
  · exact some
  · exact Nat.not_lt.mp fun less => by
      have := (fits filled).mpr less
      omega

theorem ofDecimalNear {n m : Nat} {e t : Int} (negative : Bool) (normal : Normal m e)
    (filled : 0 < m) (near : Near m e (n * 10 ^ t)) :
    ofDecimal negative n t = word negative m e := by
  have ten (k : Int) : (0 : ℚ) < 10 ^ k := zpow_pos (by norm_num) k
  obtain ⟨low, high⟩ := near.range normal filled
  have some : 0 < n := by
    rcases Nat.eq_zero_or_pos n with rfl | some
    · have := (ten (-400)).trans low
      simp at this
    · exact some
  have larger {j k : Int} (less : (10 : ℚ) ^ j < 10 ^ k) : j < k :=
    (zpow_lt_zpow_iff_right₀ (by norm_num)).mp less
  obtain ⟨k, length, fewest, most⟩ := digitsBounds some
  have above : (n : ℚ) * 10 ^ t < 10 ^ (t + (k + 1 : ℕ)) := by
    have : (n : ℚ) < 10 ^ (k + 1) := by exact_mod_cast most
    rw [zpow_add₀ (by norm_num), zpow_natCast, mul_comm]
    exact mul_lt_mul_of_pos_left this (ten t)
  have below : (10 : ℚ) ^ (t + k) ≤ n * 10 ^ t := by
    have : (10 : ℚ) ^ k ≤ n := by exact_mod_cast fewest
    rw [zpow_add₀ (by norm_num), zpow_natCast, mul_comm]
    exact mul_le_mul_of_nonneg_right this (ten t).le
  have least := larger (low.trans above)
  have size := larger (below.trans_lt high)
  simp only [ofDecimal, length, Int.ofNat_eq_natCast]
  rw [if_neg some.ne', if_neg (by omega), if_neg (by omega)]
  refine ofFractionNear negative normal (Nat.mul_pos some (Nat.pow_pos (by decide)))
    (Nat.pow_pos (by decide)) ?_
  rwa [Nat.cast_mul, mul_div_assoc, ← powerTen]

end TopicRouting.Binary64
