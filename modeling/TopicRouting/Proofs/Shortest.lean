import TopicRouting.Proofs.Rounding

/-! The digits that a finite number is written with are read as this number. The search for them
ends at eighteen digits at the latest, as their grid is finer than half the distance between two
numbers. -/
namespace TopicRouting.Binary64

theorem roundEither (n d : Nat) : roundHalfEven n d = n / d ∨ roundHalfEven n d = n / d + 1 := by
  unfold roundHalfEven
  simp only
  split
  · exact .inl rfl
  split
  · exact .inr rfl
  · omega

def inside (low high d : Nat) (closed : Bool) (k : Nat) : Bool :=
  if closed then low ≤ k * d && k * d ≤ high else low < k * d && k * d < high

theorem insideBetween {low high d : Nat} (positive : 0 < d) {closed : Bool} {k : Nat} :
    inside low high d closed k = true ↔ Between closed ((low : ℚ) / d) (high / d) k := by
  have below : (0 : ℚ) < d := by exact_mod_cast positive
  cases closed
  · simp only [inside, Between, Bool.false_eq_true, if_false, Bool.and_eq_true,
      decide_eq_true_eq, div_lt_iff₀ below, lt_div_iff₀ below]
    norm_cast
  · simp only [inside, Between, if_true, Bool.and_eq_true, decide_eq_true_eq,
      div_le_iff₀ below, le_div_iff₀ below]
    norm_cast

theorem onGridPlaces (n low high d : Nat) (closed : Bool) :
    let lower := inside low high d closed (n / d) && n / d ≠ 0
    let upper := inside low high d closed (n / d + 1)
    onGrid n low high d closed =
      if lower && upper then some (roundHalfEven n d)
      else if lower then some (n / d)
      else if upper then some (n / d + 1)
      else none := rfl

theorem onGridInside {n low high d k : Nat} {closed : Bool} (positive : 0 < d)
    (found : onGrid n low high d closed = some k) :
    k ≠ 0 ∧ Between closed ((low : ℚ) / d) (high / d) k := by
  simp only [onGridPlaces, Bool.and_eq_true, decide_eq_true_eq] at found
  simp only [← insideBetween positive]
  split at found
  · rename_i both
    obtain ⟨⟨lower, some⟩, upper⟩ := both
    cases found
    rcases roundEither n d with same | same
    · rw [same]
      exact ⟨some, lower⟩
    · rw [same]
      exact ⟨Nat.succ_ne_zero _, upper⟩
  split at found
  · rename_i here
    cases found
    exact ⟨here.2, here.1⟩
  split at found
  · rename_i here
    cases found
    exact ⟨Nat.succ_ne_zero _, here⟩
  · contradiction

theorem onGridFound {n low high d : Nat} (closed : Bool) (positive : 0 < d) (within : low ≤ n)
    (room : n + d < high) : (onGrid n low high d closed).isSome = true := by
  have whole := Nat.div_add_mod n d
  have part := Nat.mod_lt n positive
  have place : (n / d + 1) * d = d * (n / d) + d := by ring
  have upper : inside low high d closed (n / d + 1) = true := by
    rw [inside, place]
    cases closed
    · simp only [Bool.false_eq_true, if_false, Bool.and_eq_true, decide_eq_true_eq]
      omega
    · simp only [if_true, Bool.and_eq_true, decide_eq_true_eq]
      omega
  simp only [onGridPlaces, upper, Bool.and_true, if_true]
  split <;> rfl

theorem dropZerosValue (fuel digits : Nat) :
    (dropZeros fuel digits).1 * 10 ^ (dropZeros fuel digits).2 = digits := by
  induction fuel generalizing digits with
  | zero => simp [dropZeros]
  | succ fuel ih =>
    rw [dropZeros]
    split
    · rename_i ends
      have rest := ih (digits / 10)
      simp only [pow_succ, ← mul_assoc, rest]
      omega
    · simp

theorem gridScaled (v d : Nat) (step : Int) :
    ((v * Nat.pow 10 (-step).toNat : ℕ) : ℚ) / (d * Nat.pow 10 step.toNat : ℕ) * 10 ^ step =
      v / d := by
  have split := powerTen (-step)
  rw [neg_neg] at split
  rw [Nat.cast_mul, Nat.cast_mul, mul_div_mul_comm, ← split, mul_assoc, ← zpow_add₀ (by norm_num),
    neg_add_cancel, zpow_zero, mul_one]

theorem shortestFromFound {n low high d : Nat} {closed : Bool} {point : Int} (positive : 0 < d)
    {fuel count c : Nat} (above : count ≤ c) (below : c < count + fuel)
    (found : (onGrid (n * Nat.pow 10 (-(point - c)).toNat) (low * Nat.pow 10 (-(point - c)).toNat)
      (high * Nat.pow 10 (-(point - c)).toNat) (d * Nat.pow 10 (point - c).toNat)
      closed).isSome = true) :
    let (digits, power) := shortestFrom n low high d closed point fuel count
    digits ≠ 0 ∧ Between closed ((low : ℚ) / d) (high / d) (digits * 10 ^ power) := by
  induction fuel generalizing count with
  | zero => omega
  | succ fuel ih =>
    rw [shortestFrom]
    simp only [Int.ofNat_eq_natCast]
    split
    · rename_i digits here
      have ten : (0 : ℚ) < 10 ^ (point - count) := zpow_pos (by norm_num) _
      have grid : 0 < d * Nat.pow 10 (point - count).toNat :=
        Nat.mul_pos positive (Nat.pow_pos (by decide))
      obtain ⟨some, inside⟩ := onGridInside grid here
      have value := dropZerosValue 20 digits
      rw [← Between.scale ten, gridScaled, gridScaled] at inside
      constructor
      · intro none
        rw [none, zero_mul] at value
        exact some value.symm
      · rw [add_comm, zpow_add₀ (by norm_num), zpow_natCast, ← mul_assoc]
        rw [← value] at inside
        exact_mod_cast inside
    · rename_i none
      have later : count ≠ c := by
        rintro rfl
        rw [none] at found
        contradiction
      exact ih (by omega) (by omega)

theorem guessBound {magnitude : Int} (low : -1074 ≤ magnitude) (high : magnitude < 1024) :
    (10 : ℚ) ^ Int.fdiv (magnitude * 30103) 100000 ≤ 2 ^ (magnitude + 6) := by
  generalize guessed : Int.fdiv (magnitude * 30103) 100000 = guess
  have under : guess * 100000 ≤ magnitude * 30103 := by
    rw [← guessed, Int.fdiv_eq_ediv_of_nonneg _ (by decide)]
    omega
  have two : (0 : ℚ) < 2 ^ (magnitude + 6) := zpow_pos (by norm_num) _
  have ten : (0 : ℚ) < 10 ^ guess := zpow_pos (by norm_num) _
  have swap (x : ℚ) (n : Nat) (k : Int) : (x ^ k) ^ n = (x ^ n) ^ k := by
    rw [← zpow_natCast, ← zpow_natCast, ← zpow_mul, ← zpow_mul, mul_comm]
  rcases le_or_gt 0 guess with positive | negative
  · -- Three digits are at most ten bits.
    refine (pow_le_pow_iff_left₀ ten.le two.le (by decide : 3 ≠ 0)).mp ?_
    calc ((10 : ℚ) ^ guess) ^ 3 = (10 ^ 3) ^ guess := swap 10 3 guess
      _ ≤ (2 ^ 10) ^ guess := zpow_le_zpow_left₀ positive (by norm_num) (by norm_num)
      _ = 2 ^ (10 * guess) := (zpow_mul 2 10 guess).symm
      _ ≤ 2 ^ ((magnitude + 6) * 3) := zpow_le_zpow_right₀ (by norm_num) (by omega)
      _ = (2 ^ (magnitude + 6)) ^ 3 := zpow_mul 2 (magnitude + 6) 3
  · -- 28 digits are at least 93 bits.
    refine (pow_le_pow_iff_left₀ ten.le two.le (by decide : 28 ≠ 0)).mp ?_
    calc ((10 : ℚ) ^ guess) ^ 28 = (10 ^ 28) ^ guess := swap 10 28 guess
      _ ≤ (2 ^ 93) ^ guess := by
        have larger : (2 ^ 93 : ℚ) ^ (-guess) ≤ (10 ^ 28) ^ (-guess) :=
          zpow_le_zpow_left₀ (by omega) (by norm_num) (by norm_num)
        have swapped := inv_anti₀ (zpow_pos (by norm_num) _) larger
        rwa [zpow_neg, zpow_neg, inv_inv, inv_inv] at swapped
      _ = 2 ^ (93 * guess) := (zpow_mul 2 93 guess).symm
      _ ≤ 2 ^ ((magnitude + 6) * 28) := zpow_le_zpow_right₀ (by norm_num) (by omega)
      _ = (2 ^ (magnitude + 6)) ^ 28 := zpow_mul 2 (magnitude + 6) 28

theorem reachesPower {n d : Nat} (positive : 0 < d) (p : Int) :
    d * Nat.pow 10 p.toNat ≤ n * Nat.pow 10 (-p).toNat ↔ (10 : ℚ) ^ p ≤ n / d := by
  have below : (0 : ℚ) < d := by exact_mod_cast positive
  have under : (0 : ℚ) < (Nat.pow 10 (-p).toNat : ℕ) := by
    exact_mod_cast Nat.pow_pos (by decide)
  rw [powerTen, div_le_div_iff₀ under below, mul_comm d]
  norm_cast

theorem exceedsPower {n d : Nat} (positive : 0 < d) (p : Int) :
    d * Nat.pow 10 p.toNat < n * Nat.pow 10 (-p).toNat ↔ (10 : ℚ) ^ p < n / d := by
  have below : (0 : ℚ) < d := by exact_mod_cast positive
  have under : (0 : ℚ) < (Nat.pow 10 (-p).toNat : ℕ) := by
    exact_mod_cast Nat.pow_pos (by decide)
  rw [powerTen, div_lt_div_iff₀ under below, mul_comm d]
  norm_cast

theorem quarterUnits (v : Nat) (e : Int) :
    ((v * Nat.pow 2 e.toNat : ℕ) : ℚ) / (4 * Nat.pow 2 (-e).toNat : ℕ) = v * 2 ^ (e - 2) := by
  rw [zpow_sub₀ (by norm_num), powerTwo e]
  push_cast
  ring

def pointOf (numerator denominator : Nat) (magnitude : Int) : Int :=
  let guess := Int.fdiv (magnitude * 30103) 100000
  let reaches (p : Int) : Bool :=
    denominator * Nat.pow 10 p.toNat ≤ numerator * Nat.pow 10 (-p).toNat
  if reaches (guess + 1) then guess + 2 else if reaches guess then guess + 1 else guess

theorem shortestSearch (m : Nat) (e : Int) : shortest m e =
    shortestFrom (4 * m * Nat.pow 2 e.toNat) (lowest m e * Nat.pow 2 e.toNat)
      ((4 * m + 2) * Nat.pow 2 e.toNat) (4 * Nat.pow 2 (-e).toNat) (m % 2 = 0)
      (pointOf (4 * m * Nat.pow 2 e.toNat) (4 * Nat.pow 2 (-e).toNat) (Int.ofNat m.log2 + e))
      18 1 := rfl

theorem tenBelow {p j : Int} {a b : Nat} (low : (10 : ℚ) ^ p ≤ 2 ^ (j + b))
    (apart : 2 ^ b < 10 ^ a) : (10 : ℚ) ^ (p - a) < 2 ^ j := by
  have ten : (0 : ℚ) < 10 ^ (a : Int) := zpow_pos (by norm_num) _
  have two : (0 : ℚ) < 2 ^ j := zpow_pos (by norm_num) _
  rw [zpow_sub₀ (by norm_num), div_lt_iff₀ ten]
  refine low.trans_lt ?_
  rw [zpow_add₀ (by norm_num), zpow_natCast, zpow_natCast]
  exact mul_lt_mul_of_pos_left (by exact_mod_cast apart) two

theorem gridFine {n d m : Nat} {e : Int} (positive : 0 < d) (normal : Normal m e)
    (filled : 0 < m) (value : (n : ℚ) / d = m * 2 ^ e) :
    (10 : ℚ) ^ (pointOf n d (Int.ofNat m.log2 + e) - (18 : ℕ)) < 2 ^ (e - 1) := by
  obtain ⟨least, most, small, _⟩ := normal
  have under : (m : ℚ) * 2 ^ e ≤ 2 ^ (e - 1 + (54 : ℕ)) := by
    have fits : (m : ℚ) ≤ 2 ^ 53 := by exact_mod_cast small.le
    rw [show e - 1 + (54 : ℕ) = e + (53 : ℕ) by omega, zpow_add₀ (by norm_num), zpow_natCast,
      mul_comm]
    exact mul_le_mul_of_nonneg_left fits (zpow_pos (by norm_num) _).le
  -- A power of ten that is reached has at least one digit less before the point.
  have fewer {p : Int} (reached : (10 : ℚ) ^ p ≤ n / d) :
      (10 : ℚ) ^ (p - (17 : ℕ)) < 2 ^ (e - 1) :=
    tenBelow (b := 54) ((reached.trans_eq value).trans under) (by decide)
  have magnitude : m.log2 < 53 := (Nat.log2_lt filled.ne').mpr small
  generalize sum : Int.ofNat m.log2 + e = k
  rw [Int.ofNat_eq_natCast] at sum
  have guessed := @guessBound k (by omega) (by omega)
  simp only [pointOf, decide_eq_true_eq, reachesPower positive]
  generalize Int.fdiv (k * 30103) 100000 = guess at *
  split
  · rename_i here
    rw [show guess + 2 - (18 : ℕ) = guess + 1 - (17 : ℕ) by omega]
    exact fewer here
  split
  · rename_i here
    rw [show guess + 1 - (18 : ℕ) = guess - (17 : ℕ) by omega]
    exact fewer here
  · have bound : (2 : ℚ) ^ (k + 6) ≤ 2 ^ (e - 1 + (59 : ℕ)) :=
      zpow_le_zpow_right₀ (by norm_num) (by omega)
    exact tenBelow (guessed.trans bound) (by decide)

theorem shortestNear {m : Nat} {e : Int} (normal : Normal m e) (filled : 0 < m) :
    (shortest m e).1 ≠ 0 ∧ Near m e ((shortest m e).1 * 10 ^ (shortest m e).2) := by
  have positive : 0 < 4 * Nat.pow 2 (-e).toNat :=
    Nat.mul_pos (by decide) (Nat.pow_pos (by decide))
  have value : ((4 * m * Nat.pow 2 e.toNat : ℕ) : ℚ) / (4 * Nat.pow 2 (-e).toNat : ℕ) =
      m * 2 ^ e := by
    rw [quarterUnits, zpow_sub₀ (by norm_num)]
    push_cast
    ring
  have half : ((2 * Nat.pow 2 e.toNat : ℕ) : ℚ) / (4 * Nat.pow 2 (-e).toNat : ℕ) =
      2 ^ (e - 1) := by
    rw [quarterUnits, powerQuarters (e := e) (j := e - 1) 1 (by omega)]
    norm_num
  have fine := gridFine positive normal filled value
  rw [← half, ← exceedsPower positive] at fine
  unfold Near
  rw [shortestSearch, ← quarterUnits, ← quarterUnits]
  generalize pointOf (4 * m * Nat.pow 2 e.toNat) (4 * Nat.pow 2 (-e).toNat)
    (Int.ofNat m.log2 + e) = point at *
  refine shortestFromFound positive (c := 18) (by decide) (by decide) ?_
  refine onGridFound _ (Nat.mul_pos positive (Nat.pow_pos (by decide))) ?_ ?_
  · refine Nat.mul_le_mul_right _ (Nat.mul_le_mul_right _ ?_)
    rw [lowest]
    omega
  · rw [Nat.add_mul, Nat.add_mul]
    exact Nat.add_lt_add_left fine _

end TopicRouting.Binary64
