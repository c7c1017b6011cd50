import AccessNotices.Number.Shortest
import Mathlib.Algebra.Order.Field.Power
import Mathlib.Tactic.NormNum
import Mathlib.Tactic.Positivity
/-!
Rounding, seen from the number that is rounded.

The nearest magnitude depends on the quotient alone and not on how it is written as a fraction
(`nearestOrdinal_mul_right`) or as a decimal (`nearestDecimal_shift`), and a magnitude is nearest to
itself (`nearestOrdinal_ratioOf`). So the decimal that a magnitude is written with reads back as it,
whether it is the shortest one or the exact one. Main statement: `nearestDecimal_decimal`.
-/

namespace AccessNotices.Number.Finite64

/-! ### Logarithms -/

/-- The exponent of the power of two below a quotient. -/
def IsExponent (r : ℚ) (e : ℤ) : Prop :=
  (2 : ℚ) ^ e ≤ r ∧ r < 2 ^ (e + 1)

/-- A number has one exponent. -/
theorem IsExponent.eq {r : ℚ} {e f : ℤ} (he : IsExponent r e) (hf : IsExponent r f) : e = f := by
  have below : e < f + 1 := (zpow_lt_zpow_iff_right₀ one_lt_two).mp (he.1.trans_lt hf.2)
  have above : f < e + 1 := (zpow_lt_zpow_iff_right₀ one_lt_two).mp (hf.1.trans_lt he.2)
  omega

theorem isExponent_log2 {n : Nat} (pos : 0 < n) : IsExponent n (Nat.log2 n) := by
  constructor
  · exact_mod_cast Nat.log2_self_le pos.ne'
  · exact_mod_cast Nat.lt_log2_self

/-- A power of two times a number has the exponents added. -/
theorem IsExponent.mul_zpow {r : ℚ} {e : ℤ} (he : IsExponent r e) (f : ℤ) :
    IsExponent (r * 2 ^ f) (e + f) := by
  have pos : (0 : ℚ) < 2 ^ f := zpow_pos two_pos f
  constructor
  · rw [zpow_add₀ two_ne_zero]
    exact mul_le_mul_of_nonneg_right he.1 pos.le
  · rw [add_right_comm, zpow_add₀ two_ne_zero]
    exact mul_lt_mul_of_pos_right he.2 pos

/-- The test for a power of two below a fraction of natural numbers. -/
theorem zpow_le_div_iff (num : Nat) {den : Nat} (pos : 0 < den) (e : ℤ) :
    (if 0 ≤ e then den * Nat.pow 2 e.toNat ≤ num else den ≤ num * Nat.pow 2 (-e).toNat) ↔
      (2 : ℚ) ^ e ≤ num / den := by
  have posQ : (0 : ℚ) < den := Nat.cast_pos.mpr pos
  rw [le_div_iff₀ posQ]
  split
  case isTrue nonneg =>
    obtain ⟨n, rfl⟩ := Int.eq_ofNat_of_zero_le nonneg
    rw [Int.toNat_natCast, Nat.pow_eq, zpow_natCast, mul_comm]
    exact_mod_cast Iff.rfl
  case isFalse negative =>
    obtain ⟨n, hn⟩ := Int.eq_ofNat_of_zero_le (show 0 ≤ -e by omega)
    obtain rfl : e = -(n : ℤ) := by omega
    rw [neg_neg, Int.toNat_natCast, Nat.pow_eq, zpow_neg, zpow_natCast,
      inv_mul_le_iff₀ (by positivity), mul_comm]
    exact_mod_cast Iff.rfl

/-- The power of two below a fraction is found from the logarithms of its two parts. -/
theorem isExponent_floorLog2 {num den : Nat} (numPos : 0 < num) (denPos : 0 < den) :
    IsExponent (num / den : ℚ) (floorLog2 num den) := by
  obtain ⟨numLow, numHigh⟩ := isExponent_log2 numPos
  obtain ⟨denLow, denHigh⟩ := isExponent_log2 denPos
  have denPosQ : (0 : ℚ) < den := Nat.cast_pos.mpr denPos
  have fits := zpow_le_div_iff num denPos ((Nat.log2 num : ℤ) - Nat.log2 den)
  unfold floorLog2
  generalize (Nat.log2 num : ℤ) = a at *
  generalize (Nat.log2 den : ℤ) = b at *
  -- The quotient lies between two powers of two that are two exponents apart.
  have low : (2 : ℚ) ^ (a - b - 1) ≤ num / den := by
    have sum : a - b - 1 + (b + 1) = a := by omega
    rw [le_div_iff₀ denPosQ]
    calc (2 : ℚ) ^ (a - b - 1) * den ≤ 2 ^ (a - b - 1) * 2 ^ (b + 1) :=
          mul_le_mul_of_nonneg_left denHigh.le (zpow_pos two_pos _).le
      _ = 2 ^ a := by rw [← zpow_add₀ two_ne_zero, sum]
      _ ≤ num := numLow
  have high : (num / den : ℚ) < 2 ^ (a - b + 1) := by
    have sum : a - b + 1 + b = a + 1 := by omega
    rw [div_lt_iff₀ denPosQ]
    calc (num : ℚ) < 2 ^ (a + 1) := numHigh
      _ = 2 ^ (a - b + 1) * 2 ^ b := by rw [← zpow_add₀ two_ne_zero, sum]
      _ ≤ 2 ^ (a - b + 1) * den := mul_le_mul_of_nonneg_left denLow (zpow_pos two_pos _).le
  by_cases reached : (2 : ℚ) ^ (a - b) ≤ num / den
  · rw [if_pos (fits.mpr reached)]
    exact ⟨reached, high⟩
  · rw [if_neg (mt fits.mp reached)]
    refine ⟨low, ?_⟩
    rw [sub_add_cancel]
    exact not_le.mp reached

/-! ### Fractions -/

/-- The exponent of a fraction does not depend on how it is expanded. -/
theorem floorLog2_mul_right {num den k : Nat} (numPos : 0 < num) (denPos : 0 < den) (pos : 0 < k) :
    floorLog2 (num * k) (den * k) = floorLog2 num den := by
  have scaled := isExponent_floorLog2 (Nat.mul_pos numPos pos) (Nat.mul_pos denPos pos)
  rw [Nat.cast_mul, Nat.cast_mul, mul_div_mul_right _ _ (Nat.cast_ne_zero.mpr pos.ne')] at scaled
  exact scaled.eq (isExponent_floorLog2 numPos denPos)

/-- Nor does its rounding. -/
theorem roundQuotient_mul_right {k : Nat} (num den : Nat) (pos : 0 < k) :
    roundQuotient (num * k) (den * k) = roundQuotient num den := by
  have less : den * k < 2 * (num % den * k) ↔ den < 2 * (num % den) := by
    rw [← Nat.mul_assoc]
    exact Nat.mul_lt_mul_right pos
  have same : den * k = 2 * (num % den * k) ↔ den = 2 * (num % den) := by
    rw [← Nat.mul_assoc]
    exact Nat.mul_left_inj pos.ne'
  unfold roundQuotient
  rw [Nat.mul_div_mul_right _ _ pos, Nat.mul_mod_mul_right]
  simp only [less, same]

theorem roundQuotient_one (num : Nat) : roundQuotient num 1 = num := by
  simp [roundQuotient, Nat.mod_one]

/-- A fraction may be expanded. -/
theorem nearestOrdinal_mul_right {k : Nat} (num den : Nat) (pos : 0 < k) :
    nearestOrdinal (num * k) (den * k) = nearestOrdinal num den := by
  unfold nearestOrdinal
  by_cases zero : num = 0 ∨ den = 0
  · rw [if_pos zero, if_pos (by simpa [pos.ne'] using zero)]
  · have expanded : ¬ (num * k = 0 ∨ den * k = 0) := by simpa [pos.ne'] using zero
    rw [not_or] at zero
    rw [if_neg expanded, if_neg (not_or.mpr zero),
      floorLog2_mul_right (Nat.pos_of_ne_zero zero.1) (Nat.pos_of_ne_zero zero.2) pos]
    simp only [Nat.mul_right_comm _ k, roundQuotient_mul_right _ _ pos]

/-! ### Magnitudes -/

theorem significandOf_pos {ordinal : Nat} (pos : 0 < ordinal) : 0 < significandOf ordinal := by
  unfold significandOf
  split
  · exact pos
  · exact Nat.add_pos_left (by decide) _

/-- A significand has no more bits than there is room for. -/
theorem significandOf_lt (ordinal : Nat) : significandOf ordinal < 2 * leadingBit := by
  have remainder : ordinal % leadingBit < leadingBit := Nat.mod_lt _ (by decide)
  unfold significandOf
  split <;> omega

theorem ratioOf_pos (ordinal : Nat) : 0 < (ratioOf ordinal).2 := by
  unfold ratioOf
  split
  · exact Nat.one_pos
  · exact Nat.pow_pos Nat.two_pos

/-- The quotient of a magnitude is its significand times a power of two. -/
theorem ratioOf_eq (ordinal : Nat) :
    ((ratioOf ordinal).1 / (ratioOf ordinal).2 : ℚ) =
      significandOf ordinal * 2 ^ exponentOf ordinal := by
  unfold ratioOf
  cases exponentOf ordinal with
  | ofNat e => simp [Nat.pow_eq]
  | negSucc e => simp [Nat.pow_eq, zpow_negSucc, div_eq_mul_inv]

/-- The last place of a magnitude is where its significand ends. -/
theorem lastPlace_ratioOf {ordinal : Nat} (pos : 0 < ordinal) :
    max (floorLog2 (ratioOf ordinal).1 (ratioOf ordinal).2) (-1022) - 52 = exponentOf ordinal := by
  have quotient := (isExponent_log2 (significandOf_pos pos)).mul_zpow (exponentOf ordinal)
  have numerator : 0 < (ratioOf ordinal).1 := by
    unfold ratioOf
    split
    · exact Nat.mul_pos (significandOf_pos pos) (Nat.pow_pos Nat.two_pos)
    · exact significandOf_pos pos
  rw [← ratioOf_eq] at quotient
  rw [← quotient.eq (isExponent_floorLog2 numerator (ratioOf_pos ordinal))]
  by_cases subnormal : ordinal < leadingBit
  · have small : significandOf ordinal < 2 ^ 52 := by
      rw [significandOf, if_pos subnormal]
      exact subnormal
    have log := (Nat.log2_lt (significandOf_pos pos).ne').mpr small
    rw [exponentOf, if_pos subnormal]
    omega
  · have log : Nat.log2 (significandOf ordinal) = 52 := by
      rw [Nat.log2_eq_iff (significandOf_pos pos).ne']
      refine ⟨?_, significandOf_lt ordinal⟩
      rw [significandOf, if_neg subnormal]
      exact Nat.le_add_right leadingBit _
    have whole : 1 ≤ ordinal / leadingBit :=
      (Nat.one_le_div_iff (by decide)).mpr (not_lt.mp subnormal)
    rw [log, exponentOf, if_neg subnormal]
    omega

/-- Exponent and significand make up the ordinal. -/
theorem ordinal_eq (ordinal : Nat) :
    (exponentOf ordinal + 1074).toNat * leadingBit + significandOf ordinal = ordinal := by
  unfold exponentOf significandOf
  split
  case isTrue subnormal => simp
  case isFalse normal =>
    have whole : 1 ≤ ordinal / leadingBit :=
      (Nat.one_le_div_iff (by decide)).mpr (not_lt.mp normal)
    have place : (((ordinal / leadingBit : Nat) : ℤ) - 1075 + 1074).toNat =
        ordinal / leadingBit - 1 := by omega
    rw [place, ← Nat.add_assoc, ← Nat.succ_mul, Nat.succ_eq_add_one, Nat.sub_add_cancel whole]
    exact Nat.div_add_mod' ordinal leadingBit

/-- A magnitude is nearest to itself. -/
theorem nearestOrdinal_ratioOf (ordinal : Nat) :
    nearestOrdinal (ratioOf ordinal).1 (ratioOf ordinal).2 = ordinal := by
  rcases Nat.eq_zero_or_pos ordinal with rfl | pos
  · rfl
  have place := lastPlace_ratioOf pos
  have nonzero := (significandOf_pos pos).ne'
  have whole := ordinal_eq ordinal
  -- In units of the last place the magnitude is its significand, so nothing is rounded off.
  unfold nearestOrdinal
  simp only [place]
  unfold ratioOf
  cases e : exponentOf ordinal with
  | ofNat n =>
    have power : 0 < Nat.pow 2 n := Nat.pow_pos Nat.two_pos
    have exact := roundQuotient_mul_right (significandOf ordinal) 1 power
    rw [roundQuotient_one] at exact
    rw [e] at whole
    rw [if_neg (by simp [nonzero]), if_pos (show 0 ≤ Int.ofNat n from Int.natCast_nonneg n)]
    exact (congrArg _ exact).trans whole
  | negSucc n =>
    have power : 0 < Nat.pow 2 (n + 1) := Nat.pow_pos Nat.two_pos
    have exact := roundQuotient_mul_right (significandOf ordinal) 1 power
    rw [roundQuotient_one, Nat.one_mul] at exact
    rw [e] at whole
    rw [if_neg (by simp [nonzero]), if_neg (Int.not_le.mpr (Int.negSucc_lt_zero n))]
    exact (congrArg _ exact).trans whole

/-! ### Decimals -/

theorem natText_ne_nil (n : Nat) : natText n ≠ [] :=
  Nat.toDigits_ne_nil

/-- The digits of a number and of its product with ten. -/
theorem natText_mul_ten {n : Nat} (pos : 0 < n) : natText (n * 10) = natText n ++ ['0'] := by
  have appended := Nat.toDigits_append_toDigits (b := 10) (n := n) (d := 0) (by decide) pos
    (by decide)
  rw [Nat.add_zero, Nat.mul_comm] at appended
  exact appended.symm

theorem length_natText_le_iff {n k : Nat} (pos : 0 < k) :
    (natText n).length ≤ k ↔ n < 10 ^ k :=
  Nat.length_toDigits_le_iff (by decide) pos

/-- The magnitude nearest to a decimal, with no regard to the range. -/
def nearestScaled (digits : Nat) (exponent : ℤ) : Nat :=
  if 0 ≤ exponent then nearestOrdinal (digits * Nat.pow 10 exponent.toNat) 1
  else nearestOrdinal digits (Nat.pow 10 (-exponent).toNat)

theorem nearestScaled_natCast (digits n : Nat) :
    nearestScaled digits n = nearestOrdinal (digits * 10 ^ n) 1 :=
  if_pos (Int.natCast_nonneg n)

theorem nearestScaled_neg (digits n : Nat) :
    nearestScaled digits (-n) = nearestOrdinal digits (10 ^ n) := by
  cases n with
  | zero => simp [nearestScaled, Nat.pow_eq]
  | succ n => exact if_neg (by omega)

/-- A digit zero more and a power of ten less are the same number. -/
theorem nearestScaled_mul_ten (digits : Nat) (exponent : ℤ) :
    nearestScaled (digits * 10) (exponent - 1) = nearestScaled digits exponent := by
  obtain ⟨n, rfl | rfl⟩ := exponent.eq_nat_or_neg
  · cases n with
    | zero =>
      rw [show ((0 : Nat) : ℤ) - 1 = -(1 : Nat) from rfl, nearestScaled_neg, nearestScaled_natCast,
        Nat.pow_zero, Nat.mul_one, Nat.pow_one, ← Nat.one_mul 10,
        nearestOrdinal_mul_right digits 1 (by decide)]
    | succ n =>
      rw [show ((n + 1 : Nat) : ℤ) - 1 = n by omega, nearestScaled_natCast, nearestScaled_natCast,
        Nat.pow_succ', Nat.mul_assoc]
  · rw [show -(n : ℤ) - 1 = -(n + 1 : Nat) by omega, nearestScaled_neg, nearestScaled_neg,
      Nat.pow_succ, nearestOrdinal_mul_right _ _ (by decide)]

theorem nearestDecimal_zero (exponent : ℤ) : nearestDecimal 0 exponent = 0 := by
  simp [nearestDecimal]

/-- A zero may be put behind the digits of a decimal. -/
theorem nearestDecimal_mul_ten (digits : Nat) (exponent : ℤ) :
    nearestDecimal (digits * 10) (exponent - 1) = nearestDecimal digits exponent := by
  rcases Nat.eq_zero_or_pos digits with rfl | pos
  · rw [Nat.zero_mul, nearestDecimal_zero, nearestDecimal_zero]
  have scale : ((natText (digits * 10)).length + (exponent - 1) : ℤ) =
      (natText digits).length + exponent := by
    rw [natText_mul_ten pos, List.length_append]
    simp
  have scaled := nearestScaled_mul_ten digits exponent
  unfold nearestScaled at scaled
  unfold nearestDecimal
  simp only [scale, scaled, mul_eq_zero, OfNat.ofNat_ne_zero, or_false]

/-- Any number of zeros may be put behind the digits of a decimal. -/
theorem nearestDecimal_shift (digits zeros : Nat) (exponent : ℤ) :
    nearestDecimal (digits * 10 ^ zeros) (exponent - zeros) = nearestDecimal digits exponent := by
  induction zeros with
  | zero => simp
  | succ zeros ih =>
    rw [Nat.pow_succ, ← Nat.mul_assoc, Nat.cast_succ, ← sub_sub, nearestDecimal_mul_ten, ih]

/-- A decimal within the range is rounded as its fraction is. -/
theorem nearestDecimal_eq_nearestScaled {digits : Nat} {exponent : ℤ} (pos : 0 < digits)
    (least : -330 ≤ (natText digits).length + exponent)
    (most : (natText digits).length + exponent ≤ 330) :
    nearestDecimal digits exponent = nearestScaled digits exponent := by
  unfold nearestDecimal
  simp only
  rw [if_neg, if_neg (not_lt.mpr most)]
  · rfl
  · exact not_or.mpr ⟨pos.ne', not_lt.mpr least⟩

theorem exponentOf_le {ordinal : Nat} (finite : ordinal < magnitudeCount) :
    exponentOf ordinal ≤ 971 := by
  have whole : ordinal / leadingBit < 2047 := Nat.div_lt_of_lt_mul finite
  unfold exponentOf
  split <;> omega

/-- No exponent lies below that of the smallest number. -/
theorem le_exponentOf (ordinal : Nat) : -1074 ≤ exponentOf ordinal := by
  unfold exponentOf
  split
  case isTrue => exact le_rfl
  case isFalse normal =>
    have whole : 1 ≤ ordinal / leadingBit :=
      (Nat.one_le_div_iff (by decide)).mpr (not_lt.mp normal)
    omega

end AccessNotices.Number.Finite64

namespace AccessNotices.Number.Shortest

open Finite64

/-- A significand times a power of five has no more digits than the range of decimals allows. -/
theorem length_mul_pow_five_le {s : Nat} (small : s < 2 ^ 53) (n : Nat) :
    (natText (s * 5 ^ n)).length ≤ 16 + n := by
  rw [length_natText_le_iff (by omega)]
  calc s * 5 ^ n < 2 ^ 53 * 5 ^ n := Nat.mul_lt_mul_of_pos_right small (Nat.pow_pos (by decide))
    _ ≤ 10 ^ 16 * 10 ^ n := Nat.mul_le_mul (by decide) (Nat.pow_le_pow_left (by decide) n)
    _ = 10 ^ (16 + n) := (Nat.pow_add 10 16 n).symm

/-- It has at least as many digits as the range asks for, down to the least exponent. -/
theorem le_length_mul_pow_five {s n : Nat} (pos : 0 < s) (least : n ≤ 1074) :
    n ≤ 330 + (natText (s * 5 ^ n)).length := by
  by_contra short
  have digits : s * 5 ^ n < 10 ^ (natText (s * 5 ^ n)).length :=
    (length_natText_le_iff Nat.length_toDigits_pos).mp le_rfl
  generalize (natText (s * 5 ^ n)).length = length at digits short
  -- Twos in place of the missing digits would have to make up for 331 tens.
  have tens : 10 ^ n < 10 ^ n :=
    calc 10 ^ n = 1 * 5 ^ n * 2 ^ n := by rw [Nat.one_mul, ← Nat.mul_pow]
      _ ≤ s * 5 ^ n * 2 ^ n := by gcongr; exact pos
      _ < 10 ^ length * 2 ^ n := Nat.mul_lt_mul_of_pos_right digits (Nat.pow_pos Nat.two_pos)
      _ ≤ 10 ^ length * 2 ^ 1074 := by gcongr; decide
      _ ≤ 10 ^ length * 10 ^ 331 := Nat.mul_le_mul_left _ (by decide +kernel)
      _ = 10 ^ (length + 331) := by rw [Nat.pow_add]
      _ ≤ 10 ^ n := Nat.pow_le_pow_right (by decide) (by omega)
  exact lt_irrefl _ tens

/-- The exact decimal of a finite magnitude reads back. -/
theorem nearestDecimal_exact {ordinal : Nat} (finite : ordinal < magnitudeCount) :
    nearestDecimal (exact ordinal).digits (exact ordinal).exponent = ordinal := by
  rcases Nat.eq_zero_or_pos ordinal with rfl | pos
  · have none : (exact 0).digits = 0 := by
      unfold exact
      cases exponentOf 0 <;> exact Nat.zero_mul _
    rw [none, nearestDecimal_zero]
  have significand := significandOf_pos pos
  have small : significandOf ordinal < 2 ^ 53 := significandOf_lt ordinal
  have least := le_exponentOf ordinal
  have most := exponentOf_le finite
  have itself := nearestOrdinal_ratioOf ordinal
  unfold ratioOf at itself
  unfold exact
  cases e : exponentOf ordinal with
  | ofNat n =>
    rw [e] at itself most
    have bound : significandOf ordinal * 2 ^ n < 10 ^ 330 :=
      calc significandOf ordinal * 2 ^ n < 2 ^ 53 * 2 ^ n :=
            Nat.mul_lt_mul_of_pos_right small (Nat.pow_pos Nat.two_pos)
        _ ≤ 2 ^ 53 * 2 ^ 971 :=
            Nat.mul_le_mul_left _ (Nat.pow_le_pow_right Nat.two_pos (Int.ofNat_le.mp most))
        _ ≤ 10 ^ 330 := by decide +kernel
    have length := (length_natText_le_iff (by decide)).mpr bound
    have digitsPos := Nat.mul_pos significand (Nat.pow_pos (n := n) Nat.two_pos)
    change nearestDecimal (significandOf ordinal * 2 ^ n) (0 : Nat) = ordinal
    rw [nearestDecimal_eq_nearestScaled digitsPos (by omega) (by omega), nearestScaled_natCast,
      Nat.pow_zero, Nat.mul_one]
    exact itself
  | negSucc n =>
    rw [e, Int.negSucc_eq] at least
    rw [e] at itself
    change nearestDecimal (significandOf ordinal * 5 ^ (n + 1)) (-(n + 1 : Nat)) = ordinal
    have digitsPos := Nat.mul_pos significand (Nat.pow_pos (n := n + 1) (a := 5) (by decide))
    have upper := length_mul_pow_five_le small (n + 1)
    have lower := le_length_mul_pow_five significand (n := n + 1) (by omega)
    rw [nearestDecimal_eq_nearestScaled digitsPos (by omega) (by omega), nearestScaled_neg,
      show 10 = 2 * 5 from rfl, Nat.mul_pow,
      nearestOrdinal_mul_right _ _ (Nat.pow_pos (by decide))]
    exact itself

/-- **The decimal that a finite magnitude is written with reads back as it.** -/
theorem nearestDecimal_decimal {ordinal : Nat} (finite : ordinal < magnitudeCount) :
    nearestDecimal (decimal ordinal).digits (decimal ordinal).exponent = ordinal := by
  unfold decimal
  cases found : shortest? ordinal with
  | none => exact nearestDecimal_exact finite
  | some d => exact nearestDecimal_shortest found

end AccessNotices.Number.Shortest
