import TypeProbe.Proofs.Number.Rounding

/-! # The values of numbers

A finite number has a rational value (`Binary64.value?`), and the two zeros have the same one.
Whether the value is a natural number, and which one, is decided in integer arithmetic
(`Binary64.toNat?_eq_some_iff`): a scaled significand is divided by a power of two, and nothing may
remain. -/

namespace TypeProbe.Binary64

def value? (x : Binary64) : Option ℚ :=
  if x.isFinite then some (if x.isNegative then -x.magnitude else x.magnitude) else none

/-- The significand, scaled up by the power of two. -/
def scaled (x : Binary64) : Nat := x.significand * Nat.pow 2 x.exponent.toNat

/-- The power of two that the scaled significand is divided by. -/
def divisor (x : Binary64) : Nat := Nat.pow 2 (-x.exponent).toNat

variable {x : Binary64} {k : Nat}

theorem divisor_pos (x : Binary64) : 0 < x.divisor := Nat.pow_pos (by decide)

/-- The magnitude as a quotient of integers. -/
theorem magnitude_eq_div (x : Binary64) : x.magnitude = x.scaled / x.divisor := by
  have hscaled : (x.scaled : ℚ) = x.significand * 2 ^ x.exponent.toNat := by
    simp [scaled]
  have hdivisor : (x.divisor : ℚ) = 2 ^ (-x.exponent).toNat := by
    simp [divisor]
  have hne : (2 : ℚ) ^ (-x.exponent).toNat ≠ 0 := by positivity
  rw [hscaled, hdivisor, eq_div_iff hne, magnitude, mul_assoc]
  congr 1
  rw [← zpow_natCast, ← zpow_natCast, ← zpow_add₀ (by norm_num)]
  congr 1
  omega

theorem magnitude_eq_iff :
    x.magnitude = k ↔ x.scaled % x.divisor = 0 ∧ x.scaled / x.divisor = k := by
  have hpos := x.divisor_pos
  have hne : (x.divisor : ℚ) ≠ 0 := by exact_mod_cast hpos.ne'
  rw [magnitude_eq_div, div_eq_iff hne]
  constructor
  · intro h
    have hk : x.scaled = k * x.divisor := by exact_mod_cast h
    rw [hk]
    exact ⟨Nat.mul_mod_left k _, Nat.mul_div_cancel k hpos⟩
  · rintro ⟨hmod, rfl⟩
    exact_mod_cast (Nat.div_mul_cancel (Nat.dvd_of_mod_eq_zero hmod)).symm

theorem magnitude_nonneg (x : Binary64) : 0 ≤ x.magnitude := by
  unfold magnitude
  positivity

theorem magnitude_eq_zero_iff : x.magnitude = 0 ↔ x.isZero = true := by
  have hp := two_zpow_pos x.exponent
  have hs := significand_pos_iff (x := x)
  unfold magnitude
  rw [mul_eq_zero, or_iff_left hp.ne', Nat.cast_eq_zero, ← Nat.le_zero, ← Nat.not_lt, hs,
    Bool.not_eq_false]

/-- With a sign, only zero is a natural number. -/
theorem neg_magnitude_eq_iff : -x.magnitude = k ↔ x.magnitude = k ∧ x.isZero = true := by
  have hk : (0 : ℚ) ≤ k := Nat.cast_nonneg k
  have hx := x.magnitude_nonneg
  rw [← magnitude_eq_zero_iff]
  constructor
  · intro h
    exact ⟨by linarith, by linarith⟩
  · rintro ⟨h, hzero⟩
    linarith

/-- **The natural number that a number is**, of either sign if it is zero. -/
theorem toNat?_eq_some_iff : x.toNat? = some k ↔ x.value? = some (k : ℚ) := by
  have hintegral : x.isIntegral = (x.isFinite && x.scaled % x.divisor == 0) := rfl
  have hfloor : x.floorMagnitude = x.scaled / x.divisor := rfl
  unfold toNat? value?
  rw [hintegral, hfloor]
  cases hf : x.isFinite with
  | false => simp
  | true =>
      cases hn : x.isNegative with
      | false => simp [magnitude_eq_iff]
      | true =>
          have hiff := neg_magnitude_eq_iff (x := x) (k := k)
          rw [magnitude_eq_iff] at hiff
          simp [hiff, and_right_comm]

end TypeProbe.Binary64
