import TypeProbe.Proofs.Number.Rounding

/-! # Numerals and their numbers

A literal stands for one binary64 number only (`Binary64.Denotes.unique`), and so two finite
numbers with positive sign have the same text only if they are equal (`Binary64.text_injective`).

* A literal stands for one rational number, since its digits end where the point is.
* Two candidates nearest to the same rational lie on either side of it, at the same distance.
  Both significands are even then, and the number one unit above the lower one lies in between.
* A number is given by its magnitude, since significands above the least exponent are
  normalized. -/

namespace TypeProbe

/-! ### Literals -/

/-- A literal stands for one rational number. -/
theorem DecimalLiteral.unique {text : List Char} {q r : ℚ} (hq : DecimalLiteral text q)
    (hr : DecimalLiteral text r) : q = r := by
  cases hq with
  | whole hw =>
      generalize ht : text = text' at hr
      cases hr with
      | whole _ => rfl
      | pointed _ _ =>
          have hpoint : '.' ∈ text := by simp [ht]
          exact absurd (hw.isDigit _ hpoint) (by decide)
  | @pointed digits fraction hw _ =>
      generalize ht : digits ++ '.' :: fraction = text' at hr
      cases hr with
      | whole hw' =>
          have hpoint : '.' ∈ text' := by simp [← ht]
          exact absurd (hw'.isDigit _ hpoint) (by decide)
      | @pointed digits' fraction' hw' _ =>
          have hsplit := takeWhile_digits hw.isDigit ('.' :: fraction) rfl
          have hsplit' := takeWhile_digits hw'.isDigit ('.' :: fraction') rfl
          rw [ht] at hsplit
          obtain rfl := hsplit.1.symm.trans hsplit'.1
          obtain ⟨-, rfl⟩ := List.cons.inj (hsplit.2.symm.trans hsplit'.2)
          rfl

namespace Binary64

variable {x y : Binary64}

/-! ### Magnitudes -/

/-- Above the least exponent, a significand is too large to be that of a smaller exponent. -/
theorem exponent_le_of_magnitude_eq (h : x.magnitude = y.magnitude) : y.exponent ≤ x.exponent := by
  by_contra hlt
  have hs := fractionCount_le_significand (x := y) (by have := x.exponent_ge; omega)
  have hle := candidate_le_of_exponent_lt x.significand_lt (Int.not_le.mp hlt)
  have hp := two_zpow_pos y.exponent
  have hs' : (fractionCount : ℚ) ≤ y.significand := by exact_mod_cast hs
  unfold magnitude at h
  rw [h] at hle
  nlinarith

/-- A number with positive sign is given by its two fields. -/
theorem eq_of_fields (hx : x.isNegative = false) (hy : y.isNegative = false)
    (he : x.exponentField = y.exponentField) (hf : x.fractionField = y.fractionField) : x = y := by
  have hcount : fractionCount = 0x10000000000000 := rfl
  have hbits : x.bits.toNat = y.bits.toNat := by
    simp only [isNegative, decide_eq_false_iff_not, Nat.not_le] at hx hy
    unfold exponentField at he
    unfold fractionField at hf
    rw [hcount] at he hf
    omega
  obtain ⟨b⟩ := x
  obtain ⟨c⟩ := y
  exact congrArg mk (UInt64.toNat_inj.mp hbits)

/-- A number with positive sign is given by its magnitude. -/
theorem eq_of_magnitude_eq (hx : x.isNegative = false) (hy : y.isNegative = false)
    (h : x.magnitude = y.magnitude) : x = y := by
  have he : x.exponent = y.exponent :=
    Int.le_antisymm (exponent_le_of_magnitude_eq h.symm) (exponent_le_of_magnitude_eq h)
  have hs : x.significand = y.significand := by
    unfold magnitude at h
    rw [he] at h
    exact_mod_cast mul_right_cancel₀ (two_zpow_pos y.exponent).ne' h
  have hxf : x.fractionField < fractionCount := Nat.mod_lt _ (by decide)
  have hyf : y.fractionField < fractionCount := Nat.mod_lt _ (by decide)
  unfold exponent at he
  unfold significand at hs
  refine eq_of_fields hx hy ?_ ?_ <;> split at hs <;> split at hs <;> omega

/-! ### Rounding -/

/-- The number one unit above a number with even significand. -/
theorem isCandidate_next (h : x.significand % 2 = 0) :
    IsCandidate (x.magnitude + 2 ^ x.exponent) := by
  have hlt := x.significand_lt
  have heven : 2 * fractionCount % 2 = 0 := by decide
  refine ⟨x.significand + 1, x.exponent, by omega, x.exponent_ge, ?_⟩
  unfold magnitude
  push_cast
  ring

/-- The number one unit above a number with even significand has no even significand. -/
theorem not_even_of_magnitude_eq (hx : x.significand % 2 = 0)
    (h : y.magnitude = x.magnitude + 2 ^ x.exponent) : y.significand % 2 = 1 := by
  have hnext : y.magnitude = (x.significand + 1 : ℕ) * 2 ^ x.exponent := by
    rw [h]
    unfold magnitude
    push_cast
    ring
  unfold magnitude at hnext
  rcases lt_or_ge y.exponent x.exponent with hlt | hge
  · have hs := fractionCount_le_significand (x := x) (by have := y.exponent_ge; omega)
    have hle := candidate_le_of_exponent_lt y.significand_lt hlt
    have hp := two_zpow_pos x.exponent
    have hs' : (fractionCount : ℚ) ≤ x.significand := by exact_mod_cast hs
    rw [hnext] at hle
    push_cast at hle
    nlinarith
  · obtain ⟨k, hk⟩ := Int.le.dest hge
    rw [← hk, zpow_add₀ (by norm_num), zpow_natCast, mul_comm (2 ^ x.exponent),
      ← mul_assoc] at hnext
    have hodd : y.significand * 2 ^ k = x.significand + 1 := by
      exact_mod_cast mul_right_cancel₀ (two_zpow_pos x.exponent).ne' hnext
    by_contra heven
    have : y.significand * 2 ^ k % 2 = 0 := by
      rw [Nat.mul_mod, show y.significand % 2 = 0 by omega, Nat.zero_mul]
    omega

/-- Of two numbers that a rational rounds to, none is less. -/
theorem Nearest.not_lt {q : ℚ} (hx : Nearest q x) (hy : Nearest q y) :
    ¬ x.magnitude < y.magnitude := by
  intro hlt
  have hd : |q - x.magnitude| = |q - y.magnitude| :=
    le_antisymm (hx.le _ (isCandidate_magnitude y)) (hy.le _ (isCandidate_magnitude x))
  have hmid : q - x.magnitude = y.magnitude - q := by
    rcases abs_eq_abs.mp hd with h | h <;> linarith
  have hxe := hx.even _ (isCandidate_magnitude y) hlt.ne' hd
  have hye := hy.even _ (isCandidate_magnitude x) hlt.ne hd.symm
  have hp := two_zpow_pos x.exponent
  have hgap : x.magnitude + 2 ^ x.exponent ≤ y.magnitude := by
    rcases x.candidate_gap (isCandidate_magnitude y) hlt.ne' with h | h | ⟨_, h⟩ <;> linarith
  rcases hgap.eq_or_lt with heq | hbetween
  · have := not_even_of_magnitude_eq hxe heq.symm
    omega
  · have hnear := hx.le _ (isCandidate_next hxe)
    have hstrict : |q - (x.magnitude + 2 ^ x.exponent)| < q - x.magnitude :=
      abs_lt.mpr ⟨by linarith, by linarith⟩
    have := le_abs_self (q - x.magnitude)
    linarith

theorem Nearest.unique {q : ℚ} (hx : Nearest q x) (hy : Nearest q y) : x = y :=
  eq_of_magnitude_eq hx.positive hy.positive
    (le_antisymm (le_of_not_gt (Nearest.not_lt hy hx)) (le_of_not_gt (Nearest.not_lt hx hy)))

/-- **A literal stands for one number.** -/
theorem Denotes.unique {text : List Char} (hx : Denotes text x) (hy : Denotes text y) : x = y := by
  obtain ⟨q, hq, hx⟩ := hx
  obtain ⟨r, hr, hy⟩ := hy
  obtain rfl := hq.unique hr
  exact hx.unique hy

/-- **Different numbers have different texts**, if they are finite and have positive sign. -/
theorem text_injective (hx : x.isFinite = true) (hxn : x.isNegative = false)
    (hy : y.isFinite = true) (hyn : y.isNegative = false) (h : x.text = y.text) : x = y :=
  (denotes_text hx hxn).unique (h ▸ denotes_text hy hyn)

end Binary64

end TypeProbe
