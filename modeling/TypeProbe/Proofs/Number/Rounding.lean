import Mathlib.Algebra.Order.Field.Power
import Mathlib.Tactic.FieldSimp
import Mathlib.Tactic.Linarith
import TypeProbe.Proofs.Number.Literal

/-! # Reading numerals back

A literal of program text stands for the binary64 number nearest to the rational it denotes, and
of two equally near ones for that with the even significand (`Binary64.Nearest`).

The text of every finite number with positive sign is a literal that stands for this number
(`Binary64.denotes_text`).

* Numbers other than `x` keep a distance from it (`Binary64.candidate_gap`): a unit of its last
  place, or half of one below a power of two.
* Decimals that pass `Interval.reads` stay within half of that distance, and reach the half only
  if the significand is even.
* The search finds one that passes, since the number itself does. -/

namespace TypeProbe

namespace Binary64

/-! ### Rounding to the nearest number -/

/-- The magnitude of a finite number. -/
def magnitude (x : Binary64) : ℚ := x.significand * 2 ^ x.exponent

/-- The magnitudes that finite numbers have, and beyond them all those of the same precision:
what is nearer to one of these than to any number is not finite. -/
def IsCandidate (y : ℚ) : Prop :=
  ∃ (m : ℕ) (e : ℤ), m < 2 * fractionCount ∧ -1074 ≤ e ∧ y = m * 2 ^ e

theorem significand_lt (x : Binary64) : x.significand < 2 * fractionCount := by
  have : x.fractionField < fractionCount := Nat.mod_lt _ (by decide)
  unfold significand
  split <;> omega

theorem exponent_ge (x : Binary64) : -1074 ≤ x.exponent := by
  unfold exponent
  omega

theorem isCandidate_magnitude (x : Binary64) : IsCandidate x.magnitude :=
  ⟨x.significand, x.exponent, x.significand_lt, x.exponent_ge, rfl⟩

/-- Rounding of a nonnegative rational: to nearest, ties to even. -/
structure Nearest (q : ℚ) (x : Binary64) : Prop where
  finite : x.isFinite = true
  positive : x.isNegative = false
  le : ∀ y, IsCandidate y → |q - x.magnitude| ≤ |q - y|
  even : ∀ y, IsCandidate y → y ≠ x.magnitude → |q - x.magnitude| = |q - y| →
    x.significand % 2 = 0

/-- Whether a literal stands for a number. -/
def Denotes (text : List Char) (x : Binary64) : Prop :=
  ∃ q, DecimalLiteral text q ∧ Nearest q x

/-- A literal of digits only stands for the same number when its point is written. -/
theorem Denotes.point {text : List Char} {x : Binary64} (h : Denotes text x)
    (hd : text.all Char.isDigit = true) : Denotes (text ++ ['.']) x := by
  obtain ⟨q, hq, hx⟩ := h
  cases hq with
  | whole hw => exact ⟨_, DecimalLiteral.point hw, hx⟩
  | pointed hw hf =>
      exfalso
      have := List.all_eq_true.mp hd '.' (by simp)
      exact absurd this (by decide)

/-! ### The distance between numbers -/

/-- Above the least exponent, significands are normalized. -/
theorem fractionCount_le_significand {x : Binary64} (h : -1074 < x.exponent) :
    fractionCount ≤ x.significand := by
  unfold exponent at h
  have hne : x.exponentField ≠ 0 := by
    intro h0
    rw [h0] at h
    omega
  unfold significand
  rw [if_neg hne]
  omega

theorem two_zpow_pos (e : ℤ) : (0 : ℚ) < 2 ^ e := zpow_pos (by norm_num) e

/-- Four quarters of a unit in the last place. -/
theorem two_zpow_eq (e : ℤ) : (2 : ℚ) ^ e = 4 * 2 ^ (e - 2) := by
  rw [zpow_sub₀ (by norm_num)]
  norm_num
  ring

/-- On the grid of a number, its neighbours are a unit away. -/
theorem gap_of_exponent_le {s m : ℕ} {e e' : ℤ} (he : e ≤ e')
    (hne : (m : ℚ) * 2 ^ e' ≠ s * 2 ^ e) :
    s * 2 ^ e + 2 ^ e ≤ (m : ℚ) * 2 ^ e' ∨ (m : ℚ) * 2 ^ e' ≤ s * 2 ^ e - 2 ^ e := by
  obtain ⟨k, rfl⟩ := Int.le.dest he
  have hy : (m : ℚ) * 2 ^ (e + (k : ℤ)) = ((m * 2 ^ k : ℕ) : ℚ) * 2 ^ e := by
    rw [zpow_add₀ (by norm_num), zpow_natCast]
    push_cast
    ring
  have hp := two_zpow_pos e
  rw [hy] at hne ⊢
  have hns : m * 2 ^ k ≠ s := by
    intro h
    rw [h] at hne
    exact hne rfl
  rcases Nat.lt_or_gt_of_ne hns with h | h
  · right
    have : ((m * 2 ^ k : ℕ) : ℚ) + 1 ≤ s := by exact_mod_cast h
    nlinarith
  · left
    have : (s : ℚ) + 1 ≤ ((m * 2 ^ k : ℕ) : ℚ) := by exact_mod_cast h
    nlinarith

/-- Numbers of a smaller exponent are below the least significand of the larger one. -/
theorem candidate_le_of_exponent_lt {m : ℕ} {e e' : ℤ} (hm : m < 2 * fractionCount)
    (he : e' < e) : (m : ℚ) * 2 ^ e' ≤ fractionCount * 2 ^ e - 2 ^ e / 2 := by
  have hmono : (2 : ℚ) ^ e' ≤ 2 ^ (e - 1) := zpow_le_zpow_right₀ (by norm_num) (by omega)
  have hhalf : (2 : ℚ) ^ e = 2 * 2 ^ (e - 1) := by
    rw [zpow_sub₀ (by norm_num)]
    norm_num
    ring
  have hm' : (m : ℚ) ≤ 2 * fractionCount - 1 := by
    have : m + 1 ≤ 2 * fractionCount := hm
    have : (m : ℚ) + 1 ≤ 2 * fractionCount := by exact_mod_cast this
    linarith
  have hp := two_zpow_pos (e - 1)
  calc (m : ℚ) * 2 ^ e' ≤ (2 * fractionCount - 1) * 2 ^ (e - 1) := by
        exact mul_le_mul hm' hmono (two_zpow_pos e').le (by norm_num [fractionCount])
    _ = fractionCount * 2 ^ e - 2 ^ e / 2 := by rw [hhalf]; ring

/-- **The gap** around a number: other numbers are a unit of the last place away, or half of one
below a power of two. -/
theorem candidate_gap (x : Binary64) {y : ℚ} (hy : IsCandidate y) (hne : y ≠ x.magnitude) :
    x.magnitude + 2 ^ x.exponent ≤ y ∨ y ≤ x.magnitude - 2 ^ x.exponent ∨
      (x.significand = fractionCount ∧ y ≤ x.magnitude - 2 ^ x.exponent / 2) := by
  obtain ⟨m, e, hm, he, rfl⟩ := hy
  unfold magnitude at *
  rcases lt_or_ge e x.exponent with hlt | hge
  · have hs := fractionCount_le_significand (x := x) (by omega)
    have hle := candidate_le_of_exponent_lt hm hlt
    have hp := two_zpow_pos x.exponent
    rcases Nat.eq_or_lt_of_le hs with heq | hgt
    · refine Or.inr (Or.inr ⟨heq.symm, ?_⟩)
      rw [← heq]
      exact hle
    · refine Or.inr (Or.inl ?_)
      have : (fractionCount : ℚ) + 1 ≤ x.significand := by exact_mod_cast hgt
      nlinarith
  · rcases gap_of_exponent_le hge hne with h | h
    · exact Or.inl h
    · exact Or.inr (Or.inl h)

/-! ### The interval of a number -/

/-- How far below a number its interval reaches, in quarters of a unit. -/
def lowerQuarters (x : Binary64) : ℚ := if x.significand = fractionCount then 1 else 2

theorem lowerQuarters_le (x : Binary64) : x.lowerQuarters ≤ 2 := by
  unfold lowerQuarters
  split <;> norm_num

theorem lowerQuarters_of_eq {x : Binary64} (h : x.significand = fractionCount) :
    x.lowerQuarters = 1 := if_pos h

/-- What lies in the interval of a number rounds to it. -/
theorem nearest_of_interval {x : Binary64} {q : ℚ} (hf : x.isFinite = true)
    (hn : x.isNegative = false)
    (hlow : x.magnitude - x.lowerQuarters * 2 ^ (x.exponent - 2) ≤ q)
    (hhigh : q ≤ x.magnitude + 2 * 2 ^ (x.exponent - 2))
    (hodd : x.significand % 2 = 1 →
      x.magnitude - x.lowerQuarters * 2 ^ (x.exponent - 2) < q ∧
        q < x.magnitude + 2 * 2 ^ (x.exponent - 2)) : Nearest q x := by
  have hp := two_zpow_pos (x.exponent - 2)
  have hunit := two_zpow_eq x.exponent
  have hl : x.lowerQuarters * 2 ^ (x.exponent - 2) ≤ 2 * 2 ^ (x.exponent - 2) :=
    mul_le_mul_of_nonneg_right x.lowerQuarters_le hp.le
  have hdist : |q - x.magnitude| ≤ 2 * 2 ^ (x.exponent - 2) :=
    abs_le.mpr ⟨by linarith, by linarith⟩
  -- Half the gap on either side; the odd case keeps the ends out, where there would be a tie.
  have key : ∀ y, IsCandidate y → y ≠ x.magnitude →
      |q - x.magnitude| ≤ |q - y| ∧
        (|q - x.magnitude| = |q - y| → x.significand % 2 = 0) := by
    intro y hy hne
    rcases x.candidate_gap hy hne with hgap | hgap | ⟨hs, hgap⟩
    · have habs : |q - y| = y - q := by
        rw [abs_sub_comm]
        exact abs_of_nonneg (by linarith)
      refine ⟨by linarith, ?_⟩
      intro heq
      by_contra hne2
      obtain ⟨_, hlt⟩ := hodd (by omega)
      linarith
    · have habs : |q - y| = q - y := abs_of_nonneg (by linarith)
      refine ⟨by linarith, ?_⟩
      intro heq
      by_contra hne2
      obtain ⟨hlt, _⟩ := hodd (by omega)
      linarith
    · rw [lowerQuarters_of_eq hs] at hlow
      have habs : |q - y| = q - y := abs_of_nonneg (by linarith)
      refine ⟨?_, fun _ => by rw [hs]; rfl⟩
      rw [habs]
      exact abs_le.mpr ⟨by linarith, by linarith⟩
  refine ⟨hf, hn, ?_, fun y hy hne => (key y hy hne).2⟩
  intro y hy
  by_cases hne : y = x.magnitude
  · rw [hne]
  · exact (key y hy hne).1

/-- The only number of magnitude zero is that of zero. -/
theorem nearest_zero {x : Binary64} (hf : x.isFinite = true) (hn : x.isNegative = false)
    (h0 : x.magnitude = 0) : Nearest 0 x where
  finite := hf
  positive := hn
  le := by
    intro y _
    rw [h0, sub_zero, abs_zero]
    exact abs_nonneg _
  even := by
    intro y _ hne heq
    rw [h0] at hne heq
    rw [sub_zero, abs_zero, zero_sub, abs_neg, eq_comm, abs_eq_zero] at heq
    exact absurd heq hne

end Binary64

/-! ### Decimals that read back -/

namespace Decimal.Interval

open Binary64

/-- A quarter of a unit, as a multiple of the power of ten that an interval is scaled by. -/
theorem quarter_eq (e : ℤ) :
    ((if 2 ≤ e then Nat.pow 2 (e - 2).toNat else Nat.pow 5 (2 - e).toNat : ℕ) : ℚ) =
      2 ^ (e - 2) * 10 ^ (2 - e).toNat := by
  split
  · next h =>
      have h0 : (2 - e).toNat = 0 := by omega
      have h1 : ((e - 2).toNat : ℤ) = e - 2 := by omega
      rw [h0, pow_zero, mul_one, ← h1, zpow_natCast]
      exact_mod_cast rfl
  · next h =>
      have h1 : e - 2 = -((2 - e).toNat : ℤ) := by omega
      rw [h1, zpow_neg, zpow_natCast]
      have h10 : (10 : ℚ) ^ (2 - e).toNat = 2 ^ (2 - e).toNat * 5 ^ (2 - e).toNat := by
        rw [← mul_pow]
        norm_num
      rw [h10, ← mul_assoc, inv_mul_cancel₀ (by positivity), one_mul]
      exact_mod_cast rfl

variable {x : Binary64} {n : Nat}

theorem low_div (hs : 0 < x.significand) :
    ((ofMagnitude x.significand x.exponent).low : ℚ) / 10 ^ (2 - x.exponent).toNat =
      x.magnitude - x.lowerQuarters * 2 ^ (x.exponent - 2) := by
  have hq := quarter_eq x.exponent
  have hsub : ((4 * x.significand - if x.significand = fractionCount then 1 else 2 : ℕ) : ℚ) =
      4 * x.significand - x.lowerQuarters := by
    unfold lowerQuarters
    split
    · rw [Nat.cast_sub (by omega)]
      push_cast
      rfl
    · rw [Nat.cast_sub (by omega)]
      push_cast
      rfl
  unfold ofMagnitude magnitude
  simp only
  rw [Nat.cast_mul, hq, hsub, two_zpow_eq x.exponent]
  field_simp

theorem high_div :
    ((ofMagnitude x.significand x.exponent).high : ℚ) / 10 ^ (2 - x.exponent).toNat =
      x.magnitude + 2 * 2 ^ (x.exponent - 2) := by
  have hq := quarter_eq x.exponent
  unfold ofMagnitude magnitude
  simp only
  rw [Nat.cast_mul, hq, two_zpow_eq x.exponent]
  push_cast
  field_simp

/-- Decimals that pass the test of the search round to the number. -/
theorem nearest_of_reads (hf : x.isFinite = true) (hn : x.isNegative = false)
    (hs : 0 < x.significand) (h : (ofMagnitude x.significand x.exponent).reads n = true) :
    Nearest (n / 10 ^ (2 - x.exponent).toNat) x := by
  have hp : (0 : ℚ) < 10 ^ (2 - x.exponent).toNat := by positivity
  have hclosed : (ofMagnitude x.significand x.exponent).closed = (x.significand % 2 == 0) := rfl
  unfold reads at h
  rw [hclosed] at h
  split at h
  · next heven =>
      rw [Bool.and_eq_true, decide_eq_true_iff, decide_eq_true_iff] at h
      obtain ⟨hlow, hhigh⟩ := h
      have heven := beq_iff_eq.mp heven
      refine nearest_of_interval hf hn ?_ ?_ (by omega)
      · rw [← low_div hs]
        exact div_le_div_of_nonneg_right (by exact_mod_cast hlow) hp.le
      · rw [← high_div]
        exact div_le_div_of_nonneg_right (by exact_mod_cast hhigh) hp.le
  · rw [Bool.and_eq_true, decide_eq_true_iff, decide_eq_true_iff] at h
    obtain ⟨hlow, hhigh⟩ := h
    have hlow' : x.magnitude - x.lowerQuarters * 2 ^ (x.exponent - 2) <
        n / 10 ^ (2 - x.exponent).toNat := by
      rw [← low_div hs]
      exact div_lt_div_of_pos_right (by exact_mod_cast hlow) hp
    have hhigh' : (n : ℚ) / 10 ^ (2 - x.exponent).toNat <
        x.magnitude + 2 * 2 ^ (x.exponent - 2) := by
      rw [← high_div]
      exact div_lt_div_of_pos_right (by exact_mod_cast hhigh) hp
    exact nearest_of_interval hf hn hlow'.le hhigh'.le (fun _ => ⟨hlow', hhigh'⟩)

/-! ### The search -/

theorem reads_of_onGrid? {i : Interval} {step : Nat} (h : i.onGrid? step = some n) :
    i.reads n = true := by
  unfold onGrid? at h
  simp only at h
  split at h
  · next hb ha =>
      obtain rfl := Option.some.inj h
      split
      · exact hb
      · exact ha
  · next hb _ =>
      obtain rfl := Option.some.inj h
      exact hb
  · next _ ha =>
      obtain rfl := Option.some.inj h
      exact ha
  · cases h

theorem reads_search {i : Interval} (hv : i.reads i.value = true) (k : Nat) :
    i.reads (i.search k) = true := by
  induction k with
  | zero => exact hv
  | succ k ih =>
      unfold search
      cases h : i.onGrid? (Nat.pow 10 k) with
      | none => exact ih
      | some m => exact reads_of_onGrid? h

/-- The number itself reads back. -/
theorem reads_value (s : Nat) (e : ℤ) (hs : 0 < s) :
    (ofMagnitude s e).reads (ofMagnitude s e).value = true := by
  have hq : 0 < (if 2 ≤ e then Nat.pow 2 (e - 2).toNat else Nat.pow 5 (2 - e).toNat) := by
    split
    · exact Nat.pow_pos (by decide)
    · exact Nat.pow_pos (by decide)
  have hlow : (ofMagnitude s e).low < (ofMagnitude s e).value := by
    refine Nat.mul_lt_mul_of_pos_right ?_ hq
    split <;> omega
  have hhigh : (ofMagnitude s e).value < (ofMagnitude s e).high :=
    Nat.mul_lt_mul_of_pos_right (by omega) hq
  unfold reads
  split
  · rw [decide_eq_true hlow.le, decide_eq_true hhigh.le]
    rfl
  · rw [decide_eq_true hlow, decide_eq_true hhigh]
    rfl

end Decimal.Interval

/-! ### The text of a number -/

namespace Binary64

theorem significand_pos_iff {x : Binary64} : 0 < x.significand ↔ x.isZero = false := by
  have hc : 0 < fractionCount := by decide
  unfold significand isZero
  split
  · next h => simp [h, Nat.pos_iff_ne_zero]
  · next h => simp [h]; omega

theorem not_isNaN_of_isFinite {x : Binary64} (h : x.isFinite = true) : x.isNaN = false := by
  unfold isFinite at h
  unfold isNaN
  simp_all

theorem not_isInfinite_of_isFinite {x : Binary64} (h : x.isFinite = true) :
    x.isInfinite = false := by
  unfold isFinite at h
  unfold isInfinite
  simp_all

/-- **The text of a number** that is finite and has positive sign stands for this number. -/
theorem denotes_text {x : Binary64} (hf : x.isFinite = true) (hn : x.isNegative = false) :
    Denotes x.text x := by
  unfold text
  rw [not_isNaN_of_isFinite hf, not_isInfinite_of_isFinite hf, hn]
  cases hz : x.isZero with
  | true =>
      have hs : x.significand = 0 := by
        by_contra hne
        have := significand_pos_iff.mp (Nat.pos_of_ne_zero hne)
        rw [hz] at this
        cases this
      have hm : x.magnitude = 0 := by
        unfold magnitude
        rw [hs, Nat.cast_zero, zero_mul]
      have hw : DecimalLiteral ['0'] 0 := DecimalLiteral.whole (integerDigits_toDigits 0)
      exact ⟨0, hw, nearest_zero hf hn hm⟩
  | false =>
      have hs := significand_pos_iff.mpr hz
      have hr := Decimal.Interval.reads_search
        (Decimal.Interval.reads_value x.significand x.exponent hs)
      exact ⟨_, Decimal.literal_text _, Decimal.Interval.nearest_of_reads hf hn hs (hr _)⟩

end Binary64

end TypeProbe
