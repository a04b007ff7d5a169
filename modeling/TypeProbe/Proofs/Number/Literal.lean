import Mathlib.Algebra.Order.Ring.Rat
import Mathlib.Data.List.TakeWhile
import Mathlib.Tactic.IntervalCases
import Mathlib.Tactic.Positivity
import Mathlib.Tactic.Ring
import TypeProbe.Decimal

/-! # Decimal literals

A decimal literal (`DecimalLiteral`) is an integer part without needless leading zeros and, after
a point, any digits, possibly none; it stands for a rational number.  Exponents are left out:
numbers are never written with one.

The text of a decimal is a literal that stands for the decimal (`Decimal.literal_text`), although
the zeros at the end of its fraction are not written. -/

namespace TypeProbe

/-! ### Literals and their values -/

/-- Digits that may stand before the point. -/
structure IntegerDigits (digits : List Char) : Prop where
  ne_nil : digits ≠ []
  isDigit : ∀ c ∈ digits, c.isDigit = true
  head_ne_zero : digits ≠ ['0'] → digits.head? ≠ some '0'

/-- Digits are taken as far as they go. -/
theorem takeWhile_digits {digits : List Char} (hd : ∀ c ∈ digits, c.isDigit = true)
    (rest : List Char) (hr : rest.head?.any Char.isDigit = false) :
    (digits ++ rest).takeWhile Char.isDigit = digits ∧
      (digits ++ rest).dropWhile Char.isDigit = rest := by
  rw [List.takeWhile_append_of_pos hd, List.dropWhile_append_of_pos hd]
  cases rest with
  | nil => simp
  | cons c rest =>
      have hc : c.isDigit = false := hr
      simp [hc]

/-- The literals without exponent, with the number each stands for. -/
inductive DecimalLiteral : List Char → ℚ → Prop
  | whole {digits : List Char} :
      IntegerDigits digits → DecimalLiteral digits (Nat.ofDigitChars 10 digits 0)
  | pointed {digits fraction : List Char} :
      IntegerDigits digits → (∀ c ∈ fraction, c.isDigit = true) →
      DecimalLiteral (digits ++ '.' :: fraction)
        (Nat.ofDigitChars 10 (digits ++ fraction) 0 / 10 ^ fraction.length)

/-- A literal of digits only may be followed by a point that belongs to it. -/
theorem DecimalLiteral.point {digits : List Char} (h : IntegerDigits digits) :
    DecimalLiteral (digits ++ ['.']) (Nat.ofDigitChars 10 digits 0) := by
  have hf : ∀ c ∈ ([] : List Char), c.isDigit = true := by
    intro c hc
    cases hc
  simpa using DecimalLiteral.pointed h hf

/-! ### The digits of a natural number -/

theorem isDigit_of_mem_toDigits {n : Nat} {c : Char} (h : c ∈ Nat.toDigits 10 n) :
    c.isDigit = true :=
  Nat.isDigit_of_mem_toDigits (by decide) (by decide) h

theorem head_toDigits_ne_zero {n : Nat} (hn : 0 < n) :
    (Nat.toDigits 10 n).head? ≠ some '0' := by
  induction n using Nat.strongRecOn with
  | ind n ih =>
      rw [Nat.toDigits_eq_if (by decide)]
      split
      · next h =>
          interval_cases n <;> decide
      · next h =>
          rw [List.head?_append_of_ne_nil _ Nat.toDigits_ne_nil]
          exact ih (n / 10) (by omega) (by omega)

theorem integerDigits_toDigits (n : Nat) : IntegerDigits (Nat.toDigits 10 n) where
  ne_nil := Nat.toDigits_ne_nil
  isDigit := fun _ h => isDigit_of_mem_toDigits h
  head_ne_zero := by
    intro h
    rcases Nat.eq_zero_or_pos n with rfl | hn
    · exact absurd (Nat.toDigits_zero 10) h
    · exact head_toDigits_ne_zero hn

theorem exists_dropZeros_append (digits : List Char) :
    ∃ k, (digits.reverse.dropWhile (· == '0')).reverse ++ List.replicate k '0' = digits := by
  have hz : ∀ c ∈ digits.reverse.takeWhile (· == '0'), c = '0' := by
    intro c hc
    simpa using List.mem_takeWhile_imp hc
  obtain ⟨k, hk⟩ : ∃ k, digits.reverse.takeWhile (· == '0') = List.replicate k '0' :=
    ⟨_, List.eq_replicate_iff.mpr ⟨rfl, hz⟩⟩
  refine ⟨k, ?_⟩
  calc (digits.reverse.dropWhile (· == '0')).reverse ++ List.replicate k '0'
      = (digits.reverse.takeWhile (· == '0') ++ digits.reverse.dropWhile (· == '0')).reverse := by
        rw [List.reverse_append, hk, List.reverse_replicate]
    _ = digits := by rw [List.takeWhile_append_dropWhile, List.reverse_reverse]

/-! ### The text of a decimal -/

namespace Decimal

/-- The digits of the fractional part, those at the end that are zero included. -/
def paddedDigits (d : Decimal) : List Char :=
  let digits := Nat.toDigits 10 (d.coefficient % Nat.pow 10 d.places)
  if d.places = 0 then [] else List.replicate (d.places - digits.length) '0' ++ digits

theorem length_paddedDigits (d : Decimal) : d.paddedDigits.length = d.places := by
  unfold paddedDigits
  split
  · next h => rw [h]; rfl
  · next h =>
      have hlt : d.coefficient % 10 ^ d.places < 10 ^ d.places :=
        Nat.mod_lt _ (Nat.pow_pos (by decide))
      have hle : (Nat.toDigits 10 (d.coefficient % Nat.pow 10 d.places)).length ≤ d.places :=
        (Nat.length_toDigits_le_iff (by decide) (by omega)).mpr hlt
      rw [List.length_append, List.length_replicate]
      omega

theorem ofDigitChars_paddedDigits (d : Decimal) :
    Nat.ofDigitChars 10 d.paddedDigits 0 = d.coefficient % 10 ^ d.places := by
  unfold paddedDigits
  split
  · next h => rw [h, Nat.pow_zero, Nat.mod_one]; rfl
  · rw [Nat.ofDigitChars_append, Nat.ofDigitChars_replicate_zero, Nat.mul_zero,
      Nat.ofDigitChars_ten_toDigits]
    rfl

theorem isDigit_of_mem_paddedDigits {d : Decimal} {c : Char} (h : c ∈ d.paddedDigits) :
    c.isDigit = true := by
  unfold paddedDigits at h
  split at h
  · cases h
  · rcases List.mem_append.mp h with h | h
    · rw [List.eq_of_mem_replicate h]; decide
    · exact isDigit_of_mem_toDigits h

/-- What is written of the fraction, and the zeros that are not. -/
theorem exists_fractionDigits_append (d : Decimal) :
    ∃ k, d.fractionDigits ++ List.replicate k '0' = d.paddedDigits := by
  unfold fractionDigits paddedDigits
  split
  · exact ⟨0, rfl⟩
  · exact exists_dropZeros_append _

theorem isDigit_of_mem_fractionDigits {d : Decimal} {c : Char} (h : c ∈ d.fractionDigits) :
    c.isDigit = true := by
  obtain ⟨k, hk⟩ := d.exists_fractionDigits_append
  have hm : c ∈ d.paddedDigits := by
    rw [← hk]
    exact List.mem_append_left _ h
  exact isDigit_of_mem_paddedDigits hm

/-- Without the zeros at its end, the fraction still has the same value. -/
theorem ofDigitChars_fractionDigits (d : Decimal) :
    (Nat.ofDigitChars 10 (Nat.toDigits 10 (d.coefficient / 10 ^ d.places) ++ d.fractionDigits) 0
        : ℚ) / 10 ^ d.fractionDigits.length =
      d.coefficient / 10 ^ d.places := by
  obtain ⟨k, hk⟩ := d.exists_fractionDigits_append
  have hlen : d.places = d.fractionDigits.length + k := by
    rw [← d.length_paddedDigits, ← hk, List.length_append, List.length_replicate]
  have hval : 10 ^ k *
      Nat.ofDigitChars 10 (Nat.toDigits 10 (d.coefficient / 10 ^ d.places) ++ d.fractionDigits) 0 =
        d.coefficient := by
    rw [← Nat.ofDigitChars_replicate_zero, ← Nat.ofDigitChars_append, List.append_assoc, hk,
      Nat.ofDigitChars_append, Nat.ofDigitChars_ten_toDigits, Nat.ofDigitChars_eq_ofDigitChars_zero,
      length_paddedDigits, ofDigitChars_paddedDigits]
    exact Nat.div_add_mod _ _
  have hq : (d.coefficient : ℚ) =
      10 ^ k * Nat.ofDigitChars 10
        (Nat.toDigits 10 (d.coefficient / 10 ^ d.places) ++ d.fractionDigits) 0 := by
    exact_mod_cast hval.symm
  have hp : (10 : ℚ) ^ d.places = 10 ^ k * 10 ^ d.fractionDigits.length := by
    rw [hlen, pow_add, mul_comm]
  rw [hp, hq, mul_div_mul_left _ _ (by positivity)]

/-- **The text of a decimal** is a literal that stands for it. -/
theorem literal_text (d : Decimal) :
    DecimalLiteral d.text (d.coefficient / 10 ^ d.places) := by
  have hw := integerDigits_toDigits (d.coefficient / 10 ^ d.places)
  have hv := d.ofDigitChars_fractionDigits
  unfold text
  split
  · next h =>
      rw [← hv, h]
      simpa using DecimalLiteral.whole hw
  · next h =>
      rw [← hv]
      exact DecimalLiteral.pointed hw (fun _ hc => isDigit_of_mem_fractionDigits hc)

end Decimal

end TypeProbe
