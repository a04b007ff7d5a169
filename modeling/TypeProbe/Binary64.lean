/-! # Double-precision numbers

A number literal holds an IEEE 754 binary64 number.  It is kept as its bit pattern, so that
equality of literals is equality of bits and every question about a value is settled in exact
integer arithmetic.

A finite number has the magnitude `significand * 2 ^ exponent`. -/

namespace TypeProbe

/-- A binary64 number, as its bit pattern. -/
structure Binary64 where
  bits : UInt64
deriving DecidableEq, Repr, Inhabited

namespace Binary64

/-- The number zero with positive sign. -/
def zero : Binary64 := ⟨0⟩

/-- How many values the fifty-two bits of the fraction have. -/
def fractionCount : Nat := 0x10000000000000

/-- Whether the sign bit is set. -/
def isNegative (x : Binary64) : Bool := 0x8000000000000000 ≤ x.bits.toNat

/-- The biased exponent, eleven bits. -/
def exponentField (x : Binary64) : Nat := x.bits.toNat / fractionCount % 0x800

/-- The fraction, fifty-two bits. -/
def fractionField (x : Binary64) : Nat := x.bits.toNat % fractionCount

/-- Whether the value is no number at all. -/
def isNaN (x : Binary64) : Bool := x.exponentField == 2047 && x.fractionField != 0

/-- Whether the value is one of the two infinities. -/
def isInfinite (x : Binary64) : Bool := x.exponentField == 2047 && x.fractionField == 0

/-- Whether the value is neither an infinity nor without value. -/
def isFinite (x : Binary64) : Bool := x.exponentField != 2047

/-- Whether the value is zero, of either sign. -/
def isZero (x : Binary64) : Bool := x.exponentField == 0 && x.fractionField == 0

/-- The integer significand of a finite number; the leading bit is implicit unless the biased
exponent is zero. -/
def significand (x : Binary64) : Nat :=
  if x.exponentField = 0 then x.fractionField else fractionCount + x.fractionField

/-- The power of two that the significand of a finite number is scaled by. -/
def exponent (x : Binary64) : Int := (max x.exponentField 1 : Nat) - 1075

/-- The magnitude of a finite number, rounded down to an integer. -/
def floorMagnitude (x : Binary64) : Nat :=
  x.significand * Nat.pow 2 x.exponent.toNat / Nat.pow 2 (-x.exponent).toNat

/-- Whether a number is finite and has no fractional part. -/
def isIntegral (x : Binary64) : Bool :=
  x.isFinite && x.significand * Nat.pow 2 x.exponent.toNat % Nat.pow 2 (-x.exponent).toNat == 0

/-- The value as a natural number, if it is one; zero of either sign is. -/
def toNat? (x : Binary64) : Option Nat :=
  if x.isIntegral && (!x.isNegative || x.isZero) then some x.floorMagnitude else none

end Binary64

end TypeProbe
