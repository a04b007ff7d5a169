import TypeProbe.Binary64

/-! # Shortest decimals

A finite binary64 number is written with the fewest decimal digits that read back as the same
number; among the decimals of that length the one nearest to the number is taken, and of two
equally near ones the larger.

* **Scale.** Numbers are compared as integers: `Interval.ofMagnitude` gives the number and the
  two ends of the interval of reals that round to it as multiples of the same power of ten.
  Every binary fraction is a decimal fraction, so this is exact.
* **Search.** `Interval.shortest` goes from coarse decimal grids to fine ones.  A number has two
  neighbours on a grid, and if any point of the grid reads back as the number, one of them does.
* **Text.** `Decimal.text` writes a decimal in positional notation, never with an exponent. -/

namespace TypeProbe

/-- The number `coefficient / 10 ^ places`. -/
structure Decimal where
  coefficient : Nat
  places : Nat
deriving DecidableEq, Repr

namespace Decimal

/-- The digits of the fractional part, without trailing zeros. -/
def fractionDigits (d : Decimal) : List Char :=
  let digits := Nat.toDigits 10 (d.coefficient % Nat.pow 10 d.places)
  let padded := List.replicate (d.places - digits.length) '0' ++ digits
  if d.places = 0 then [] else (padded.reverse.dropWhile (· == '0')).reverse

/-- Positional notation: the integer part, and the fractional part after a point if there is
one. -/
def text (d : Decimal) : List Char :=
  let whole := Nat.toDigits 10 (d.coefficient / Nat.pow 10 d.places)
  match d.fractionDigits with
  | [] => whole
  | digits => whole ++ '.' :: digits

/-- A positive number between the ends of its rounding interval, all as multiples of
`10 ^ -places`. -/
structure Interval where
  low : Nat
  value : Nat
  high : Nat
  closed : Bool
  places : Nat
deriving Repr

namespace Interval

/-- The rounding interval of `significand * 2 ^ exponent`, in quarters of the last binary place:
half a place up, and half a place down or, below a power of two, a quarter.  The ends round to
the number when the significand is even. -/
def ofMagnitude (significand : Nat) (exponent : Int) : Interval :=
  let places := (2 - exponent).toNat
  let quarter := if 2 ≤ exponent then Nat.pow 2 (exponent - 2).toNat else Nat.pow 5 places
  { low := (4 * significand - if significand = Binary64.fractionCount then 1 else 2) * quarter
    value := 4 * significand * quarter
    high := (4 * significand + 2) * quarter
    closed := significand % 2 == 0
    places }

/-- Whether a multiple of `10 ^ -places` reads back as the number. -/
def reads (i : Interval) (n : Nat) : Bool :=
  if i.closed then i.low ≤ n && n ≤ i.high else i.low < n && n < i.high

/-- The multiple of `step` nearest to the number among its two neighbours that read back. -/
def onGrid? (i : Interval) (step : Nat) : Option Nat :=
  let below := i.value / step * step
  let above := below + step
  match i.reads below, i.reads above with
  | true, true => some (if i.value - below < above - i.value then below else above)
  | true, false => some below
  | false, true => some above
  | false, false => none

/-- Looks on the grids `10 ^ (n - 1)`, …, `10`, `1` for a decimal that reads back; the number
itself lies on the last one. -/
def search (i : Interval) : Nat → Nat
  | 0 => i.value
  | n + 1 => (i.onGrid? (Nat.pow 10 n)).getD (i.search n)

/-- The shortest decimal that reads back as the number. -/
def shortest (i : Interval) : Decimal :=
  ⟨i.search (Nat.toDigits 10 i.value).length, i.places⟩

end Interval

end Decimal

namespace Binary64

/-- The shortest decimal of the magnitude of a finite number other than zero. -/
def shortest (x : Binary64) : Decimal :=
  (Decimal.Interval.ofMagnitude x.significand x.exponent).shortest

/-- The number as a literal of program text.  Zero loses its sign. -/
def text (x : Binary64) : List Char :=
  if x.isNaN then "NaN".toList
  else
    let magnitude :=
      if x.isInfinite then "Infinity".toList
      else if x.isZero then ['0']
      else x.shortest.text
    if x.isNegative && !x.isZero then '-' :: magnitude else magnitude

end Binary64

end TypeProbe
