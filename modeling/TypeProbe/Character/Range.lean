/-! # Ranges of characters -/

namespace TypeProbe.Character

/-- The first and the last code point of a range of characters. -/
abbrev Range := Nat × Nat

/-- Whether a character lies in one of the ranges. -/
def inRanges (ranges : List Range) (c : Char) : Bool :=
  ranges.any fun (first, last) => first ≤ c.toNat && c.toNat ≤ last

end TypeProbe.Character
