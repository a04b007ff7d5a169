import TypeProbe.Diagnostic
import TypeProbe.Tree

/-! # Regions

The region of a probe is the byte range of its body.  A diagnostic belongs to the probe when it
lies in the region as a whole, either end included; one that straddles an end, or has no usable
position, does not (`Region.holds`).  The parameter list of the probed function and the
parentheses of the call are outside. -/

namespace TypeProbe

/-- A range of bytes whose end is not before its start. -/
structure Region where
  start : UInt32
  stop : UInt32
  start_le_stop : start ≤ stop
deriving DecidableEq, Repr

namespace Region

/-- The region between two offsets; an end before the start gives the empty region at the
start. -/
def ofBounds (start stop : UInt32) : Region :=
  if h : start ≤ stop then ⟨start, stop, h⟩ else ⟨start, start, UInt32.le_refl start⟩

theorem start_ofBounds (start stop : UInt32) : (ofBounds start stop).start = start := by
  unfold ofBounds; split <;> rfl

theorem toNat_stop_ofBounds (start stop : UInt32) :
    (ofBounds start stop).stop.toNat = max start.toNat stop.toNat := by
  unfold ofBounds
  split
  · next h => rw [Nat.max_eq_right (UInt32.le_iff_toNat_le.mp h)]
  · next h =>
      rw [UInt32.le_iff_toNat_le, Nat.not_le] at h
      exact (Nat.max_eq_left (Nat.le_of_lt h)).symm

/-- The region of a function body, its offsets clamped to 32 bits. -/
def ofBody (body : Body) : Region := ofBounds body.loc.start32 body.loc.stop32

def range (r : Region) : TextRange := ⟨r.start, r.stop⟩

/-- Whether the region holds all of a range. -/
def contains (r : Region) (range : TextRange) : Bool := r.range.covers range

/-- Whether a diagnostic belongs to the region. -/
def holds (r : Region) (d : Diagnostic) : Bool := d.range?.any r.contains

theorem holds_iff {r : Region} {d : Diagnostic} :
    r.holds d = true ↔ ∃ range, d.range? = some range ∧ r.contains range = true := by
  simp [holds, Option.any_eq_true]

end Region

end TypeProbe
