/-! # Positions in a source file

Offsets count bytes of UTF-8 text.

* **`Loc`** is the position of a tree node: two 64-bit offsets, in whatever order the node
  carries them.  A synthesized node borrows the position of what it stands for, so a `Loc` need
  not cover any text.
* **`TextRange`** is the half-open range of a diagnostic: two 32-bit offsets.
* A `Loc` becomes a `TextRange` by clamping each offset to the largest 32-bit number
  (`Loc.range`). -/

namespace TypeProbe

/-- A half-open byte range with 32-bit offsets. -/
structure TextRange where
  start : UInt32
  stop : UInt32
deriving DecidableEq, Repr, Inhabited

/-- The position of a tree node: two 64-bit byte offsets. -/
structure Loc where
  start : UInt64
  stop : UInt64
deriving DecidableEq, Repr, Inhabited

/-- The 32-bit offset nearest to `n`: offsets that do not fit become the largest one. -/
def clampOffset (n : UInt64) : UInt32 :=
  if n.toNat ≤ 0xffffffff then n.toUInt32 else 0xffffffff

theorem toNat_clampOffset (n : UInt64) : (clampOffset n).toNat = min n.toNat 0xffffffff := by
  unfold clampOffset
  split
  · next h => rw [UInt64.toNat_toUInt32, Nat.mod_eq_of_lt (by omega)]; omega
  · next h => have : (0xffffffff : UInt32).toNat = 0xffffffff := rfl
              omega

namespace TextRange

/-- The range of `length` bytes from `start`, if its end is a 32-bit offset. -/
def ofLength? (start length : UInt32) : Option TextRange :=
  if start.toNat + length.toNat ≤ 0xffffffff then some ⟨start, start + length⟩ else none

theorem ofLength?_eq_some_iff {start length : UInt32} {r : TextRange} :
    ofLength? start length = some r ↔
      r.start = start ∧ r.stop.toNat = start.toNat + length.toNat := by
  unfold ofLength?
  split
  · next h =>
      have hs : (start + length).toNat = start.toNat + length.toNat := by
        rw [UInt32.toNat_add]; exact Nat.mod_eq_of_lt (by omega)
      constructor
      · intro hr
        obtain rfl := Option.some.inj hr
        exact ⟨rfl, hs⟩
      · rintro ⟨rfl, he⟩
        have : r.stop = r.start + length := UInt32.toNat_inj.mp (he.trans hs.symm)
        rw [← this]
  · next h =>
      constructor
      · intro hr; cases hr
      · rintro ⟨_, he⟩
        have := r.stop.toNat_lt
        omega

/-- The number of bytes, zero for a reversed range. -/
def length (r : TextRange) : UInt32 :=
  if r.start ≤ r.stop then r.stop - r.start else 0

/-- A range is empty when it holds no byte, reversed ranges included. -/
def isEmpty (r : TextRange) : Bool := r.stop ≤ r.start

/-- Whether `inner` lies within the bounds of `outer`, either end included. -/
def covers (outer inner : TextRange) : Bool :=
  outer.start ≤ inner.start && inner.stop ≤ outer.stop

/-- The same offsets as a node position. -/
def loc (r : TextRange) : Loc := ⟨r.start.toUInt64, r.stop.toUInt64⟩

end TextRange

namespace Loc

/-- The start as a 32-bit offset. -/
def start32 (l : Loc) : UInt32 := clampOffset l.start

/-- The end as a 32-bit offset. -/
def stop32 (l : Loc) : UInt32 := clampOffset l.stop

/-- The position with both offsets clamped to 32 bits. -/
def range (l : Loc) : TextRange := ⟨l.start32, l.stop32⟩

/-- The number of bytes, zero for a reversed position. -/
def length (l : Loc) : UInt64 :=
  if l.start ≤ l.stop then l.stop - l.start else 0

/-- A position is empty when it covers no byte, reversed positions included. -/
def isEmpty (l : Loc) : Bool := l.stop ≤ l.start

/-- The least position that covers both: the smaller start and the larger end. -/
def union (a b : Loc) : Loc := ⟨min a.start b.start, max a.stop b.stop⟩

/-- The position as error messages show it. -/
def text (l : Loc) : String := s!"Loc({l.start.toNat}, {l.stop.toNat})"

end Loc

end TypeProbe
