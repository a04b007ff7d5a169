/-! # JSON values

Values of strict JSON, kept as they were written as far as a reader may care.

* A **number** keeps its digits.  `Number.toNat?` reads the ones written as a plain integer, and
  `Number.isTooLarge` says which ones no binary64 number holds.
* A **text** is missing when it escapes half of a surrogate pair, which no text can hold.
* The **fields** of an object stay in order, repeated ones included. -/

namespace TypeProbe

/-- A number: digits before the point, digits after it, and a power of ten. -/
structure Json.Number where
  negative : Bool
  whole : List Nat
  fraction : Option (List Nat)
  exponent : Option Int
deriving DecidableEq, Repr

inductive Json where
  | null
  | boolean (value : Bool)
  | number (value : Json.Number)
  | string (value : Option String)
  | array (items : List Json)
  | object (fields : List (Option String × Json))

namespace Json.Number

/-- The natural number that digits write. -/
def ofDigits (digits : List Nat) : Nat := digits.foldl (fun n d => 10 * n + d) 0

/-- The value of a number that is written with digits only. -/
def toNat? (x : Number) : Option Nat :=
  if x.negative || x.fraction.isSome || x.exponent.isSome then none else some (ofDigits x.whole)

/-! ### Size

A reader with 64-bit words takes in the leading digits of a number as long as they fit, rounds
what it has to 53 bits, and multiplies by a power of ten that is rounded likewise. -/

/-- The nearest number with 53 significant bits; a tie goes to the even one. -/
def round53 (n : Nat) : Nat :=
  let shift := n.log2 + 1 - 53
  let unit := Nat.pow 2 shift
  let low := n % unit
  let high := n / unit
  let up := unit < 2 * low || (unit == 2 * low && high % 2 == 1)
  (if up then high + 1 else high) * unit

/-- Leading digits that fit in 64 bits, and how many digits were left over. -/
structure Prefixed where
  value : Nat
  left : Nat

/-- Takes in a digit, unless an earlier one of this run did not fit. -/
def Prefixed.digit (p : Prefixed) (d : Nat) : Prefixed :=
  if p.left == 0 && 10 * p.value + d < 0x10000000000000000 then { p with value := 10 * p.value + d }
  else { p with left := p.left + 1 }

/-- The leading digits, and the power of ten that goes with them. -/
def leading (x : Number) : Nat × Int :=
  let whole := x.whole.foldl Prefixed.digit ⟨0, 0⟩
  let fraction := x.fraction.getD []
  let all := fraction.foldl Prefixed.digit ⟨whole.value, 0⟩
  let taken := fraction.length - all.left
  (all.value, whole.left - taken + x.exponent.getD 0)

/-- The least magnitude that no binary64 number is near enough to. -/
def roundsToInfinity : Nat := Nat.pow 2 1024 - Nat.pow 2 970

/-- Whether the number is too large for a binary64 number. -/
def isTooLarge (x : Number) : Bool :=
  let (value, exponent) := x.leading
  if value = 0 then false
  else if exponent > 308 then true
  else roundsToInfinity ≤ round53 value * round53 (Nat.pow 10 exponent.toNat)

end Json.Number

namespace Json

mutual

/-- Whether a value nests at most `levels` arrays and objects, and holds only numbers that a
binary64 number holds and texts that are texts. -/
def isKept (levels : Nat) : Json → Bool
  | null | boolean _ => true
  | number x => !x.isTooLarge
  | string s => s.isSome
  | array items => 0 < levels && itemsKept (levels - 1) items
  | object fields => 0 < levels && fieldsKept (levels - 1) fields

/-- Whether all items of an array are kept. -/
def itemsKept (levels : Nat) : List Json → Bool
  | [] => true
  | j :: rest => j.isKept levels && itemsKept levels rest

/-- Whether all fields of an object are kept. -/
def fieldsKept (levels : Nat) : List (Option String × Json) → Bool
  | [] => true
  | (key, j) :: rest => key.isSome && j.isKept levels && fieldsKept levels rest

end

/-- The value of a field: `none` if the field is repeated, `some none` if it is missing. -/
def field? (fields : List (Option String × Json)) (name : String) : Option (Option Json) :=
  match fields.filter (·.1 == some name) with
  | [] => some none
  | [(_, j)] => some (some j)
  | _ => none

/-- The fields of a record, in the order of `names`: missing ones are `none`.  A record is an
object in which none of the names is repeated, or an array of the leading fields in order. -/
def record? (names : List String) : Json → Option (List (Option Json))
  | object fields => if fields.all (·.1.isSome) then names.mapM (field? fields) else none
  | array items =>
      if items.length ≤ names.length then
        some (items.map some ++ List.replicate (names.length - items.length) none)
      else none
  | _ => none

end Json

end TypeProbe
