import TypeProbe.Character.Word

/-! # Matching patterns

What a pattern matches in a text, as a function on sets of positions: `Node.advance` takes the
positions at which a match of the node may start to those at which it may end.  A text of `n`
characters has `n + 1` positions, and a set of positions is a list of as many marks.

Repetition iterates that function.  A set of positions changes at most `n + 1` times under it
before it stays the same, so neither counts nor unbounded repetition need more steps. -/

namespace TypeProbe.Pattern

/-- A set of characters. -/
abbrev CharSet := Char → Bool

/-- Conditions on a position. -/
inductive Assertion where
  | textStart
  | textEnd
  | lineStart
  | lineEnd
  /-- The start of a line, where a carriage return with or without a line feed ends lines. -/
  | lineStartCR
  /-- The end of a line, where a carriage return with or without a line feed ends lines. -/
  | lineEndCR
  | wordBoundary
  | noWordBoundary
  | wordStart
  | wordEnd
  | wordStartHalf
  | wordEndHalf
deriving DecidableEq, Repr

/-- What pattern texts stand for. -/
inductive Node where
  | empty
  | chars (set : CharSet)
  | assertion (condition : Assertion)
  | concat (first second : Node)
  | either (first second : Node)
  /-- At least `least` times, and at most `most` times if there is a limit. -/
  | repeated (node : Node) (least : Nat) (most : Option Nat)

/-! ### Positions -/

/-- What stands before a position and what stands after it. -/
structure Surroundings where
  before : Option Char
  after : Option Char

/-- The surroundings of all positions of a text that follows the character `before`. -/
def surroundings (before : Option Char) : List Char → List Surroundings
  | [] => [⟨before, none⟩]
  | c :: s => ⟨before, some c⟩ :: surroundings (some c) s

/-- Whether a word character stands there. -/
def isWordAt (c : Option Char) : Bool := c.any Character.isWord

/-- Whether a condition holds at a position. -/
def Assertion.holds (here : Surroundings) : Assertion → Bool
  | textStart => here.before.isNone
  | textEnd => here.after.isNone
  | lineStart => here.before.all (· == '\n')
  | lineEnd => here.after.all (· == '\n')
  | lineStartCR =>
      here.before.all fun c => c == '\n' || (c == '\r' && here.after != some '\n')
  | lineEndCR =>
      here.after.all fun c => c == '\r' || (c == '\n' && here.before != some '\r')
  | wordBoundary => isWordAt here.before != isWordAt here.after
  | noWordBoundary => isWordAt here.before == isWordAt here.after
  | wordStart => !isWordAt here.before && isWordAt here.after
  | wordEnd => isWordAt here.before && !isWordAt here.after
  | wordStartHalf => !isWordAt here.before
  | wordEndHalf => !isWordAt here.after

/-! ### Matching -/

/-- Marks for the positions of a text: which of them belong to a set. -/
abbrev Marks := List Bool

/-- The positions that are in either set. -/
def Marks.union (a b : Marks) : Marks := List.zipWith (· || ·) a b

/-- Applies a function on sets `count` times, or until the set stays the same. -/
def iterate (f : Marks → Marks) : (count : Nat) → Marks → Marks
  | 0, marks => marks
  | count + 1, marks =>
    let next := f marks
    if next = marks then marks else iterate f count next

/-- The positions at which a match may end, of those at which it may start. -/
def Node.advance (text : List Char) : Node → Marks → Marks
  | empty, marks => marks
  | chars set, marks => false :: List.zipWith (fun mark c => mark && set c) marks text
  | assertion condition, marks =>
      List.zipWith (fun mark here => mark && condition.holds here) marks (surroundings none text)
  | concat first second, marks => second.advance text (first.advance text marks)
  | either first second, marks => (first.advance text marks).union (second.advance text marks)
  | repeated node least most, marks =>
      let bound := text.length + 1
      let started := iterate (node.advance text) (min least bound) marks
      let further := match most with
        | none => bound
        | some most => min (most - least) bound
      iterate (fun m => m.union (node.advance text m)) further started

/-- Whether the node matches some part of a text. -/
def Node.occursIn (text : List Char) (node : Node) : Bool :=
  (node.advance text (List.replicate (text.length + 1) true)).any id

/-! ### Size -/

/-- A lower bound for the number of character tests that the node amounts to when repetitions
are written out. -/
def Node.size : Node → Nat
  | empty | assertion _ => 0
  | chars _ => 1
  | concat first second => first.size + second.size
  | either first second => max first.size second.size
  | repeated node least none => max least 1 * node.size
  | repeated node _ (some most) => most * node.size

end TypeProbe.Pattern
