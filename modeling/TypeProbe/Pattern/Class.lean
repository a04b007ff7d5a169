import TypeProbe.Pattern.Escape

/-! # Character classes

Sets of characters between brackets, as in `[^a-z\d[:punct:]&&[^_]]`.

* Classes nest, and `&&`, `--` and `~~` combine what stands on their two sides.
* A closing bracket right after the opening one, and hyphens there, are characters like others;
  so is a hyphen in front of the closing bracket.
* When case is ignored, a class is closed under change of case before it is negated, and so are
  both sides of an operator. -/

namespace TypeProbe.Pattern

/-- Operators between sets. -/
inductive SetOperator where
  | intersection
  | difference
  | exclusion
deriving DecidableEq, Repr

/-- The set that an operator makes of two. -/
def SetOperator.apply (a b : CharSet) : SetOperator → CharSet
  | intersection => fun c => a c && b c
  | difference => fun c => a c && !b c
  | exclusion => fun c => a c != b c

/-- A class whose closing bracket has not been read. -/
structure OpenClass where
  negated : Bool
  /-- What stands on the left of an operator. -/
  left : Option (CharSet × SetOperator)
  /-- What has been read since the opening bracket or the last operator. -/
  items : CharSet
  /-- How deep the classes inside nest. -/
  depth : Nat

namespace OpenClass

def add (k : OpenClass) (set : CharSet) : OpenClass := { k with items := k.items.union set }

/-- The set read so far, operators applied. -/
def combined (f : Flags) (k : OpenClass) : CharSet :=
  match k.left with
  | none => k.items
  | some (left, op) => op.apply (f.close left) (f.close k.items)

/-- Reads an operator. -/
def operate (f : Flags) (k : OpenClass) (op : SetOperator) : OpenClass :=
  { k with left := some (k.combined f, op), items := .empty }

/-- The set of the whole class. -/
def result (f : Flags) (k : OpenClass) : CharSet :=
  let closed := f.close (k.combined f)
  if k.negated then .complement closed else closed

end OpenClass

/-- Adds the hyphens that follow an opening bracket. -/
def leadingHyphens (verbose : Bool) (k : OpenClass) (s : List Char) : OpenClass × List Char :=
  let (hyphens, rest) := takeAll verbose (· == '-') s
  (if hyphens.isEmpty then k else k.add (.single '-'), rest)

/-- Opens a class, after its opening bracket. -/
def openClass (verbose : Bool) (s : List Char) : OpenClass × List Char :=
  let s := skipBlanks verbose s
  let (negated, s) := match s with
    | '^' :: s => (true, s)
    | _ => (false, s)
  match leadingHyphens verbose ⟨negated, none, .empty, 0⟩ s, skipBlanks verbose s with
  | (k, _), ']' :: s => (k.add (.single ']'), s)
  | (k, rest), _ => (k, rest)

/-- A named set `[:alpha:]` or its complement `[:^alpha:]`, after the opening bracket. -/
def namedSet? (f : Flags) : List Char → Option (CharSet × List Char)
  | ':' :: s =>
    let (negated, s) := match s with
      | '^' :: s => (true, s)
      | _ => (false, s)
    match s.takeWhile (· != ':'), s.dropWhile (· != ':') with
    | name, ':' :: ']' :: rest =>
        (CharSet.ofName? (String.ofList name)).map fun set =>
          (if negated then .complement (f.close set) else f.close set, rest)
    | _, _ => none
  | _ => none

/-- An item of a class: a character or an escape. -/
def classItem? (verbose : Bool) : List Char → Option (Escape × List Char)
  | [] => none
  | '\\' :: s => escape? verbose s
  | c :: s => some (.literal c, s)

/-- An item of a class, or a range of characters. -/
def classRange? (verbose : Bool) (s : List Char) : Option (CharSet × List Char) := do
  let (first, s) ← classItem? verbose s
  let alone (s : List Char) : Option (CharSet × List Char) :=
    match first with
    | .literal c => some (.single c, s)
    | .set set => some (set, s)
    | .assertion _ => none
  match skipBlanks verbose s with
  | [] => none
  | '-' :: rest =>
      match skipBlanks verbose rest with
      | [] => none
      | ']' :: _ | '-' :: _ => alone ('-' :: rest)
      | after => do
          let (last, rest) ← classItem? verbose after
          match first, last with
          | .literal a, .literal b => if a ≤ b then some (.range a b, rest) else none
          | _, _ => none
  | rest => alone rest

/-- What reading a part of a class leads to. -/
inductive ClassStep where
  /-- Classes are still open, innermost first. -/
  | inside (top : OpenClass) (outer : List OpenClass)
  /-- The outermost class is closed; classes nest so deep in it. -/
  | closed (set : CharSet) (depth : Nat)

/-- Closes the innermost class. -/
def closeClass (f : Flags) (top : OpenClass) : List OpenClass → ClassStep
  | [] => .closed (top.result f) (top.depth + 1)
  | k :: outer =>
      .inside { k.add (top.result f) with depth := max k.depth (top.depth + 1) } outer

/-- Reads a part of a class. -/
def classStep (f : Flags) (top : OpenClass) (outer : List OpenClass) (s : List Char) :
    Option (ClassStep × List Char) :=
  match skipBlanks f.verbose s with
  | [] => none
  | '[' :: s =>
      match namedSet? f s with
      | some (set, rest) => some (.inside (top.add set) outer, rest)
      | none =>
          let (inner, rest) := openClass f.verbose s
          some (.inside inner (top :: outer), rest)
  | ']' :: s => some (closeClass f top outer, s)
  | '&' :: '&' :: s => some (.inside (top.operate f .intersection) outer, s)
  | '-' :: '-' :: s => some (.inside (top.operate f .difference) outer, s)
  | '~' :: '~' :: s => some (.inside (top.operate f .exclusion) outer, s)
  | s => (classRange? f.verbose s).map fun (set, rest) => (.inside (top.add set) outer, rest)

/-- Reads the rest of a class: its set, how deep it nests, and what follows it. -/
def classRest? (f : Flags) (top : OpenClass) (outer : List OpenClass) (s : List Char) :
    Option (CharSet × Nat × List Char) :=
  match classStep f top outer s with
  | some (.closed set depth, rest) => some (set, depth, rest)
  | some (.inside top outer, rest) =>
      if rest.length < s.length then classRest? f top outer rest else none
  | none => none
termination_by s.length

/-- Reads a class, after its opening bracket. -/
def class? (f : Flags) (s : List Char) : Option (CharSet × Nat × List Char) :=
  let (top, rest) := openClass f.verbose s
  classRest? f top [] rest

end TypeProbe.Pattern
