import TypeProbe.Pattern.Flags

/-! # Escapes in patterns

What a backslash and the characters after it stand for.  With the flag `x` set, blanks and
comments may stand between any two characters of an escape. -/

namespace TypeProbe.Pattern

/-- Skips blanks and comments if `verbose` is set; a comment goes from `#` to the end of the
line. -/
def skipBlanks (verbose : Bool) (s : List Char) : List Char :=
  if verbose then skip false s else s
where
  skip : (comment : Bool) → List Char → List Char
    | _, [] => []
    | true, c :: s => skip (c != '\n') s
    | false, c :: s =>
      if Character.isSpace c then skip false s
      else if c == '#' then skip true s
      else c :: s

/-- Takes at most `limit` characters of a set, skipping blanks and comments in front of each. -/
def takeSet (verbose : Bool) (set : CharSet) :
    (limit : Nat) → List Char → List Char × List Char
  | 0, s => ([], s)
  | limit + 1, s =>
    match skipBlanks verbose s with
    | [] => ([], [])
    | c :: s =>
      if set c then
        let (taken, rest) := takeSet verbose set limit s
        (c :: taken, rest)
      else ([], c :: s)

/-- Takes all leading characters of a set, skipping blanks and comments in front of each and
behind the last. -/
def takeAll (verbose : Bool) (set : CharSet) (s : List Char) : List Char × List Char :=
  takeSet verbose set (s.length + 1) s

/-- What an escape stands for. -/
inductive Escape where
  | literal (c : Char)
  | set (set : CharSet)
  | assertion (condition : Assertion)

/-! ### Characters by number -/

/-- The value of a hexadecimal digit. -/
def hexValue (c : Char) : Nat :=
  if c.isDigit then c.toNat - '0'.toNat
  else if c.isLower then c.toNat - 'a'.toNat + 10
  else c.toNat - 'A'.toNat + 10

/-- Whether a character is a hexadecimal digit. -/
def isHex (c : Char) : Bool := c.isDigit || ('a' ≤ c && c ≤ 'f') || ('A' ≤ c && c ≤ 'F')

/-- The character with a number, if there is one. -/
def charOfHex? (digits : List Char) : Option Char :=
  let n := digits.foldl (fun n c => 16 * n + hexValue c) 0
  if n.isValidChar then some (Char.ofNat n) else none

/-- A character by its number: `count` digits, or any number of digits in braces. -/
def hexEscape? (verbose : Bool) (count : Nat) (s : List Char) : Option (Char × List Char) :=
  match skipBlanks verbose s with
  | '\x7b' :: s =>
      match takeAll verbose isHex s with
      | (digits, '\x7d' :: rest) =>
          if digits.isEmpty then none else (charOfHex? digits).map (·, rest)
      | _ => none
  | s =>
      let (digits, rest) := takeSet verbose isHex count s
      if digits.length = count then (charOfHex? digits).map (·, rest) else none

/-! ### Word boundaries -/

/-- The boundary that a name in braces stands for. -/
def boundaryOfName? (name : List Char) : Option Assertion :=
  match String.ofList name with
  | "start" => some .wordStart
  | "end" => some .wordEnd
  | "start-half" => some .wordStartHalf
  | "end-half" => some .wordEndHalf
  | _ => none

/-- The boundary after `\b`.  Braces hold the name of a boundary when they start with a letter
or a hyphen; otherwise they are a repetition, and not part of the escape. -/
def boundary? (verbose : Bool) (s : List Char) : Option (Assertion × List Char) :=
  match s with
  | '\x7b' :: inside =>
      match takeAll verbose (fun c => c.isAlpha || c == '-') inside with
      | ([], []) => none
      | ([], _) => some (.wordBoundary, s)
      | (name, '\x7d' :: rest) => (boundaryOfName? name).map (·, rest)
      | _ => none
  | _ => some (.wordBoundary, s)

/-! ### Escapes -/

/-- The control character that a letter stands for. -/
def controlOf? : Char → Option Char
  | 'a' => some '\x07'
  | 'f' => some '\x0c'
  | 't' => some '\t'
  | 'n' => some '\n'
  | 'r' => some '\r'
  | 'v' => some '\x0b'
  | _ => none

/-- The condition that a character stands for. -/
def assertionOf? : Char → Option Assertion
  | 'A' => some .textStart
  | 'z' => some .textEnd
  | 'B' => some .noWordBoundary
  | '<' => some .wordStart
  | '>' => some .wordEnd
  | _ => none

/-- How many digits follow a letter that announces the number of a character. -/
def hexCount? : Char → Option Nat
  | 'x' => some 2
  | 'u' => some 4
  | 'U' => some 8
  | _ => none

/-- The escape after a backslash.  ASCII characters that are neither letters nor digits stand
for themselves. -/
def escape? (verbose : Bool) : List Char → Option (Escape × List Char)
  | [] => none
  | c :: s =>
    if let some count := hexCount? c then
      (hexEscape? verbose count s).map fun (c, rest) => (.literal c, rest)
    else if let some set := CharSet.ofLetter? c then some (.set set, s)
    else if let some control := controlOf? c then some (.literal control, s)
    else if let some condition := assertionOf? c then some (.assertion condition, s)
    else if c == 'b' then
      (boundary? verbose s).map fun (condition, rest) => (.assertion condition, rest)
    else if c.toNat < 0x80 && !c.isAlphanum then some (.literal c, s)
    else none

end TypeProbe.Pattern
