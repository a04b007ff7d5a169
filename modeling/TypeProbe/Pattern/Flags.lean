import TypeProbe.Character.Digit
import TypeProbe.Character.Fold
import TypeProbe.Character.Space
import TypeProbe.Pattern.Node

/-! # Flags and sets of characters

How flags change what the parts of a pattern stand for, and the sets of characters that have a
name. -/

namespace TypeProbe.Pattern

/-- The flags of a pattern, or of a part of it. -/
structure Flags where
  /-- `i`: letters match in either case. -/
  ignoreCase : Bool
  /-- `m`: `^` and `$` match at the ends of lines. -/
  multiLine : Bool
  /-- `s`: the dot matches line feeds too. -/
  dotAll : Bool
  /-- `x`: blanks and comments in the pattern are skipped. -/
  verbose : Bool
  /-- `R`: a carriage return ends lines too. -/
  carriageReturn : Bool
deriving DecidableEq, Repr

namespace Flags

def none : Flags := ⟨false, false, false, false, false⟩

/-- Turns the flag with a letter on or off.  `U` and `u` choose among equal matches and the
alphabet, which decides nothing here; without the alphabet of all characters a pattern could
match parts of characters, so that `u` stays on. -/
def set? (f : Flags) (on : Bool) : Char → Option Flags
  | 'i' => some { f with ignoreCase := on }
  | 'm' => some { f with multiLine := on }
  | 's' => some { f with dotAll := on }
  | 'x' => some { f with verbose := on }
  | 'R' => some { f with carriageReturn := on }
  | 'U' => some f
  | 'u' => if on then some f else Option.none
  | _ => Option.none

/-- The characters that the dot matches. -/
def dot (f : Flags) : CharSet := fun c =>
  f.dotAll || (c != '\n' && !(f.carriageReturn && c == '\r'))

/-- What `^` asserts. -/
def start (f : Flags) : Assertion :=
  if !f.multiLine then .textStart else if f.carriageReturn then .lineStartCR else .lineStart

/-- What `$` asserts. -/
def stop (f : Flags) : Assertion :=
  if !f.multiLine then .textEnd else if f.carriageReturn then .lineEndCR else .lineEnd

/-- A set with the letters that differ from its letters in case only, if case is ignored. -/
def close (f : Flags) (set : CharSet) : CharSet :=
  if f.ignoreCase then fun c => (Character.caseVariants c).any set else set

end Flags

namespace CharSet

def single (c : Char) : CharSet := (· == c)

/-- The characters from `first` to `last`. -/
def range (first last : Char) : CharSet := fun c => first ≤ c && c ≤ last

/-- The characters that are in no set. -/
def empty : CharSet := fun _ => false

/-- The characters that are in either set. -/
def union (a b : CharSet) : CharSet := fun c => a c || b c

/-- The characters that are not in a set. -/
def complement (a : CharSet) : CharSet := fun c => !a c

/-- The set that a letter stands for after a backslash: digits, white space, word characters,
and with a capital letter all others. -/
def ofLetter? : Char → Option CharSet
  | 'd' => some Character.isDigit
  | 's' => some Character.isSpace
  | 'w' => some Character.isWord
  | 'D' => some (complement Character.isDigit)
  | 'S' => some (complement Character.isSpace)
  | 'W' => some (complement Character.isWord)
  | _ => none

/-- Whether a character is visible ASCII. -/
def isGraph (c : Char) : Bool := 0x21 ≤ c.toNat && c.toNat ≤ 0x7e

/-- The sets of ASCII characters that have a name. -/
def ofName? : String → Option CharSet
  | "alnum" => some Char.isAlphanum
  | "alpha" => some Char.isAlpha
  | "ascii" => some (·.toNat < 0x80)
  | "blank" => some fun c => c == ' ' || c == '\t'
  | "cntrl" => some fun c => c.toNat < 0x20 || c.toNat == 0x7f
  | "digit" => some Char.isDigit
  | "graph" => some isGraph
  | "lower" => some Char.isLower
  | "print" => some fun c => c == ' ' || isGraph c
  | "punct" => some fun c => isGraph c && !c.isAlphanum
  | "space" => some fun c => c == ' ' || (9 ≤ c.toNat && c.toNat ≤ 13)
  | "upper" => some Char.isUpper
  | "word" => some fun c => c.isAlphanum || c == '_'
  | "xdigit" => some fun c => c.isDigit || ('a' ≤ c && c ≤ 'f') || ('A' ≤ c && c ≤ 'F')
  | _ => none

end CharSet

end TypeProbe.Pattern
