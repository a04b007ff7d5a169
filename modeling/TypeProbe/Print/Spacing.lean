import TypeProbe.Print.Fragment

/-! # Spaces between fragments

Fragments are written one after another, with a space only where two of them would otherwise be
read as something else:

* two words, or a word and a number, would become one word;
* `+` before `+`, `-` before `-`, and `/` before `/` or `*` would become another operator or
  open a comment;
* the marks `<!--` and `-->` open a comment that ends with the line, and may arise over several
  fragments.

What has been written so far matters only through its **tail** (`Tail`): the class of the last
character, and how far the end of the text has come towards one of the two marks.  A string
literal is written without a space before it and leaves nothing behind to merge with. -/

namespace TypeProbe

/-- The class of the last character written, as far as the next one could merge with it. -/
inductive Edge where
  | word
  | plus
  | minus
  | slash
  | other
deriving DecidableEq, Repr

/-- How far the end of the text has come into `<!--` or `-->`. -/
inductive Opener where
  | none
  | less
  | lessBang
  | lessBangDash
  | dash
  | dashDash
deriving DecidableEq, Repr

/-- A character of words and numbers. -/
def isWordChar (c : Char) : Bool := c.isAlphanum || c == '_' || c == '$' || 0x80 ≤ c.toNat

namespace Edge

/-- The class of a character at the end of a fragment. -/
def ofChar (c : Char) : Edge :=
  if c = '+' then plus
  else if c = '-' then minus
  else if c = '/' then slash
  else if isWordChar c then word
  else other

/-- Whether a character would merge with what was written before it. -/
def merges : Edge → Char → Bool
  | word, c => isWordChar c
  | plus, c => c == '+'
  | minus, c => c == '-'
  | slash, c => c == '/' || c == '*'
  | other, _ => false

end Edge

namespace Opener

/-- The state after one more character. -/
def next : Opener → Char → Opener
  | lessBangDash, '-' => dashDash
  | less, '!' => lessBang
  | lessBang, '-' => lessBangDash
  | dash, '-' => dashDash
  | dashDash, '-' => dashDash
  | _, '-' => dash
  | _, '<' => less
  | _, _ => none

/-- Whether a character completes one of the marks. -/
def completes : Opener → Char → Bool
  | lessBangDash, c => c == '-'
  | dashDash, c => c == '>'
  | _, _ => false

/-- The state after a text. -/
def after (o : Opener) (text : List Char) : Opener := text.foldl next o

/-- Whether one of the marks is completed within a text. -/
def opensIn : Opener → List Char → Bool
  | _, [] => false
  | o, c :: rest => o.completes c || (o.next c).opensIn rest

end Opener

/-- What the end of the text written so far means for the next fragment. -/
structure Tail where
  edge : Edge
  opener : Opener
deriving DecidableEq, Repr

namespace Tail

/-- The tail of an empty text, and of one that ends in a string literal. -/
def clear : Tail := ⟨.other, .none⟩

/-- Whether a space must be written before a text. -/
def needsSpace (t : Tail) (text : List Char) : Bool :=
  text.head?.any t.edge.merges || t.opener.opensIn text

/-- Writes a text other than a string literal: what is added, and the new tail. -/
def writeText (t : Tail) (text : List Char) : List Char × Tail :=
  match text.getLast? with
  | none => ([], t)
  | some last =>
      if t.needsSpace text then
        (' ' :: text, ⟨Edge.ofChar last, Opener.none.after text⟩)
      else
        (text, ⟨Edge.ofChar last, t.opener.after text⟩)

/-- Writes a fragment: what is added, and the new tail. -/
def write (t : Tail) (f : Fragment) : List Char × Tail :=
  match f with
  | .quoted _ => (f.text, clear)
  | _ => t.writeText f.text

/-- Writes fragments one after another: what is added, and the new tail. -/
def writeAll (t : Tail) : List Fragment → List Char × Tail
  | [] => ([], t)
  | f :: rest =>
      let (piece, t) := t.write f
      let (more, t) := t.writeAll rest
      (piece ++ more, t)

end Tail

/-- The text of fragments written from an empty page. -/
def Fragment.join (fs : List Fragment) : String := String.ofList (Tail.clear.writeAll fs).1

/-- The text of a complete output, or why there is none. -/
def Output.text (o : Output) : Except PrintError String :=
  match o.error with
  | some e => .error e
  | none => .ok (Fragment.join o.fragments)

end TypeProbe
