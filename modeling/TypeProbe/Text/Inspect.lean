import TypeProbe.Character.Hidden
import TypeProbe.Loc

/-! # Values as logs show them

The text of a value when a person inspects it: `None` and `Some(5)`, a record with its field
names, and text between quotes.  Nothing reads these texts back. -/

namespace TypeProbe.Inspect

/-- The lower-case hexadecimal digits of a number, without leading zeros. -/
def hex (n : Nat) : String := String.ofList (Nat.toDigits 16 n)

/-- A character between the quotes of an inspected text.  Quotes, backslashes and whatever does
not show by itself are escaped. -/
def character (c : Char) : String :=
  match c with
  | '"' => "\\\""
  | '\\' => "\\\\"
  | '\n' => "\\n"
  | '\r' => "\\r"
  | '\t' => "\\t"
  | '\x00' => "\\0"
  | c => if Character.isHidden c then s!"\\u\x7b{hex c.toNat}\x7d" else c.toString

/-- A text between quotes. -/
def text (s : String) : String := "\"" ++ String.join (s.toList.map character) ++ "\""

/-- An optional value, shown by `item`. -/
def option {α : Type} (item : α → String) : Option α → String
  | none => "None"
  | some a => s!"Some({item a})"

def offset (n : UInt32) : String := toString n.toNat

/-- A record: its name, and its fields with their shown values. -/
def record (name : String) (fields : List (String × String)) : String :=
  let shown := ", ".intercalate (fields.map fun (field, value) => s!"{field}: {value}")
  s!"{name} \x7b {shown} \x7d"

def range (r : TextRange) : String :=
  record "TextRange" [("start", offset r.start), ("end", offset r.stop)]

end TypeProbe.Inspect
