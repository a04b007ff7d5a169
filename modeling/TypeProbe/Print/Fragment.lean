import TypeProbe.Loc
import TypeProbe.Text.Quoted

/-! # Fragments and outputs

Printing a tree yields the words, numbers, marks and string literals of its text in order
(`Fragment`); where spaces go between them is a matter of its own (`Print.Spacing`).

Some trees have no text.  An `Output` therefore holds the fragments up to the first part that
cannot be written, and the reason for stopping there.  Outputs are joined with `++`, which stops
at the first failure; they form a monoid. -/

namespace TypeProbe

/-- A piece of program text. -/
inductive Fragment where
  | keyword (text : String)
  | identifier (text : String)
  | number (text : String)
  | punct (text : String)
  | quoted (value : String)
deriving DecidableEq, Repr

def Fragment.text : Fragment → List Char
  | keyword t | identifier t | number t | punct t => t.toList
  | quoted value => Quoted.encode value.toList

/-- The shapes of trees that no program text has. -/
inductive Unprintable where
  | generatorArrow
  | functionWithExprBody
  | optionalCallUnderNew
  | tryWithoutHandler
  | declarationWithoutName
  | declarationWithExprBody
  | noDeclarators
  | restWithDefault
deriving DecidableEq, Repr

/-- The shape in words. -/
def Unprintable.what : Unprintable → String
  | generatorArrow => "generator arrow function"
  | functionWithExprBody => "function expression with an expression body"
  | optionalCallUnderNew => "optional call under `new`"
  | tryWithoutHandler => "try statement without catch or finally"
  | declarationWithoutName => "function declaration without a name"
  | declarationWithExprBody => "function declaration with an expression body"
  | noDeclarators => "variable declaration without declarators"
  | restWithDefault => "rest parameter with a default value"

/-- Why printing stopped, and at which node. -/
structure PrintError where
  cause : Unprintable
  loc : Loc
deriving DecidableEq, Repr

/-- The error in words. -/
def PrintError.message (e : PrintError) : String :=
  s!"cannot emit {e.cause.what} at {e.loc.text}"

/-- The fragments written, and why printing stopped if it did. -/
structure Output where
  fragments : List Fragment
  error : Option PrintError
deriving DecidableEq, Repr

namespace Output

/-- Nothing written. -/
def empty : Output := ⟨[], none⟩

/-- One output after another; nothing follows a failure. -/
def append (a b : Output) : Output :=
  match a.error with
  | none => ⟨a.fragments ++ b.fragments, b.error⟩
  | some _ => a

instance : Append Output := ⟨append⟩

/-- A single fragment. -/
def ofFragment (f : Fragment) : Output := ⟨[f], none⟩

def keyword (text : String) : Output := ofFragment (.keyword text)

/-- A name. -/
def identifier (text : String) : Output := ofFragment (.identifier text)

/-- A numeral. -/
def number (text : String) : Output := ofFragment (.number text)

/-- A punctuation mark or operator. -/
def punct (text : String) : Output := ofFragment (.punct text)

def quoted (value : String) : Output := ofFragment (.quoted value)

/-- A failure before anything is written. -/
def fail (cause : Unprintable) (loc : Loc) : Output := ⟨[], some ⟨cause, loc⟩⟩

/-- An output that is there only under a condition. -/
def onlyIf (condition : Bool) (o : Output) : Output := if condition then o else empty

/-- An output between parentheses. -/
def parenthesized (o : Output) : Output := punct "(" ++ o ++ punct ")"

/-- An output between braces. -/
def braced (o : Output) : Output := punct "\x7b" ++ o ++ punct "\x7d"

/-- Outputs with commas between them. -/
def commaSeparated : List Output → Output
  | [] => empty
  | [o] => o
  | o :: rest => o ++ punct "," ++ commaSeparated rest

theorem append_eq (a b : Output) :
    a ++ b = match a.error with
      | none => ⟨a.fragments ++ b.fragments, b.error⟩
      | some _ => a := rfl

@[simp] theorem empty_append (a : Output) : empty ++ a = a := rfl

@[simp] theorem append_empty (a : Output) : a ++ empty = a := by
  obtain ⟨fs, error⟩ := a
  cases error <;> simp [append_eq, empty]

theorem append_assoc (a b c : Output) : a ++ b ++ c = a ++ (b ++ c) := by
  obtain ⟨fs, ea⟩ := a
  obtain ⟨gs, eb⟩ := b
  cases ea <;> cases eb <;> simp [append_eq]

theorem error_append {a b : Output} :
    (a ++ b).error = none ↔ a.error = none ∧ b.error = none := by
  obtain ⟨fs, ea⟩ := a
  obtain ⟨gs, eb⟩ := b
  cases ea <;> simp [append_eq]

end Output

end TypeProbe
