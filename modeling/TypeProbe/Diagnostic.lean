import TypeProbe.Loc

/-! # Diagnostics of the type checker

What the type checker reports about a file.

* A **`Diagnostic`** has a start and a length, a message, a code and a category.  A diagnostic
  about the program as a whole has no position.
* A **`Message`** is a text, or a chain whose links elaborate on the link above them.  Only the
  head of a chain is ever shown (`Message.head`).
* The **range** of a diagnostic (`Diagnostic.range?`) is known when both start and length are,
  and the end is a 32-bit offset. -/

namespace TypeProbe

/-- A file of the checked program, by its number. -/
structure FileId where
  number : UInt32
deriving DecidableEq, Repr

/-- How serious a diagnostic is. -/
inductive Category where
  | warning
  | error
  | suggestion
  | message
deriving DecidableEq, Repr

namespace Category

/-- The category as the host writes it. -/
def name : Category → String
  | warning => "warning"
  | error => "error"
  | suggestion => "suggestion"
  | message => "message"

def all : List Category := [warning, error, suggestion, message]

/-- The category that the host writes as `s`. -/
def ofName? (s : String) : Option Category := all.find? (·.name == s)

theorem ofName?_name (c : Category) : ofName? c.name = some c := by cases c <;> rfl

end Category

/-- A link of a chained message, with the links that elaborate on it. -/
structure MessageChain where
  text : String
  code : Option UInt32
  category : Category
  next : List MessageChain

/-- The message of a diagnostic. -/
inductive Message where
  | text (value : String)
  | chain (value : MessageChain)

/-- The text that stands for the whole message: the message itself, or the head of the chain. -/
def Message.head : Message → String
  | text value => value
  | chain value => value.text

structure Diagnostic where
  start : Option UInt32
  length : Option UInt32
  message : Message
  code : Option UInt32
  category : Category

namespace Diagnostic

/-- An error at a position. -/
def positioned (start length : UInt32) (text : String) : Diagnostic :=
  ⟨some start, some length, .text text, none, .error⟩

/-- An error that is about no position. -/
def unpositioned (text : String) : Diagnostic := ⟨none, none, .text text, none, .error⟩

/-- The range of the diagnostic, if both of its ends are known 32-bit offsets. -/
def range? (d : Diagnostic) : Option TextRange :=
  d.start.bind fun start => d.length.bind fun length => TextRange.ofLength? start length

theorem range?_eq_some_iff {d : Diagnostic} {r : TextRange} :
    d.range? = some r ↔
      d.start = some r.start ∧
        ∃ length, d.length = some length ∧ r.stop.toNat = r.start.toNat + length.toNat := by
  unfold range?
  cases d.start with
  | none => simp
  | some start =>
    cases d.length with
    | none => simp
    | some length =>
      simp only [Option.bind_some, TextRange.ofLength?_eq_some_iff, Option.some.injEq,
        exists_eq_left']
      constructor
      · rintro ⟨rfl, h⟩; exact ⟨rfl, h⟩
      · rintro ⟨rfl, h⟩; exact ⟨rfl, h⟩

end Diagnostic

end TypeProbe
