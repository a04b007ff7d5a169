import TypeProbe.Json.Token

/-! # Reading JSON

Tokens become a value by a machine with a stack of containers that are still open
(`Reading.step`).  So arrays and objects may nest to any depth, and what a value does to the
machine does not depend on what surrounds it. -/

namespace TypeProbe.Json

/-- A container that is still open, with what it holds so far, backwards. -/
inductive Frame where
  | array (items : List Json)
  | object (fields : List (Option String × Json))
  /-- An object whose next field has a name but no value yet. -/
  | member (fields : List (Option String × Json)) (key : Option String)

/-- What the machine expects next. -/
inductive Expecting where
  | value
  /-- The first item of an array, or its end. -/
  | firstItem
  /-- The first field of an object, or its end. -/
  | firstField
  | field
  | colon
  /-- What follows a complete value. -/
  | after (value : Json)

/-- The state of the machine: what it expects, and the open containers, innermost first. -/
structure Reading where
  expecting : Expecting
  frames : List Frame

namespace Reading

/-- Nothing has been read. -/
def start : Reading := ⟨.value, []⟩

/-- Reads the first token of a value. -/
def value (frames : List Frame) : Token → Option Reading
  | .null => some ⟨.after .null, frames⟩
  | .boolean b => some ⟨.after (.boolean b), frames⟩
  | .number x => some ⟨.after (.number x), frames⟩
  | .string s => some ⟨.after (.string s), frames⟩
  | .openArray => some ⟨.firstItem, .array [] :: frames⟩
  | .openObject => some ⟨.firstField, .object [] :: frames⟩
  | .closeArray | .closeObject | .comma | .colon => none

def step : Reading → Token → Option Reading
  | ⟨.value, frames⟩, t => value frames t
  | ⟨.firstItem, .array [] :: frames⟩, .closeArray => some ⟨.after (.array []), frames⟩
  | ⟨.firstItem, frames⟩, t => value frames t
  | ⟨.firstField, .object [] :: frames⟩, .closeObject => some ⟨.after (.object []), frames⟩
  | ⟨.firstField, .object fields :: frames⟩, .string key
  | ⟨.field, .object fields :: frames⟩, .string key =>
      some ⟨.colon, .member fields key :: frames⟩
  | ⟨.colon, frames⟩, .colon => some ⟨.value, frames⟩
  | ⟨.after v, .array items :: frames⟩, .comma => some ⟨.value, .array (v :: items) :: frames⟩
  | ⟨.after v, .array items :: frames⟩, .closeArray =>
      some ⟨.after (.array (v :: items).reverse), frames⟩
  | ⟨.after v, .member fields key :: frames⟩, .comma =>
      some ⟨.field, .object ((key, v) :: fields) :: frames⟩
  | ⟨.after v, .member fields key :: frames⟩, .closeObject =>
      some ⟨.after (.object ((key, v) :: fields).reverse), frames⟩
  | _, _ => none

/-- The value, if it is complete. -/
def result : Reading → Option Json
  | ⟨.after v, []⟩ => some v
  | _ => none

end Reading

/-- The value that tokens write. -/
def ofTokens? (ts : List Token) : Option Json := do
  let done ← ts.foldlM Reading.step Reading.start
  done.result

/-- The value that a text writes. -/
def ofText? (s : String) : Option Json := do
  let ts ← tokens s.toList
  ofTokens? ts

end TypeProbe.Json
