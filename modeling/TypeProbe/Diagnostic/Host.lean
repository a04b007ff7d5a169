import TypeProbe.Diagnostic.Source
import TypeProbe.Json.Reader

/-! # Diagnostics in the host's JSON

The host writes the diagnostics of a file as an array of records

    {"start": 10, "length": 3, "messageText": "…", "code": 2304, "category": "error"}

whose message is a text or a chain, a record of the same kind:

    {"messageText": "…", "code": 2322, "category": "error", "next": […]}

* Start, length and code may be left out or null; a category that is left out is `error`, and
  links that are left out are none.
* Fields with other names are ignored, and so is what they hold; but a chain is kept as a whole
  before it is looked at, so that everything in it counts (`Json.isKept`). -/

namespace TypeProbe

namespace Diagnostic.Host

/-- A 32-bit number that may be left out. -/
def number? : Option Json → Option (Option UInt32)
  | none | some .null => some none
  | some (.number x) => do
      let n ← x.toNat?
      if n < 0x100000000 then some (some n.toUInt32) else none
  | _ => none

/-- A category that may be left out: its name, or an object with that name alone. -/
def category? : Option Json → Option Category
  | none => some .error
  | some (.string (some name)) => Category.ofName? name
  | some (.object [(some name, .null)]) => Category.ofName? name
  | _ => none

/-- The links that elaborate on a message, each read by `link`; they may be left out. -/
def links? (link : Json → Option MessageChain) : Option Json → Option (List MessageChain)
  | none => some []
  | some (.array items) => items.mapM link
  | _ => none

/-- A chain of at most `depth` links below one another. -/
def chain? : (depth : Nat) → Json → Option MessageChain
  | 0, _ => none
  | depth + 1, j => do
      match ← j.record? ["messageText", "code", "category", "next"] with
      | [some (.string (some text)), code, category, next] =>
          return ⟨text, ← number? code, ← category? category, ← links? (chain? depth) next⟩
      | _ => none

/-- How many arrays and objects a chain may nest: 127 in the whole text, two of which are
around it. -/
def chainLevels : Nat := 125

/-- A message: a text or a chain. -/
def message? : Option Json → Option Message
  | some (.string (some text)) => some (.text text)
  | some j => if j.isKept chainLevels then .chain <$> chain? chainLevels j else none
  | none => none

def diagnostic? (j : Json) : Option Diagnostic := do
  match ← j.record? ["start", "length", "messageText", "code", "category"] with
  | [start, length, message, code, category] =>
      return ⟨← number? start, ← number? length, ← message? message, ← number? code,
        ← category? category⟩
  | _ => none

/-- The diagnostics that a text writes. -/
def read? (text : String) : Option (List Diagnostic) := do
  match ← Json.ofText? text with
  | .array items => items.mapM diagnostic?
  | _ => none

end Diagnostic.Host

/-- Replaces the diagnostics of a file by those that a text writes. -/
def DiagnosticStore.load? (store : DiagnosticStore) (file : FileId) (text : String) :
    Option DiagnosticStore :=
  (Diagnostic.Host.read? text).map (store.insert file)

end TypeProbe
