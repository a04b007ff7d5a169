import TypeProbe.Text.Inspect

/-! # Errors that a probe reports

* **`Reporting`** is the switch that decides whether new errors capture a stack trace.  Capture
  is on at first; once it is suppressed it stays so.
* A **`RuntimeError`** has a message and the range of the diagnostic that it stands for, and
  either has captured a stack trace or has not. -/

namespace TypeProbe

/-- Whether errors capture stack traces. -/
structure Reporting where
  suppressed : Bool
deriving DecidableEq, Repr

namespace Reporting

/-- Errors capture stack traces. -/
def fresh : Reporting := ⟨false⟩

/-- Turns capture off. -/
def suppress (_ : Reporting) : Reporting := ⟨true⟩

/-- Whether an error that is created now captures a stack trace. -/
def captures (r : Reporting) : Bool := !r.suppressed

theorem captures_fresh : fresh.captures = true := rfl

theorem captures_suppress (r : Reporting) : r.suppress.captures = false := rfl

end Reporting

/-- An error that a probe reports. -/
structure RuntimeError where
  message : String
  origin : Option TextRange
  hasStack : Bool
deriving DecidableEq, Repr

namespace RuntimeError

/-- A new error, without an origin. -/
def create (r : Reporting) (message : String) : RuntimeError := ⟨message, none, r.captures⟩

/-- The error as a test run shows it. -/
def display (e : RuntimeError) : String := "Error: " ++ e.message

/-- The error as logs show it. -/
def inspect (e : RuntimeError) : String :=
  Inspect.record "RuntimeError"
    [("message", Inspect.text e.message), ("origin", Inspect.option Inspect.range e.origin),
      ("has_stack", toString e.hasStack)]

end RuntimeError

end TypeProbe
