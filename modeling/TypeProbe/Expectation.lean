import TypeProbe.Pattern.Reader
import TypeProbe.Reporting

/-! # Expectations on what a probe reports

A test expects a probe to compile, to fail, or to fail with a message that matches a pattern.
Failures that are searched for are searched among all errors; a failed expectation names the
first error.

A failed expectation suppresses stack traces, so that its own report stays short
(`Reporting.settle`). -/

namespace TypeProbe

/-- Why an expectation is not met. -/
inductive Failure where
  | didNotCompile (first : RuntimeError)
  | noFailures
  | noMatchingFailures (pattern : String)
  | mismatch (pattern : String) (first : RuntimeError)
  | invalidPattern (pattern : String)
deriving DecidableEq, Repr

/-- The text of a failure.  What is wrong with an invalid pattern is not told. -/
def Failure.message : Failure → String
  | didNotCompile first => first.display
  | noFailures => "No semantic failures"
  | noMatchingFailures pattern => s!"No matching semantic failures, expected \"{pattern}\"!"
  | mismatch pattern first =>
      s!"Expected failure \"{pattern}\", got failure \"{first.display}\"!"
  | invalidPattern pattern => s!"invalid failure pattern \"{pattern}\""

/-- What is expected of a probe. -/
inductive Expectation where
  | toCompile
  | toFail
  /-- To fail with a message that matches the pattern with this text. -/
  | toFailWith (pattern : String)
  | toFailMatching (pattern : Pattern)

/-- Whether an expectation is met, and why not. -/
abbrev Verdict := Except Failure Unit

namespace Expectation

/-- The verdict on errors of which one should match a pattern. -/
def matching (pattern : Pattern) : List RuntimeError → Verdict
  | [] => .error (.noMatchingFailures pattern.text)
  | first :: rest =>
      if (first :: rest).any fun e => pattern.occursIn e.message then .ok ()
      else .error (.mismatch pattern.text first)

/-- The verdict on the errors of a probe. -/
def verdict (errors : List RuntimeError) : Expectation → Verdict
  | toCompile => match errors with
    | [] => .ok ()
    | first :: _ => .error (.didNotCompile first)
  | toFail => if errors.isEmpty then .error .noFailures else .ok ()
  | toFailWith text => match Pattern.ofText? text with
    | some pattern => matching pattern errors
    | none => .error (.invalidPattern text)
  | toFailMatching pattern => matching pattern errors

end Expectation

/-- How errors are reported after a verdict. -/
def Reporting.settle (r : Reporting) : Verdict → Reporting
  | .ok () => r
  | .error _ => r.suppress

end TypeProbe
