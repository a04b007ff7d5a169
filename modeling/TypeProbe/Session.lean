import TypeProbe.Evaluation
import TypeProbe.Expectation

/-! # Sessions

A session runs probes and checks expectations, one step after another.  All steps share one
`Reporting`, and expectations are about the latest result. -/

namespace TypeProbe

/-- How errors are reported, and the errors of the latest result. -/
structure Session where
  reporting : Reporting
  errors : List RuntimeError

/-- A step of a session. -/
inductive SessionStep where
  /-- Evaluates a probe and tells the outcome. -/
  | evaluate (probe : Func)
  /-- Evaluates a probe; what it reports becomes the result. -/
  | probe (probe : Func)
  /-- Makes new errors the result. -/
  | result (messages : List String)
  /-- Creates an error. -/
  | create (message : String) (origin : Option TextRange)
  /-- Suppresses stack traces. -/
  | suppress
  /-- Checks an expectation on the result. -/
  | expect (expectation : Expectation)

/-- What a step answers. -/
inductive Answer where
  | outcome (outcome : Except EvalError Outcome)
  | result (errors : Except EvalError (List RuntimeError))
  | created (error : RuntimeError)
  | done
  | verdict (verdict : Verdict)

namespace Session

/-- A session with no result. -/
def start (r : Reporting) : Session := ⟨r, []⟩

/-- Takes a step. -/
def step (s : Session) : SessionStep → Session × Answer
  | .evaluate f =>
      let (outcome, r) := f.evaluate s.reporting
      ({ s with reporting := r }, .outcome outcome)
  | .probe f =>
      match f.evaluate s.reporting with
      | (.ok outcome, r) => (⟨r, outcome.errors⟩, .result (.ok outcome.errors))
      | (.error e, r) => ({ s with reporting := r }, .result (.error e))
  | .result messages =>
      let errors := messages.map (RuntimeError.create s.reporting)
      ({ s with errors }, .result (.ok errors))
  | .create message origin =>
      (s, .created { RuntimeError.create s.reporting message with origin })
  | .suppress => ({ s with reporting := s.reporting.suppress }, .done)
  | .expect expectation =>
      let verdict := expectation.verdict s.errors
      ({ s with reporting := s.reporting.settle verdict }, .verdict verdict)

/-- Takes steps in turn: the session after them, and their answers. -/
def run (s : Session) : List SessionStep → Session × List Answer
  | [] => (s, [])
  | step :: rest =>
      let (next, answer) := s.step step
      let (last, answers) := run next rest
      (last, answer :: answers)

end Session

end TypeProbe
