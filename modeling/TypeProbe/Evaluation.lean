import TypeProbe.Finding
import TypeProbe.Probe
import TypeProbe.Reporting

/-! # Evaluating resolved probes

Resolved bodies have few shapes, and only those are evaluated; a body of another shape is an
error that says what is not supported, and where.

* `Error.stackTraceLimit = 0` suppresses stack traces, from then on and for good.
* `return [e, …]` reports the errors of the list, and `return` alone or the end of the body
  reports none.
* `throw [e, …][k]` reports all errors of the list, the one at index `k` first, and `throw e`
  reports that error alone.
* An error is written `new Error("message")`; the origin of that node becomes its origin. -/

namespace TypeProbe

/-- The parts of a body that may have a shape which is not evaluated. -/
inductive BodyPart where
  | expressionBody
  | statement
  | expressionStatement
  | operator
  | assignmentTarget
  | stackTraceLimit
  | errorList
  | errorListElement
  | errorExpression
  | errorConstruction
  | thrownIndex
deriving DecidableEq, Repr

/-- What a part of a body is called in messages. -/
def BodyPart.name : BodyPart → String
  | expressionBody => "expression body"
  | statement => "statement"
  | expressionStatement => "expression statement"
  | operator => "operator"
  | assignmentTarget => "assignment target"
  | stackTraceLimit => "stack trace limit"
  | errorList => "error list"
  | errorListElement => "error list element"
  | errorExpression => "error expression"
  | errorConstruction => "error construction"
  | thrownIndex => "thrown element index"

/-- Why a body cannot be evaluated. -/
inductive EvalError where
  | unsupported (part : BodyPart) (loc : Loc)
  | indexOutOfBounds (index length : Nat) (loc : Loc)
deriving DecidableEq, Repr

/-- The text of an evaluation error. -/
def EvalError.message : EvalError → String
  | unsupported part loc =>
      s!"unsupported {part.name} at {loc.text}; the probe was not rewritten"
  | indexOutOfBounds index length loc =>
      s!"thrown index {index} is out of bounds for {length} errors at {loc.text}"

/-- What comes of a probe. -/
inductive Outcome where
  | ok
  /-- The probe fails; the error that it throws comes first. -/
  | fail (errors : List RuntimeError)
deriving DecidableEq, Repr

namespace Outcome

/-- The outcome that a list of errors amounts to. -/
def ofErrors : List RuntimeError → Outcome
  | [] => ok
  | errors => fail errors

def errors : Outcome → List RuntimeError
  | ok => []
  | fail errors => errors

theorem errors_ofErrors (es : List RuntimeError) : (ofErrors es).errors = es := by
  cases es <;> rfl

theorem ofErrors_ne_fail_nil (es : List RuntimeError) : ofErrors es ≠ fail [] := by
  cases es <;> simp [ofErrors]

end Outcome

/-! ### Errors and lists of errors -/

def Expr.stringLiteral? : Expr → Option String
  | .string _ value => some value
  | _ => none

/-- The message of the call `Error("message")`; without an argument it is empty. -/
def Call.errorMessage? (c : Call) : Option String :=
  if c.callee.isIdent Finding.errorName then
    if c.arguments.isEmpty then some "" else c.soleArgument?.bind Expr.stringLiteral?
  else none

/-- The error that `new Error("message")` creates. -/
def Expr.asError (r : Reporting) : Expr → Except EvalError RuntimeError
  | .unary a .new (.call inner c) =>
      match c.errorMessage? with
      | some message => .ok { RuntimeError.create r message with origin := a.origin }
      | none => .error (.unsupported .errorConstruction inner.inner)
  | .unary _ .new argument => .error (.unsupported .errorConstruction argument.loc)
  | e => .error (.unsupported .errorExpression e.loc)

/-- The error that an element of the list at `loc` creates. -/
def Element.asError (r : Reporting) (loc : Loc) : Element → Except EvalError RuntimeError
  | .single e => e.asError r
  | .rest _ | .hole => .error (.unsupported .errorListElement loc)

/-- The errors that a list creates. -/
def Expr.asErrors (r : Reporting) : Expr → Except EvalError (List RuntimeError)
  | .array a elements => elements.mapM (Element.asError r a.loc)
  | e => .error (.unsupported .errorList e.loc)

/-- A list with the element at an index moved to the front. -/
def bringToFront {α : Type} (l : List α) (index : Nat) (h : index < l.length) : List α :=
  l[index] :: l.eraseIdx index

/-- The index that a number literal writes: zero of either sign, or a positive integer. -/
def Expr.asIndex? : Expr → Option Nat
  | .number _ value => value.toNat?
  | _ => none

/-- The largest index; a larger number counts as this one. -/
def largestIndex : Nat := 0xffffffffffffffff

/-- The errors that a probe reports by throwing a value, the thrown one first. -/
def Expr.thrown (r : Reporting) : Expr → Except EvalError (List RuntimeError)
  | .index _ _ object key => do
      let errors ← object.asErrors r
      match key.asIndex? with
      | none => .error (.unsupported .thrownIndex key.loc)
      | some k =>
          let index := min k largestIndex
          if h : index < errors.length then .ok (bringToFront errors index h)
          else .error (.indexOutOfBounds index errors.length key.loc)
  | e => (e.asError r).map ([·])

/-! ### Statements -/

/-- Whether an expression is `Error.stackTraceLimit`. -/
def Expr.isTraceLimit : Expr → Bool
  | .member _ _ object property =>
      object.isIdent Finding.errorName && property == Finding.traceLimitName
  | _ => false

/-- Whether an expression is a number literal for zero, of either sign. -/
def Expr.isZero : Expr → Bool
  | .number _ value => value.isZero
  | _ => false

/-- Accepts `Error.stackTraceLimit = 0` and nothing else. -/
def Expr.acceptTraceWrite : Expr → Except EvalError Unit
  | .binary a op target value =>
      if op ≠ .assignment then .error (.unsupported .operator a.loc)
      else if !target.isTraceLimit then .error (.unsupported .assignmentTarget target.loc)
      else if !value.isZero then .error (.unsupported .stackTraceLimit value.loc)
      else .ok ()
  | e => .error (.unsupported .expressionStatement e.loc)

/-- Evaluates statements in turn: what comes of them, and how errors are reported afterwards. -/
def Stmts.evaluate (r : Reporting) : List Stmt → Except EvalError Outcome × Reporting
  | [] => (.ok .ok, r)
  | .empty _ :: rest => Stmts.evaluate r rest
  | .expr _ value :: rest =>
      match value.acceptTraceWrite with
      | .ok () => Stmts.evaluate r.suppress rest
      | .error e => (.error e, r)
  | .ret _ none :: _ => (.ok .ok, r)
  | .ret _ (some value) :: _ => ((value.asErrors r).map .ofErrors, r)
  | .throw _ value :: _ => ((value.thrown r).map .fail, r)
  | s :: _ => (.error (.unsupported .statement s.loc), r)

/-- Evaluates a body. -/
def Body.evaluate (r : Reporting) : Body → Except EvalError Outcome × Reporting
  | .block _ statements => Stmts.evaluate r statements
  | .expr spot _ => (.error (.unsupported .expressionBody spot), r)

/-- Evaluates a probed function. -/
def Func.evaluate (r : Reporting) (f : Func) : Except EvalError Outcome × Reporting :=
  f.body.evaluate r

end TypeProbe
