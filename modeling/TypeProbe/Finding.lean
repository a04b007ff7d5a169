import TypeProbe.Diagnostic
import TypeProbe.Tree.Build

/-! # Findings and the bodies that report them

A finding is what a probe reports about a diagnostic: the head of its message, and its range.

A body that reports no finding returns an empty list; any other body constructs an error for
each finding and throws the first of them:

    return [];
    Error.stackTraceLimit = 0; throw [new Error("first"), new Error("second")][0];

Every node stands where the body stands, except the errors: an error stands at the range of its
finding, and carries that range as its origin. -/

namespace TypeProbe

/-- What a probe reports about a diagnostic. -/
structure Finding where
  message : String
  range : TextRange
deriving DecidableEq, Repr

/-- The finding of a diagnostic with a usable position. -/
def Diagnostic.finding? (d : Diagnostic) : Option Finding :=
  d.range?.map fun range => ⟨d.message.head, range⟩

namespace Finding

/-- The constructor of errors. -/
def errorName : String := "Error"

/-- The property of the error constructor that limits how many stack frames are captured. -/
def traceLimitName : String := "stackTraceLimit"

/-- The findings of diagnostics, in their order. -/
def ofDiagnostics (ds : List Diagnostic) : List Finding := ds.filterMap (·.finding?)

/-- The expression `new Error("message")` for a finding. -/
def error (f : Finding) : Expr :=
  let loc := f.range.loc
  .unary { Anchor.ofLoc loc with origin := some f.range } .new <|
    Build.call loc (Build.ident loc errorName) [Build.argument (Build.string loc f.message)]

/-- The statement `Error.stackTraceLimit = 0;`. -/
def disableTraces (loc : Loc) : Stmt :=
  Build.exprStmt <|
    Build.assign loc (Build.member loc (Build.ident loc errorName) traceLimitName)
      (Build.number loc .zero)

/-- The statement `throw [errors][0];`. -/
def throwFirst (loc : Loc) (errors : List Expr) : Stmt :=
  Build.throw loc (Build.index loc (Build.array loc errors) (Build.number loc .zero))

/-- The statements that report findings. -/
def statements (loc : Loc) : List Finding → List Stmt
  | [] => [Build.ret loc (some (Build.array loc []))]
  | fs => [disableTraces loc, throwFirst loc (fs.map error)]

/-- The body that reports findings. -/
def body (loc : Loc) (fs : List Finding) : Body := .block loc (statements loc fs)

end Finding

end TypeProbe
