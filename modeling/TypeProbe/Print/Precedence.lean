import TypeProbe.Tree

/-! # Parentheses

Every place an expression can stand in asks for a least precedence, and an expression that
binds looser is put in parentheses.  Here are the precedence of expressions and the least
precedences that depend on more than the place:

* an operand of `??` next to `||` or `&&` is always parenthesized, since the two do not mix;
* the base of `**` may not be a unary expression;
* a call along the member chain under `new` would lend its arguments to the constructor. -/

namespace TypeProbe

namespace Expr

/-- How tightly an expression binds.  A negative number is written with a leading minus. -/
def precedence : Expr → Nat
  | arrow .. | conditional .. => Precedence.assignment
  | binary _ op _ _ => op.precedence
  | call .. | index .. | member .. => Precedence.callMember
  | unary _ op _ => op.precedence
  | trailing .. => Precedence.trailing
  | number _ value =>
      if value.isNegative && !value.isNaN then Precedence.unary else Precedence.primary
  | function .. | ident .. | this _ | array .. | boolean .. | null _ | string .. =>
      Precedence.primary

/-- Whether the expression is `a ?? b`. -/
def isNullish : Expr → Bool
  | binary _ op _ _ => op == .nullishCoalescing
  | _ => false

/-- Whether the expression is `a || b` or `a && b`. -/
def isLogical : Expr → Bool
  | binary _ op _ _ => op == .logicalAnd || op == .logicalOr
  | _ => false

/-- Whether a call stands anywhere along the member chain that the expression ends. -/
def hasCallInChain : Expr → Bool
  | call .. => true
  | member _ _ object _ => object.hasCallInChain
  | index _ _ object _ => object.hasCallInChain
  | _ => false

/-- The least precedence of what is constructed by `new`. -/
def constructorMin (e : Expr) : Nat :=
  if e.hasCallInChain then Precedence.primary else Precedence.callMember

end Expr

namespace Operator

/-- Whether an operand may not stand next to the operator without parentheses, because one is
`??` and the other `||` or `&&`. -/
def mixesWith (op : Operator) (operand : Expr) : Bool :=
  match op with
  | nullishCoalescing => operand.isLogical
  | logicalAnd | logicalOr => operand.isNullish
  | _ => false

/-- The least precedence of the left operand. -/
def leftMin (op : Operator) (left : Expr) : Nat :=
  if op.mixesWith left then Precedence.primary
  else if op = exponentiation then Precedence.trailing
  else
    match op.associativity with
    | .left => op.precedence
    | .right => op.precedence + 1

/-- The least precedence of the right operand. -/
def rightMin (op : Operator) (right : Expr) : Nat :=
  if op.mixesWith right then Precedence.primary
  else
    match op.associativity with
    | .left => op.precedence + 1
    | .right => op.precedence

end Operator

/-- Whether the text of an expression begins with a `function` expression, and so would be read
as a declaration at the start of a statement.  Follows the operand that is written first as
long as it stands without parentheses. -/
def Expr.startsWithFunction : Expr → Bool
  | function .. => true
  | binary _ op left _ => op.leftMin left ≤ left.precedence && left.startsWithFunction
  | call _ ⟨_, callee, _⟩ =>
      Precedence.callMember ≤ callee.precedence && callee.startsWithFunction
  | index _ _ object _ => Precedence.callMember ≤ object.precedence && object.startsWithFunction
  | member _ _ object _ => Precedence.callMember ≤ object.precedence && object.startsWithFunction
  | conditional _ test _ _ =>
      Precedence.assignment + 1 ≤ test.precedence && test.startsWithFunction
  | trailing _ _ argument =>
      Precedence.callMember ≤ argument.precedence && argument.startsWithFunction
  | _ => false

end TypeProbe
