/-! # Operators

The operators an expression may carry, with their precedence, associativity and token.

* A larger precedence binds tighter: `1` is the comma, `2` assignment, `14` the unary
  operators, `16` a constructor call without arguments, `17` calls and member accesses, `18`
  everything that needs no parentheses anywhere.
* An operator says nothing about the position it stands in: trees may hold any operator as an
  infix, a leading or a trailing one. -/

namespace TypeProbe

/-- To which side operators of one precedence group. -/
inductive Associativity where
  | left
  | right
deriving DecidableEq, Repr

inductive Operator where
  | addition
  | assignment
  | assignmentAddition
  | assignmentSubtraction
  | await
  | comma
  | division
  | equality
  | exponentiation
  | greaterThan
  | greaterThanOrEqual
  | membership
  | inequality
  | instanceof
  | lessThan
  | lessThanOrEqual
  | logicalAnd
  | logicalNot
  | logicalOr
  | multiplication
  | new
  | nullishCoalescing
  | postfixDecrement
  | postfixIncrement
  | prefixDecrement
  | prefixIncrement
  | remainder
  | strictEquality
  | strictInequality
  | subtraction
  | typeof
  | unaryNegation
  | unaryPlus
  | void
deriving DecidableEq, Repr

/-! ### Levels of precedence that belong to a form of expression -/

namespace Precedence

/-- Assignments, conditionals and arrow functions. -/
def assignment : Nat := 2

/-- Leading operators. -/
def unary : Nat := 14

/-- Trailing operators. -/
def trailing : Nat := 15

/-- Calls and member accesses. -/
def callMember : Nat := 17

/-- Names, literals and `function` expressions. -/
def primary : Nat := 18

end Precedence

namespace Operator

/-- How tightly the operator binds. -/
def precedence : Operator → Nat
  | comma => 1
  | assignment | assignmentAddition | assignmentSubtraction => 2
  | logicalOr | nullishCoalescing => 3
  | logicalAnd => 4
  | equality | inequality | strictEquality | strictInequality => 8
  | lessThan | lessThanOrEqual | greaterThan | greaterThanOrEqual | membership | instanceof => 9
  | addition | subtraction => 11
  | multiplication | division | remainder => 12
  | exponentiation => 13
  | await | logicalNot | prefixDecrement | prefixIncrement | typeof | unaryNegation | unaryPlus
  | void => 14
  | postfixDecrement | postfixIncrement => 15
  | new => 16

/-- To which side the operator groups. -/
def associativity : Operator → Associativity
  | assignment | assignmentAddition | assignmentSubtraction | exponentiation | await
  | logicalNot | prefixDecrement | prefixIncrement | typeof | unaryNegation | unaryPlus | void
  | new => .right
  | _ => .left

/-- The operator as written. -/
def token : Operator → String
  | addition => "+"
  | assignment => "="
  | assignmentAddition => "+="
  | assignmentSubtraction => "-="
  | await => "await"
  | comma => ","
  | division => "/"
  | equality => "=="
  | exponentiation => "**"
  | greaterThan => ">"
  | greaterThanOrEqual => ">="
  | membership => "in"
  | inequality => "!="
  | instanceof => "instanceof"
  | lessThan => "<"
  | lessThanOrEqual => "<="
  | logicalAnd => "&&"
  | logicalNot => "!"
  | logicalOr => "||"
  | multiplication => "*"
  | new => "new"
  | nullishCoalescing => "??"
  | postfixDecrement => "--"
  | postfixIncrement => "++"
  | prefixDecrement => "--"
  | prefixIncrement => "++"
  | remainder => "%"
  | strictEquality => "==="
  | strictInequality => "!=="
  | subtraction => "-"
  | typeof => "typeof"
  | unaryNegation => "-"
  | unaryPlus => "+"
  | void => "void"

/-- The name under which snapshots of trees show the operator. -/
def name : Operator → String
  | addition => "Addition"
  | assignment => "Assignment"
  | assignmentAddition => "AssignmentAddition"
  | assignmentSubtraction => "AssignmentSubtraction"
  | await => "Await"
  | comma => "Comma"
  | division => "Division"
  | equality => "Equality"
  | exponentiation => "Exponentiation"
  | greaterThan => "GreaterThan"
  | greaterThanOrEqual => "GreaterThanOrEqual"
  | membership => "In"
  | inequality => "Inequality"
  | instanceof => "Instanceof"
  | lessThan => "LessThan"
  | lessThanOrEqual => "LessThanOrEqual"
  | logicalAnd => "LogicalAnd"
  | logicalNot => "LogicalNot"
  | logicalOr => "LogicalOr"
  | multiplication => "Multiplication"
  | new => "New"
  | nullishCoalescing => "NullishCoalescing"
  | postfixDecrement => "PostfixDecrement"
  | postfixIncrement => "PostfixIncrement"
  | prefixDecrement => "PrefixDecrement"
  | prefixIncrement => "PrefixIncrement"
  | remainder => "Remainder"
  | strictEquality => "StrictEquality"
  | strictInequality => "StrictInequality"
  | subtraction => "Subtraction"
  | typeof => "Typeof"
  | unaryNegation => "UnaryNegation"
  | unaryPlus => "UnaryPlus"
  | void => "Void"

def all : List Operator :=
  [addition, assignment, assignmentAddition, assignmentSubtraction, await, comma, division,
    equality, exponentiation, greaterThan, greaterThanOrEqual, membership, inequality, instanceof,
    lessThan, lessThanOrEqual, logicalAnd, logicalNot, logicalOr, multiplication, new,
    nullishCoalescing, postfixDecrement, postfixIncrement, prefixDecrement, prefixIncrement,
    remainder, strictEquality, strictInequality, subtraction, typeof, unaryNegation, unaryPlus,
    void]

theorem mem_all (op : Operator) : op ∈ all := by cases op <;> decide

/-- The operator with the given name. -/
def ofName? (name : String) : Option Operator := all.find? (·.name == name)

/-- Whether the token is a word, and so must be kept apart from other words. -/
def isWord (op : Operator) : Bool := op.token.toList.all Char.isAlpha

end Operator

end TypeProbe
