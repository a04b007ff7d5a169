import TypeProbe.Operator
import TypeProbe.Proofs.Grammar.Token

/-! # Levels of expressions

The nonterminals of expressions in the ECMAScript grammar, and the rules of its operators.

* Most nonterminals have a production that consists of another one alone; `Level.parent` is where
  such a production leads, and `Level.within` follows them.
* The rules of operators (`InfixRule`, `LeadingRule`, …) give the sign and the nonterminals
  around it.  They are the tables of the grammar and do not refer to precedences.
* The two nonterminals before `||` and `??` are what keeps these operators apart. -/

namespace TypeProbe.Grammar

/-! ### Nonterminals -/

/-- The nonterminals of expressions.  Those without operator in the trees are kept, since
productions lead through them. -/
inductive Level where
  | primary
  | member
  | new
  | call
  | optional
  | leftHandSide
  | update
  | unary
  | exponentiation
  | multiplicative
  | additive
  | shift
  | relational
  | equality
  | bitwiseAnd
  | bitwiseXor
  | bitwiseOr
  | logicalAnd
  | logicalOr
  | coalesce
  | shortCircuit
  | conditional
  | assignment
  | expression
deriving DecidableEq, Repr

namespace Level

/-- The nonterminal that has a production of this one alone. -/
def parent : Level → Option Level
  | primary => some member
  | member => some new
  | new | call | optional => some leftHandSide
  | leftHandSide => some update
  | update => some unary
  | unary => some exponentiation
  | exponentiation => some multiplicative
  | multiplicative => some additive
  | additive => some shift
  | shift => some relational
  | relational => some equality
  | equality => some bitwiseAnd
  | bitwiseAnd => some bitwiseXor
  | bitwiseXor => some bitwiseOr
  | bitwiseOr => some logicalAnd
  | logicalAnd => some logicalOr
  | logicalOr | coalesce => some shortCircuit
  | shortCircuit => some conditional
  | conditional => some assignment
  | assignment => some expression
  | expression => none

/-- Whether at most `n` such productions lead from one nonterminal to another. -/
def reaches : Nat → Level → Level → Bool
  | 0, a, b => a == b
  | n + 1, a, b => a == b || a.parent.any fun p => reaches n p b

/-- Whether such productions lead from one nonterminal to another. -/
def within (a b : Level) : Bool := reaches 24 a b

/-- What expressions that bind at least this tightly are: the numbers are those of
`Operator.precedence`, and `5`, `6`, `7` and `10` those of operators that no tree has. -/
def ofPrecedence : Nat → Level
  | 0 | 1 => expression
  | 2 => assignment
  | 3 => shortCircuit
  | 4 => logicalAnd
  | 5 => bitwiseOr
  | 6 => bitwiseXor
  | 7 => bitwiseAnd
  | 8 => equality
  | 9 => relational
  | 10 => shift
  | 11 => additive
  | 12 => multiplicative
  | 13 => exponentiation
  | 14 => unary
  | 15 => update
  | 16 | 17 => leftHandSide
  | _ => primary

end Level

/-! ### Operators -/

open Token

/-- Infix operators other than assignments: the operator, its sign, what it forms, and what stands
on its left and on its right. -/
inductive InfixRule : Operator → Token → Level → Level → Level → Prop
  | comma : InfixRule .comma (mark ",") .expression .expression .assignment
  | coalesceHead : InfixRule .nullishCoalescing (mark "??") .coalesce .bitwiseOr .bitwiseOr
  | coalesceMore : InfixRule .nullishCoalescing (mark "??") .coalesce .coalesce .bitwiseOr
  | logicalOr : InfixRule .logicalOr (mark "||") .logicalOr .logicalOr .logicalAnd
  | logicalAnd : InfixRule .logicalAnd (mark "&&") .logicalAnd .logicalAnd .bitwiseOr
  | equality : InfixRule .equality (mark "==") .equality .equality .relational
  | inequality : InfixRule .inequality (mark "!=") .equality .equality .relational
  | strictEquality : InfixRule .strictEquality (mark "===") .equality .equality .relational
  | strictInequality : InfixRule .strictInequality (mark "!==") .equality .equality .relational
  | lessThan : InfixRule .lessThan (mark "<") .relational .relational .shift
  | lessThanOrEqual : InfixRule .lessThanOrEqual (mark "<=") .relational .relational .shift
  | greaterThan : InfixRule .greaterThan (mark ">") .relational .relational .shift
  | greaterThanOrEqual : InfixRule .greaterThanOrEqual (mark ">=") .relational .relational .shift
  | instanceof : InfixRule .instanceof (word "instanceof") .relational .relational .shift
  | membership : InfixRule .membership (word "in") .relational .relational .shift
  | addition : InfixRule .addition (mark "+") .additive .additive .multiplicative
  | subtraction : InfixRule .subtraction (mark "-") .additive .additive .multiplicative
  | multiplication :
      InfixRule .multiplication (mark "*") .multiplicative .multiplicative .exponentiation
  | division : InfixRule .division (mark "/") .multiplicative .multiplicative .exponentiation
  | remainder : InfixRule .remainder (mark "%") .multiplicative .multiplicative .exponentiation
  | exponentiation :
      InfixRule .exponentiation (mark "**") .exponentiation .update .exponentiation

/-- Assignments and their signs. -/
inductive AssignmentRule : Operator → Token → Prop
  | assignment : AssignmentRule .assignment (mark "=")
  | addition : AssignmentRule .assignmentAddition (mark "+=")
  | subtraction : AssignmentRule .assignmentSubtraction (mark "-=")

/-- Operators before any operand that is a unary expression. -/
inductive LeadingRule : Operator → Token → Prop
  | await : LeadingRule .await (word "await")
  | typeof : LeadingRule .typeof (word "typeof")
  | void : LeadingRule .void (word "void")
  | logicalNot : LeadingRule .logicalNot (mark "!")
  | plus : LeadingRule .unaryPlus (mark "+")
  | minus : LeadingRule .unaryNegation (mark "-")

/-- Increment and decrement before their target. -/
inductive LeadingUpdateRule : Operator → Token → Prop
  | increment : LeadingUpdateRule .prefixIncrement (mark "++")
  | decrement : LeadingUpdateRule .prefixDecrement (mark "--")

/-- Increment and decrement after their target. -/
inductive TrailingUpdateRule : Operator → Token → Prop
  | increment : TrailingUpdateRule .postfixIncrement (mark "++")
  | decrement : TrailingUpdateRule .postfixDecrement (mark "--")

/-! ### Links of a chain -/

/-- What a call, if the first argument is `true`, or else a member access or an index makes of the
expression it is applied to; it is optional if the second argument is `true`.  An optional link
starts an optional chain, and every later link continues it. -/
inductive LinkRule : Bool → Bool → Level → Level → Prop
  | member : LinkRule false false .member .member
  | firstCall : LinkRule true false .member .call
  | afterCall {call : Bool} : LinkRule call false .call .call
  | optionalMember {call : Bool} : LinkRule call true .member .optional
  | optionalCall {call : Bool} : LinkRule call true .call .optional
  | continued {call optional : Bool} : LinkRule call optional .optional .optional

end TypeProbe.Grammar
