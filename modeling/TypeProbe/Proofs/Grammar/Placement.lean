import TypeProbe.Proofs.Grammar.Sentence
import TypeProbe.Proofs.Tree.Check

/-! # Well-placed parts

Trees can be put together in ways that no program text has.  `wellPlaced` is the check that
excludes those which printing does not refuse:

* names are identifiers, and no words that printing writes on its own account;
* operators stand in their own position, and increments and assignments have a target;
* nothing optional is among the members of what `new` constructs;
* numbers are finite and have positive sign;
* only the last parameter is a rest parameter. -/

namespace TypeProbe

open Grammar

/-! ### Names -/

/-- The words that printing writes on its own account. -/
def printedWords : List String :=
  ["async", "break", "catch", "const", "continue", "do", "else", "export", "false", "finally",
    "function", "if", "let", "null", "return", "this", "throw", "true", "try", "var", "while"] ++
    (Operator.all.filter Operator.isWord).map Operator.token ++ typeKeywords.map Prod.fst

/-- Whether a word shows as a name: printing writes it for names only. -/
def isPrintedName (name : String) : Bool := isIdentifierName name && !printedWords.contains name

/-- Whether a word shows as a name and may be that of a variable. -/
def isFreeName (name : String) : Bool := isPrintedName name && !reservedWords.contains name

/-! ### Operators -/

namespace Operator

/-- Operators before their operand. -/
def isLeading : Operator → Bool
  | await | logicalNot | new | prefixDecrement | prefixIncrement | typeof | unaryNegation
  | unaryPlus | void => true
  | _ => false

/-- Operators after their operand. -/
def isTrailing : Operator → Bool
  | postfixDecrement | postfixIncrement => true
  | _ => false

/-- Operators between two operands. -/
def isInfix (op : Operator) : Bool := !op.isLeading && !op.isTrailing

/-- Operators that assign to their left operand. -/
def isAssignment : Operator → Bool
  | assignment | assignmentAddition | assignmentSubtraction => true
  | _ => false

/-- Operators before an operand that they assign to. -/
def isLeadingUpdate : Operator → Bool
  | prefixDecrement | prefixIncrement => true
  | _ => false

end Operator

namespace Expr

/-- Whether the operator of an expression, if it has one, stands in its own position. -/
def hasOperatorInPlace : Expr → Bool
  | binary _ op _ _ => op.isInfix
  | unary _ op _ => op.isLeading
  | trailing _ op _ => op.isTrailing
  | _ => true

/-- Whether an operator stands in its own position, and a number is written without sign. -/
def isReadable : Expr → Bool
  | number _ value => value.isFinite && !value.isNegative
  | e => e.hasOperatorInPlace

theorem isReadable_number_iff {a : Anchor} {value : Binary64} :
    (number a value).isReadable = true ↔ value.isFinite = true ∧ value.isNegative = false := by
  rw [isReadable, Bool.and_eq_true, Bool.not_eq_true']

/-- Whether the operands of an operator are such that it applies to them. -/
def hasOperandsInPlace : Expr → Bool
  | binary _ op left _ => !op.isAssignment || left.isTarget
  | unary _ op argument =>
      (!op.isLeadingUpdate || argument.isTarget) &&
        (op != .new || !argument.constructed.hasOptionalMember)
  | trailing _ _ argument => argument.isTarget
  | _ => true

/-- Whether an expression has the operator, the operands or the value that its form needs. -/
def isWellPlaced (e : Expr) : Bool := e.isReadable && e.hasOperandsInPlace

theorem isWellPlaced_iff {e : Expr} :
    e.isWellPlaced = true ↔ e.isReadable = true ∧ e.hasOperandsInPlace = true :=
  Bool.and_eq_true_iff

theorem isReadable_of_isWellPlaced {e : Expr} (h : e.isWellPlaced = true) :
    e.isReadable = true := (isWellPlaced_iff.mp h).1

end Expr

/-! ### The check -/

/-- Whether only the last parameter is a rest parameter. -/
def restOnlyLast : List Param → Bool
  | [] => true
  | [_] => true
  | p :: q :: rest => !p.rest && restOnlyLast (q :: rest)

/-- **The check** for trees that have a text. -/
def wellPlaced : Check where
  name := isFreeName
  property := isIdentifierName
  expr := Expr.isWellPlaced
  parameters := restOnlyLast

/-! ### What free names are not -/

theorem isPrintedName_iff {name : String} :
    isPrintedName name = true ↔ isIdentifierName name = true ∧ name ∉ printedWords := by
  simp [isPrintedName]

theorem isFreeName_iff {name : String} :
    isFreeName name = true ↔ isIdentifier name = true ∧ name ∉ printedWords := by
  simp only [isFreeName, isPrintedName, isIdentifier, Bool.and_eq_true, Bool.not_eq_true',
    List.contains_eq_mem, decide_eq_false_iff_not]
  tauto

theorem isIdentifier_of_isFreeName {name : String} (h : isFreeName name = true) :
    isIdentifier name = true := (isFreeName_iff.mp h).1

/-- What a check tells apart is different. -/
theorem ne_of_check {α : Type} {p : α → Bool} {x y : α} (hx : p x = true) (hy : p y = false) :
    x ≠ y := by
  rintro rfl
  rw [hx] at hy
  cases hy

theorem not_typeKeyword_of_isFreeName {name : String} (h : isFreeName name = true)
    (k : TypeKeyword) : (name, k) ∉ typeKeywords := by
  intro hk
  exact (isFreeName_iff.mp h).2 (List.mem_append_right _ (List.mem_map_of_mem hk))

end TypeProbe
