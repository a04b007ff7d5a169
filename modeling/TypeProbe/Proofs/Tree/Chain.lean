import TypeProbe.Print.Tree
import TypeProbe.Proofs.Tree.Bare

/-! # Chains of links

A call, a member access and an index are links on the expression they start from, and that may be
a link in turn.  Whether one of them is optional decides how the chain is read: an optional chain
is no target of an assignment, and no constructor.

* `Expr.hasOptionalLink` follows a chain to its end;
* `Expr.hasOptionalMember` stops at the first call, as what `new` constructs does.

Under `new` a call is printed by its parts, and anything else like any operand
(`Expr.print_new`). -/

namespace TypeProbe

namespace Expr

/-- Whether a link of the chain that the expression ends is optional. -/
def hasOptionalLink : Expr → Bool
  | call _ ⟨optional, callee, _⟩ => optional || callee.hasOptionalLink
  | index _ optional object _ => optional || object.hasOptionalLink
  | member _ optional object _ => optional || object.hasOptionalLink
  | _ => false

/-- Whether a member access or an index is optional, among those after the last call of the
chain. -/
def hasOptionalMember : Expr → Bool
  | index _ optional object _ => optional || object.hasOptionalMember
  | member _ optional object _ => optional || object.hasOptionalMember
  | _ => false

/-- Whether the expression may be assigned to: a name, or a member or an index in a chain without
optional link. -/
def isTarget : Expr → Bool
  | ident .. => true
  | e@(index ..) => !e.hasOptionalLink
  | e@(member ..) => !e.hasOptionalLink
  | _ => false

def isCall : Expr → Bool
  | call .. => true
  | _ => false

/-- What `new` constructs if this is its argument: the arguments of a call belong to `new`. -/
def constructed : Expr → Expr
  | call _ ⟨_, callee, _⟩ => callee
  | e => e

/-! ### Bare trees have the same chains -/

@[simp] theorem hasOptionalLink_bare : (e : Expr) → e.bare.hasOptionalLink = e.hasOptionalLink
  | .call _ ⟨_, callee, _⟩ => by
      simp only [bare, Call.bare, hasOptionalLink, hasOptionalLink_bare callee]
  | .index _ _ object _ => by simp only [bare, hasOptionalLink, hasOptionalLink_bare object]
  | .member _ _ object _ => by simp only [bare, hasOptionalLink, hasOptionalLink_bare object]
  | .arrow .. | .binary .. | .conditional .. | .function .. | .ident .. | .this _ | .unary ..
  | .trailing .. | .array .. | .boolean .. | .null _ | .number .. | .string .. => rfl

@[simp] theorem isTarget_bare (e : Expr) : e.bare.isTarget = e.isTarget := by
  have hl := hasOptionalLink_bare e
  cases e with
  | index a optional object key => exact congrArg (!·) hl
  | member a optional object property => exact congrArg (!·) hl
  | _ => rfl

@[simp] theorem isCall_bare (e : Expr) : e.bare.isCall = e.isCall := by
  cases e <;> rfl

/-- Without a call in a chain, its members are all its links. -/
theorem hasOptionalLink_of_not_hasCallInChain : {e : Expr} → e.hasCallInChain = false →
    e.hasOptionalMember = false → e.hasOptionalLink = false
  | .index _ _ object _, hc, ho => by
      simp only [hasOptionalMember, Bool.or_eq_false_iff] at ho
      simp only [hasOptionalLink, ho.1, Bool.false_or]
      exact hasOptionalLink_of_not_hasCallInChain hc ho.2
  | .member _ _ object _, hc, ho => by
      simp only [hasOptionalMember, Bool.or_eq_false_iff] at ho
      simp only [hasOptionalLink, ho.1, Bool.false_or]
      exact hasOptionalLink_of_not_hasCallInChain hc ho.2
  | .call .., hc, _ => by cases hc
  | .arrow .., _, _ | .binary .., _, _ | .conditional .., _, _ | .function .., _, _
  | .ident .., _, _ | .this _, _, _ | .unary .., _, _ | .trailing .., _, _ | .array .., _, _
  | .boolean .., _, _ | .null _, _, _ | .number .., _, _ | .string .., _, _ => rfl

end Expr

/-! ### What is printed behind an operator -/

theorem Expr.print_leading {a : Anchor} {op : Operator} (hop : op ≠ .new) (e : Expr) :
    (unary a op e).print = op.print ++ e.wrap Precedence.unary e.print := by
  cases op with
  | new => exact absurd rfl hop
  | _ => rfl

/-- Only a call is printed otherwise under `new`. -/
theorem Expr.print_new {a : Anchor} {e : Expr} (he : e.isCall = false) :
    (unary a .new e).print = Operator.print .new ++ e.wrap e.constructorMin e.print := by
  cases e with
  | call => cases he
  | _ => rfl

end TypeProbe
