import TypeProbe.Proofs.Print.Layout
import TypeProbe.Proofs.Resolution.Sites
import TypeProbe.Proofs.Tree.Chain

/-! # Punctuation around probed bodies

Whatever decides about parentheses, braces, points and commas is outside of probed bodies, and so
the same in the outline (`Expr.precedence_outline`, `Expr.startsWithFunction_outline` and so on).
This leaves one layout for what is written around an expression or a branch (`Expr.wrapLayout`,
`Stmt.branchLayout`). -/

namespace TypeProbe

open Output

/-! ### What decides about parentheses is outside of probed bodies -/

section outline

variable {marker : String}

namespace Expr

@[simp] theorem precedence_outline (probed : Bool) (e : Expr) :
    (e.outline marker probed).precedence = e.precedence := by
  cases e <;> rfl

@[simp] theorem isNullish_outline (probed : Bool) (e : Expr) :
    (e.outline marker probed).isNullish = e.isNullish := by
  cases e <;> rfl

@[simp] theorem isLogical_outline (probed : Bool) (e : Expr) :
    (e.outline marker probed).isLogical = e.isLogical := by
  cases e <;> rfl

@[simp] theorem isCall_outline (probed : Bool) (e : Expr) :
    (e.outline marker probed).isCall = e.isCall := by
  cases e <;> rfl

@[simp] theorem integerPoint_outline (probed : Bool) (e : Expr) :
    (e.outline marker probed).integerPoint = e.integerPoint := by
  cases e <;> rfl

@[simp] theorem hasCallInChain_outline (probed : Bool) :
    (e : Expr) → (e.outline marker probed).hasCallInChain = e.hasCallInChain
  | .member _ _ object _ => hasCallInChain_outline false object
  | .index _ _ object _ => hasCallInChain_outline false object
  | .call _ ⟨_, _, _⟩ => rfl
  | .arrow .. | .binary .. | .conditional .. | .function .. | .ident .. | .this _ | .unary ..
  | .trailing .. | .array .. | .boolean .. | .null _ | .number .. | .string .. => rfl

@[simp] theorem constructorMin_outline (probed : Bool) (e : Expr) :
    (e.outline marker probed).constructorMin = e.constructorMin := by
  unfold constructorMin
  rw [hasCallInChain_outline]

end Expr

namespace Operator

variable (op : Operator) (probed : Bool) (e : Expr)

@[simp] theorem mixesWith_outline : op.mixesWith (e.outline marker probed) = op.mixesWith e := by
  cases op <;> simp [mixesWith]

@[simp] theorem leftMin_outline : op.leftMin (e.outline marker probed) = op.leftMin e := by
  simp only [leftMin, mixesWith_outline]

@[simp] theorem rightMin_outline : op.rightMin (e.outline marker probed) = op.rightMin e := by
  simp only [rightMin, mixesWith_outline]

end Operator

@[simp] theorem Expr.startsWithFunction_outline (probed : Bool) :
    (e : Expr) → (e.outline marker probed).startsWithFunction = e.startsWithFunction
  | .binary a op left right => by
      have h := startsWithFunction_outline false left
      simp only [outline, startsWithFunction, Operator.leftMin_outline, precedence_outline, h]
  | .call a ⟨_, callee, _⟩ => by
      have h := startsWithFunction_outline false callee
      simp only [outline, Call.outline, startsWithFunction, precedence_outline, h]
  | .index a _ object _ => by
      have h := startsWithFunction_outline false object
      simp only [outline, startsWithFunction, precedence_outline, h]
  | .member a _ object _ => by
      have h := startsWithFunction_outline false object
      simp only [outline, startsWithFunction, precedence_outline, h]
  | .conditional a test _ _ => by
      have h := startsWithFunction_outline false test
      simp only [outline, startsWithFunction, precedence_outline, h]
  | .trailing a _ argument => by
      have h := startsWithFunction_outline false argument
      simp only [outline, startsWithFunction, precedence_outline, h]
  | .arrow .. | .function .. | .ident .. | .this _ | .unary .. | .array .. | .boolean .. | .null _
  | .number .. | .string .. => rfl

theorem Elements.endsInHole_outline (es : List Element) :
    endsInHole (Elements.outline marker es) = endsInHole es := by
  induction es with
  | nil => rfl
  | cons first rest ih =>
      cases rest with
      | nil => cases first <;> rfl
      | cons second rest => cases first <;> cases second <;> exact ih

/-- Whether a statement stands in braces of its own. -/
def Stmt.isBlock : Stmt → Bool
  | .block .. => true
  | _ => false

@[simp] theorem Stmt.isBlock_outline (s : Stmt) : (s.outline marker).isBlock = s.isBlock := by
  cases s with
  | ifElse a test consequent alternate => cases alternate <;> rfl
  | ret a value => cases value <;> rfl
  | tryBlock a wrapped handler finalizer => cases handler <;> cases finalizer <;> rfl
  | _ => rfl

theorem Stmt.ctorIdx_of_outline {s o : Stmt} (h : s.outline marker = o) :
    s.ctorIdx = o.ctorIdx := by
  subst h
  cases s with
  | ifElse a test consequent alternate => cases alternate <;> rfl
  | ret a value => cases value <;> rfl
  | tryBlock a wrapped handler finalizer => cases handler <;> cases finalizer <;> rfl
  | _ => rfl

theorem Declarators.isEmpty_outline (ds : List Declarator) :
    (Declarators.outline marker ds).isEmpty = ds.isEmpty := by
  cases ds with
  | nil => rfl
  | cons first rest =>
      obtain ⟨pattern, type, value⟩ := first
      cases value <;> rfl

def Body.isBlock : Body → Bool
  | .block .. => true
  | .expr .. => false

@[simp] theorem Body.isBlock_outline (b : Body) : (b.outline marker).isBlock = b.isBlock := by
  cases b <;> rfl

@[simp] theorem Func.isBlock_outline (f : Func) :
    (f.outline marker false).body.isBlock = f.body.isBlock := by
  obtain ⟨spot, arrow, async, generator, parameters, returnType, body⟩ := f
  exact body.isBlock_outline

end outline

/-! ### What is printed -/

theorem Expr.print_function (a : Anchor) (name : Option Name) (f : Func) :
    (function a name f).print =
      if f.body.isBlock then f.printFunction name else fail .functionWithExprBody a.inner := by
  obtain ⟨spot, arrow, async, generator, parameters, returnType, body⟩ := f
  cases body <;> rfl

theorem Stmt.print_funcDecl (a : Anchor) (exported : Bool) (name : Name) (f : Func) :
    (Stmt.funcDecl a exported (some name) f).print =
      if f.body.isBlock then onlyIf exported (keyword "export") ++ f.printFunction (some name)
      else fail .declarationWithExprBody a.inner := by
  obtain ⟨spot, arrow, async, generator, parameters, returnType, body⟩ := f
  cases body <;> rfl

theorem Stmt.printBranch_eq (s : Stmt) (text : Output) :
    s.printBranch text = if s.isBlock then text else braced text := by
  cases s <;> rfl

/-! ### Layouts of wrapped expressions and of branches -/

/-- The layout of an expression where a place asks for a precedence. -/
def Expr.wrapLayout (e : Expr) (min : Nat) (l : Layout) : Layout :=
  if e.precedence < min then (punct "(").layout ++ l ++ (punct ")").layout else l

/-- The layout of parameters and a return type. -/
def signatureLayout (returnType : Option TypeExpr) (l : Layout) : Layout :=
  (punct "(").layout ++ l ++ (punct ")").layout ++ (printType? returnType).layout

/-- The layout of a branch or loop body. -/
def Stmt.branchLayout (s : Stmt) (l : Layout) : Layout :=
  if s.isBlock then l else (punct "\x7b").layout ++ l ++ (punct "\x7d").layout

namespace Output

variable {o o' : Output} {l : Layout} {bs : List Body}

theorem Fits.wrap (h : o.Fits l bs) (e : Expr) (min : Nat) :
    (e.wrap min o).Fits (e.wrapLayout min l) bs := by
  unfold Expr.wrap Expr.wrapLayout
  split
  · exact h.parenthesized
  · exact h

theorem Fits.branch (h : o.Fits l bs) (s : Stmt) :
    (s.printBranch o).Fits (s.branchLayout l) bs := by
  rw [Stmt.printBranch_eq]
  unfold Stmt.branchLayout
  split
  · exact h
  · exact h.braced

/-- A failure has the layout of whatever could have stood there. -/
theorem Fits.failed (h : o.Fits l bs) (ho : o'.written? = none) :
    o'.Fits (.written none :: l) bs := ⟨h.length, ho⟩

theorem Fits.unless (h : o.Fits l bs) (fails : Bool) (cause : Unprintable) (loc : Loc) :
    (if fails then fail cause loc else o).Fits (if fails then .written none :: l else l) bs := by
  cases fails with
  | true => exact h.failed rfl
  | false => exact h

theorem Fits.signature {ps : List Output} (h : (commaSeparated ps).Fits l bs)
    (returnType : Option TypeExpr) :
    (printSignature ps returnType).Fits (signatureLayout returnType l) bs :=
  h.parenthesized.after _

end Output

@[simp] theorem Expr.wrapLayout_outline {marker : String} (probed : Bool) (e : Expr) (min : Nat)
    (l : Layout) : (e.outline marker probed).wrapLayout min l = e.wrapLayout min l := by
  unfold wrapLayout
  rw [precedence_outline]

@[simp] theorem Stmt.branchLayout_outline {marker : String} (s : Stmt) (l : Layout) :
    (s.outline marker).branchLayout l = s.branchLayout l := by
  unfold branchLayout
  rw [isBlock_outline]

end TypeProbe
