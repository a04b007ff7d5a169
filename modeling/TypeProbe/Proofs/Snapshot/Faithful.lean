import TypeProbe.Proofs.Snapshot.Forms
import TypeProbe.Proofs.Tree.Check
import TypeProbe.Tree.Build

/-! # Snapshots are faithful

Programs with finite number literals have the same snapshot exactly if they have the same syntax
(`Program.same_snapshot_iff`).  A number without a finite value is shown as `null`, and so is every
other one.

The induction is on the first of two trees with the same snapshot, and what it says holds for every
second one. -/

namespace TypeProbe

open Snapshot

/-! ### Finite literals -/

/-- Whether an expression is no number literal, or one of a finite number. -/
def Expr.isFiniteLiteral : Expr → Bool
  | number _ value => value.isFinite
  | _ => true

/-- **The check** for trees whose snapshots show every number. -/
def finiteLiterals : Check where
  name := fun _ => true
  property := fun _ => true
  expr := Expr.isFiniteLiteral
  parameters := fun _ => true

/-! ### The same snapshot, the same syntax -/

mutual

theorem Expr.told : (e : Expr) → e.passes finiteLiterals = true → e.Told
  | .arrow _ f, hf => by
      rw [Expr.passes, Bool.and_eq_true] at hf
      exact Expr.told_arrow (f.told hf.2)
  | .binary _ _ left right, hf => by
      rw [Expr.passes, Bool.and_eq_true, Bool.and_eq_true] at hf
      exact Expr.told_binary (left.told hf.1.2) (right.told hf.2)
  | .call _ ⟨_, callee, arguments⟩, hf => by
      rw [Expr.passes, Call.passes, Bool.and_eq_true, Bool.and_eq_true] at hf
      exact Expr.told_call (callee.told hf.2.1) (Arguments.told arguments hf.2.2)
  | .index _ _ base key, hf => by
      rw [Expr.passes, Bool.and_eq_true, Bool.and_eq_true] at hf
      exact Expr.told_index (base.told hf.1.2) (key.told hf.2)
  | .conditional _ test consequent alternate, hf => by
      rw [Expr.passes, Bool.and_eq_true, Bool.and_eq_true, Bool.and_eq_true] at hf
      exact Expr.told_conditional (test.told hf.1.1.2) (consequent.told hf.1.2)
        (alternate.told hf.2)
  | .function _ _ f, hf => by
      rw [Expr.passes, Bool.and_eq_true] at hf
      exact Expr.told_function (f.told hf.2)
  | .ident .., _ => Expr.told_ident
  | .member _ _ base _, hf => by
      rw [Expr.passes, Bool.and_eq_true, Bool.and_eq_true] at hf
      exact Expr.told_member (base.told hf.1.2)
  | .this _, _ => Expr.told_this
  | .unary _ _ argument, hf => by
      rw [Expr.passes, Bool.and_eq_true] at hf
      exact Expr.told_unary (argument.told hf.2)
  | .trailing _ _ argument, hf => by
      rw [Expr.passes, Bool.and_eq_true] at hf
      exact Expr.told_trailing (argument.told hf.2)
  | .array _ elements, hf => by
      rw [Expr.passes, Bool.and_eq_true] at hf
      exact Expr.told_array (Elements.told elements hf.2)
  | .boolean .., _ => Expr.told_boolean
  | .null _, _ => Expr.told_null
  | .number .., hf => Expr.told_number hf
  | .string .., _ => Expr.told_string

theorem Arguments.told : (as : List Argument) → Arguments.passes finiteLiterals as = true →
    Arguments.Told as
  | [], _ => Arguments.told_nil
  | ⟨_, _, value⟩ :: rest, hf => by
      rw [Arguments.passes, Bool.and_eq_true] at hf
      exact Arguments.told_cons (value.told hf.1) (Arguments.told rest hf.2)

theorem Elements.told : (es : List Element) → Elements.passes finiteLiterals es = true →
    Elements.Told es
  | [], _ => Elements.told_nil
  | .single value :: rest, hf => by
      rw [Elements.passes, Bool.and_eq_true] at hf
      exact Elements.told_single (value.told hf.1) (Elements.told rest hf.2)
  | .rest value :: rest, hf => by
      rw [Elements.passes, Bool.and_eq_true] at hf
      exact Elements.told_rest (value.told hf.1) (Elements.told rest hf.2)
  | .hole :: rest, hf => Elements.told_hole (Elements.told rest hf)

theorem Func.told : (f : Func) → f.passes finiteLiterals = true → f.Told
  | ⟨_, _, _, _, parameters, _, body⟩, hf => by
      rw [Func.passes, Bool.and_eq_true, Bool.and_eq_true, Bool.and_eq_true] at hf
      exact Func.told_mk (Params.told parameters hf.1.1.2) (body.told hf.2)

theorem Body.told : (b : Body) → b.passes finiteLiterals = true → b.Told
  | .block _ statements, hf => Body.told_block (Stmts.told statements hf)
  | .expr _ value, hf => Body.told_expr (value.told hf)

theorem Params.told : (ps : List Param) → Params.passes finiteLiterals ps = true → Params.Told ps
  | [], _ => Params.told_nil
  | ⟨_, _, _, _, none⟩ :: rest, hf => by
      rw [Params.passes, Bool.and_eq_true] at hf
      exact Params.told_cons (.none Expr.isNull_snapshot) (Params.told rest hf.2)
  | ⟨_, _, _, _, some value⟩ :: rest, hf => by
      rw [Params.passes, Bool.and_eq_true, Bool.and_eq_true] at hf
      exact Params.told_cons (.some Expr.isNull_snapshot (value.told hf.1.2))
        (Params.told rest hf.2)

theorem Stmt.told : (s : Stmt) → s.passes finiteLiterals = true → s.Told
  | .block _ body, hf => Stmt.told_block (Stmts.told body hf)
  | .breakTo .., _ => Stmt.told_breakTo
  | .continueTo .., _ => Stmt.told_continueTo
  | .doWhile _ condition body, hf => by
      rw [Stmt.passes, Bool.and_eq_true] at hf
      exact Stmt.told_doWhile (condition.told hf.1) (body.told hf.2)
  | .empty _, _ => Stmt.told_empty
  | .expr _ value, hf => Stmt.told_expr (value.told hf)
  | .ifElse _ test consequent none, hf => by
      rw [Stmt.passes, Bool.and_eq_true] at hf
      exact Stmt.told_ifElse (test.told hf.1) (consequent.told hf.2) (.none Stmt.isNull_snapshot)
  | .ifElse _ test consequent (some alternate), hf => by
      rw [Stmt.passes, Bool.and_eq_true, Bool.and_eq_true] at hf
      exact Stmt.told_ifElse (test.told hf.1.1) (consequent.told hf.1.2)
        (.some Stmt.isNull_snapshot (alternate.told hf.2))
  | .ret _ none, _ => Stmt.told_ret (.none Expr.isNull_snapshot)
  | .ret _ (some value), hf => Stmt.told_ret (.some Expr.isNull_snapshot (value.told hf))
  | .throw _ value, hf => Stmt.told_throw (value.told hf)
  | .tryBlock _ wrapped none none, hf =>
      Stmt.told_tryBlock (wrapped.told hf) (.none Catch.isNull_snapshot)
        (.none Block.isNull_snapshot)
  | .tryBlock _ wrapped (some handler) none, hf => by
      rw [Stmt.passes, Bool.and_eq_true] at hf
      exact Stmt.told_tryBlock (wrapped.told hf.1) (.some Catch.isNull_snapshot (handler.told hf.2))
        (.none Block.isNull_snapshot)
  | .tryBlock _ wrapped none (some finalizer), hf => by
      rw [Stmt.passes, Bool.and_eq_true] at hf
      exact Stmt.told_tryBlock (wrapped.told hf.1) (.none Catch.isNull_snapshot)
        (.some Block.isNull_snapshot (finalizer.told hf.2))
  | .tryBlock _ wrapped (some handler) (some finalizer), hf => by
      rw [Stmt.passes, Bool.and_eq_true, Bool.and_eq_true] at hf
      exact Stmt.told_tryBlock (wrapped.told hf.1.1)
        (.some Catch.isNull_snapshot (handler.told hf.1.2))
        (.some Block.isNull_snapshot (finalizer.told hf.2))
  | .whileDo _ condition body, hf => by
      rw [Stmt.passes, Bool.and_eq_true] at hf
      exact Stmt.told_whileDo (condition.told hf.1) (body.told hf.2)
  | .funcDecl _ _ _ f, hf => by
      rw [Stmt.passes, Bool.and_eq_true] at hf
      exact Stmt.told_funcDecl (f.told hf.2)
  | .varDecl _ _ _ declarators, hf => Stmt.told_varDecl (Declarators.told declarators hf)

theorem Stmts.told : (ss : List Stmt) → Stmts.passes finiteLiterals ss = true → Stmts.Told ss
  | [], _ => Stmts.told_nil
  | first :: rest, hf => by
      rw [Stmts.passes, Bool.and_eq_true] at hf
      exact Stmts.told_cons (first.told hf.1) (Stmts.told rest hf.2)

theorem Block.told : (b : Block) → b.passes finiteLiterals = true → b.Told
  | ⟨_, body⟩, hf => Block.told_mk (Stmts.told body hf)

theorem Catch.told : (c : Catch) → c.passes finiteLiterals = true → c.Told
  | ⟨_, _, body⟩, hf => by
      rw [Catch.passes, Bool.and_eq_true] at hf
      exact Catch.told_mk (Stmts.told body hf.2)

theorem Declarators.told : (ds : List Declarator) →
    Declarators.passes finiteLiterals ds = true → Declarators.Told ds
  | [], _ => Declarators.told_nil
  | ⟨_, _, none⟩ :: rest, hf => by
      rw [Declarators.passes, Bool.and_eq_true] at hf
      exact Declarators.told_cons (.none Expr.isNull_snapshot) (Declarators.told rest hf.2)
  | ⟨_, _, some value⟩ :: rest, hf => by
      rw [Declarators.passes, Bool.and_eq_true, Bool.and_eq_true] at hf
      exact Declarators.told_cons (.some Expr.isNull_snapshot (value.told hf.1.2))
        (Declarators.told rest hf.2)

end

/-! ### Programs -/

/-- **Snapshots are faithful.**  If the number literals of a program are finite, the programs with
the same snapshot are those with the same syntax, whether the fields of objects have an order or
not. -/
theorem Program.same_snapshot_iff (p q : Program) (hp : p.passes finiteLiterals = true) :
    (p.snapshot.Same q.snapshot ↔ p.unplaced = q.unplaced) ∧
      (p.snapshot = q.snapshot ↔ p.unplaced = q.unplaced) := by
  have hunplaced : p.snapshot.Same q.snapshot → p.unplaced = q.unplaced := by
    intro h
    have hbody := Stmts.told p.body hp q.body h.only.2
    rw [Program.unplaced, Program.unplaced, hbody]
  have hsnapshot : p.unplaced = q.unplaced → p.snapshot = q.snapshot := by
    intro h
    rw [← p.snapshot_unplaced, h, q.snapshot_unplaced]
  have hrefl : p.snapshot = q.snapshot → p.snapshot.Same q.snapshot := by
    intro h
    rw [h]
    exact Same.refl _
  exact ⟨⟨hunplaced, hrefl ∘ hsnapshot⟩, ⟨hunplaced ∘ hrefl, hsnapshot⟩⟩

/-- The program `try { return (x: any[], y = 0.5) => [, ...x]; } finally {}` somewhere, with the
first element of the array in place of the hole. -/
def Program.gathering (loc : Loc) (first : Element) : Program :=
  let values : Expr := .array (.ofLoc loc) [first, .rest (Build.ident loc "x")]
  let many : TypeExpr := .array (.ofLoc loc) (.keyword (.ofLoc loc) .any)
  let half : Expr := Build.number loc ⟨0x3fe0000000000000⟩
  let parameters : List Param :=
    [⟨loc, false, ⟨loc, "x"⟩, some many, none⟩, ⟨loc, false, ⟨loc, "y"⟩, none, some half⟩]
  let gather : Expr := Build.arrow loc parameters (Build.exprBody values)
  Build.program
    [.tryBlock (.ofLoc loc) ⟨loc, [Build.ret loc (some gather)]⟩ none (some ⟨loc, []⟩)]

theorem Program.same_snapshot_iff_gathering :
    (gathering ⟨0, 50⟩ .hole).passes finiteLiterals = true ∧
      (gathering ⟨0, 50⟩ .hole).snapshot.Same (gathering ⟨7, 57⟩ .hole).snapshot ∧
      ¬ (gathering ⟨0, 50⟩ .hole).snapshot.Same
        (gathering ⟨0, 50⟩ (.single (.null (.ofLoc ⟨34, 34⟩)))).snapshot := by
  refine ⟨rfl, (same_snapshot_iff _ _ rfl).1.mpr rfl, ?_⟩
  intro h
  cases (same_snapshot_iff _ _ rfl).1.mp h

end TypeProbe
