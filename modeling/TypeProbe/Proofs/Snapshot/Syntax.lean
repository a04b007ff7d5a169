import TypeProbe.Tree.Snapshot
import TypeProbe.Proofs.Tree.Bare

/-! # Syntax without positions

The syntax of a program (`Program.unplaced`) is the program with blank positions and no origins:
every kind of node, name, operator, flag, list and optional part is as it was.  The syntax of a name
or a type is its bare form.

Positions and origins do not show in a snapshot, so that a program has the snapshot of its syntax
(`Program.snapshot_unplaced`). -/

namespace TypeProbe

/-! ### Syntax -/

mutual

/-- The syntax of an expression. -/
def Expr.unplaced : Expr → Expr
  | .arrow _ f => .arrow .blank f.unplaced
  | .binary _ op left right => .binary .blank op left.unplaced right.unplaced
  | .call _ c => .call .blank c.unplaced
  | .index _ optional object key => .index .blank optional object.unplaced key.unplaced
  | .conditional _ test consequent alternate =>
      .conditional .blank test.unplaced consequent.unplaced alternate.unplaced
  | .function _ name f => .function .blank (name.map Name.bare) f.unplaced
  | .ident _ name => .ident .blank name
  | .member _ optional object property => .member .blank optional object.unplaced property
  | .this _ => .this .blank
  | .unary _ op argument => .unary .blank op argument.unplaced
  | .trailing _ op argument => .trailing .blank op argument.unplaced
  | .array _ elements => .array .blank (Elements.unplaced elements)
  | .boolean _ value => .boolean .blank value
  | .null _ => .null .blank
  | .number _ value => .number .blank value
  | .string _ value => .string .blank value

def Call.unplaced : Call → Call
  | ⟨optional, callee, arguments⟩ => ⟨optional, callee.unplaced, Arguments.unplaced arguments⟩

def Arguments.unplaced : List Argument → List Argument
  | [] => []
  | ⟨_, spread, value⟩ :: rest => ⟨.blank, spread, value.unplaced⟩ :: Arguments.unplaced rest

def Elements.unplaced : List Element → List Element
  | [] => []
  | .single value :: rest => .single value.unplaced :: Elements.unplaced rest
  | .rest value :: rest => .rest value.unplaced :: Elements.unplaced rest
  | .hole :: rest => .hole :: Elements.unplaced rest

def Func.unplaced : Func → Func
  | ⟨_, arrow, async, generator, parameters, returnType, body⟩ =>
      ⟨.blank, arrow, async, generator, Params.unplaced parameters, returnType.map TypeExpr.bare,
        body.unplaced⟩

def Body.unplaced : Body → Body
  | .block _ statements => .block .blank (Stmts.unplaced statements)
  | .expr _ value => .expr .blank value.unplaced

def Params.unplaced : List Param → List Param
  | [] => []
  | ⟨_, isRest, pattern, type, none⟩ :: rest =>
      ⟨.blank, isRest, pattern.bare, type.map TypeExpr.bare, none⟩ :: Params.unplaced rest
  | ⟨_, isRest, pattern, type, some value⟩ :: rest =>
      ⟨.blank, isRest, pattern.bare, type.map TypeExpr.bare, some value.unplaced⟩ ::
        Params.unplaced rest

def Stmt.unplaced : Stmt → Stmt
  | .block _ body => .block .blank (Stmts.unplaced body)
  | .breakTo _ label => .breakTo .blank label
  | .continueTo _ label => .continueTo .blank label
  | .doWhile _ condition body => .doWhile .blank condition.unplaced body.unplaced
  | .empty _ => .empty .blank
  | .expr _ value => .expr .blank value.unplaced
  | .ifElse _ test consequent none => .ifElse .blank test.unplaced consequent.unplaced none
  | .ifElse _ test consequent (some alternate) =>
      .ifElse .blank test.unplaced consequent.unplaced (some alternate.unplaced)
  | .ret _ none => .ret .blank none
  | .ret _ (some value) => .ret .blank (some value.unplaced)
  | .throw _ value => .throw .blank value.unplaced
  | .tryBlock _ wrapped none none => .tryBlock .blank wrapped.unplaced none none
  | .tryBlock _ wrapped (some handler) none =>
      .tryBlock .blank wrapped.unplaced (some handler.unplaced) none
  | .tryBlock _ wrapped none (some finalizer) =>
      .tryBlock .blank wrapped.unplaced none (some finalizer.unplaced)
  | .tryBlock _ wrapped (some handler) (some finalizer) =>
      .tryBlock .blank wrapped.unplaced (some handler.unplaced) (some finalizer.unplaced)
  | .whileDo _ condition body => .whileDo .blank condition.unplaced body.unplaced
  | .funcDecl _ exported name f => .funcDecl .blank exported (name.map Name.bare) f.unplaced
  | .varDecl _ exported kind declarators =>
      .varDecl .blank exported kind (Declarators.unplaced declarators)

def Stmts.unplaced : List Stmt → List Stmt
  | [] => []
  | s :: rest => s.unplaced :: Stmts.unplaced rest

def Block.unplaced : Block → Block
  | ⟨_, body⟩ => ⟨.blank, Stmts.unplaced body⟩

def Catch.unplaced : Catch → Catch
  | ⟨_, parameter, body⟩ => ⟨.blank, parameter.map Name.bare, Stmts.unplaced body⟩

def Declarators.unplaced : List Declarator → List Declarator
  | [] => []
  | ⟨pattern, type, none⟩ :: rest =>
      ⟨pattern.bare, type.map TypeExpr.bare, none⟩ :: Declarators.unplaced rest
  | ⟨pattern, type, some value⟩ :: rest =>
      ⟨pattern.bare, type.map TypeExpr.bare, some value.unplaced⟩ :: Declarators.unplaced rest

end

/-- The syntax of a program. -/
def Program.unplaced (p : Program) : Program := ⟨.blank, Stmts.unplaced p.body⟩

/-! ### Parts that may be absent -/

theorem Params.unplaced_cons (spot : Spot) (isRest : Bool) (pattern : Name) (type : Option TypeExpr)
    (value : Option Expr) (rest : List Param) :
    Params.unplaced (⟨spot, isRest, pattern, type, value⟩ :: rest) =
      ⟨.blank, isRest, pattern.bare, type.map TypeExpr.bare, value.map Expr.unplaced⟩ ::
        Params.unplaced rest := by
  cases value <;> rfl

theorem Stmt.unplaced_ifElse (a : Anchor) (test : Expr) (consequent : Stmt)
    (alternate : Option Stmt) :
    (Stmt.ifElse a test consequent alternate).unplaced =
      .ifElse .blank test.unplaced consequent.unplaced (alternate.map Stmt.unplaced) := by
  cases alternate <;> rfl

theorem Stmt.unplaced_ret (a : Anchor) (value : Option Expr) :
    (Stmt.ret a value).unplaced = .ret .blank (value.map Expr.unplaced) := by
  cases value <;> rfl

theorem Stmt.unplaced_tryBlock (a : Anchor) (wrapped : Block) (handler : Option Catch)
    (finalizer : Option Block) :
    (Stmt.tryBlock a wrapped handler finalizer).unplaced =
      .tryBlock .blank wrapped.unplaced (handler.map Catch.unplaced)
        (finalizer.map Block.unplaced) := by
  cases handler <;> cases finalizer <;> rfl

theorem Declarators.unplaced_cons (pattern : Name) (type : Option TypeExpr) (value : Option Expr)
    (rest : List Declarator) :
    Declarators.unplaced (⟨pattern, type, value⟩ :: rest) =
      ⟨pattern.bare, type.map TypeExpr.bare, value.map Expr.unplaced⟩ ::
        Declarators.unplaced rest := by
  cases value <;> rfl

/-! ### Names and types -/

theorem snapshotName?_bare (name : Option Name) :
    snapshotName? (name.map Name.bare) = snapshotName? name := by
  cases name <;> rfl

mutual

theorem TypeExpr.snapshot_bare (t : TypeExpr) : t.bare.snapshot = t.snapshot := by
  match t with
  | .array _ element =>
      simp only [TypeExpr.bare, TypeExpr.snapshot, element.snapshot_bare]
  | .keyword _ word => rfl
  | .reference _ name arguments =>
      simp only [TypeExpr.bare, TypeExpr.snapshot, TypeExprs.snapshots_bare arguments]

theorem TypeExprs.snapshots_bare (ts : List TypeExpr) :
    TypeExprs.snapshots (TypeExprs.bare ts) = TypeExprs.snapshots ts := by
  match ts with
  | [] => rfl
  | t :: rest =>
      simp only [TypeExprs.bare, TypeExprs.snapshots, t.snapshot_bare,
        TypeExprs.snapshots_bare rest]

end

theorem snapshotType?_bare (type : Option TypeExpr) :
    snapshotType? (type.map TypeExpr.bare) = snapshotType? type := by
  cases type with
  | none => rfl
  | some t => exact t.snapshot_bare

/-! ### Snapshots show the syntax only -/

mutual

theorem Expr.snapshot_unplaced (e : Expr) : e.unplaced.snapshot = e.snapshot := by
  match e with
  | .arrow _ f => simp only [Expr.unplaced, Expr.snapshot, f.snapshot_unplaced]
  | .binary _ op left right =>
      simp only [Expr.unplaced, Expr.snapshot, left.snapshot_unplaced, right.snapshot_unplaced]
  | .call _ ⟨optional, callee, arguments⟩ =>
      simp only [Expr.unplaced, Call.unplaced, Expr.snapshot, callee.snapshot_unplaced,
        Arguments.snapshots_unplaced arguments]
  | .index _ optional object key =>
      simp only [Expr.unplaced, Expr.snapshot, object.snapshot_unplaced, key.snapshot_unplaced]
  | .conditional _ test consequent alternate =>
      simp only [Expr.unplaced, Expr.snapshot, test.snapshot_unplaced,
        consequent.snapshot_unplaced, alternate.snapshot_unplaced]
  | .function _ name f =>
      simp only [Expr.unplaced, Expr.snapshot, snapshotName?_bare, f.snapshot_unplaced]
  | .member _ optional object property =>
      simp only [Expr.unplaced, Expr.snapshot, object.snapshot_unplaced]
  | .unary _ op argument | .trailing _ op argument =>
      simp only [Expr.unplaced, Expr.snapshot, argument.snapshot_unplaced]
  | .array _ elements =>
      simp only [Expr.unplaced, Expr.snapshot, Elements.snapshots_unplaced elements]
  | .ident .. | .this _ | .boolean .. | .null _ | .number .. | .string .. => rfl

theorem Arguments.snapshots_unplaced (as : List Argument) :
    Arguments.snapshots (Arguments.unplaced as) = Arguments.snapshots as := by
  match as with
  | [] => rfl
  | ⟨_, spread, value⟩ :: rest =>
      simp only [Arguments.unplaced, Arguments.snapshots, value.snapshot_unplaced,
        Arguments.snapshots_unplaced rest]

theorem Elements.snapshots_unplaced (es : List Element) :
    Elements.snapshots (Elements.unplaced es) = Elements.snapshots es := by
  match es with
  | [] => rfl
  | .single value :: rest | .rest value :: rest =>
      simp only [Elements.unplaced, Elements.snapshots, value.snapshot_unplaced,
        Elements.snapshots_unplaced rest]
  | .hole :: rest =>
      simp only [Elements.unplaced, Elements.snapshots, Elements.snapshots_unplaced rest]

theorem Func.snapshot_unplaced (f : Func) : f.unplaced.snapshot = f.snapshot := by
  match f with
  | ⟨_, arrow, async, generator, parameters, returnType, body⟩ =>
      simp only [Func.unplaced, Func.snapshot, Params.snapshots_unplaced parameters,
        snapshotType?_bare, body.snapshot_unplaced]

theorem Body.snapshot_unplaced (b : Body) : b.unplaced.snapshot = b.snapshot := by
  match b with
  | .block _ statements =>
      simp only [Body.unplaced, Body.snapshot, Stmts.snapshots_unplaced statements]
  | .expr _ value => simp only [Body.unplaced, Body.snapshot, value.snapshot_unplaced]

theorem Params.snapshots_unplaced (ps : List Param) :
    Params.snapshots (Params.unplaced ps) = Params.snapshots ps := by
  match ps with
  | [] => rfl
  | ⟨_, isRest, pattern, type, none⟩ :: rest =>
      simp only [Params.unplaced, Params.snapshots, Name.bare, Name.snapshot, snapshotType?_bare,
        Params.snapshots_unplaced rest]
  | ⟨_, isRest, pattern, type, some value⟩ :: rest =>
      simp only [Params.unplaced, Params.snapshots, Name.bare, Name.snapshot, snapshotType?_bare,
        value.snapshot_unplaced, Params.snapshots_unplaced rest]

theorem Stmt.snapshot_unplaced (s : Stmt) : s.unplaced.snapshot = s.snapshot := by
  match s with
  | .block _ body =>
      simp only [Stmt.unplaced, Stmt.snapshot, Stmts.snapshots_unplaced body]
  | .doWhile _ condition body | .whileDo _ condition body =>
      simp only [Stmt.unplaced, Stmt.snapshot, condition.snapshot_unplaced, body.snapshot_unplaced]
  | .expr _ value | .throw _ value | .ret _ (some value) =>
      simp only [Stmt.unplaced, Stmt.snapshot, value.snapshot_unplaced]
  | .ifElse _ test consequent none =>
      simp only [Stmt.unplaced, Stmt.snapshot, test.snapshot_unplaced,
        consequent.snapshot_unplaced]
  | .ifElse _ test consequent (some alternate) =>
      simp only [Stmt.unplaced, Stmt.snapshot, test.snapshot_unplaced,
        consequent.snapshot_unplaced, alternate.snapshot_unplaced]
  | .tryBlock _ wrapped none none =>
      simp only [Stmt.unplaced, Stmt.snapshot, wrapped.snapshot_unplaced]
  | .tryBlock _ wrapped (some handler) none =>
      simp only [Stmt.unplaced, Stmt.snapshot, wrapped.snapshot_unplaced,
        handler.snapshot_unplaced]
  | .tryBlock _ wrapped none (some finalizer) =>
      simp only [Stmt.unplaced, Stmt.snapshot, wrapped.snapshot_unplaced,
        finalizer.snapshot_unplaced]
  | .tryBlock _ wrapped (some handler) (some finalizer) =>
      simp only [Stmt.unplaced, Stmt.snapshot, wrapped.snapshot_unplaced,
        handler.snapshot_unplaced, finalizer.snapshot_unplaced]
  | .funcDecl _ exported name f =>
      simp only [Stmt.unplaced, Stmt.snapshot, snapshotName?_bare, f.snapshot_unplaced]
  | .varDecl _ exported kind declarators =>
      simp only [Stmt.unplaced, Stmt.snapshot, Declarators.snapshots_unplaced declarators]
  | .breakTo .. | .continueTo .. | .empty _ | .ret _ none => rfl

theorem Stmts.snapshots_unplaced (ss : List Stmt) :
    Stmts.snapshots (Stmts.unplaced ss) = Stmts.snapshots ss := by
  match ss with
  | [] => rfl
  | s :: rest =>
      simp only [Stmts.unplaced, Stmts.snapshots, s.snapshot_unplaced,
        Stmts.snapshots_unplaced rest]

theorem Block.snapshot_unplaced (b : Block) : b.unplaced.snapshot = b.snapshot := by
  match b with
  | ⟨_, body⟩ => simp only [Block.unplaced, Block.snapshot, Stmts.snapshots_unplaced body]

theorem Catch.snapshot_unplaced (c : Catch) : c.unplaced.snapshot = c.snapshot := by
  match c with
  | ⟨_, parameter, body⟩ =>
      simp only [Catch.unplaced, Catch.snapshot, snapshotName?_bare,
        Stmts.snapshots_unplaced body]

theorem Declarators.snapshots_unplaced (ds : List Declarator) :
    Declarators.snapshots (Declarators.unplaced ds) = Declarators.snapshots ds := by
  match ds with
  | [] => rfl
  | ⟨pattern, type, none⟩ :: rest =>
      simp only [Declarators.unplaced, Declarators.snapshots, Name.bare, Name.snapshot,
        snapshotType?_bare, Declarators.snapshots_unplaced rest]
  | ⟨pattern, type, some value⟩ :: rest =>
      simp only [Declarators.unplaced, Declarators.snapshots, Name.bare, Name.snapshot,
        snapshotType?_bare, value.snapshot_unplaced, Declarators.snapshots_unplaced rest]

end

/-- A snapshot shows the syntax only. -/
theorem Program.snapshot_unplaced (p : Program) : p.unplaced.snapshot = p.snapshot := by
  unfold Program.snapshot Program.unplaced
  rw [Stmts.snapshots_unplaced]

end TypeProbe
