import TypeProbe.Tree

/-! # Bare trees

The bare tree of a program (`Program.bare`) is what is left when everything that its text cannot
show is made the same:

* positions and origins are blank, and a function is marked as an arrow function where it is one;
* lone semicolons are gone from statement lists;
* branches and loop bodies are blocks, of the one statement if they were something else.

Two trees are the same program text up to these if their bare trees are equal. -/

namespace TypeProbe

/-! ### Positions -/

/-- The position that says nothing. -/
def Loc.blank : Loc := ⟨0, 0⟩

def Spot.blank : Spot := .ofLoc .blank

def Anchor.blank : Anchor := .ofLoc .blank

/-- A name without its position and origin. -/
def Name.bare (n : Name) : Name := ⟨.blank, n.text⟩

/-! ### Types -/

mutual

/-- A type without positions. -/
def TypeExpr.bare : TypeExpr → TypeExpr
  | .array _ element => .array .blank element.bare
  | .keyword _ word => .keyword .blank word
  | .reference _ name arguments => .reference .blank name (TypeExprs.bare arguments)

def TypeExprs.bare : List TypeExpr → List TypeExpr
  | [] => []
  | t :: rest => t.bare :: TypeExprs.bare rest

end

/-! ### Expressions and statements -/

/-- A branch or loop body as a block, given its bare tree. -/
def Stmt.branch (s bare : Stmt) : Stmt :=
  match s with
  | .block .. => bare
  | .empty _ => .block .blank []
  | _ => .block .blank [bare]

mutual

def Expr.bare : Expr → Expr
  | .arrow _ f => .arrow .blank (f.bare true)
  | .binary _ op left right => .binary .blank op left.bare right.bare
  | .call _ c => .call .blank c.bare
  | .index _ optional object key => .index .blank optional object.bare key.bare
  | .conditional _ test consequent alternate =>
      .conditional .blank test.bare consequent.bare alternate.bare
  | .function _ name f => .function .blank (name.map Name.bare) (f.bare false)
  | .ident _ name => .ident .blank name
  | .member _ optional object property => .member .blank optional object.bare property
  | .this _ => .this .blank
  | .unary _ op argument => .unary .blank op argument.bare
  | .trailing _ op argument => .trailing .blank op argument.bare
  | .array _ elements => .array .blank (Elements.bare elements)
  | .boolean _ value => .boolean .blank value
  | .null _ => .null .blank
  | .number _ value => .number .blank value
  | .string _ value => .string .blank value

def Call.bare : Call → Call
  | ⟨optional, callee, arguments⟩ => ⟨optional, callee.bare, Arguments.bare arguments⟩

def Arguments.bare : List Argument → List Argument
  | [] => []
  | ⟨_, spread, value⟩ :: rest => ⟨.blank, spread, value.bare⟩ :: Arguments.bare rest

def Elements.bare : List Element → List Element
  | [] => []
  | .single value :: rest => .single value.bare :: Elements.bare rest
  | .rest value :: rest => .rest value.bare :: Elements.bare rest
  | .hole :: rest => .hole :: Elements.bare rest

/-- A bare function, marked as the kind of function it is. -/
def Func.bare (arrow : Bool) : Func → Func
  | ⟨_, _, async, generator, parameters, returnType, body⟩ =>
      ⟨.blank, arrow, async, generator, Params.bare parameters, returnType.map TypeExpr.bare,
        body.bare⟩

def Body.bare : Body → Body
  | .block _ statements => .block .blank (Stmts.bare statements)
  | .expr _ value => .expr .blank value.bare

def Params.bare : List Param → List Param
  | [] => []
  | ⟨_, rest, pattern, type, none⟩ :: params =>
      ⟨.blank, rest, pattern.bare, type.map TypeExpr.bare, none⟩ :: Params.bare params
  | ⟨_, rest, pattern, type, some value⟩ :: params =>
      ⟨.blank, rest, pattern.bare, type.map TypeExpr.bare, some value.bare⟩ :: Params.bare params

def Stmt.bare : Stmt → Stmt
  | .block _ body => .block .blank (Stmts.bare body)
  | .breakTo _ label => .breakTo .blank label
  | .continueTo _ label => .continueTo .blank label
  | .doWhile _ condition body => .doWhile .blank condition.bare (body.branch body.bare)
  | .empty _ => .empty .blank
  | .expr _ value => .expr .blank value.bare
  | .ifElse _ test consequent none =>
      .ifElse .blank test.bare (consequent.branch consequent.bare) none
  | .ifElse _ test consequent (some alternate) =>
      .ifElse .blank test.bare (consequent.branch consequent.bare)
        (some (alternate.branch alternate.bare))
  | .ret _ none => .ret .blank none
  | .ret _ (some value) => .ret .blank (some value.bare)
  | .throw _ value => .throw .blank value.bare
  | .tryBlock _ wrapped none none => .tryBlock .blank wrapped.bare none none
  | .tryBlock _ wrapped (some handler) none =>
      .tryBlock .blank wrapped.bare (some handler.bare) none
  | .tryBlock _ wrapped none (some finalizer) =>
      .tryBlock .blank wrapped.bare none (some finalizer.bare)
  | .tryBlock _ wrapped (some handler) (some finalizer) =>
      .tryBlock .blank wrapped.bare (some handler.bare) (some finalizer.bare)
  | .whileDo _ condition body => .whileDo .blank condition.bare (body.branch body.bare)
  | .funcDecl _ exported name f => .funcDecl .blank exported (name.map Name.bare) (f.bare false)
  | .varDecl _ exported kind declarators =>
      .varDecl .blank exported kind (Declarators.bare declarators)

/-- The statements of a list, without lone semicolons. -/
def Stmts.bare : List Stmt → List Stmt
  | [] => []
  | s :: rest => if s.isEmpty then Stmts.bare rest else s.bare :: Stmts.bare rest

def Block.bare : Block → Block
  | ⟨_, body⟩ => ⟨.blank, Stmts.bare body⟩

def Catch.bare : Catch → Catch
  | ⟨_, parameter, body⟩ => ⟨.blank, parameter.map Name.bare, Stmts.bare body⟩

def Declarators.bare : List Declarator → List Declarator
  | [] => []
  | ⟨pattern, type, none⟩ :: rest =>
      ⟨pattern.bare, type.map TypeExpr.bare, none⟩ :: Declarators.bare rest
  | ⟨pattern, type, some value⟩ :: rest =>
      ⟨pattern.bare, type.map TypeExpr.bare, some value.bare⟩ :: Declarators.bare rest

end

def Program.bare (p : Program) : Program := ⟨.blank, Stmts.bare p.body⟩

end TypeProbe
