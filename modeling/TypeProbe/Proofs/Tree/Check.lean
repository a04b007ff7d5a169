import TypeProbe.Tree

/-! # Conditions on every part of a tree

A `Check` says what the names of a tree, its expressions and its parameter lists have to be like;
a tree passes it if all of its parts do (`Program.passes`).  The condition on an expression is
about that one node and may look at its operands; the operands have to pass on their own. -/

namespace TypeProbe

/-- Conditions on the parts of a tree. -/
structure Check where
  name : String → Bool
  property : String → Bool
  expr : Expr → Bool
  parameters : List Param → Bool

section passes

variable (k : Check)

mutual

/-- Whether the names in a type pass. -/
def TypeExpr.passes : TypeExpr → Bool
  | .array _ element => element.passes
  | .keyword .. => true
  | .reference _ name arguments => k.name name && TypeExprs.passes arguments

def TypeExprs.passes : List TypeExpr → Bool
  | [] => true
  | t :: rest => t.passes && TypeExprs.passes rest

end

/-- Whether a name passes, if there is one. -/
def Name.passes (name : Option Name) : Bool := name.all fun n => k.name n.text

/-- Whether a type annotation passes, if there is one. -/
def TypeExpr.optionPasses (type : Option TypeExpr) : Bool := type.all fun t => t.passes k

mutual

/-- Whether the parts of an expression pass. -/
def Expr.passes : Expr → Bool
  | .arrow a f => k.expr (.arrow a f) && f.passes
  | .binary a op left right => k.expr (.binary a op left right) && left.passes && right.passes
  | .call a c => k.expr (.call a c) && c.passes
  | .index a optional object key =>
      k.expr (.index a optional object key) && object.passes && key.passes
  | .conditional a test consequent alternate =>
      k.expr (.conditional a test consequent alternate) && test.passes && consequent.passes &&
        alternate.passes
  | .function a name f => k.expr (.function a name f) && Name.passes k name && f.passes
  | .ident a name => k.expr (.ident a name) && k.name name
  | .member a optional object property =>
      k.expr (.member a optional object property) && object.passes && k.property property
  | .this a => k.expr (.this a)
  | .unary a op argument => k.expr (.unary a op argument) && argument.passes
  | .trailing a op argument => k.expr (.trailing a op argument) && argument.passes
  | .array a elements => k.expr (.array a elements) && Elements.passes elements
  | .boolean a value => k.expr (.boolean a value)
  | .null a => k.expr (.null a)
  | .number a value => k.expr (.number a value)
  | .string a value => k.expr (.string a value)

def Call.passes : Call → Bool
  | ⟨_, callee, arguments⟩ => callee.passes && Arguments.passes arguments

def Arguments.passes : List Argument → Bool
  | [] => true
  | ⟨_, _, value⟩ :: rest => value.passes && Arguments.passes rest

def Elements.passes : List Element → Bool
  | [] => true
  | .single value :: rest => value.passes && Elements.passes rest
  | .rest value :: rest => value.passes && Elements.passes rest
  | .hole :: rest => Elements.passes rest

def Func.passes : Func → Bool
  | ⟨_, _, _, _, parameters, returnType, body⟩ =>
      k.parameters parameters && Params.passes parameters &&
        TypeExpr.optionPasses k returnType && body.passes

def Body.passes : Body → Bool
  | .block _ statements => Stmts.passes statements
  | .expr _ value => value.passes

def Params.passes : List Param → Bool
  | [] => true
  | ⟨_, _, pattern, type, none⟩ :: params =>
      k.name pattern.text && TypeExpr.optionPasses k type && Params.passes params
  | ⟨_, _, pattern, type, some value⟩ :: params =>
      k.name pattern.text && TypeExpr.optionPasses k type && value.passes && Params.passes params

def Stmt.passes : Stmt → Bool
  | .block _ body => Stmts.passes body
  | .breakTo _ label => label.all k.name
  | .continueTo _ label => label.all k.name
  | .doWhile _ condition body => condition.passes && body.passes
  | .empty _ => true
  | .expr _ value => value.passes
  | .ifElse _ test consequent none => test.passes && consequent.passes
  | .ifElse _ test consequent (some alternate) =>
      test.passes && consequent.passes && alternate.passes
  | .ret _ none => true
  | .ret _ (some value) => value.passes
  | .throw _ value => value.passes
  | .tryBlock _ wrapped none none => wrapped.passes
  | .tryBlock _ wrapped (some handler) none => wrapped.passes && handler.passes
  | .tryBlock _ wrapped none (some finalizer) => wrapped.passes && finalizer.passes
  | .tryBlock _ wrapped (some handler) (some finalizer) =>
      wrapped.passes && handler.passes && finalizer.passes
  | .whileDo _ condition body => condition.passes && body.passes
  | .funcDecl _ _ name f => Name.passes k name && f.passes
  | .varDecl _ _ _ declarators => Declarators.passes declarators

def Stmts.passes : List Stmt → Bool
  | [] => true
  | s :: rest => s.passes && Stmts.passes rest

def Block.passes : Block → Bool
  | ⟨_, body⟩ => Stmts.passes body

def Catch.passes : Catch → Bool
  | ⟨_, parameter, body⟩ => Name.passes k parameter && Stmts.passes body

def Declarators.passes : List Declarator → Bool
  | [] => true
  | ⟨pattern, type, none⟩ :: rest =>
      k.name pattern.text && TypeExpr.optionPasses k type && Declarators.passes rest
  | ⟨pattern, type, some value⟩ :: rest =>
      k.name pattern.text && TypeExpr.optionPasses k type && value.passes &&
        Declarators.passes rest

end

def Program.passes (p : Program) : Bool := Stmts.passes k p.body

end passes

/-- The condition on an expression is one of the conditions on its parts. -/
theorem Expr.check_of_passes {k : Check} {e : Expr} (h : e.passes k = true) :
    k.expr e = true := by
  cases e <;> simp only [Expr.passes, Bool.and_eq_true] at h <;> simp only [h]

end TypeProbe
