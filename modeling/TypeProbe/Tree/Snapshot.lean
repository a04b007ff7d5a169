import TypeProbe.Tree

/-! # Snapshots

A snapshot shows the syntax of a tree as a JSON value, without positions and origins, so that
two trees can be compared by what they say.

* A node around a form is written as the form: an object whose key `$t` names the kind of
  expression, statement or type, beside the fields of that kind.
* A function body and an element of an array literal are objects with a single key that names
  the case, and a hole is the bare name of its case.
* What is absent is `null`, and so is a number without a finite value. -/

namespace TypeProbe

/-- A JSON value whose numbers are finite. -/
inductive Snapshot where
  | null
  | boolean (value : Bool)
  | number (value : Binary64)
  | string (value : String)
  | array (items : List Snapshot)
  | object (fields : List (String × Snapshot))

namespace Snapshot

/-- An object that is tagged with the kind of node it shows. -/
def tagged (kind : String) (fields : List (String × Snapshot)) : Snapshot :=
  object (("$t", string kind) :: fields)

def ofText? : Option String → Snapshot
  | none => null
  | some text => string text

end Snapshot

open Snapshot

def Name.snapshot (n : Name) : Snapshot := object [("name", string n.text)]

def snapshotName? : Option Name → Snapshot
  | none => null
  | some n => n.snapshot

/-- The name of a type keyword in snapshots. -/
def TypeKeyword.name : TypeKeyword → String
  | any => "Any"
  | boolean => "Boolean"
  | never => "Never"
  | null => "Null"
  | number => "Number"
  | string => "String"
  | undefined => "Undefined"
  | unknown => "Unknown"
  | void => "Void"

/-- The name of a kind of binding in snapshots. -/
def BindingKind.name : BindingKind → String
  | constant => "Const"
  | lexical => "Let"
  | hoisted => "Var"

def Binary64.snapshot (x : Binary64) : Snapshot := if x.isFinite then number x else null

mutual

def TypeExpr.snapshot : TypeExpr → Snapshot
  | .array _ element => tagged "Array" [("element", element.snapshot)]
  | .keyword _ word => tagged "Keyword" [("keyword", string word.name)]
  | .reference _ name arguments =>
      tagged "Reference"
        [("name", string name), ("type_arguments", array (TypeExprs.snapshots arguments))]

def TypeExprs.snapshots : List TypeExpr → List Snapshot
  | [] => []
  | t :: rest => t.snapshot :: TypeExprs.snapshots rest

end

def snapshotType? : Option TypeExpr → Snapshot
  | none => null
  | some t => t.snapshot

mutual

def Expr.snapshot : Expr → Snapshot
  | .arrow _ f => tagged "ArrowFunc" [("func", f.snapshot)]
  | .binary _ op left right =>
      tagged "Binary"
        [("operator", string op.name), ("left", left.snapshot), ("right", right.snapshot)]
  | .call _ ⟨optional, callee, arguments⟩ =>
      tagged "Call"
        [("optional_chaining", boolean optional), ("callee", callee.snapshot),
          ("arguments", array (Arguments.snapshots arguments))]
  | .index _ optional base key =>
      tagged "ComputedMember"
        [("optional_chaining", boolean optional), ("object", base.snapshot),
          ("member", key.snapshot)]
  | .conditional _ test consequent alternate =>
      tagged "Cond"
        [("test", test.snapshot), ("consequent", consequent.snapshot),
          ("alternate", alternate.snapshot)]
  | .function _ name f =>
      tagged "Func" [("name", snapshotName? name), ("func", f.snapshot)]
  | .ident _ name => tagged "Id" [("name", string name)]
  | .member _ optional base property =>
      tagged "Member"
        [("optional_chaining", boolean optional), ("left", base.snapshot),
          ("right", string property)]
  | .this _ => tagged "This" []
  | .unary _ op argument =>
      tagged "Unary" [("operator", string op.name), ("argument", argument.snapshot)]
  | .trailing _ op argument =>
      tagged "UnaryPostfix" [("operator", string op.name), ("argument", argument.snapshot)]
  | .array _ elements => tagged "LitArr" [("elements", array (Elements.snapshots elements))]
  | .boolean _ value => tagged "LitBool" [("value", boolean value)]
  | .null _ => tagged "LitNull" []
  | .number _ value => tagged "LitNum" [("value", value.snapshot)]
  | .string _ value => tagged "LitStr" [("value", string value)]

def Arguments.snapshots : List Argument → List Snapshot
  | [] => []
  | ⟨_, spread, value⟩ :: rest =>
      object [("spread", boolean spread), ("value", value.snapshot)] :: Arguments.snapshots rest

def Elements.snapshots : List Element → List Snapshot
  | [] => []
  | .single value :: rest => object [("Single", value.snapshot)] :: Elements.snapshots rest
  | .rest value :: rest => object [("Rest", value.snapshot)] :: Elements.snapshots rest
  | .hole :: rest => string "Empty" :: Elements.snapshots rest

def Func.snapshot : Func → Snapshot
  | ⟨_, arrow, async, generator, parameters, returnType, body⟩ =>
      object
        [("arrow", boolean arrow), ("async_", boolean async), ("generator", boolean generator),
          ("parameters", array (Params.snapshots parameters)),
          ("return_type", snapshotType? returnType), ("body", body.snapshot)]

def Body.snapshot : Body → Snapshot
  | .block _ statements => object [("Block", array (Stmts.snapshots statements))]
  | .expr _ value => object [("Expression", value.snapshot)]

def Params.snapshots : List Param → List Snapshot
  | [] => []
  | ⟨_, rest, pattern, annotation, defaultValue⟩ :: params =>
      object
        [("rest", boolean rest), ("pattern", pattern.snapshot),
          ("type_annotation", snapshotType? annotation),
          ("default_value", match defaultValue with | none => null | some e => e.snapshot)] ::
        Params.snapshots params

def Stmt.snapshot : Stmt → Snapshot
  | .block _ body => tagged "Block" [("body", array (Stmts.snapshots body))]
  | .breakTo _ label => tagged "Break" [("label", ofText? label)]
  | .continueTo _ label => tagged "Continue" [("label", ofText? label)]
  | .doWhile _ condition body =>
      tagged "DoWhile" [("condition", condition.snapshot), ("body", body.snapshot)]
  | .empty _ => tagged "Empty" []
  | .expr _ value => tagged "Expr" [("expr", value.snapshot)]
  | .ifElse _ test consequent alternate =>
      tagged "If"
        [("test", test.snapshot), ("consequent", consequent.snapshot),
          ("alternate", match alternate with | none => null | some s => s.snapshot)]
  | .ret _ value =>
      tagged "Return" [("value", match value with | none => null | some e => e.snapshot)]
  | .throw _ value => tagged "Throw" [("value", value.snapshot)]
  | .tryBlock _ wrapped handler finalizer =>
      tagged "Try"
        [("wrapped", wrapped.snapshot),
          ("catch", match handler with | none => null | some c => c.snapshot),
          ("finally", match finalizer with | none => null | some b => b.snapshot)]
  | .whileDo _ condition body =>
      tagged "While" [("condition", condition.snapshot), ("body", body.snapshot)]
  | .funcDecl _ exported name f =>
      tagged "FunctionDecl"
        [("export", boolean exported), ("name", snapshotName? name), ("func", f.snapshot)]
  | .varDecl _ exported kind declarators =>
      tagged "VarDecl"
        [("export", boolean exported), ("mode", string kind.name),
          ("declarators", array (Declarators.snapshots declarators))]

def Stmts.snapshots : List Stmt → List Snapshot
  | [] => []
  | s :: rest => s.snapshot :: Stmts.snapshots rest

def Block.snapshot : Block → Snapshot
  | ⟨_, body⟩ => object [("body", array (Stmts.snapshots body))]

def Catch.snapshot : Catch → Snapshot
  | ⟨_, parameter, body⟩ =>
      object [("parameter", snapshotName? parameter), ("body", array (Stmts.snapshots body))]

def Declarators.snapshots : List Declarator → List Snapshot
  | [] => []
  | ⟨pattern, annotation, value⟩ :: rest =>
      object
        [("pattern", pattern.snapshot), ("type_annotation", snapshotType? annotation),
          ("initializer", match value with | none => null | some e => e.snapshot)] ::
        Declarators.snapshots rest

end

def Program.snapshot (p : Program) : Snapshot :=
  object [("body", array (Stmts.snapshots p.body))]

end TypeProbe
