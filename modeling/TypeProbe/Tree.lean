import TypeProbe.Loc
import TypeProbe.Binary64
import TypeProbe.Operator

/-! # Program trees

Syntax trees of TypeScript programs, as far as probes, their bodies and the code around them
need it.

* **Positions.** Expressions, statements and types are nodes around a form, and node and form
  have a position each: `Place.loc` is that of the node, `Place.inner` that of the form inside.
  All other nodes have a single position, `Spot.loc`.
* **Origins.** Every node may carry the range of source text it stands for in a source map:
  `Anchor.origin` and `Anchor.innerOrigin` for a node around a form and the form inside,
  `Spot.origin` for all others.  It has no influence on what the node means or how it is printed.
* **Constructor calls.** `new X(a)` is the leading operator `new` over the call `X(a)`.
* **Functions.** Arrow functions, `function` expressions and declarations share `Func`.  Its
  body is a node of its own, so that its position is known apart from the parameter list. -/

namespace TypeProbe

/-- Where a node stands, and the range of source text that it stands for in a source map. -/
structure Spot where
  loc : Loc
  origin : Option TextRange
deriving DecidableEq, Repr

/-- The spot of a node without an origin. -/
def Spot.ofLoc (loc : Loc) : Spot := ⟨loc, none⟩

instance : CoeOut Spot Loc := ⟨Spot.loc⟩

/-- Where a node around a form stands, and where the form inside it does. -/
structure Place where
  loc : Loc
  inner : Loc
deriving DecidableEq, Repr

/-- A place, with the ranges of source text that the node and the form stand for. -/
structure Anchor extends Place where
  origin : Option TextRange
  innerOrigin : Option TextRange := none
deriving DecidableEq, Repr

instance : Coe Place Anchor := ⟨fun place => { place with origin := none }⟩

/-- The anchor of a node at the same position as its form. -/
def Anchor.ofLoc (loc : Loc) : Anchor := (⟨loc, loc⟩ : Place)

/-- A declared or assigned name. -/
structure Name extends Spot where
  text : String
deriving DecidableEq, Repr

inductive TypeKeyword where
  | any
  | boolean
  | never
  | null
  | number
  | string
  | undefined
  | unknown
  | void
deriving DecidableEq, Repr

/-- Type annotations.  They are printed and never interpreted. -/
inductive TypeExpr where
  | array (anchor : Anchor) (element : TypeExpr)
  | keyword (anchor : Anchor) (keyword : TypeKeyword)
  | reference (anchor : Anchor) (name : String) (arguments : List TypeExpr)

/-- How a variable declaration binds. -/
inductive BindingKind where
  | constant
  | lexical
  | hoisted
deriving DecidableEq, Repr

mutual

inductive Expr where
  | arrow (anchor : Anchor) (func : Func)
  | binary (anchor : Anchor) (op : Operator) (left right : Expr)
  | call (anchor : Anchor) (call : Call)
  | index (anchor : Anchor) (optional : Bool) (object key : Expr)
  | conditional (anchor : Anchor) (test consequent alternate : Expr)
  | function (anchor : Anchor) (name : Option Name) (func : Func)
  | ident (anchor : Anchor) (name : String)
  | member (anchor : Anchor) (optional : Bool) (object : Expr) (property : String)
  | this (anchor : Anchor)
  | unary (anchor : Anchor) (op : Operator) (argument : Expr)
  | trailing (anchor : Anchor) (op : Operator) (argument : Expr)
  | array (anchor : Anchor) (elements : List Element)
  | boolean (anchor : Anchor) (value : Bool)
  | null (anchor : Anchor)
  | number (anchor : Anchor) (value : Binary64)
  | string (anchor : Anchor) (value : String)

/-- A call: the callee and its arguments, with `?.` between them if it is optional. -/
structure Call where
  optional : Bool
  callee : Expr
  arguments : List Argument

/-- An argument of a call, spread or single. -/
structure Argument extends Spot where
  spread : Bool
  value : Expr

/-- An element of an array literal. -/
inductive Element where
  | single (value : Expr)
  | rest (value : Expr)
  | hole

/-- What arrow functions, `function` expressions and declarations have in common. -/
structure Func extends Spot where
  arrow : Bool
  async : Bool
  generator : Bool
  parameters : List Param
  returnType : Option TypeExpr
  body : Body

/-- The body of a function: statements in braces, or the expression of an arrow function. -/
inductive Body where
  | block (spot : Spot) (statements : List Stmt)
  | expr (spot : Spot) (value : Expr)

/-- A parameter declaration. -/
structure Param extends Spot where
  rest : Bool
  pattern : Name
  annotation : Option TypeExpr
  defaultValue : Option Expr

inductive Stmt where
  | block (anchor : Anchor) (body : List Stmt)
  | breakTo (anchor : Anchor) (label : Option String)
  | continueTo (anchor : Anchor) (label : Option String)
  | doWhile (anchor : Anchor) (condition : Expr) (body : Stmt)
  | empty (anchor : Anchor)
  | expr (anchor : Anchor) (value : Expr)
  | ifElse (anchor : Anchor) (test : Expr) (consequent : Stmt) (alternate : Option Stmt)
  | ret (anchor : Anchor) (value : Option Expr)
  | throw (anchor : Anchor) (value : Expr)
  | tryBlock (anchor : Anchor) (wrapped : Block) (handler : Option Catch) (finalizer : Option Block)
  | whileDo (anchor : Anchor) (condition : Expr) (body : Stmt)
  | funcDecl (anchor : Anchor) (exported : Bool) (name : Option Name) (func : Func)
  | varDecl (anchor : Anchor) (exported : Bool) (kind : BindingKind)
      (declarators : List Declarator)

/-- Statements in braces that are not a statement themselves. -/
structure Block extends Spot where
  body : List Stmt

/-- A `catch` clause; its scope starts at the parameter. -/
structure Catch extends Spot where
  parameter : Option Name
  body : List Stmt

/-- One variable of a declaration. -/
structure Declarator where
  pattern : Name
  annotation : Option TypeExpr
  value : Option Expr

end

structure Program extends Spot where
  body : List Stmt

namespace TypeExpr

def place : TypeExpr → Place
  | array a _ | keyword a _ | reference a _ _ => a.toPlace

end TypeExpr

namespace Expr

def anchor : Expr → Anchor
  | arrow a _ | binary a _ _ _ | call a _ | index a _ _ _ | conditional a _ _ _
  | function a _ _ | ident a _ | member a _ _ _ | this a | unary a _ _ | trailing a _ _
  | array a _ | boolean a _ | null a | number a _ | string a _ => a

def loc (e : Expr) : Loc := e.anchor.loc

end Expr

namespace Body

def loc : Body → Loc
  | block spot _ | expr spot _ => spot.loc

end Body

namespace Stmt

def anchor : Stmt → Anchor
  | block a _ | breakTo a _ | continueTo a _ | doWhile a _ _ | empty a | expr a _
  | ifElse a _ _ _ | ret a _ | throw a _ | tryBlock a _ _ _ | whileDo a _ _ | funcDecl a _ _ _
  | varDecl a _ _ _ => a

def loc (s : Stmt) : Loc := s.anchor.loc

/-- Whether the statement is a lone semicolon. -/
def isEmpty : Stmt → Bool
  | empty _ => true
  | _ => false

end Stmt

end TypeProbe
