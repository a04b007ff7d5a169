import TypeProbe.Tree

/-! # Building trees

Constructors for trees that no reader produced: the bodies that probes are given, and the trees
a host hands over.  Node and form always stand at the same position, and nothing carries an
origin; so a position is all that a node is given. -/

namespace TypeProbe.Build

instance : Coe Loc Spot := ⟨Spot.ofLoc⟩

/-- A name used as an expression. -/
def ident (loc : Loc) (name : String) : Expr := .ident (.ofLoc loc) name

def member (loc : Loc) (object : Expr) (property : String) : Expr :=
  .member (.ofLoc loc) false object property

def index (loc : Loc) (object key : Expr) : Expr := .index (.ofLoc loc) false object key

def binary (loc : Loc) (op : Operator) (left right : Expr) : Expr :=
  .binary (.ofLoc loc) op left right

def assign (loc : Loc) (left right : Expr) : Expr := binary loc .assignment left right

/-- A single argument, at the position of its value. -/
def argument (value : Expr) : Argument := ⟨value.loc, false, value⟩

/-- A spread argument, at the position of its value. -/
def spread (value : Expr) : Argument := ⟨value.loc, true, value⟩

def call (loc : Loc) (callee : Expr) (arguments : List Argument) : Expr :=
  .call (.ofLoc loc) ⟨false, callee, arguments⟩

def construct (loc : Loc) (callee : Expr) (arguments : List Argument) : Expr :=
  .unary (.ofLoc loc) .new (call loc callee arguments)

/-- An array literal without holes. -/
def array (loc : Loc) (elements : List Expr) : Expr :=
  .array (.ofLoc loc) (elements.map .single)

def number (loc : Loc) (value : Binary64) : Expr := .number (.ofLoc loc) value

def string (loc : Loc) (value : String) : Expr := .string (.ofLoc loc) value

/-- A parameter without annotation or default value. -/
def param (loc : Loc) (name : String) : Param := ⟨loc, false, ⟨loc, name⟩, none, none⟩

/-- A plain function, neither `async` nor a generator. -/
def func (loc : Loc) (arrow : Bool) (parameters : List Param) (body : Body) : Func :=
  ⟨loc, arrow, false, false, parameters, none, body⟩

def arrow (loc : Loc) (parameters : List Param) (body : Body) : Expr :=
  .arrow (.ofLoc loc) (func loc true parameters body)

def function (loc : Loc) (name : Option String) (parameters : List Param) (body : Body) : Expr :=
  .function (.ofLoc loc) (name.map (⟨loc, ·⟩)) (func loc false parameters body)

/-- A body that is a single expression, at the position of the expression. -/
def exprBody (value : Expr) : Body := .expr value.loc value

/-- An expression as a statement, at the position of the expression. -/
def exprStmt (value : Expr) : Stmt := .expr (.ofLoc value.loc) value

def ret (loc : Loc) (value : Option Expr) : Stmt := .ret (.ofLoc loc) value

def throw (loc : Loc) (value : Expr) : Stmt := .throw (.ofLoc loc) value

/-- A program that starts at offset zero and ends where the last of its statements does. -/
def program (body : List Stmt) : Program :=
  let loc : Loc := ⟨0, body.foldl (fun stop s => max stop s.loc.stop) 0⟩
  ⟨.ofLoc loc, body⟩

end TypeProbe.Build
