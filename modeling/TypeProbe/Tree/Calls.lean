import TypeProbe.Tree

/-! # The calls of a tree

Two walks over the calls of a program.

* **Listing** (`Program.calls`).  Every call, a call before the calls inside it, and the parts
  of a node in the order in which its fields are declared; so the condition of a `do` loop comes
  before its body.
* **Rebuilding** (`Program.mapCallsM`).  Applies an action to every call, after the calls inside
  it, and the parts of a node in the order in which they are printed; so the body of a `do` loop
  comes before its condition.  Whatever is not a call is kept as it is. -/

namespace TypeProbe

/-! ### Listing -/

/-- A call found in a tree, with the position of the call itself. -/
structure CallSite where
  loc : Loc
  call : Call

mutual

/-- The calls of an expression, outer ones first. -/
def Expr.calls : Expr → List CallSite
  | .arrow _ f => f.calls
  | .binary _ _ l r => l.calls ++ r.calls
  | .call a c => ⟨a.inner, c⟩ :: c.innerCalls
  | .index _ _ o k => o.calls ++ k.calls
  | .conditional _ t c e => t.calls ++ c.calls ++ e.calls
  | .function _ _ f => f.calls
  | .member _ _ o _ => o.calls
  | .unary _ _ e => e.calls
  | .trailing _ _ e => e.calls
  | .array _ es => Elements.calls es
  | .ident .. | .this _ | .boolean .. | .null _ | .number .. | .string .. => []

/-- The calls inside a call, without the call itself. -/
def Call.innerCalls : Call → List CallSite
  | ⟨_, callee, arguments⟩ => callee.calls ++ Arguments.calls arguments

def Arguments.calls : List Argument → List CallSite
  | [] => []
  | ⟨_, _, value⟩ :: rest => value.calls ++ Arguments.calls rest

def Elements.calls : List Element → List CallSite
  | [] => []
  | .single value :: rest => value.calls ++ Elements.calls rest
  | .rest value :: rest => value.calls ++ Elements.calls rest
  | .hole :: rest => Elements.calls rest

/-- The calls of a function: those of the parameters, then those of the body. -/
def Func.calls : Func → List CallSite
  | ⟨_, _, _, _, parameters, _, body⟩ => Params.calls parameters ++ body.calls

def Body.calls : Body → List CallSite
  | .block _ statements => Stmts.calls statements
  | .expr _ value => value.calls

def Params.calls : List Param → List CallSite
  | [] => []
  | ⟨_, _, _, _, none⟩ :: rest => Params.calls rest
  | ⟨_, _, _, _, some value⟩ :: rest => value.calls ++ Params.calls rest

def Stmt.calls : Stmt → List CallSite
  | .block _ body => Stmts.calls body
  | .doWhile _ condition body => condition.calls ++ body.calls
  | .expr _ value => value.calls
  | .ifElse _ test consequent none => test.calls ++ consequent.calls
  | .ifElse _ test consequent (some alternate) =>
      test.calls ++ consequent.calls ++ alternate.calls
  | .ret _ none => []
  | .ret _ (some value) => value.calls
  | .throw _ value => value.calls
  | .tryBlock _ wrapped handler finalizer =>
      wrapped.calls ++ (match handler with | none => [] | some c => c.calls) ++
        (match finalizer with | none => [] | some b => b.calls)
  | .whileDo _ condition body => condition.calls ++ body.calls
  | .funcDecl _ _ _ f => f.calls
  | .varDecl _ _ _ declarators => Declarators.calls declarators
  | .breakTo .. | .continueTo .. | .empty _ => []

def Stmts.calls : List Stmt → List CallSite
  | [] => []
  | s :: rest => s.calls ++ Stmts.calls rest

def Block.calls : Block → List CallSite
  | ⟨_, body⟩ => Stmts.calls body

def Catch.calls : Catch → List CallSite
  | ⟨_, _, body⟩ => Stmts.calls body

def Declarators.calls : List Declarator → List CallSite
  | [] => []
  | ⟨_, _, none⟩ :: rest => Declarators.calls rest
  | ⟨_, _, some value⟩ :: rest => value.calls ++ Declarators.calls rest

end

/-- The calls of a program, outer ones first. -/
def Program.calls (p : Program) : List CallSite := Stmts.calls p.body

/-! ### Rebuilding -/

section Rebuilding

variable {m : Type → Type} [Monad m] (f : Call → m Call)

mutual

/-- Applies an action to every call of an expression, inner ones first. -/
def Expr.mapCallsM : Expr → m Expr
  | .arrow a fn => return .arrow a (← fn.mapCallsM)
  | .binary a op l r => return .binary a op (← l.mapCallsM) (← r.mapCallsM)
  | .call a c => return .call a (← f (← c.mapInnerCallsM))
  | .index a opt o k => return .index a opt (← o.mapCallsM) (← k.mapCallsM)
  | .conditional a t c e =>
      return .conditional a (← t.mapCallsM) (← c.mapCallsM) (← e.mapCallsM)
  | .function a name fn => return .function a name (← fn.mapCallsM)
  | .member a opt o property => return .member a opt (← o.mapCallsM) property
  | .unary a op e => return .unary a op (← e.mapCallsM)
  | .trailing a op e => return .trailing a op (← e.mapCallsM)
  | .array a es => return .array a (← Elements.mapCallsM es)
  | .ident a name => return .ident a name
  | .this a => return .this a
  | .boolean a value => return .boolean a value
  | .null a => return .null a
  | .number a value => return .number a value
  | .string a value => return .string a value

/-- Applies an action to every call inside a call, but not to the call itself. -/
def Call.mapInnerCallsM : Call → m Call
  | ⟨optional, callee, arguments⟩ =>
      return ⟨optional, ← callee.mapCallsM, ← Arguments.mapCallsM arguments⟩

def Arguments.mapCallsM : List Argument → m (List Argument)
  | [] => return []
  | ⟨spot, spread, value⟩ :: rest =>
      return ⟨spot, spread, ← value.mapCallsM⟩ :: (← Arguments.mapCallsM rest)

def Elements.mapCallsM : List Element → m (List Element)
  | [] => return []
  | .single value :: rest => return .single (← value.mapCallsM) :: (← Elements.mapCallsM rest)
  | .rest value :: rest => return .rest (← value.mapCallsM) :: (← Elements.mapCallsM rest)
  | .hole :: rest => return .hole :: (← Elements.mapCallsM rest)

/-- Applies an action to every call of a function, parameters before the body. -/
def Func.mapCallsM : Func → m Func
  | ⟨spot, arrow, async, generator, parameters, returnType, body⟩ =>
      return ⟨spot, arrow, async, generator, ← Params.mapCallsM parameters, returnType,
        ← body.mapCallsM⟩

def Body.mapCallsM : Body → m Body
  | .block spot statements => return .block spot (← Stmts.mapCallsM statements)
  | .expr spot value => return .expr spot (← value.mapCallsM)

def Params.mapCallsM : List Param → m (List Param)
  | [] => return []
  | ⟨spot, rest, pattern, annotation, none⟩ :: params =>
      return ⟨spot, rest, pattern, annotation, none⟩ :: (← Params.mapCallsM params)
  | ⟨spot, rest, pattern, annotation, some value⟩ :: params =>
      return ⟨spot, rest, pattern, annotation, some (← value.mapCallsM)⟩ ::
        (← Params.mapCallsM params)

def Stmt.mapCallsM : Stmt → m Stmt
  | .block a body => return .block a (← Stmts.mapCallsM body)
  | .breakTo a label => return .breakTo a label
  | .continueTo a label => return .continueTo a label
  | .doWhile a condition body => do
      let body ← body.mapCallsM
      return .doWhile a (← condition.mapCallsM) body
  | .empty a => return .empty a
  | .expr a value => return .expr a (← value.mapCallsM)
  | .ifElse a test consequent none =>
      return .ifElse a (← test.mapCallsM) (← consequent.mapCallsM) none
  | .ifElse a test consequent (some alternate) =>
      return .ifElse a (← test.mapCallsM) (← consequent.mapCallsM) (some (← alternate.mapCallsM))
  | .ret a none => return .ret a none
  | .ret a (some value) => return .ret a (some (← value.mapCallsM))
  | .throw a value => return .throw a (← value.mapCallsM)
  | .tryBlock a wrapped handler finalizer => do
      let wrapped ← wrapped.mapCallsM
      let handler ← match handler with
        | none => pure none
        | some c => some <$> c.mapCallsM
      let finalizer ← match finalizer with
        | none => pure none
        | some b => some <$> b.mapCallsM
      return .tryBlock a wrapped handler finalizer
  | .whileDo a condition body => return .whileDo a (← condition.mapCallsM) (← body.mapCallsM)
  | .funcDecl a exported name fn => return .funcDecl a exported name (← fn.mapCallsM)
  | .varDecl a exported kind declarators =>
      return .varDecl a exported kind (← Declarators.mapCallsM declarators)

def Stmts.mapCallsM : List Stmt → m (List Stmt)
  | [] => return []
  | s :: rest => return (← s.mapCallsM) :: (← Stmts.mapCallsM rest)

def Block.mapCallsM : Block → m Block
  | ⟨spot, body⟩ => return ⟨spot, ← Stmts.mapCallsM body⟩

def Catch.mapCallsM : Catch → m Catch
  | ⟨spot, parameter, body⟩ => return ⟨spot, parameter, ← Stmts.mapCallsM body⟩

def Declarators.mapCallsM : List Declarator → m (List Declarator)
  | [] => return []
  | ⟨pattern, annotation, none⟩ :: rest =>
      return ⟨pattern, annotation, none⟩ :: (← Declarators.mapCallsM rest)
  | ⟨pattern, annotation, some value⟩ :: rest =>
      return ⟨pattern, annotation, some (← value.mapCallsM)⟩ :: (← Declarators.mapCallsM rest)

end

/-- Applies an action to every call of a program, inner ones first. -/
def Program.mapCallsM (p : Program) : m Program :=
  return { p with body := ← Stmts.mapCallsM f p.body }

end Rebuilding

end TypeProbe
