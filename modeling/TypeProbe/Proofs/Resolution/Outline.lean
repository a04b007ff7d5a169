import TypeProbe.Proofs.Resolution.Settled

/-! # The outline of a program

The outline of a program (`Program.outline`) is what stands outside the bodies of its probes: the
same tree, but every probed function has an empty body at the position of its own.  A probe
inside the body of another one is gone with that body; one among the parameters of a probed
function is outside, and only its own body is emptied.

A pass keeps the outline, whatever the source answers (`Program.outline_resolve`).  The proof
follows the traversal; what carries it is that rebuilding the parts of a call keeps the call a
probe, or none, and that the new body stands where the old one stood. -/

namespace TypeProbe

/-! ### Outlines -/

section outline

variable (marker : String)

mutual

/-- An expression with the bodies of its probes emptied, and if it is a probed function, its own
body. -/
def Expr.outline (probed : Bool) : Expr → Expr
  | .arrow a f => .arrow a (f.outline probed)
  | .binary a op l r => .binary a op (l.outline false) (r.outline false)
  | .call a c => .call a c.outline
  | .index a optional o k => .index a optional (o.outline false) (k.outline false)
  | .conditional a t c e => .conditional a (t.outline false) (c.outline false) (e.outline false)
  | .function a name f => .function a name (f.outline probed)
  | .ident a name => .ident a name
  | .member a optional o property => .member a optional (o.outline false) property
  | .this a => .this a
  | .unary a op e => .unary a op (e.outline false)
  | .trailing a op e => .trailing a op (e.outline false)
  | .array a es => .array a (Elements.outline es)
  | .boolean a value => .boolean a value
  | .null a => .null a
  | .number a value => .number a value
  | .string a value => .string a value

/-- A call; if it is a probe, its argument is a probed function. -/
def Call.outline : Call → Call
  | ⟨optional, callee, arguments⟩ =>
      ⟨optional, callee.outline false,
        Arguments.outline (Call.probe? marker ⟨optional, callee, arguments⟩).isSome arguments⟩

/-- The arguments of a call, of a probe or not. -/
def Arguments.outline (probed : Bool) : List Argument → List Argument
  | [] => []
  | ⟨spot, spread, value⟩ :: rest =>
      ⟨spot, spread, value.outline probed⟩ :: Arguments.outline probed rest

def Elements.outline : List Element → List Element
  | [] => []
  | .single value :: rest => .single (value.outline false) :: Elements.outline rest
  | .rest value :: rest => .rest (value.outline false) :: Elements.outline rest
  | .hole :: rest => .hole :: Elements.outline rest

/-- A function; if it is probed, only the position of its body is left. -/
def Func.outline (probed : Bool) : Func → Func
  | ⟨spot, arrow, async, generator, parameters, returnType, body⟩ =>
      ⟨spot, arrow, async, generator, Params.outline parameters, returnType,
        if probed then .block body.loc [] else body.outline⟩

/-- The body of a function that is not probed. -/
def Body.outline : Body → Body
  | .block spot statements => .block spot (Stmts.outline statements)
  | .expr spot value => .expr spot (value.outline false)

/-- The parameters of a function, probed or not. -/
def Params.outline : List Param → List Param
  | [] => []
  | ⟨spot, isRest, pattern, type, none⟩ :: rest =>
      ⟨spot, isRest, pattern, type, none⟩ :: Params.outline rest
  | ⟨spot, isRest, pattern, type, some value⟩ :: rest =>
      ⟨spot, isRest, pattern, type, some (value.outline false)⟩ :: Params.outline rest

/-- A statement with the bodies of its probes emptied. -/
def Stmt.outline : Stmt → Stmt
  | .block a body => .block a (Stmts.outline body)
  | .breakTo a label => .breakTo a label
  | .continueTo a label => .continueTo a label
  | .doWhile a condition body => .doWhile a (condition.outline false) body.outline
  | .empty a => .empty a
  | .expr a value => .expr a (value.outline false)
  | .ifElse a test consequent none => .ifElse a (test.outline false) consequent.outline none
  | .ifElse a test consequent (some alternate) =>
      .ifElse a (test.outline false) consequent.outline (some alternate.outline)
  | .ret a none => .ret a none
  | .ret a (some value) => .ret a (some (value.outline false))
  | .throw a value => .throw a (value.outline false)
  | .tryBlock a wrapped none none => .tryBlock a wrapped.outline none none
  | .tryBlock a wrapped (some handler) none =>
      .tryBlock a wrapped.outline (some handler.outline) none
  | .tryBlock a wrapped none (some finalizer) =>
      .tryBlock a wrapped.outline none (some finalizer.outline)
  | .tryBlock a wrapped (some handler) (some finalizer) =>
      .tryBlock a wrapped.outline (some handler.outline) (some finalizer.outline)
  | .whileDo a condition body => .whileDo a (condition.outline false) body.outline
  | .funcDecl a exported name f => .funcDecl a exported name (f.outline false)
  | .varDecl a exported kind declarators =>
      .varDecl a exported kind (Declarators.outline declarators)

def Stmts.outline : List Stmt → List Stmt
  | [] => []
  | t :: rest => t.outline :: Stmts.outline rest

def Block.outline : Block → Block
  | ⟨spot, body⟩ => ⟨spot, Stmts.outline body⟩

def Catch.outline : Catch → Catch
  | ⟨spot, parameter, body⟩ => ⟨spot, parameter, Stmts.outline body⟩

def Declarators.outline : List Declarator → List Declarator
  | [] => []
  | ⟨pattern, type, none⟩ :: rest => ⟨pattern, type, none⟩ :: Declarators.outline rest
  | ⟨pattern, type, some value⟩ :: rest =>
      ⟨pattern, type, some (value.outline false)⟩ :: Declarators.outline rest

end

def Program.outline (p : Program) : Program := { p with body := Stmts.outline marker p.body }

end outline

/-! ### Rebuilding keeps calls probes -/

section rebuilding

variable {σ : Type} {f : Call → StateM σ Call}

theorem Expr.isIdent_mapCallsM (name : String) (e : Expr) (s : σ) :
    (e.mapCallsM f s).1.isIdent name = e.isIdent name := by
  cases e <;> rfl

theorem Expr.isSome_literal?_mapCallsM (e : Expr) (s : σ) :
    (e.mapCallsM f s).1.literal?.isSome = e.literal?.isSome := by
  cases e <;> rfl

theorem Body.loc_mapCallsM (b : Body) (s : σ) : (b.mapCallsM f s).1.loc = b.loc := by
  cases b <;> rfl

theorem Call.isSome_probe?_mapInnerCallsM (marker : String) (c : Call) (s : σ) :
    ((c.mapInnerCallsM f s).1.probe? marker).isSome = (c.probe? marker).isSome := by
  obtain ⟨optional, callee, arguments⟩ := c
  simp only [Call.mapInnerCallsM, bind_apply, pure_apply, Call.probe?, Expr.isIdent_mapCallsM]
  split
  · cases arguments with
    | nil => rfl
    | cons first rest =>
        obtain ⟨spot, spread, value⟩ := first
        cases rest with
        | nil =>
            simp only [Arguments.mapCallsM, bind_apply, pure_apply, Call.soleArgument?]
            cases spread with
            | true => rfl
            | false => exact Expr.isSome_literal?_mapCallsM value _
        | cons second rest =>
            obtain ⟨_, _, _⟩ := second
            rfl
  · rfl

end rebuilding

/-! ### A pass keeps the outline -/

section frame

variable {marker : String}

theorem Func.outline_settle (ds : List Diagnostic) (f : Func) :
    (f.settle ds).outline marker true = f.outline marker true := by
  obtain ⟨spot, arrow, async, generator, parameters, returnType, body⟩ := f
  rfl

theorem Expr.outline_withLiteral {e : Expr} {f g : Func} (h : e.literal? = some f)
    (hg : g.outline marker true = f.outline marker true) :
    (e.withLiteral g).outline marker true = e.outline marker true := by
  cases e with
  | arrow | function =>
      obtain rfl := Option.some.inj h
      simp only [Expr.withLiteral, Expr.outline, hg]
  | _ => cases h

/-- Resolving a probe changes its body alone. -/
theorem Call.outline_withProbe {c : Call} {f g : Func} (h : c.probe? marker = some f)
    (hg : g.outline marker true = f.outline marker true) :
    (c.withProbe g).outline marker = c.outline marker := by
  have hp := Call.probe?_withProbe g h
  obtain ⟨optional, anchor, spot, value, rfl, hl⟩ := Call.probe?_eq_some_iff.mp h
  simp only [Call.withProbe, List.map_cons, List.map_nil] at hp ⊢
  simp only [Call.outline, Arguments.outline, h, hp, Option.isSome_some,
    Expr.outline_withLiteral hl hg]

theorem Pass.outline_resolveCall (source : Source) (file : FileId) (c : Call) (s : Progress) :
    (Pass.resolveCall marker source file c s).1.outline marker = c.outline marker := by
  cases hp : c.probe? marker with
  | none => rw [Pass.resolveCall_of_none hp]
  | some f =>
      rw [Pass.resolveCall_of_some hp]
      exact Call.outline_withProbe hp (f.outline_settle _)

variable {σ : Type} {f : Call → StateM σ Call}

section mapCallsM

variable (hf : ∀ c s, (f c s).1.outline marker = c.outline marker)
include hf

set_option linter.unusedSectionVars false

mutual

theorem Expr.outline_mapCallsM (probed : Bool) (e : Expr) (s : σ) :
    (e.mapCallsM f s).1.outline marker probed = e.outline marker probed := by
  match e with
  | .arrow a fn =>
      simp only [Expr.mapCallsM, bind_apply, pure_apply, Expr.outline]
      rw [fn.outline_mapCallsM]
  | .binary a op l r =>
      simp only [Expr.mapCallsM, bind_apply, pure_apply, Expr.outline]
      rw [l.outline_mapCallsM, r.outline_mapCallsM]
  | .call a c =>
      simp only [Expr.mapCallsM, bind_apply, pure_apply, Expr.outline]
      rw [hf, c.outline_mapInnerCallsM]
  | .index a opt o k =>
      simp only [Expr.mapCallsM, bind_apply, pure_apply, Expr.outline]
      rw [o.outline_mapCallsM, k.outline_mapCallsM]
  | .conditional a t c e =>
      simp only [Expr.mapCallsM, bind_apply, pure_apply, Expr.outline]
      rw [t.outline_mapCallsM, c.outline_mapCallsM, e.outline_mapCallsM]
  | .function a name fn =>
      simp only [Expr.mapCallsM, bind_apply, pure_apply, Expr.outline]
      rw [fn.outline_mapCallsM]
  | .member a opt o property =>
      simp only [Expr.mapCallsM, bind_apply, pure_apply, Expr.outline]
      rw [o.outline_mapCallsM]
  | .unary a op e | .trailing a op e =>
      simp only [Expr.mapCallsM, bind_apply, pure_apply, Expr.outline]
      rw [e.outline_mapCallsM]
  | .array a es =>
      simp only [Expr.mapCallsM, bind_apply, pure_apply, Expr.outline]
      rw [Elements.outline_mapCallsM es]
  | .ident .. | .this _ | .boolean .. | .null _ | .number .. | .string .. => rfl

theorem Call.outline_mapInnerCallsM (c : Call) (s : σ) :
    (c.mapInnerCallsM f s).1.outline marker = c.outline marker := by
  have hp := c.isSome_probe?_mapInnerCallsM (f := f) marker s
  match c with
  | ⟨optional, callee, arguments⟩ =>
      simp only [Call.mapInnerCallsM, bind_apply, pure_apply] at hp ⊢
      simp only [Call.outline, hp]
      rw [callee.outline_mapCallsM, Arguments.outline_mapCallsM _ arguments]

theorem Arguments.outline_mapCallsM (probed : Bool) (as : List Argument) (s : σ) :
    Arguments.outline marker probed (Arguments.mapCallsM f as s).1 =
      Arguments.outline marker probed as := by
  match as with
  | [] => rfl
  | ⟨spot, spread, value⟩ :: rest =>
      simp only [Arguments.mapCallsM, bind_apply, pure_apply, Arguments.outline]
      rw [value.outline_mapCallsM, Arguments.outline_mapCallsM _ rest]

theorem Elements.outline_mapCallsM (es : List Element) (s : σ) :
    Elements.outline marker (Elements.mapCallsM f es s).1 = Elements.outline marker es := by
  match es with
  | [] => rfl
  | .single value :: rest | .rest value :: rest =>
      simp only [Elements.mapCallsM, bind_apply, pure_apply, Elements.outline]
      rw [value.outline_mapCallsM, Elements.outline_mapCallsM rest]
  | .hole :: rest =>
      simp only [Elements.mapCallsM, bind_apply, pure_apply, Elements.outline]
      rw [Elements.outline_mapCallsM rest]

theorem Func.outline_mapCallsM (probed : Bool) (fn : Func) (s : σ) :
    (fn.mapCallsM f s).1.outline marker probed = fn.outline marker probed := by
  match fn with
  | ⟨spot, arrow, async, generator, parameters, returnType, body⟩ =>
      simp only [Func.mapCallsM, bind_apply, pure_apply, Func.outline, Body.loc_mapCallsM]
      rw [Params.outline_mapCallsM parameters, body.outline_mapCallsM]

theorem Body.outline_mapCallsM (b : Body) (s : σ) :
    (b.mapCallsM f s).1.outline marker = b.outline marker := by
  match b with
  | .block spot statements =>
      simp only [Body.mapCallsM, bind_apply, pure_apply, Body.outline]
      rw [Stmts.outline_mapCallsM statements]
  | .expr spot value =>
      simp only [Body.mapCallsM, bind_apply, pure_apply, Body.outline]
      rw [value.outline_mapCallsM]

theorem Params.outline_mapCallsM (ps : List Param) (s : σ) :
    Params.outline marker (Params.mapCallsM f ps s).1 = Params.outline marker ps := by
  match ps with
  | [] => rfl
  | ⟨spot, isRest, pattern, type, none⟩ :: rest =>
      simp only [Params.mapCallsM, bind_apply, pure_apply, Params.outline]
      rw [Params.outline_mapCallsM rest]
  | ⟨spot, isRest, pattern, type, some value⟩ :: rest =>
      simp only [Params.mapCallsM, bind_apply, pure_apply, Params.outline]
      rw [value.outline_mapCallsM, Params.outline_mapCallsM rest]

theorem Stmt.outline_mapCallsM (t : Stmt) (s : σ) :
    (t.mapCallsM f s).1.outline marker = t.outline marker := by
  match t with
  | .block a body =>
      simp only [Stmt.mapCallsM, bind_apply, pure_apply, Stmt.outline]
      rw [Stmts.outline_mapCallsM body]
  | .doWhile a condition body =>
      simp only [Stmt.mapCallsM, bind_apply, pure_apply, Stmt.outline]
      rw [condition.outline_mapCallsM, body.outline_mapCallsM]
  | .expr a value =>
      simp only [Stmt.mapCallsM, bind_apply, pure_apply, Stmt.outline]
      rw [value.outline_mapCallsM]
  | .ifElse a test consequent none =>
      simp only [Stmt.mapCallsM, bind_apply, pure_apply, Stmt.outline]
      rw [test.outline_mapCallsM, consequent.outline_mapCallsM]
  | .ifElse a test consequent (some alternate) =>
      simp only [Stmt.mapCallsM, bind_apply, pure_apply, Stmt.outline]
      rw [test.outline_mapCallsM, consequent.outline_mapCallsM,
        alternate.outline_mapCallsM]
  | .ret a none => rfl
  | .ret a (some value) =>
      simp only [Stmt.mapCallsM, bind_apply, pure_apply, Stmt.outline]
      rw [value.outline_mapCallsM]
  | .throw a value =>
      simp only [Stmt.mapCallsM, bind_apply, pure_apply, Stmt.outline]
      rw [value.outline_mapCallsM]
  | .tryBlock a wrapped none none =>
      simp only [Stmt.mapCallsM, bind_apply, pure_apply, Stmt.outline]
      rw [wrapped.outline_mapCallsM]
  | .tryBlock a wrapped (some handler) none =>
      simp only [Stmt.mapCallsM, bind_apply, pure_apply, map_apply, Stmt.outline]
      rw [wrapped.outline_mapCallsM, handler.outline_mapCallsM]
  | .tryBlock a wrapped none (some finalizer) =>
      simp only [Stmt.mapCallsM, bind_apply, pure_apply, map_apply, Stmt.outline]
      rw [wrapped.outline_mapCallsM, finalizer.outline_mapCallsM]
  | .tryBlock a wrapped (some handler) (some finalizer) =>
      simp only [Stmt.mapCallsM, bind_apply, pure_apply, map_apply, Stmt.outline]
      rw [wrapped.outline_mapCallsM, handler.outline_mapCallsM,
        finalizer.outline_mapCallsM]
  | .whileDo a condition body =>
      simp only [Stmt.mapCallsM, bind_apply, pure_apply, Stmt.outline]
      rw [condition.outline_mapCallsM, body.outline_mapCallsM]
  | .funcDecl a exported name fn =>
      simp only [Stmt.mapCallsM, bind_apply, pure_apply, Stmt.outline]
      rw [fn.outline_mapCallsM]
  | .varDecl a exported kind declarators =>
      simp only [Stmt.mapCallsM, bind_apply, pure_apply, Stmt.outline]
      rw [Declarators.outline_mapCallsM declarators]
  | .breakTo .. | .continueTo .. | .empty _ => rfl

theorem Stmts.outline_mapCallsM (ts : List Stmt) (s : σ) :
    Stmts.outline marker (Stmts.mapCallsM f ts s).1 = Stmts.outline marker ts := by
  match ts with
  | [] => rfl
  | t :: rest =>
      simp only [Stmts.mapCallsM, bind_apply, pure_apply, Stmts.outline]
      rw [t.outline_mapCallsM, Stmts.outline_mapCallsM rest]

theorem Block.outline_mapCallsM (b : Block) (s : σ) :
    (b.mapCallsM f s).1.outline marker = b.outline marker := by
  match b with
  | ⟨spot, body⟩ =>
      simp only [Block.mapCallsM, bind_apply, pure_apply, Block.outline]
      rw [Stmts.outline_mapCallsM body]

theorem Catch.outline_mapCallsM (c : Catch) (s : σ) :
    (c.mapCallsM f s).1.outline marker = c.outline marker := by
  match c with
  | ⟨spot, parameter, body⟩ =>
      simp only [Catch.mapCallsM, bind_apply, pure_apply, Catch.outline]
      rw [Stmts.outline_mapCallsM body]

theorem Declarators.outline_mapCallsM (ds : List Declarator) (s : σ) :
    Declarators.outline marker (Declarators.mapCallsM f ds s).1 =
      Declarators.outline marker ds := by
  match ds with
  | [] => rfl
  | ⟨pattern, type, none⟩ :: rest =>
      simp only [Declarators.mapCallsM, bind_apply, pure_apply, Declarators.outline]
      rw [Declarators.outline_mapCallsM rest]
  | ⟨pattern, type, some value⟩ :: rest =>
      simp only [Declarators.mapCallsM, bind_apply, pure_apply, Declarators.outline]
      rw [value.outline_mapCallsM, Declarators.outline_mapCallsM rest]

end

end mapCallsM

end frame

end TypeProbe
