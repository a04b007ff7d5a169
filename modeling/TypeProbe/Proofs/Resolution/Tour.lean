import Mathlib.Data.List.Perm.Basic
import TypeProbe.Proofs.Resolution.Outline

/-! # Tours of a program

A tour meets every call of a program once.  There are two of them (`Tour`): that of the listing
of calls, and that in which a program is rebuilt.

* **Inside and outside.**  A tour tells for every call whether it lies inside the body of a probed
  function (`Visit.inside`).  The parameters of a probed function are outside of its body.
* **The listing** meets the calls in the order of `Program.calls`, and the other tour meets the
  same calls in another order (`Program.same_visits`).
* **The state of a rebuilding** is what the calls of the second tour make of it one after another
  (`Program.state_mapCallsM`), if what an action does to the state depends on a call only through
  the position of the body it probes; rebuilding the parts of a call does not move that body. -/

namespace TypeProbe

/-! ### Orders -/

/-- The orders in which the calls of a tree are met. -/
inductive Tour where
  /-- A call before the calls inside it; the parts of a node as its fields are declared. -/
  | listing
  /-- A call after the calls inside it; the parts of a node as they are printed. -/
  | rebuilding
deriving DecidableEq, Repr

namespace Tour

variable {α β : Type} (t : Tour)

/-- A call and the calls inside it. -/
def around (call : α) (inner : List α) : List α :=
  match t with
  | listing => call :: inner
  | rebuilding => inner ++ [call]

/-- The calls of the condition of a `do` loop, and those of its body. -/
def doWhile (condition body : List α) : List α :=
  match t with
  | listing => condition ++ body
  | rebuilding => body ++ condition

/-- Whether two lists are the same on a tour: one in the order of the listing, and the other in
that order or, for the second tour, in any. -/
def Same (l m : List α) : Prop :=
  match t with
  | listing => l = m
  | rebuilding => l.Perm m

variable {t}

theorem same_refl (l : List α) : t.Same l l := by
  cases t with
  | listing => rfl
  | rebuilding => exact .refl l

theorem Same.append {l l' m m' : List α} (h : t.Same l m) (h' : t.Same l' m') :
    t.Same (l ++ l') (m ++ m') := by
  cases t with
  | listing => exact congrArg₂ (· ++ ·) h h'
  | rebuilding => exact List.Perm.append h h'

theorem Same.around {l m : List α} (call : α) (h : t.Same l m) :
    t.Same (t.around call l) (call :: m) := by
  cases t with
  | listing => exact congrArg (call :: ·) h
  | rebuilding => exact List.perm_append_comm.trans (List.Perm.cons call h)

theorem Same.doWhile {l l' m m' : List α} (h : t.Same l m) (h' : t.Same l' m') :
    t.Same (t.doWhile l l') (m ++ m') := by
  cases t with
  | listing => exact congrArg₂ (· ++ ·) h h'
  | rebuilding => exact List.perm_append_comm.trans (List.Perm.append h h')

theorem map_around (f : α → β) (call : α) (inner : List α) :
    (t.around call inner).map f = t.around (f call) (inner.map f) := by
  cases t <;> simp [Tour.around]

theorem map_doWhile (f : α → β) (condition body : List α) :
    (t.doWhile condition body).map f = t.doWhile (condition.map f) (body.map f) := by
  cases t <;> simp [Tour.doWhile]

end Tour

/-! ### Tours -/

/-- A call met on a tour, and whether it lies inside the body of a probed function. -/
structure Visit extends CallSite where
  inside : Bool

/-- The same call, inside the body of a probed function. -/
def Visit.within (v : Visit) : Visit := { v with inside := true }

section visits

variable (t : Tour) (marker : String)

mutual

/-- The calls of an expression; `probed` says that it is a probed function. -/
def Expr.visits (probed : Bool) : Expr → List Visit
  | .arrow _ f => f.visits probed
  | .binary _ _ l r => l.visits false ++ r.visits false
  | .call a c => t.around ⟨⟨a.inner, c⟩, false⟩ c.visits
  | .index _ _ o k => o.visits false ++ k.visits false
  | .conditional _ c d e => c.visits false ++ d.visits false ++ e.visits false
  | .function _ _ f => f.visits probed
  | .member _ _ o _ => o.visits false
  | .unary _ _ e => e.visits false
  | .trailing _ _ e => e.visits false
  | .array _ es => Elements.visits es
  | .ident .. | .this _ | .boolean .. | .null _ | .number .. | .string .. => []

/-- The calls inside a call; if it is a probe, its argument is a probed function. -/
def Call.visits : Call → List Visit
  | ⟨optional, callee, arguments⟩ =>
      callee.visits false ++
        Arguments.visits (Call.probe? marker ⟨optional, callee, arguments⟩).isSome arguments

/-- The calls of the arguments of a call, of a probe or not. -/
def Arguments.visits (probed : Bool) : List Argument → List Visit
  | [] => []
  | ⟨_, _, value⟩ :: rest => value.visits probed ++ Arguments.visits probed rest

def Elements.visits : List Element → List Visit
  | [] => []
  | .single value :: rest => value.visits false ++ Elements.visits rest
  | .rest value :: rest => value.visits false ++ Elements.visits rest
  | .hole :: rest => Elements.visits rest

/-- The calls of a function; if it is probed, those of the body are inside. -/
def Func.visits (probed : Bool) : Func → List Visit
  | ⟨_, _, _, _, parameters, _, body⟩ =>
      Params.visits parameters ++ if probed then body.visits.map Visit.within else body.visits

def Body.visits : Body → List Visit
  | .block _ statements => Stmts.visits statements
  | .expr _ value => value.visits false

def Params.visits : List Param → List Visit
  | [] => []
  | ⟨_, _, _, _, none⟩ :: rest => Params.visits rest
  | ⟨_, _, _, _, some value⟩ :: rest => value.visits false ++ Params.visits rest

def Stmt.visits : Stmt → List Visit
  | .block _ body => Stmts.visits body
  | .doWhile _ condition body => t.doWhile (condition.visits false) body.visits
  | .expr _ value => value.visits false
  | .ifElse _ test consequent none => test.visits false ++ consequent.visits
  | .ifElse _ test consequent (some alternate) =>
      test.visits false ++ consequent.visits ++ alternate.visits
  | .ret _ none => []
  | .ret _ (some value) => value.visits false
  | .throw _ value => value.visits false
  | .tryBlock _ wrapped none none => wrapped.visits
  | .tryBlock _ wrapped (some handler) none => wrapped.visits ++ handler.visits
  | .tryBlock _ wrapped none (some finalizer) => wrapped.visits ++ finalizer.visits
  | .tryBlock _ wrapped (some handler) (some finalizer) =>
      wrapped.visits ++ handler.visits ++ finalizer.visits
  | .whileDo _ condition body => condition.visits false ++ body.visits
  | .funcDecl _ _ _ f => f.visits false
  | .varDecl _ _ _ declarators => Declarators.visits declarators
  | .breakTo .. | .continueTo .. | .empty _ => []

def Stmts.visits : List Stmt → List Visit
  | [] => []
  | s :: rest => s.visits ++ Stmts.visits rest

def Block.visits : Block → List Visit
  | ⟨_, body⟩ => Stmts.visits body

def Catch.visits : Catch → List Visit
  | ⟨_, _, body⟩ => Stmts.visits body

def Declarators.visits : List Declarator → List Visit
  | [] => []
  | ⟨_, _, none⟩ :: rest => Declarators.visits rest
  | ⟨_, _, some value⟩ :: rest => value.visits false ++ Declarators.visits rest

end

def Program.visits (p : Program) : List Visit := Stmts.visits t marker p.body

end visits

/-! ### Both tours meet the calls of the listing -/

section same

variable {t : Tour} {marker : String}

theorem map_within (l : List Visit) :
    (l.map Visit.within).map Visit.toCallSite = l.map Visit.toCallSite := by
  rw [List.map_map]
  rfl

mutual

theorem Expr.same_visits (probed : Bool) (e : Expr) :
    t.Same ((e.visits t marker probed).map Visit.toCallSite) e.calls := by
  match e with
  | .arrow a f | .function a name f => exact f.same_visits probed
  | .binary a op l r =>
      simp only [Expr.visits, Expr.calls, List.map_append]
      exact (l.same_visits false).append (r.same_visits false)
  | .call a c =>
      simp only [Expr.visits, Expr.calls, Tour.map_around]
      exact c.same_visits.around _
  | .index a optional o k =>
      simp only [Expr.visits, Expr.calls, List.map_append]
      exact (o.same_visits false).append (k.same_visits false)
  | .conditional a c d e =>
      simp only [Expr.visits, Expr.calls, List.map_append]
      exact ((c.same_visits false).append (d.same_visits false)).append (e.same_visits false)
  | .member a optional o property => exact o.same_visits false
  | .unary a op e | .trailing a op e => exact e.same_visits false
  | .array a es => exact Elements.same_visits es
  | .ident .. | .this _ | .boolean .. | .null _ | .number .. | .string .. =>
      exact Tour.same_refl []

theorem Call.same_visits (c : Call) :
    t.Same ((c.visits t marker).map Visit.toCallSite) c.innerCalls := by
  match c with
  | ⟨optional, callee, arguments⟩ =>
      simp only [Call.visits, Call.innerCalls, List.map_append]
      exact (callee.same_visits false).append (Arguments.same_visits _ arguments)

theorem Arguments.same_visits (probed : Bool) (as : List Argument) :
    t.Same ((Arguments.visits t marker probed as).map Visit.toCallSite) (Arguments.calls as) := by
  match as with
  | [] => exact Tour.same_refl []
  | ⟨spot, spread, value⟩ :: rest =>
      simp only [Arguments.visits, Arguments.calls, List.map_append]
      exact (value.same_visits probed).append (Arguments.same_visits probed rest)

theorem Elements.same_visits (es : List Element) :
    t.Same ((Elements.visits t marker es).map Visit.toCallSite) (Elements.calls es) := by
  match es with
  | [] => exact Tour.same_refl []
  | .single value :: rest | .rest value :: rest =>
      simp only [Elements.visits, Elements.calls, List.map_append]
      exact (value.same_visits false).append (Elements.same_visits rest)
  | .hole :: rest => exact Elements.same_visits rest

theorem Func.same_visits (probed : Bool) (f : Func) :
    t.Same ((f.visits t marker probed).map Visit.toCallSite) f.calls := by
  match f with
  | ⟨spot, arrow, async, generator, parameters, returnType, body⟩ =>
      simp only [Func.visits, Func.calls, List.map_append]
      refine (Params.same_visits parameters).append ?_
      cases probed with
      | true => exact (map_within _).symm ▸ body.same_visits
      | false => exact body.same_visits

theorem Body.same_visits (b : Body) :
    t.Same ((b.visits t marker).map Visit.toCallSite) b.calls := by
  match b with
  | .block spot statements => exact Stmts.same_visits statements
  | .expr spot value => exact value.same_visits false

theorem Params.same_visits (ps : List Param) :
    t.Same ((Params.visits t marker ps).map Visit.toCallSite) (Params.calls ps) := by
  match ps with
  | [] => exact Tour.same_refl []
  | ⟨spot, isRest, pattern, type, none⟩ :: rest => exact Params.same_visits rest
  | ⟨spot, isRest, pattern, type, some value⟩ :: rest =>
      simp only [Params.visits, Params.calls, List.map_append]
      exact (value.same_visits false).append (Params.same_visits rest)

theorem Stmt.same_visits (s : Stmt) :
    t.Same ((s.visits t marker).map Visit.toCallSite) s.calls := by
  match s with
  | .block a body => exact Stmts.same_visits body
  | .doWhile a condition body =>
      simp only [Stmt.visits, Stmt.calls, Tour.map_doWhile]
      exact (condition.same_visits false).doWhile body.same_visits
  | .expr a value => exact value.same_visits false
  | .ifElse a test consequent none =>
      simp only [Stmt.visits, Stmt.calls, List.map_append]
      exact (test.same_visits false).append consequent.same_visits
  | .ifElse a test consequent (some alternate) =>
      simp only [Stmt.visits, Stmt.calls, List.map_append]
      exact ((test.same_visits false).append consequent.same_visits).append alternate.same_visits
  | .ret a none => exact Tour.same_refl []
  | .ret a (some value) => exact value.same_visits false
  | .throw a value => exact value.same_visits false
  | .tryBlock a wrapped none none =>
      simp only [Stmt.visits, Stmt.calls, List.append_nil]
      exact wrapped.same_visits
  | .tryBlock a wrapped (some handler) none =>
      simp only [Stmt.visits, Stmt.calls, List.append_nil, List.map_append]
      exact wrapped.same_visits.append handler.same_visits
  | .tryBlock a wrapped none (some finalizer) =>
      simp only [Stmt.visits, Stmt.calls, List.append_nil, List.map_append]
      exact wrapped.same_visits.append finalizer.same_visits
  | .tryBlock a wrapped (some handler) (some finalizer) =>
      simp only [Stmt.visits, Stmt.calls, List.map_append]
      exact (wrapped.same_visits.append handler.same_visits).append finalizer.same_visits
  | .whileDo a condition body =>
      simp only [Stmt.visits, Stmt.calls, List.map_append]
      exact (condition.same_visits false).append body.same_visits
  | .funcDecl a exported name f => exact f.same_visits false
  | .varDecl a exported kind declarators => exact Declarators.same_visits declarators
  | .breakTo .. | .continueTo .. | .empty _ => exact Tour.same_refl []

theorem Stmts.same_visits (ss : List Stmt) :
    t.Same ((Stmts.visits t marker ss).map Visit.toCallSite) (Stmts.calls ss) := by
  match ss with
  | [] => exact Tour.same_refl []
  | s :: rest =>
      simp only [Stmts.visits, Stmts.calls, List.map_append]
      exact s.same_visits.append (Stmts.same_visits rest)

theorem Block.same_visits (b : Block) :
    t.Same ((b.visits t marker).map Visit.toCallSite) b.calls := by
  match b with
  | ⟨spot, body⟩ => exact Stmts.same_visits body

theorem Catch.same_visits (c : Catch) :
    t.Same ((c.visits t marker).map Visit.toCallSite) c.calls := by
  match c with
  | ⟨spot, parameter, body⟩ => exact Stmts.same_visits body

theorem Declarators.same_visits (ds : List Declarator) :
    t.Same ((Declarators.visits t marker ds).map Visit.toCallSite) (Declarators.calls ds) := by
  match ds with
  | [] => exact Tour.same_refl []
  | ⟨pattern, type, none⟩ :: rest => exact Declarators.same_visits rest
  | ⟨pattern, type, some value⟩ :: rest =>
      simp only [Declarators.visits, Declarators.calls, List.map_append]
      exact (value.same_visits false).append (Declarators.same_visits rest)

end

/-- Both tours meet the calls of a program, the first in the order in which they are listed. -/
theorem Program.same_visits (t : Tour) (marker : String) (p : Program) :
    t.Same ((p.visits t marker).map Visit.toCallSite) p.calls := Stmts.same_visits p.body

end same

/-! ### The state of a rebuilding -/

/-- The position of the body that a call probes. -/
def Call.probedLoc? (marker : String) (c : Call) : Option Loc :=
  (c.probe? marker).map fun f => f.body.loc

section state

variable {σ : Type} {f : Call → StateM σ Call} {marker : String}

/-- Rebuilding the body of a function literal leaves it where it is. -/
theorem Expr.literal?_mapCallsM (e : Expr) (s : σ) :
    (e.mapCallsM f s).1.literal?.map (fun fn => fn.body.loc) =
      e.literal?.map (fun fn => fn.body.loc) := by
  cases e with
  | arrow a fn | function a name fn =>
      obtain ⟨spot, arrow, async, generator, parameters, returnType, body⟩ := fn
      exact congrArg some (body.loc_mapCallsM _)
  | _ => rfl

theorem Call.probedLoc?_mapInnerCallsM (c : Call) (s : σ) :
    (c.mapInnerCallsM f s).1.probedLoc? marker = c.probedLoc? marker := by
  obtain ⟨optional, callee, arguments⟩ := c
  simp only [Call.mapInnerCallsM, bind_apply, pure_apply, Call.probedLoc?, Call.probe?,
    Expr.isIdent_mapCallsM]
  split
  · cases arguments with
    | nil => rfl
    | cons first rest =>
        obtain ⟨spot, spread, value⟩ := first
        cases rest with
        | nil =>
            cases spread with
            | true => rfl
            | false => exact value.literal?_mapCallsM _
        | cons second rest =>
            obtain ⟨_, _, _⟩ := second
            rfl
  · rfl

/-- The state after one more call. -/
def Visit.advance (marker : String) (step : σ → Option Loc → σ) (s : σ) (v : Visit) : σ :=
  step s (v.call.probedLoc? marker)

theorem foldl_within (step : σ → Option Loc → σ) (s : σ) (l : List Visit) :
    (l.map Visit.within).foldl (Visit.advance marker step) s =
      l.foldl (Visit.advance marker step) s :=
  List.foldl_map

variable {step : σ → Option Loc → σ}
  (hf : ∀ c s, (f c s).2 = step s (c.probedLoc? marker))
include hf

set_option linter.unusedSectionVars false

mutual

theorem Expr.state_mapCallsM (probed : Bool) (e : Expr) (s : σ) :
    (e.mapCallsM f s).2 =
      (e.visits .rebuilding marker probed).foldl (Visit.advance marker step) s := by
  match e with
  | .arrow a fn | .function a name fn => exact fn.state_mapCallsM probed s
  | .binary a op l r =>
      simp only [Expr.mapCallsM, bind_apply, pure_apply, Expr.visits, List.foldl_append]
      rw [r.state_mapCallsM false, l.state_mapCallsM false]
  | .call a c =>
      simp only [Expr.mapCallsM, bind_apply, pure_apply, Expr.visits, Tour.around,
        List.foldl_append, List.foldl_cons, List.foldl_nil, Visit.advance]
      rw [hf, Call.probedLoc?_mapInnerCallsM, c.state_mapInnerCallsM]
  | .index a optional o k =>
      simp only [Expr.mapCallsM, bind_apply, pure_apply, Expr.visits, List.foldl_append]
      rw [k.state_mapCallsM false, o.state_mapCallsM false]
  | .conditional a t c e =>
      simp only [Expr.mapCallsM, bind_apply, pure_apply, Expr.visits, List.foldl_append]
      rw [e.state_mapCallsM false, c.state_mapCallsM false, t.state_mapCallsM false]
  | .member a optional o property => exact o.state_mapCallsM false s
  | .unary a op e | .trailing a op e => exact e.state_mapCallsM false s
  | .array a es => exact Elements.state_mapCallsM es s
  | .ident .. | .this _ | .boolean .. | .null _ | .number .. | .string .. => rfl

theorem Call.state_mapInnerCallsM (c : Call) (s : σ) :
    (c.mapInnerCallsM f s).2 =
      (c.visits .rebuilding marker).foldl (Visit.advance marker step) s := by
  match c with
  | ⟨optional, callee, arguments⟩ =>
      simp only [Call.mapInnerCallsM, bind_apply, pure_apply, Call.visits, List.foldl_append]
      rw [Arguments.state_mapCallsM _ arguments, callee.state_mapCallsM false]

theorem Arguments.state_mapCallsM (probed : Bool) (as : List Argument) (s : σ) :
    (Arguments.mapCallsM f as s).2 =
      (Arguments.visits .rebuilding marker probed as).foldl (Visit.advance marker step) s := by
  match as with
  | [] => rfl
  | ⟨spot, spread, value⟩ :: rest =>
      simp only [Arguments.mapCallsM, bind_apply, pure_apply, Arguments.visits, List.foldl_append]
      rw [Arguments.state_mapCallsM probed rest, value.state_mapCallsM probed]

theorem Elements.state_mapCallsM (es : List Element) (s : σ) :
    (Elements.mapCallsM f es s).2 =
      (Elements.visits .rebuilding marker es).foldl (Visit.advance marker step) s := by
  match es with
  | [] => rfl
  | .single value :: rest | .rest value :: rest =>
      simp only [Elements.mapCallsM, bind_apply, pure_apply, Elements.visits, List.foldl_append]
      rw [Elements.state_mapCallsM rest, value.state_mapCallsM false]
  | .hole :: rest => exact Elements.state_mapCallsM rest s

theorem Func.state_mapCallsM (probed : Bool) (fn : Func) (s : σ) :
    (fn.mapCallsM f s).2 =
      (fn.visits .rebuilding marker probed).foldl (Visit.advance marker step) s := by
  match fn with
  | ⟨spot, arrow, async, generator, parameters, returnType, body⟩ =>
      simp only [Func.mapCallsM, bind_apply, pure_apply, Func.visits, List.foldl_append]
      rw [body.state_mapCallsM, Params.state_mapCallsM parameters]
      cases probed with
      | true => exact (foldl_within _ _ _).symm
      | false => rfl

theorem Body.state_mapCallsM (b : Body) (s : σ) :
    (b.mapCallsM f s).2 =
      (b.visits .rebuilding marker).foldl (Visit.advance marker step) s := by
  match b with
  | .block spot statements => exact Stmts.state_mapCallsM statements s
  | .expr spot value => exact value.state_mapCallsM false s

theorem Params.state_mapCallsM (ps : List Param) (s : σ) :
    (Params.mapCallsM f ps s).2 =
      (Params.visits .rebuilding marker ps).foldl (Visit.advance marker step) s := by
  match ps with
  | [] => rfl
  | ⟨spot, isRest, pattern, type, none⟩ :: rest => exact Params.state_mapCallsM rest s
  | ⟨spot, isRest, pattern, type, some value⟩ :: rest =>
      simp only [Params.mapCallsM, bind_apply, pure_apply, Params.visits, List.foldl_append]
      rw [Params.state_mapCallsM rest, value.state_mapCallsM false]

theorem Stmt.state_mapCallsM (t : Stmt) (s : σ) :
    (t.mapCallsM f s).2 =
      (t.visits .rebuilding marker).foldl (Visit.advance marker step) s := by
  match t with
  | .block a body => exact Stmts.state_mapCallsM body s
  | .doWhile a condition body =>
      simp only [Stmt.mapCallsM, bind_apply, pure_apply, Stmt.visits, Tour.doWhile,
        List.foldl_append]
      rw [condition.state_mapCallsM false, body.state_mapCallsM]
  | .expr a value => exact value.state_mapCallsM false s
  | .ifElse a test consequent none =>
      simp only [Stmt.mapCallsM, bind_apply, pure_apply, Stmt.visits, List.foldl_append]
      rw [consequent.state_mapCallsM, test.state_mapCallsM false]
  | .ifElse a test consequent (some alternate) =>
      simp only [Stmt.mapCallsM, bind_apply, pure_apply, Stmt.visits, List.foldl_append]
      rw [alternate.state_mapCallsM, consequent.state_mapCallsM, test.state_mapCallsM false]
  | .ret a none => rfl
  | .ret a (some value) => exact value.state_mapCallsM false s
  | .throw a value => exact value.state_mapCallsM false s
  | .tryBlock a wrapped none none => exact wrapped.state_mapCallsM s
  | .tryBlock a wrapped (some handler) none =>
      simp only [Stmt.mapCallsM, bind_apply, pure_apply, map_apply, Stmt.visits,
        List.foldl_append]
      rw [handler.state_mapCallsM, wrapped.state_mapCallsM]
  | .tryBlock a wrapped none (some finalizer) =>
      simp only [Stmt.mapCallsM, bind_apply, pure_apply, map_apply, Stmt.visits,
        List.foldl_append]
      rw [finalizer.state_mapCallsM, wrapped.state_mapCallsM]
  | .tryBlock a wrapped (some handler) (some finalizer) =>
      simp only [Stmt.mapCallsM, bind_apply, pure_apply, map_apply, Stmt.visits,
        List.foldl_append]
      rw [finalizer.state_mapCallsM, handler.state_mapCallsM, wrapped.state_mapCallsM]
  | .whileDo a condition body =>
      simp only [Stmt.mapCallsM, bind_apply, pure_apply, Stmt.visits, List.foldl_append]
      rw [body.state_mapCallsM, condition.state_mapCallsM false]
  | .funcDecl a exported name fn => exact fn.state_mapCallsM false s
  | .varDecl a exported kind declarators => exact Declarators.state_mapCallsM declarators s
  | .breakTo .. | .continueTo .. | .empty _ => rfl

theorem Stmts.state_mapCallsM (ts : List Stmt) (s : σ) :
    (Stmts.mapCallsM f ts s).2 =
      (Stmts.visits .rebuilding marker ts).foldl (Visit.advance marker step) s := by
  match ts with
  | [] => rfl
  | t :: rest =>
      simp only [Stmts.mapCallsM, bind_apply, pure_apply, Stmts.visits, List.foldl_append]
      rw [Stmts.state_mapCallsM rest, t.state_mapCallsM]

theorem Block.state_mapCallsM (b : Block) (s : σ) :
    (b.mapCallsM f s).2 =
      (b.visits .rebuilding marker).foldl (Visit.advance marker step) s := by
  match b with
  | ⟨spot, body⟩ => exact Stmts.state_mapCallsM body s

theorem Catch.state_mapCallsM (c : Catch) (s : σ) :
    (c.mapCallsM f s).2 =
      (c.visits .rebuilding marker).foldl (Visit.advance marker step) s := by
  match c with
  | ⟨spot, parameter, body⟩ => exact Stmts.state_mapCallsM body s

theorem Declarators.state_mapCallsM (ds : List Declarator) (s : σ) :
    (Declarators.mapCallsM f ds s).2 =
      (Declarators.visits .rebuilding marker ds).foldl (Visit.advance marker step) s := by
  match ds with
  | [] => rfl
  | ⟨pattern, type, none⟩ :: rest => exact Declarators.state_mapCallsM rest s
  | ⟨pattern, type, some value⟩ :: rest =>
      simp only [Declarators.mapCallsM, bind_apply, pure_apply, Declarators.visits,
        List.foldl_append]
      rw [Declarators.state_mapCallsM rest, value.state_mapCallsM false]

end

/-- The state after rebuilding a program is what its calls make of it one after another. -/
theorem Program.state_mapCallsM (p : Program) (s : σ) :
    (p.mapCallsM f s).2 =
      (p.visits .rebuilding marker).foldl (Visit.advance marker step) s :=
  Stmts.state_mapCallsM hf p.body s

end state

end TypeProbe
