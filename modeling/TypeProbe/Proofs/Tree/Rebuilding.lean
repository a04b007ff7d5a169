import TypeProbe.Tree.Calls

/-! # Rebuilding trees with an action that has state

Two facts about rebuilding a tree with an action on its calls, for any action whose effect is
on a state.

* An action may **establish** a property of calls: what it returns has the property, and so have
  the calls inside, as long as the calls inside had it before.  Then every call of the rebuilt
  tree has the property (`Program.calls_mapCallsM`).
* An action may **fix** the calls that have a property.  A tree whose calls all have it is
  rebuilt as it was (`Program.mapCallsM_eq_self`).

Together they say that rebuilding twice with an action that fixes what it establishes is
rebuilding once. -/

namespace TypeProbe

/-- Every call of a listing has the property `P`. -/
def CallSite.All (P : Call → Prop) (l : List CallSite) : Prop := ∀ s ∈ l, P s.call

section all

variable {P : Call → Prop}

@[simp] theorem CallSite.all_nil : CallSite.All P [] := by simp [CallSite.All]

@[simp] theorem CallSite.all_cons {s : CallSite} {l : List CallSite} :
    CallSite.All P (s :: l) ↔ P s.call ∧ CallSite.All P l := by simp [CallSite.All]

@[simp] theorem CallSite.all_append {l l' : List CallSite} :
    CallSite.All P (l ++ l') ↔ CallSite.All P l ∧ CallSite.All P l' :=
  List.forall_mem_append

end all

section stateful

variable {σ α β : Type}

theorem bind_apply (x : StateM σ α) (g : α → StateM σ β) (s : σ) :
    (x >>= g) s = g (x s).1 (x s).2 := rfl

theorem pure_apply (a : α) (s : σ) : (pure a : StateM σ α) s = (a, s) := rfl

theorem map_apply (g : α → β) (x : StateM σ α) (s : σ) : (g <$> x) s = (g (x s).1, (x s).2) := rfl

/-- What the action returns has the property, as have the calls inside, as long as the calls
inside had it before. -/
def Establishes (P : Call → Prop) (f : Call → StateM σ Call) : Prop :=
  ∀ c s, CallSite.All P c.innerCalls → P (f c s).1 ∧ CallSite.All P (f c s).1.innerCalls

/-- The action returns a call that has the property as it is. -/
def Fixes (P : Call → Prop) (f : Call → StateM σ Call) : Prop := ∀ c s, P c → (f c s).1 = c

end stateful

/-! ### The calls of a rebuilt tree -/

section establishes

variable {σ : Type} {P : Call → Prop} {f : Call → StateM σ Call} (hf : Establishes P f)
include hf

set_option linter.unusedSectionVars false

mutual

theorem Expr.calls_mapCallsM (e : Expr) (s : σ) :
    CallSite.All P (e.mapCallsM f s).1.calls := by
  match e with
  | .arrow a fn => exact fn.calls_mapCallsM s
  | .binary a op l r =>
      simp only [Expr.mapCallsM, bind_apply, pure_apply, Expr.calls, CallSite.all_append]
      exact ⟨l.calls_mapCallsM _, r.calls_mapCallsM _⟩
  | .call a c =>
      simp only [Expr.mapCallsM, bind_apply, pure_apply, Expr.calls, CallSite.all_cons]
      exact hf _ _ (c.innerCalls_mapInnerCallsM s)
  | .index a opt o k =>
      simp only [Expr.mapCallsM, bind_apply, pure_apply, Expr.calls, CallSite.all_append]
      exact ⟨o.calls_mapCallsM _, k.calls_mapCallsM _⟩
  | .conditional a t c e =>
      simp only [Expr.mapCallsM, bind_apply, pure_apply, Expr.calls, CallSite.all_append]
      exact ⟨⟨t.calls_mapCallsM _, c.calls_mapCallsM _⟩, e.calls_mapCallsM _⟩
  | .function a name fn => exact fn.calls_mapCallsM s
  | .member a opt o property => exact o.calls_mapCallsM s
  | .unary a op e => exact e.calls_mapCallsM s
  | .trailing a op e => exact e.calls_mapCallsM s
  | .array a es => exact Elements.calls_mapCallsM es s
  | .ident .. | .this _ | .boolean .. | .null _ | .number .. | .string .. => exact CallSite.all_nil

theorem Call.innerCalls_mapInnerCallsM (c : Call) (s : σ) :
    CallSite.All P (c.mapInnerCallsM f s).1.innerCalls := by
  match c with
  | ⟨optional, callee, arguments⟩ =>
      simp only [Call.mapInnerCallsM, bind_apply, pure_apply, Call.innerCalls, CallSite.all_append]
      exact ⟨callee.calls_mapCallsM _, Arguments.calls_mapCallsM arguments _⟩

theorem Arguments.calls_mapCallsM (as : List Argument) (s : σ) :
    CallSite.All P (Arguments.calls (Arguments.mapCallsM f as s).1) := by
  match as with
  | [] => exact CallSite.all_nil
  | ⟨spot, spread, value⟩ :: rest =>
      simp only [Arguments.mapCallsM, bind_apply, pure_apply, Arguments.calls, CallSite.all_append]
      exact ⟨value.calls_mapCallsM _, Arguments.calls_mapCallsM rest _⟩

theorem Elements.calls_mapCallsM (es : List Element) (s : σ) :
    CallSite.All P (Elements.calls (Elements.mapCallsM f es s).1) := by
  match es with
  | [] => exact CallSite.all_nil
  | .single value :: rest | .rest value :: rest =>
      simp only [Elements.mapCallsM, bind_apply, pure_apply, Elements.calls, CallSite.all_append]
      exact ⟨value.calls_mapCallsM _, Elements.calls_mapCallsM rest _⟩
  | .hole :: rest => exact Elements.calls_mapCallsM rest s

theorem Func.calls_mapCallsM (fn : Func) (s : σ) :
    CallSite.All P (fn.mapCallsM f s).1.calls := by
  match fn with
  | ⟨spot, arrow, async, generator, parameters, returnType, body⟩ =>
      simp only [Func.mapCallsM, bind_apply, pure_apply, Func.calls, CallSite.all_append]
      exact ⟨Params.calls_mapCallsM parameters _, body.calls_mapCallsM _⟩

theorem Body.calls_mapCallsM (b : Body) (s : σ) :
    CallSite.All P (b.mapCallsM f s).1.calls := by
  match b with
  | .block spot statements => exact Stmts.calls_mapCallsM statements s
  | .expr spot value => exact value.calls_mapCallsM s

theorem Params.calls_mapCallsM (ps : List Param) (s : σ) :
    CallSite.All P (Params.calls (Params.mapCallsM f ps s).1) := by
  match ps with
  | [] => exact CallSite.all_nil
  | ⟨spot, isRest, pattern, type, none⟩ :: rest => exact Params.calls_mapCallsM rest s
  | ⟨spot, isRest, pattern, type, some value⟩ :: rest =>
      simp only [Params.mapCallsM, bind_apply, pure_apply, Params.calls, CallSite.all_append]
      exact ⟨value.calls_mapCallsM _, Params.calls_mapCallsM rest _⟩

theorem Stmt.calls_mapCallsM (t : Stmt) (s : σ) :
    CallSite.All P (t.mapCallsM f s).1.calls := by
  match t with
  | .block a body => exact Stmts.calls_mapCallsM body s
  | .doWhile a condition body =>
      simp only [Stmt.mapCallsM, bind_apply, pure_apply, Stmt.calls, CallSite.all_append]
      exact ⟨condition.calls_mapCallsM _, body.calls_mapCallsM _⟩
  | .expr a value => exact value.calls_mapCallsM s
  | .ifElse a test consequent none =>
      simp only [Stmt.mapCallsM, bind_apply, pure_apply, Stmt.calls, CallSite.all_append]
      exact ⟨test.calls_mapCallsM _, consequent.calls_mapCallsM _⟩
  | .ifElse a test consequent (some alternate) =>
      simp only [Stmt.mapCallsM, bind_apply, pure_apply, Stmt.calls, CallSite.all_append]
      exact ⟨⟨test.calls_mapCallsM _, consequent.calls_mapCallsM _⟩,
        alternate.calls_mapCallsM _⟩
  | .ret a none => exact CallSite.all_nil
  | .ret a (some value) => exact value.calls_mapCallsM s
  | .throw a value => exact value.calls_mapCallsM s
  | .tryBlock a wrapped none none =>
      simp only [Stmt.mapCallsM, bind_apply, pure_apply, Stmt.calls, List.append_nil]
      exact wrapped.calls_mapCallsM _
  | .tryBlock a wrapped (some handler) none =>
      simp only [Stmt.mapCallsM, bind_apply, pure_apply, map_apply, Stmt.calls, List.append_nil,
        CallSite.all_append]
      exact ⟨wrapped.calls_mapCallsM _, handler.calls_mapCallsM _⟩
  | .tryBlock a wrapped none (some finalizer) =>
      simp only [Stmt.mapCallsM, bind_apply, pure_apply, map_apply, Stmt.calls, List.append_nil,
        CallSite.all_append]
      exact ⟨wrapped.calls_mapCallsM _, finalizer.calls_mapCallsM _⟩
  | .tryBlock a wrapped (some handler) (some finalizer) =>
      simp only [Stmt.mapCallsM, bind_apply, pure_apply, map_apply, Stmt.calls,
        CallSite.all_append]
      exact ⟨⟨wrapped.calls_mapCallsM _, handler.calls_mapCallsM _⟩,
        finalizer.calls_mapCallsM _⟩
  | .whileDo a condition body =>
      simp only [Stmt.mapCallsM, bind_apply, pure_apply, Stmt.calls, CallSite.all_append]
      exact ⟨condition.calls_mapCallsM _, body.calls_mapCallsM _⟩
  | .funcDecl a exported name fn => exact fn.calls_mapCallsM s
  | .varDecl a exported kind declarators => exact Declarators.calls_mapCallsM declarators s
  | .breakTo .. | .continueTo .. | .empty _ => exact CallSite.all_nil

theorem Stmts.calls_mapCallsM (ts : List Stmt) (s : σ) :
    CallSite.All P (Stmts.calls (Stmts.mapCallsM f ts s).1) := by
  match ts with
  | [] => exact CallSite.all_nil
  | t :: rest =>
      simp only [Stmts.mapCallsM, bind_apply, pure_apply, Stmts.calls, CallSite.all_append]
      exact ⟨t.calls_mapCallsM _, Stmts.calls_mapCallsM rest _⟩

theorem Block.calls_mapCallsM (b : Block) (s : σ) :
    CallSite.All P (b.mapCallsM f s).1.calls := by
  match b with
  | ⟨spot, body⟩ => exact Stmts.calls_mapCallsM body s

theorem Catch.calls_mapCallsM (c : Catch) (s : σ) :
    CallSite.All P (c.mapCallsM f s).1.calls := by
  match c with
  | ⟨spot, parameter, body⟩ => exact Stmts.calls_mapCallsM body s

theorem Declarators.calls_mapCallsM (ds : List Declarator) (s : σ) :
    CallSite.All P (Declarators.calls (Declarators.mapCallsM f ds s).1) := by
  match ds with
  | [] => exact CallSite.all_nil
  | ⟨pattern, type, none⟩ :: rest => exact Declarators.calls_mapCallsM rest s
  | ⟨pattern, type, some value⟩ :: rest =>
      simp only [Declarators.mapCallsM, bind_apply, pure_apply, Declarators.calls,
        CallSite.all_append]
      exact ⟨value.calls_mapCallsM _, Declarators.calls_mapCallsM rest _⟩

end

/-- Every call of a rebuilt program has what the action establishes. -/
theorem Program.calls_mapCallsM (p : Program) (s : σ) :
    CallSite.All P (p.mapCallsM f s).1.calls := Stmts.calls_mapCallsM hf p.body s

end establishes

/-! ### Trees that are rebuilt as they were -/

section fixes

variable {σ : Type} {P : Call → Prop} {f : Call → StateM σ Call} (hf : Fixes P f)
include hf

set_option linter.unusedSectionVars false

mutual

theorem Expr.mapCallsM_eq_self (e : Expr) (h : CallSite.All P e.calls) (s : σ) :
    (e.mapCallsM f s).1 = e := by
  match e with
  | .arrow a fn =>
      simp only [Expr.mapCallsM, bind_apply, pure_apply]
      rw [fn.mapCallsM_eq_self h]
  | .binary a op l r =>
      simp only [Expr.calls, CallSite.all_append] at h
      simp only [Expr.mapCallsM, bind_apply, pure_apply]
      rw [l.mapCallsM_eq_self h.1, r.mapCallsM_eq_self h.2]
  | .call a c =>
      simp only [Expr.calls, CallSite.all_cons] at h
      simp only [Expr.mapCallsM, bind_apply, pure_apply]
      rw [c.mapInnerCallsM_eq_self h.2, hf _ _ h.1]
  | .index a opt o k =>
      simp only [Expr.calls, CallSite.all_append] at h
      simp only [Expr.mapCallsM, bind_apply, pure_apply]
      rw [o.mapCallsM_eq_self h.1, k.mapCallsM_eq_self h.2]
  | .conditional a t c e =>
      simp only [Expr.calls, CallSite.all_append] at h
      obtain ⟨⟨ht, hc⟩, he⟩ := h
      simp only [Expr.mapCallsM, bind_apply, pure_apply]
      rw [t.mapCallsM_eq_self ht, c.mapCallsM_eq_self hc, e.mapCallsM_eq_self he]
  | .function a name fn =>
      simp only [Expr.mapCallsM, bind_apply, pure_apply]
      rw [fn.mapCallsM_eq_self h]
  | .member a opt o property =>
      simp only [Expr.mapCallsM, bind_apply, pure_apply]
      rw [o.mapCallsM_eq_self h]
  | .unary a op e | .trailing a op e =>
      simp only [Expr.mapCallsM, bind_apply, pure_apply]
      rw [e.mapCallsM_eq_self h]
  | .array a es =>
      simp only [Expr.mapCallsM, bind_apply, pure_apply]
      rw [Elements.mapCallsM_eq_self es h]
  | .ident .. | .this _ | .boolean .. | .null _ | .number .. | .string .. => rfl

theorem Call.mapInnerCallsM_eq_self (c : Call)
    (h : CallSite.All P c.innerCalls) (s : σ) : (c.mapInnerCallsM f s).1 = c := by
  match c with
  | ⟨optional, callee, arguments⟩ =>
      simp only [Call.innerCalls, CallSite.all_append] at h
      simp only [Call.mapInnerCallsM, bind_apply, pure_apply]
      rw [callee.mapCallsM_eq_self h.1, Arguments.mapCallsM_eq_self arguments h.2]

theorem Arguments.mapCallsM_eq_self (as : List Argument)
    (h : CallSite.All P (Arguments.calls as)) (s : σ) : (Arguments.mapCallsM f as s).1 = as := by
  match as with
  | [] => rfl
  | ⟨spot, spread, value⟩ :: rest =>
      simp only [Arguments.calls, CallSite.all_append] at h
      simp only [Arguments.mapCallsM, bind_apply, pure_apply]
      rw [value.mapCallsM_eq_self h.1, Arguments.mapCallsM_eq_self rest h.2]

theorem Elements.mapCallsM_eq_self (es : List Element)
    (h : CallSite.All P (Elements.calls es)) (s : σ) : (Elements.mapCallsM f es s).1 = es := by
  match es with
  | [] => rfl
  | .single value :: rest | .rest value :: rest =>
      simp only [Elements.calls, CallSite.all_append] at h
      simp only [Elements.mapCallsM, bind_apply, pure_apply]
      rw [value.mapCallsM_eq_self h.1, Elements.mapCallsM_eq_self rest h.2]
  | .hole :: rest =>
      simp only [Elements.mapCallsM, bind_apply, pure_apply]
      rw [Elements.mapCallsM_eq_self rest h]

theorem Func.mapCallsM_eq_self (fn : Func) (h : CallSite.All P fn.calls) (s : σ) :
    (fn.mapCallsM f s).1 = fn := by
  match fn with
  | ⟨spot, arrow, async, generator, parameters, returnType, body⟩ =>
      simp only [Func.calls, CallSite.all_append] at h
      simp only [Func.mapCallsM, bind_apply, pure_apply]
      rw [Params.mapCallsM_eq_self parameters h.1, body.mapCallsM_eq_self h.2]

theorem Body.mapCallsM_eq_self (b : Body) (h : CallSite.All P b.calls) (s : σ) :
    (b.mapCallsM f s).1 = b := by
  match b with
  | .block spot statements =>
      simp only [Body.mapCallsM, bind_apply, pure_apply]
      rw [Stmts.mapCallsM_eq_self statements h]
  | .expr spot value =>
      simp only [Body.mapCallsM, bind_apply, pure_apply]
      rw [value.mapCallsM_eq_self h]

theorem Params.mapCallsM_eq_self (ps : List Param)
    (h : CallSite.All P (Params.calls ps)) (s : σ) : (Params.mapCallsM f ps s).1 = ps := by
  match ps with
  | [] => rfl
  | ⟨spot, isRest, pattern, type, none⟩ :: rest =>
      simp only [Params.mapCallsM, bind_apply, pure_apply]
      rw [Params.mapCallsM_eq_self rest h]
  | ⟨spot, isRest, pattern, type, some value⟩ :: rest =>
      simp only [Params.calls, CallSite.all_append] at h
      simp only [Params.mapCallsM, bind_apply, pure_apply]
      rw [value.mapCallsM_eq_self h.1, Params.mapCallsM_eq_self rest h.2]

theorem Stmt.mapCallsM_eq_self (t : Stmt) (h : CallSite.All P t.calls) (s : σ) :
    (t.mapCallsM f s).1 = t := by
  match t with
  | .block a body =>
      simp only [Stmt.mapCallsM, bind_apply, pure_apply]
      rw [Stmts.mapCallsM_eq_self body h]
  | .doWhile a condition body =>
      simp only [Stmt.calls, CallSite.all_append] at h
      simp only [Stmt.mapCallsM, bind_apply, pure_apply]
      rw [body.mapCallsM_eq_self h.2, condition.mapCallsM_eq_self h.1]
  | .expr a value =>
      simp only [Stmt.mapCallsM, bind_apply, pure_apply]
      rw [value.mapCallsM_eq_self h]
  | .ifElse a test consequent none =>
      simp only [Stmt.calls, CallSite.all_append] at h
      simp only [Stmt.mapCallsM, bind_apply, pure_apply]
      rw [test.mapCallsM_eq_self h.1, consequent.mapCallsM_eq_self h.2]
  | .ifElse a test consequent (some alternate) =>
      simp only [Stmt.calls, CallSite.all_append] at h
      obtain ⟨⟨ht, hc⟩, ha⟩ := h
      simp only [Stmt.mapCallsM, bind_apply, pure_apply]
      rw [test.mapCallsM_eq_self ht, consequent.mapCallsM_eq_self hc,
        alternate.mapCallsM_eq_self ha]
  | .ret a none => rfl
  | .ret a (some value) =>
      simp only [Stmt.mapCallsM, bind_apply, pure_apply]
      rw [value.mapCallsM_eq_self h]
  | .throw a value =>
      simp only [Stmt.mapCallsM, bind_apply, pure_apply]
      rw [value.mapCallsM_eq_self h]
  | .tryBlock a wrapped none none =>
      simp only [Stmt.calls, List.append_nil] at h
      simp only [Stmt.mapCallsM, bind_apply, pure_apply]
      rw [wrapped.mapCallsM_eq_self h]
  | .tryBlock a wrapped (some handler) none =>
      simp only [Stmt.calls, List.append_nil, CallSite.all_append] at h
      simp only [Stmt.mapCallsM, bind_apply, pure_apply, map_apply]
      rw [wrapped.mapCallsM_eq_self h.1, handler.mapCallsM_eq_self h.2]
  | .tryBlock a wrapped none (some finalizer) =>
      simp only [Stmt.calls, List.append_nil, CallSite.all_append] at h
      simp only [Stmt.mapCallsM, bind_apply, pure_apply, map_apply]
      rw [wrapped.mapCallsM_eq_self h.1, finalizer.mapCallsM_eq_self h.2]
  | .tryBlock a wrapped (some handler) (some finalizer) =>
      simp only [Stmt.calls, CallSite.all_append] at h
      obtain ⟨⟨hw, hh⟩, hz⟩ := h
      simp only [Stmt.mapCallsM, bind_apply, pure_apply, map_apply]
      rw [wrapped.mapCallsM_eq_self hw, handler.mapCallsM_eq_self hh,
        finalizer.mapCallsM_eq_self hz]
  | .whileDo a condition body =>
      simp only [Stmt.calls, CallSite.all_append] at h
      simp only [Stmt.mapCallsM, bind_apply, pure_apply]
      rw [condition.mapCallsM_eq_self h.1, body.mapCallsM_eq_self h.2]
  | .funcDecl a exported name fn =>
      simp only [Stmt.mapCallsM, bind_apply, pure_apply]
      rw [fn.mapCallsM_eq_self h]
  | .varDecl a exported kind declarators =>
      simp only [Stmt.mapCallsM, bind_apply, pure_apply]
      rw [Declarators.mapCallsM_eq_self declarators h]
  | .breakTo .. | .continueTo .. | .empty _ => rfl

theorem Stmts.mapCallsM_eq_self (ts : List Stmt)
    (h : CallSite.All P (Stmts.calls ts)) (s : σ) : (Stmts.mapCallsM f ts s).1 = ts := by
  match ts with
  | [] => rfl
  | t :: rest =>
      simp only [Stmts.calls, CallSite.all_append] at h
      simp only [Stmts.mapCallsM, bind_apply, pure_apply]
      rw [t.mapCallsM_eq_self h.1, Stmts.mapCallsM_eq_self rest h.2]

theorem Block.mapCallsM_eq_self (b : Block) (h : CallSite.All P b.calls) (s : σ) :
    (b.mapCallsM f s).1 = b := by
  match b with
  | ⟨spot, body⟩ =>
      simp only [Block.mapCallsM, bind_apply, pure_apply]
      rw [Stmts.mapCallsM_eq_self body h]

theorem Catch.mapCallsM_eq_self (c : Catch) (h : CallSite.All P c.calls) (s : σ) :
    (c.mapCallsM f s).1 = c := by
  match c with
  | ⟨spot, parameter, body⟩ =>
      simp only [Catch.mapCallsM, bind_apply, pure_apply]
      rw [Stmts.mapCallsM_eq_self body h]

theorem Declarators.mapCallsM_eq_self (ds : List Declarator)
    (h : CallSite.All P (Declarators.calls ds)) (s : σ) :
    (Declarators.mapCallsM f ds s).1 = ds := by
  match ds with
  | [] => rfl
  | ⟨pattern, type, none⟩ :: rest =>
      simp only [Declarators.mapCallsM, bind_apply, pure_apply]
      rw [Declarators.mapCallsM_eq_self rest h]
  | ⟨pattern, type, some value⟩ :: rest =>
      simp only [Declarators.calls, CallSite.all_append] at h
      simp only [Declarators.mapCallsM, bind_apply, pure_apply]
      rw [value.mapCallsM_eq_self h.1, Declarators.mapCallsM_eq_self rest h.2]

end

/-- A program whose calls are all fixed is rebuilt as it was. -/
theorem Program.mapCallsM_eq_self (p : Program) (h : CallSite.All P p.calls)
    (s : σ) : (p.mapCallsM f s).1 = p := by
  simp only [Program.mapCallsM, bind_apply, pure_apply]
  rw [Stmts.mapCallsM_eq_self hf p.body h]

/-- Rebuilding with an action that fixes what it establishes is done after one pass. -/
theorem Program.mapCallsM_mapCallsM (he : Establishes P f) (p : Program)
    (s t : σ) : (Program.mapCallsM f (p.mapCallsM f s).1 t).1 = (p.mapCallsM f s).1 :=
  Program.mapCallsM_eq_self hf _ (p.calls_mapCallsM he s) t

end fixes

end TypeProbe
