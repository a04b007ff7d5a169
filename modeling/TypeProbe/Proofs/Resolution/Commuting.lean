import TypeProbe.Proofs.Resolution.Outline

/-! # Passes for two markers

A pass for one marker and a pass for another may follow each other in either order
(`Program.resolve_comm`), however the probes of the two are nested: in bodies, where one order
resolves an inner probe before it is thrown away and the other never meets it, or in parameters.

* Rebuilding with two actions commutes as soon as the actions do on one call, and as long as what
  one of them makes of a call is the same before and after the other has been inside
  (`Independent`, `Program.mapCallsM_comm`).
* What a pass makes of a probe depends on the region of the probe alone, and the body that it
  writes has no probe for any marker; so two passes are independent. -/

namespace TypeProbe

/-! ### Rebuilding with two actions -/

section exchange

variable {σ : Type}

/-- What the action returns depends on the call alone. -/
def ActsAs (f : Call → StateM σ Call) (F : Call → Call) : Prop := ∀ c s, (f c s).1 = F c

/-- It makes no difference whether the action goes into a call before or after the call is
changed. -/
def Keeps (F : Call → Call) (g : Call → StateM σ Call) : Prop :=
  ∀ c s, ((F c).mapInnerCallsM g s).1 = F (c.mapInnerCallsM g s).1

/-- Two actions that do not get in each other's way. -/
structure Independent (f g : Call → StateM σ Call) (F G : Call → Call) : Prop where
  acts_left : ActsAs f F
  acts_right : ActsAs g G
  keeps_left : Keeps F g
  keeps_right : Keeps G f
  comm : ∀ c, G (F c) = F (G c)

variable {f g : Call → StateM σ Call} {F G : Call → Call} (h : Independent f g F G)
include h

set_option linter.unusedSectionVars false

mutual

theorem Expr.mapCallsM_comm (e : Expr) (s t s' t' : σ) :
    ((e.mapCallsM f s).1.mapCallsM g t).1 = ((e.mapCallsM g s').1.mapCallsM f t').1 := by
  match e with
  | .arrow a fn =>
      simp only [Expr.mapCallsM, bind_apply, pure_apply]
      rw [fn.mapCallsM_comm]
  | .binary a op l r =>
      simp only [Expr.mapCallsM, bind_apply, pure_apply]
      rw [l.mapCallsM_comm, r.mapCallsM_comm]
  | .call a c =>
      -- Each action is done with the call after it has been inside, and the other one goes inside
      -- what it returned.
      simp only [Expr.mapCallsM, bind_apply, pure_apply, h.acts_left _ _, h.acts_right _ _]
      rw [h.keeps_left, h.keeps_right, h.comm, c.mapInnerCallsM_comm]
  | .index a opt o k =>
      simp only [Expr.mapCallsM, bind_apply, pure_apply]
      rw [o.mapCallsM_comm, k.mapCallsM_comm]
  | .conditional a t c e =>
      simp only [Expr.mapCallsM, bind_apply, pure_apply]
      rw [t.mapCallsM_comm, c.mapCallsM_comm, e.mapCallsM_comm]
  | .function a name fn =>
      simp only [Expr.mapCallsM, bind_apply, pure_apply]
      rw [fn.mapCallsM_comm]
  | .member a opt o property =>
      simp only [Expr.mapCallsM, bind_apply, pure_apply]
      rw [o.mapCallsM_comm]
  | .unary a op e | .trailing a op e =>
      simp only [Expr.mapCallsM, bind_apply, pure_apply]
      rw [e.mapCallsM_comm]
  | .array a es =>
      simp only [Expr.mapCallsM, bind_apply, pure_apply]
      rw [Elements.mapCallsM_comm es]
  | .ident .. | .this _ | .boolean .. | .null _ | .number .. | .string .. => rfl

theorem Call.mapInnerCallsM_comm (c : Call) (s t s' t' : σ) :
    ((c.mapInnerCallsM f s).1.mapInnerCallsM g t).1 =
      ((c.mapInnerCallsM g s').1.mapInnerCallsM f t').1 := by
  match c with
  | ⟨optional, callee, arguments⟩ =>
      simp only [Call.mapInnerCallsM, bind_apply, pure_apply]
      rw [callee.mapCallsM_comm, Arguments.mapCallsM_comm arguments]

theorem Arguments.mapCallsM_comm (as : List Argument) (s t s' t' : σ) :
    (Arguments.mapCallsM g (Arguments.mapCallsM f as s).1 t).1 =
      (Arguments.mapCallsM f (Arguments.mapCallsM g as s').1 t').1 := by
  match as with
  | [] => rfl
  | ⟨spot, spread, value⟩ :: rest =>
      simp only [Arguments.mapCallsM, bind_apply, pure_apply]
      rw [value.mapCallsM_comm, Arguments.mapCallsM_comm rest]

theorem Elements.mapCallsM_comm (es : List Element) (s t s' t' : σ) :
    (Elements.mapCallsM g (Elements.mapCallsM f es s).1 t).1 =
      (Elements.mapCallsM f (Elements.mapCallsM g es s').1 t').1 := by
  match es with
  | [] => rfl
  | .single value :: rest | .rest value :: rest =>
      simp only [Elements.mapCallsM, bind_apply, pure_apply]
      rw [value.mapCallsM_comm, Elements.mapCallsM_comm rest]
  | .hole :: rest =>
      simp only [Elements.mapCallsM, bind_apply, pure_apply]
      rw [Elements.mapCallsM_comm rest]

theorem Func.mapCallsM_comm (fn : Func) (s t s' t' : σ) :
    ((fn.mapCallsM f s).1.mapCallsM g t).1 = ((fn.mapCallsM g s').1.mapCallsM f t').1 := by
  match fn with
  | ⟨spot, arrow, async, generator, parameters, returnType, body⟩ =>
      simp only [Func.mapCallsM, bind_apply, pure_apply]
      rw [Params.mapCallsM_comm parameters, body.mapCallsM_comm]

theorem Body.mapCallsM_comm (b : Body) (s t s' t' : σ) :
    ((b.mapCallsM f s).1.mapCallsM g t).1 = ((b.mapCallsM g s').1.mapCallsM f t').1 := by
  match b with
  | .block spot statements =>
      simp only [Body.mapCallsM, bind_apply, pure_apply]
      rw [Stmts.mapCallsM_comm statements]
  | .expr spot value =>
      simp only [Body.mapCallsM, bind_apply, pure_apply]
      rw [value.mapCallsM_comm]

theorem Params.mapCallsM_comm (ps : List Param) (s t s' t' : σ) :
    (Params.mapCallsM g (Params.mapCallsM f ps s).1 t).1 =
      (Params.mapCallsM f (Params.mapCallsM g ps s').1 t').1 := by
  match ps with
  | [] => rfl
  | ⟨spot, isRest, pattern, type, none⟩ :: rest =>
      simp only [Params.mapCallsM, bind_apply, pure_apply]
      rw [Params.mapCallsM_comm rest]
  | ⟨spot, isRest, pattern, type, some value⟩ :: rest =>
      simp only [Params.mapCallsM, bind_apply, pure_apply]
      rw [value.mapCallsM_comm, Params.mapCallsM_comm rest]

theorem Stmt.mapCallsM_comm (u : Stmt) (s t s' t' : σ) :
    ((u.mapCallsM f s).1.mapCallsM g t).1 = ((u.mapCallsM g s').1.mapCallsM f t').1 := by
  match u with
  | .block a body =>
      simp only [Stmt.mapCallsM, bind_apply, pure_apply]
      rw [Stmts.mapCallsM_comm body]
  | .doWhile a condition body =>
      simp only [Stmt.mapCallsM, bind_apply, pure_apply]
      rw [condition.mapCallsM_comm, body.mapCallsM_comm]
  | .expr a value =>
      simp only [Stmt.mapCallsM, bind_apply, pure_apply]
      rw [value.mapCallsM_comm]
  | .ifElse a test consequent none =>
      simp only [Stmt.mapCallsM, bind_apply, pure_apply]
      rw [test.mapCallsM_comm, consequent.mapCallsM_comm]
  | .ifElse a test consequent (some alternate) =>
      simp only [Stmt.mapCallsM, bind_apply, pure_apply]
      rw [test.mapCallsM_comm, consequent.mapCallsM_comm, alternate.mapCallsM_comm]
  | .ret a none => rfl
  | .ret a (some value) =>
      simp only [Stmt.mapCallsM, bind_apply, pure_apply]
      rw [value.mapCallsM_comm]
  | .throw a value =>
      simp only [Stmt.mapCallsM, bind_apply, pure_apply]
      rw [value.mapCallsM_comm]
  | .tryBlock a wrapped none none =>
      simp only [Stmt.mapCallsM, bind_apply, pure_apply]
      rw [wrapped.mapCallsM_comm]
  | .tryBlock a wrapped (some handler) none =>
      simp only [Stmt.mapCallsM, bind_apply, pure_apply, map_apply]
      rw [wrapped.mapCallsM_comm, handler.mapCallsM_comm]
  | .tryBlock a wrapped none (some finalizer) =>
      simp only [Stmt.mapCallsM, bind_apply, pure_apply, map_apply]
      rw [wrapped.mapCallsM_comm, finalizer.mapCallsM_comm]
  | .tryBlock a wrapped (some handler) (some finalizer) =>
      simp only [Stmt.mapCallsM, bind_apply, pure_apply, map_apply]
      rw [wrapped.mapCallsM_comm, handler.mapCallsM_comm, finalizer.mapCallsM_comm]
  | .whileDo a condition body =>
      simp only [Stmt.mapCallsM, bind_apply, pure_apply]
      rw [condition.mapCallsM_comm, body.mapCallsM_comm]
  | .funcDecl a exported name fn =>
      simp only [Stmt.mapCallsM, bind_apply, pure_apply]
      rw [fn.mapCallsM_comm]
  | .varDecl a exported kind declarators =>
      simp only [Stmt.mapCallsM, bind_apply, pure_apply]
      rw [Declarators.mapCallsM_comm declarators]
  | .breakTo .. | .continueTo .. | .empty _ => rfl

theorem Stmts.mapCallsM_comm (ts : List Stmt) (s t s' t' : σ) :
    (Stmts.mapCallsM g (Stmts.mapCallsM f ts s).1 t).1 =
      (Stmts.mapCallsM f (Stmts.mapCallsM g ts s').1 t').1 := by
  match ts with
  | [] => rfl
  | u :: rest =>
      simp only [Stmts.mapCallsM, bind_apply, pure_apply]
      rw [u.mapCallsM_comm, Stmts.mapCallsM_comm rest]

theorem Block.mapCallsM_comm (b : Block) (s t s' t' : σ) :
    ((b.mapCallsM f s).1.mapCallsM g t).1 = ((b.mapCallsM g s').1.mapCallsM f t').1 := by
  match b with
  | ⟨spot, body⟩ =>
      simp only [Block.mapCallsM, bind_apply, pure_apply]
      rw [Stmts.mapCallsM_comm body]

theorem Catch.mapCallsM_comm (c : Catch) (s t s' t' : σ) :
    ((c.mapCallsM f s).1.mapCallsM g t).1 = ((c.mapCallsM g s').1.mapCallsM f t').1 := by
  match c with
  | ⟨spot, parameter, body⟩ =>
      simp only [Catch.mapCallsM, bind_apply, pure_apply]
      rw [Stmts.mapCallsM_comm body]

theorem Declarators.mapCallsM_comm (ds : List Declarator) (s t s' t' : σ) :
    (Declarators.mapCallsM g (Declarators.mapCallsM f ds s).1 t).1 =
      (Declarators.mapCallsM f (Declarators.mapCallsM g ds s').1 t').1 := by
  match ds with
  | [] => rfl
  | ⟨pattern, type, none⟩ :: rest =>
      simp only [Declarators.mapCallsM, bind_apply, pure_apply]
      rw [Declarators.mapCallsM_comm rest]
  | ⟨pattern, type, some value⟩ :: rest =>
      simp only [Declarators.mapCallsM, bind_apply, pure_apply]
      rw [value.mapCallsM_comm, Declarators.mapCallsM_comm rest]

end

/-- Rebuilding with independent actions gives the same program in either order. -/
theorem Program.mapCallsM_comm (p : Program) (s t s' t' : σ) :
    (Program.mapCallsM g (p.mapCallsM f s).1 t).1 =
      (Program.mapCallsM f (p.mapCallsM g s').1 t').1 := by
  simp only [Program.mapCallsM, bind_apply, pure_apply]
  rw [Stmts.mapCallsM_comm h p.body s t s' t']

end exchange

/-! ### What a pass makes of a call -/

/-- A call with the body that reports the diagnostics in its region, if it is a probe. -/
def Call.settle (marker : String) (ds : List Diagnostic) (c : Call) : Call :=
  match c.probe? marker with
  | none => c
  | some f => c.withProbe (f.settle ds)

section settle

variable {marker : String} {ds : List Diagnostic}

theorem Call.settle_of_none {c : Call} (h : c.probe? marker = none) : c.settle marker ds = c := by
  unfold settle
  rw [h]

theorem Call.settle_of_some {c : Call} {f : Func} (h : c.probe? marker = some f) :
    c.settle marker ds = c.withProbe (f.settle ds) := by
  unfold settle
  rw [h]

theorem Pass.actsAs_settle {source : Source} {file : FileId}
    (hs : ∀ n, source.answer n file = ds) :
    ActsAs (Pass.resolveCall marker source file) (Call.settle marker ds) := by
  intro c s
  cases hp : c.probe? marker with
  | none => rw [Pass.resolveCall_of_none hp, Call.settle_of_none hp]
  | some f => rw [Pass.resolveCall_of_some hp, hs, Call.settle_of_some hp]

/-- A call is a probe for one marker at most. -/
theorem Call.probe?_of_ne {first second : String} (hne : first ≠ second) {c : Call} {f : Func}
    (h : c.probe? first = some f) : c.probe? second = none := by
  obtain ⟨optional, anchor, spot, value, rfl, _⟩ := Call.probe?_eq_some_iff.mp h
  have hcallee : Expr.isIdent second (.ident anchor first) = false := beq_false_of_ne hne
  simp [Call.probe?, hcallee]

theorem Call.settle_comm (first second : String) (c : Call) :
    (c.settle first ds).settle second ds = (c.settle second ds).settle first ds := by
  by_cases heq : first = second
  · rw [heq]
  · have hleft {c : Call} {f : Func} (h : c.probe? first = some f) :=
      Call.probe?_of_ne heq h
    have hright {c : Call} {f : Func} (h : c.probe? second = some f) :=
      Call.probe?_of_ne (Ne.symm heq) h
    cases hf : c.probe? first with
    | none =>
        cases hg : c.probe? second with
        | none => rw [settle_of_none hf, settle_of_none hg, settle_of_none hf]
        | some g =>
            rw [settle_of_none hf, settle_of_some hg,
              settle_of_none (hright (Call.probe?_withProbe _ hg))]
    | some f =>
        have hg : c.probe? second = none := hleft hf
        rw [settle_of_none hg, settle_of_some hf,
          settle_of_none (hleft (Call.probe?_withProbe _ hf))]

/-! ### Passes are independent -/

/-- No pass changes a body that another one has written: there is no probe in it. -/
theorem Finding.mapCallsM_body (other : String) (source : Source) (file : FileId) (loc : Loc)
    (fs : List Finding) (s : Progress) :
    ((Finding.body loc fs).mapCallsM (Pass.resolveCall other source file) s).1 =
      Finding.body loc fs := by
  have hfixes : Fixes (fun c => c.probe? other = none) (Pass.resolveCall other source file) := by
    intro c s hc
    rw [Pass.resolveCall_of_none hc]
  exact (Finding.body loc fs).mapCallsM_eq_self hfixes (Finding.calls_body other loc fs) s

theorem Func.settle_mapCallsM (other : String) (source : Source) (file : FileId) (f : Func)
    (s : Progress) :
    ((f.settle ds).mapCallsM (Pass.resolveCall other source file) s).1 =
      (f.mapCallsM (Pass.resolveCall other source file) s).1.settle ds := by
  obtain ⟨spot, arrow, async, generator, parameters, returnType, body⟩ := f
  -- The new body depends on where the old one stands, and that is never changed.
  have hfindings (b b' : Body) (hb : b.loc = b'.loc) : b.findings ds = b'.findings ds := by
    unfold Body.findings Region.ofBody
    rw [hb]
  simp only [Func.settle, Func.mapCallsM, bind_apply, pure_apply, Finding.mapCallsM_body,
    Body.loc_mapCallsM]
  rw [hfindings _ body (body.loc_mapCallsM _)]

theorem Expr.withLiteral_mapCallsM (ds : List Diagnostic) (other : String) (source : Source)
    (file : FileId) {e : Expr} {f : Func} (h : e.literal? = some f) (s : Progress) :
    (e.mapCallsM (Pass.resolveCall other source file) s).1.literal? =
        some (f.mapCallsM (Pass.resolveCall other source file) s).1 ∧
      ((e.withLiteral (f.settle ds)).mapCallsM (Pass.resolveCall other source file) s).1 =
        (e.mapCallsM (Pass.resolveCall other source file) s).1.withLiteral
          ((f.mapCallsM (Pass.resolveCall other source file) s).1.settle ds) := by
  cases e with
  | arrow a g | function a name g =>
      obtain rfl := Option.some.inj h
      refine ⟨rfl, ?_⟩
      simp only [Expr.withLiteral, Expr.mapCallsM, bind_apply, pure_apply, Func.settle_mapCallsM]
  | _ => cases h

theorem Pass.keeps_settle (other : String) (source : Source) (file : FileId) :
    Keeps (Call.settle marker ds) (Pass.resolveCall other source file) := by
  intro c s
  have hsame : ((c.mapInnerCallsM (Pass.resolveCall other source file) s).1.probe? marker).isSome =
      (c.probe? marker).isSome := c.isSome_probe?_mapInnerCallsM marker s
  cases hp : c.probe? marker with
  | none =>
      rw [hp, Option.isSome_none, Option.isSome_eq_false_iff, Option.isNone_iff_eq_none] at hsame
      rw [Call.settle_of_none hp, Call.settle_of_none hsame]
  | some f =>
      obtain ⟨optional, anchor, spot, value, rfl, hl⟩ := Call.probe?_eq_some_iff.mp hp
      obtain ⟨hinner, hvalue⟩ := Expr.withLiteral_mapCallsM ds other source file hl s
      have hp' : Call.probe? marker ⟨optional, .ident anchor marker,
          [⟨spot, false, (value.mapCallsM (Pass.resolveCall other source file) s).1⟩]⟩ =
            some (f.mapCallsM (Pass.resolveCall other source file) s).1 :=
        Call.probe?_eq_some_iff.mpr ⟨optional, anchor, spot, _, rfl, hinner⟩
      have hcall : ((⟨optional, .ident anchor marker, [⟨spot, false, value⟩]⟩ : Call).mapInnerCallsM
          (Pass.resolveCall other source file) s).1 = ⟨optional, .ident anchor marker,
            [⟨spot, false, (value.mapCallsM (Pass.resolveCall other source file) s).1⟩]⟩ := rfl
      rw [Call.settle_of_some hp, hcall, Call.settle_of_some hp']
      simp only [Call.withProbe, List.map_cons, List.map_nil]
      rw [← hvalue]
      rfl

end settle

/-- **Passes for two markers commute**: in either order they give the same program, positions and
origins included. -/
theorem Program.resolve_comm (first second : String) (diagnostics : FileId → List Diagnostic)
    (file : FileId) (p : Program) :
    ((p.resolve first (.steady diagnostics) file).program.resolve second (.steady diagnostics)
        file).program =
      ((p.resolve second (.steady diagnostics) file).program.resolve first (.steady diagnostics)
        file).program := by
  have hs : ∀ n, (Source.steady diagnostics).answer n file = diagnostics file := fun _ => rfl
  have hindependent : Independent (Pass.resolveCall first (.steady diagnostics) file)
      (Pass.resolveCall second (.steady diagnostics) file) (Call.settle first (diagnostics file))
      (Call.settle second (diagnostics file)) :=
    { acts_left := Pass.actsAs_settle hs
      acts_right := Pass.actsAs_settle hs
      keeps_left := Pass.keeps_settle second (.steady diagnostics) file
      keeps_right := Pass.keeps_settle first (.steady diagnostics) file
      comm := Call.settle_comm first second }
  exact p.mapCallsM_comm hindependent .start .start .start .start

end TypeProbe
