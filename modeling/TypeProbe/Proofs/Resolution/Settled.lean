import TypeProbe.Proofs.Tree.Rebuilding
import TypeProbe.Resolution

/-! # Settled probes

A probe is **settled** when its body is the one that reports the diagnostics in its own region
(`Call.Settled`).  A pass with a source that always gives the same answer

* settles every probe that is left in the program (`Program.settled_resolve`), and
* leaves settled probes as they are,

so that a second pass changes nothing (`Program.resolve_resolve`).  Both rest on two facts about
the bodies that a pass writes: they stand where the old body stood, so that the region stays the
same, and no call in them is a probe (`Finding.calls_body`), whatever the marker is. -/

namespace TypeProbe

/-! ### The function of a probe -/

theorem Expr.calls_of_literal? {e : Expr} {f : Func} (h : e.literal? = some f) :
    e.calls = f.calls := by
  cases e with
  | arrow | function =>
      obtain rfl := Option.some.inj h
      rfl
  | _ => cases h

theorem Expr.withLiteral_of_literal? {e : Expr} {f : Func} (h : e.literal? = some f) :
    e.withLiteral f = e := by
  cases e with
  | arrow | function =>
      obtain rfl := Option.some.inj h
      rfl
  | _ => cases h

/-- What a probe looks like. -/
theorem Call.probe?_eq_some_iff {marker : String} {c : Call} {f : Func} :
    c.probe? marker = some f ↔
      ∃ optional anchor spot value, c = ⟨optional, .ident anchor marker, [⟨spot, false, value⟩]⟩ ∧
        value.literal? = some f := by
  constructor
  · intro h
    obtain ⟨optional, callee, arguments⟩ := c
    unfold Call.probe? at h
    split at h
    · next hi =>
        obtain ⟨value, hv, hl⟩ := Option.bind_eq_some_iff.mp h
        obtain ⟨anchor, rfl : callee = _⟩ := Expr.isIdent_iff.mp hi
        obtain ⟨spot, rfl : arguments = _⟩ := Call.soleArgument?_eq_some_iff.mp hv
        exact ⟨optional, anchor, spot, value, rfl, hl⟩
    · cases h
  · rintro ⟨optional, anchor, spot, value, rfl, hl⟩
    simp [Call.probe?, Expr.isIdent, Call.soleArgument?, hl]

theorem Call.innerCalls_of_probe? {marker : String} {c : Call} {f : Func}
    (h : c.probe? marker = some f) : c.innerCalls = f.calls := by
  obtain ⟨optional, anchor, spot, value, rfl, hl⟩ := Call.probe?_eq_some_iff.mp h
  simp [Call.innerCalls, Arguments.calls, Expr.calls, Expr.calls_of_literal? hl]

theorem Call.withProbe_of_probe? {marker : String} {c : Call} {f : Func}
    (h : c.probe? marker = some f) : c.withProbe f = c := by
  obtain ⟨optional, anchor, spot, value, rfl, hl⟩ := Call.probe?_eq_some_iff.mp h
  simp [Call.withProbe, Expr.withLiteral_of_literal? hl]

/-! ### The calls of the bodies that a pass writes -/

namespace Finding

/-- The calls of errors construct them; none is a probe, even when the marker is the name of the
error constructor. -/
theorem calls_errors (marker : String) (fs : List Finding) :
    CallSite.All (fun c => c.probe? marker = none)
      (Elements.calls ((fs.map error).map .single)) := by
  induction fs with
  | nil => exact CallSite.all_nil
  | cons f rest ih =>
      have hc : ∀ loc callee message, Call.probe? marker
          ⟨false, callee, [Build.argument (Build.string loc message)]⟩ = none := by
        intro loc callee message
        simp [Call.probe?, Call.soleArgument?, Build.argument, Build.string, Expr.literal?]
      simp only [List.map_cons, Elements.calls, CallSite.all_append]
      refine ⟨?_, ih⟩
      simp only [error, Build.call, Expr.calls, CallSite.all_cons]
      exact ⟨hc .., CallSite.all_nil⟩

theorem calls_body (marker : String) (loc : Loc) (fs : List Finding) :
    CallSite.All (fun c => c.probe? marker = none) (body loc fs).calls := by
  cases fs with
  | nil => exact CallSite.all_nil
  | cons f rest =>
      have h := calls_errors marker (f :: rest)
      simp only [body, statements, Body.calls, Stmts.calls, CallSite.all_append]
      refine ⟨CallSite.all_nil, ?_, CallSite.all_nil⟩
      simp only [throwFirst, Build.throw, Build.index, Build.array, Stmt.calls, Expr.calls,
        CallSite.all_append]
      exact ⟨h, CallSite.all_nil⟩

end Finding

/-! ### What a pass does to one probe -/

/-- What a body has to report, of the diagnostics of its file. -/
def Body.findings (ds : List Diagnostic) (b : Body) : List Finding :=
  Finding.ofDiagnostics ((Region.ofBody b).gather ds).selected

/-- A function with the body that reports the diagnostics in its region. -/
def Func.settle (ds : List Diagnostic) (f : Func) : Func :=
  { f with body := Finding.body f.body.loc (f.body.findings ds) }

/-- If the call is a probe, its body is the one that reports the diagnostics in its region. -/
def Call.Settled (marker : String) (ds : List Diagnostic) (c : Call) : Prop :=
  ∀ f, c.probe? marker = some f → f.settle ds = f

namespace Func

variable (ds : List Diagnostic) (f : Func)

theorem settle_settle : (f.settle ds).settle ds = f.settle ds := rfl

theorem calls_eq : f.calls = Params.calls f.parameters ++ f.body.calls := by
  obtain ⟨spot, arrow, async, generator, parameters, returnType, body⟩ := f
  rfl

end Func

section pass

variable {marker : String} {source : Source} {file : FileId}

theorem Pass.resolveCall_of_none {c : Call} (h : c.probe? marker = none) (s : Progress) :
    Pass.resolveCall marker source file c s = (c, s) := by
  unfold Pass.resolveCall
  rw [h]
  rfl

theorem Pass.resolveCall_of_some {c : Call} {f : Func} (h : c.probe? marker = some f)
    (s : Progress) :
    (Pass.resolveCall marker source file c s).1 =
      c.withProbe (f.settle (source.answer s.requests.length file)) := by
  unfold Pass.resolveCall
  rw [h]
  rfl

/-- What holds of every function with a body that a pass can write, holds of the functions of the
probes that the pass leaves. -/
theorem Pass.establishes_of_settle {Q : Func → Prop}
    (h : ∀ (f : Func) n, Q (f.settle (source.answer n file))) :
    Establishes (fun c => ∀ f, c.probe? marker = some f → Q f)
      (Pass.resolveCall marker source file) := by
  intro c s hc
  cases hp : c.probe? marker with
  | none =>
      rw [Pass.resolveCall_of_none hp]
      refine ⟨?_, hc⟩
      intro f hf
      rw [hp] at hf
      cases hf
  | some f =>
      let g := f.settle (source.answer s.requests.length file)
      have hp' : (c.withProbe g).probe? marker = some g := Call.probe?_withProbe g hp
      rw [Pass.resolveCall_of_some hp]
      constructor
      · intro f' hf'
        obtain rfl := Option.some.inj (hp'.symm.trans hf')
        exact h f s.requests.length
      · -- The parameters are those of before, and the new body has no probe at all.
        rw [Call.innerCalls_of_probe? hp, Func.calls_eq, CallSite.all_append] at hc
        rw [Call.innerCalls_of_probe? hp', Func.calls_eq, CallSite.all_append]
        refine ⟨hc.1, ?_⟩
        intro site hsite f' hf'
        have hn := Finding.calls_body marker f.body.loc _ site hsite
        rw [hn] at hf'
        cases hf'

variable {ds : List Diagnostic} (hs : ∀ n, source.answer n file = ds)
include hs

theorem Pass.establishes_settled :
    Establishes (Call.Settled marker ds) (Pass.resolveCall marker source file) := by
  have hq : ∀ f : Func, ∀ n, (f.settle (source.answer n file)).settle ds =
      f.settle (source.answer n file) := by
    intro f n
    rw [hs]
    exact f.settle_settle ds
  exact Pass.establishes_of_settle hq

theorem Pass.fixes_settled :
    Fixes (Call.Settled marker ds) (Pass.resolveCall marker source file) := by
  intro c s hc
  cases hp : c.probe? marker with
  | none => rw [Pass.resolveCall_of_none hp]
  | some f => rw [Pass.resolveCall_of_some hp, hs, hc f hp, Call.withProbe_of_probe? hp]

/-- After a pass, every call that is still a probe is settled. -/
theorem Program.settled_resolve (p : Program) :
    CallSite.All (Call.Settled marker ds) (p.resolve marker source file).program.calls :=
  p.calls_mapCallsM (Pass.establishes_settled hs) .start

end pass

/-- **A second pass changes nothing**: no syntax, no position and no origin. -/
theorem Program.resolve_resolve (marker : String) (diagnostics : FileId → List Diagnostic)
    (file : FileId) (p : Program) :
    ((p.resolve marker (.steady diagnostics) file).program.resolve marker (.steady diagnostics)
      file).program = (p.resolve marker (.steady diagnostics) file).program := by
  have hs : ∀ n, (Source.steady diagnostics).answer n file = diagnostics file := fun _ => rfl
  exact p.mapCallsM_mapCallsM (Pass.fixes_settled hs) (Pass.establishes_settled hs) .start .start

end TypeProbe
