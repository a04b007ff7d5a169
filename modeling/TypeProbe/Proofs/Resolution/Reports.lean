import TypeProbe.Proofs.Attribution.Exact
import TypeProbe.Proofs.Evaluation.Thrown
import TypeProbe.Proofs.Resolution.Settled

/-! # What resolved probes report

The evaluator accepts every body that a pass writes: a body that reports no finding comes to
`ok`, any other one suppresses stack traces and fails with the findings in their order
(`Finding.evaluate_body_nil`, `Finding.evaluate_body_cons`).  With the settled bodies of
`Proofs.Resolution.Settled`, every probe that a pass leaves anywhere in a program reports the
diagnostics of its own region, and nothing else (`Program.evaluate_resolve`). -/

namespace TypeProbe

/-! ### Evaluating the bodies that a pass writes -/

namespace Finding

/-- The errors that the expressions for findings create. -/
theorem creates_errors (captures : Bool) (fs : List Finding) :
    List.Forall₂ (Expr.Creates captures) (fs.map error)
      (fs.map fun f => ⟨f.message, some f.range, captures⟩) := by
  rw [List.forall₂_map_left_iff, List.forall₂_map_right_iff, List.forall₂_same]
  exact fun f _ => .saying

theorem acceptTraceWrite_disableTraces (loc : Loc) :
    (Build.assign loc (Build.member loc (Build.ident loc errorName) traceLimitName)
      (Build.number loc .zero)).acceptTraceWrite = .ok () := by
  have hzero : Binary64.zero.isZero = true := by decide
  exact Stmt.isTraceWrite_expr_iff.mp (.intro (a := .ofLoc loc) hzero)

/-- Zero is the index of the first error.  Its exponent is too large to compute with. -/
theorem toNat?_zero : Binary64.zero.toNat? = some 0 := by
  have hs : Binary64.zero.significand = 0 := by decide
  have hf : Binary64.zero.isFinite = true := by decide
  have hn : Binary64.zero.isNegative = false := by decide
  simp [Binary64.toNat?, Binary64.isIntegral, Binary64.floorMagnitude, hs, hf, hn]

/-- Throwing the first of a list of errors reports them in the order of the list. -/
theorem thrown_throwFirst (r : Reporting) (loc : Loc) (f : Finding) (fs : List Finding) :
    (Build.index loc (Build.array loc ((f :: fs).map error)) (Build.number loc .zero)).thrown r =
      .ok ((f :: fs).map fun f => ⟨f.message, some f.range, r.captures⟩) := by
  refine (Expr.thrown_index (creates_errors r.captures (f :: fs))).trans ?_
  rw [toNat?_zero]
  rfl

theorem evaluate_body_nil (loc : Loc) (r : Reporting) : (body loc []).evaluate r = (.ok .ok, r) :=
  rfl

theorem evaluate_body_cons (loc : Loc) (f : Finding) (fs : List Finding) (r : Reporting) :
    (body loc (f :: fs)).evaluate r =
      (.ok (.fail ((f :: fs).map fun f => ⟨f.message, some f.range, false⟩)), r.suppress) := by
  have hw := acceptTraceWrite_disableTraces loc
  have ht := thrown_throwFirst r.suppress loc f fs
  simp only [body, statements, Body.evaluate, disableTraces, throwFirst, Build.exprStmt,
    Build.throw, Stmts.evaluate, hw, ht]
  rfl

end Finding

/-! ### The diagnostics of a region -/

/-- The error that a failing probe reports for a diagnostic, without a stack trace. -/
def Diagnostic.reported (d : Diagnostic) : RuntimeError := ⟨d.message.head, d.range?, false⟩

/-- A finding of a diagnostic is reported as the diagnostic is. -/
theorem Finding.reported_of_finding? {f : Finding} {d : Diagnostic} (h : d.finding? = some f) :
    (⟨f.message, some f.range, false⟩ : RuntimeError) = d.reported := by
  obtain ⟨range, hr, rfl⟩ := Option.map_eq_some_iff.mp h
  rw [Diagnostic.reported, hr]

theorem Func.evaluate_settle (ds : List Diagnostic) (f : Func) (r : Reporting) :
    (f.settle ds).evaluate r =
      match ((Region.ofBody f.body).gather ds).selected with
      | [] => (.ok .ok, r)
      | selected => (.ok (.fail (selected.map Diagnostic.reported)), r.suppress) := by
  have hm := (Region.ofBody f.body).map_findings ds
    (fun f => (⟨f.message, some f.range, false⟩ : RuntimeError)) Diagnostic.reported
    fun _ _ => Finding.reported_of_finding?
  have he : (f.settle ds).evaluate r =
      (Finding.body f.body.loc (Finding.ofDiagnostics
        ((Region.ofBody f.body).gather ds).selected)).evaluate r := rfl
  rw [he]
  cases hsel : ((Region.ofBody f.body).gather ds).selected with
  | nil => exact Finding.evaluate_body_nil f.body.loc r
  | cons d rest =>
      rw [hsel] at hm
      cases hfs : Finding.ofDiagnostics (d :: rest) with
      | nil => rw [hfs] at hm; cases hm
      | cons finding findings =>
          rw [hfs] at hm
          rw [Finding.evaluate_body_cons, hm]

/-! ### The probes of a resolved program -/

/-- **What a resolved program reports.**  If the source answers `ds` to every request for the
file, then every probe left anywhere in the program evaluates: to `ok`, with reporting as it
was, if its region holds none of `ds`, and otherwise to a failure that lists exactly the
diagnostics its region holds, with reporting suppressed. -/
theorem Program.evaluate_resolve {marker : String} {source : Source} {file : FileId}
    {ds : List Diagnostic} (hs : ∀ n, source.answer n file = ds) (p : Program) {site : CallSite}
    {f : Func} (hsite : site ∈ (p.resolve marker source file).program.calls)
    (hf : site.call.probe? marker = some f) (r : Reporting) :
    let selected := ((Region.ofBody f.body).gather ds).selected
    (∀ d ∈ selected, d.range? ≠ none) ∧
      (selected = [] → f.evaluate r = (.ok .ok, r)) ∧
      (selected ≠ [] →
        f.evaluate r = (.ok (.fail (selected.map Diagnostic.reported)), r.suppress)) := by
  have hsettled : f.settle ds = f := p.settled_resolve hs site hsite f hf
  have he := f.evaluate_settle ds r
  rw [hsettled] at he
  refine ⟨fun d => Region.range?_ne_none_of_mem_selected, ?_, ?_⟩
  · intro hsel
    rw [he, hsel]
  · intro hsel
    rw [he]
    cases hc : ((Region.ofBody f.body).gather ds).selected with
    | nil => exact absurd hc hsel
    | cons d rest => rfl

/-- The program `tsst((x = tsst(() => {})) => {})`, where the body of the inner probe
stands at 20 to 30 and that of the outer one at 40 to 60. -/
def Program.nestedProbes : Program :=
  let probe (loc : Loc) (parameters : List Param) : Expr :=
    Build.call loc (Build.ident loc "tsst")
      [Build.argument (Build.arrow loc parameters (.block loc []))]
  let inner := probe ⟨20, 30⟩ []
  let parameter : Param := { Build.param ⟨10, 30⟩ "x" with defaultValue := some inner }
  Build.program [Build.exprStmt (probe ⟨40, 60⟩ [parameter])]

theorem Program.evaluate_resolve_nestedProbes :
    let ds := [.unpositioned "nowhere", .positioned 41 9 "outer", .positioned 20 10 "inner"]
    let resolved := (nestedProbes.resolve "tsst" (.steady fun _ => ds) ⟨0⟩).program
    ∃ site f, site ∈ resolved.calls ∧ site.call.probe? "tsst" = some f ∧
      f.evaluate .fresh =
        (.ok (.fail [⟨"inner", some ⟨20, 30⟩, false⟩]), Reporting.fresh.suppress) := by
  intro ds resolved
  have hsite : resolved.calls[1]? = some ⟨⟨20, 30⟩, _⟩ := rfl
  refine ⟨_, _, List.mem_of_getElem? hsite, rfl, ?_⟩
  have hs : ∀ n, (Source.steady fun _ => ds).answer n ⟨0⟩ = ds := fun _ => rfl
  exact (Program.evaluate_resolve hs nestedProbes (List.mem_of_getElem? hsite) rfl .fresh).2.2
    (List.cons_ne_nil _ _)

end TypeProbe
