import TypeProbe.Proofs.Resolution.DocumentOrder

/-! # Probes under `new`

A constructor call `new X(a)` is the operator `new` over the call `X(a)`, and neither the listing
of probes nor a pass looks at what is around a call.  So `new marker(f)` is a probe like any other:
it is listed, the source is asked for it, and the body of `f` is replaced
(`Program.probes_constructed`). -/

namespace TypeProbe

/-- Whether a part is a call right under `new`. -/
def Occurrence.isConstructed (o : Occurrence) : Bool :=
  match o.whole, o.part with
  | .expr (.unary _ .new _), .expr (.call ..) => true
  | _, _ => false

namespace Program

/-- The probes of a program that are not right under `new`. -/
def plainProbes (marker : String) (p : Program) : List Site :=
  ((Part.program p).occurrences.filter (!·.isConstructed)).filterMap (·.site? marker)

/-- The probes of a program that are right under `new`. -/
def constructedProbes (marker : String) (p : Program) : List Site :=
  ((Part.program p).occurrences.filter (·.isConstructed)).filterMap (·.site? marker)

theorem perm_plain_constructed (marker : String) (p : Program) :
    (p.probes marker).Perm (p.plainProbes marker ++ p.constructedProbes marker) := by
  have hs : ((Part.program p).occurrences.filter (!·.isConstructed) ++
      (Part.program p).occurrences.filter (·.isConstructed)).Perm
        (Part.program p).occurrences :=
    List.perm_append_comm.trans (List.filter_append_perm ..)
  have hd : (p.documentProbes marker).Perm
      (p.plainProbes marker ++ p.constructedProbes marker) := by
    unfold documentProbes plainProbes constructedProbes
    rw [← List.filterMap_append]
    exact (hs.filterMap _).symm
  exact (p.perm_probes marker).trans hd

/-- **Probes under `new`.**  The listing has them and all others, and so nothing but the others only
if there are none.  A pass makes a request for each of them and each of the others, and every one
that it leaves has a body that the pass wrote. -/
theorem probes_constructed (marker : String) (source : Source) (file : FileId) (p : Program) :
    let done := p.resolve marker source file
    let plain := p.plainProbes marker
    let constructed := p.constructedProbes marker
    (p.probes marker).Perm (plain ++ constructed) ∧
      ((p.probes marker).Perm plain ↔ constructed = []) ∧
      done.requests = List.replicate (plain.length + constructed.length) file ∧
      ∀ o ∈ (Part.program done.program).occurrences, o.isConstructed = true →
        ∀ c, o.part.call? = some c → ∀ f, c.call.probe? marker = some f →
          ∃ k, f.settle (source.answer k file) = f := by
  intro done plain constructed
  have hperm : (p.probes marker).Perm (plain ++ constructed) := p.perm_plain_constructed marker
  refine ⟨hperm, ?_, ?_, ?_⟩
  · constructor
    · intro h
      have hl := h.length_eq.symm.trans hperm.length_eq
      rw [List.length_append] at hl
      exact List.eq_nil_of_length_eq_zero (by omega)
    · intro h
      rwa [h, List.append_nil] at hperm
  · have hr : done.requests = List.replicate (p.encounters marker).length file :=
      congrArg Progress.requests p.progress_resolve
    have hl := ((p.map_site_encounters marker).trans hperm).length_eq
    rw [List.length_map, List.length_append] at hl
    rw [hr, hl]
  · have hw : CallSite.All (fun c => ∀ f, c.probe? marker = some f →
        ∃ k, f.settle (source.answer k file) = f) done.program.calls := by
      refine p.calls_mapCallsM (Pass.establishes_of_settle ?_) .start
      intro f n
      exact ⟨n, f.settle_settle _⟩
    intro o ho _ c hc
    have hm : c ∈ done.program.calls :=
      done.program.perm_calls.mem_iff.mpr (List.mem_filterMap.mpr ⟨o, ho, hc⟩)
    exact hw c hm

/-- The program `new tsst(() => {});`. -/
def constructedProbe : Program :=
  let loc : Loc := ⟨0, 18⟩
  let literal := Build.arrow ⟨9, 17⟩ [] (.block (.ofLoc ⟨15, 17⟩) [])
  let construction :=
    Build.construct loc (Build.ident ⟨4, 8⟩ "tsst") [Build.argument literal]
  Build.program [Build.exprStmt construction]

theorem probes_constructedProbe :
    let source : Source := .steady fun _ => []
    let done := constructedProbe.resolve "tsst" source ⟨0⟩
    constructedProbe.constructedProbes "tsst" = [⟨⟨0, 18⟩, .ofBounds 15 17, 0⟩] ∧
      constructedProbe.probes "tsst" = [⟨⟨0, 18⟩, .ofBounds 15 17, 0⟩] ∧
      done.requests = [⟨0⟩] ∧
      constructedProbe.text = .ok "new tsst(()=>\x7b\x7d);" ∧
      done.program.text = .ok "new tsst(()=>\x7breturn[];\x7d);" := by
  refine ⟨?_, by decide, rfl, rfl, rfl⟩
  unfold constructedProbes
  simp only [constructedProbe, Build.program, Build.exprStmt, Build.construct, Build.call,
    Build.ident, Build.argument, Build.arrow, Build.func, Part.occurrences_eq (.program _),
    Part.occurrences_eq (.stmt _), Part.occurrences_eq (.expr _), Part.occurrences_eq (.argument _),
    Part.occurrences_eq (.func _), Part.occurrences_eq (.body _), Part.parts, Stmt.parts,
    Expr.parts, Body.parts, List.map_cons, List.map_nil, List.flatMap_cons, List.flatMap_nil,
    List.nil_append, List.append_nil, List.cons_append]
  rfl

end Program

end TypeProbe
