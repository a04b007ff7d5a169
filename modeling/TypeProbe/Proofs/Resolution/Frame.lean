import TypeProbe.Proofs.Resolution.Layouts
import TypeProbe.Proofs.Resolution.ReportText

/-! # The text around the bodies of probes

A pass changes no byte outside of the bodies of outer probes (`Program.text_resolve`): programs
with the same outline have their text around these bodies in common, since they have a common layout
and the text around a slot does not depend on what is put into it.  The bodies that a pass writes
always have a text (`Finding.error_print_body`), so a program that has one keeps it. -/

namespace TypeProbe

open Output

/-! ### The text of the bodies that a pass writes -/

namespace Finding

/-- The bodies that a pass writes have a text. -/
theorem error_print_body (loc : Loc) (fs : List Finding) : (body loc fs).print.error = none := by
  have hstatements := (writes_statements loc fs).error
  exact error_append.mpr ⟨error_append.mpr ⟨rfl, hstatements⟩, rfl⟩

theorem written?_printLast_body (loc : Loc) (fs : List Finding) (arrow : Bool) :
    ((body loc fs).printLast arrow).written? ≠ none := by
  have hb := error_print_body loc fs
  have he : ((body loc fs).printLast arrow).error = none := by
    cases arrow with
    | true => exact error_append.mpr ⟨error_append.mpr ⟨rfl, hb⟩, rfl⟩
    | false => exact error_append.mpr ⟨hb, rfl⟩
  simp [written?, he]

end Finding

/-! ### The text of a program -/

/-- **A pass changes no byte outside of the bodies of probes.**  What is around the bodies of outer
probes is a text with one gap for each of them that depends on the outline of the program alone:
whatever the bodies are, the text of the program is that text with theirs in the gaps.  After a
pass over a program that has a text, it is the same text around the bodies that the pass wrote. -/
theorem Program.text_resolve (marker : String) (source : Source) (file : FileId) (p : Program)
    (text : String) (h : p.text = .ok text) :
    ∃ frame : Frame,
      frame.gaps = (Visit.outerBodies marker (p.visits .rebuilding marker)).length ∧
      (∀ q : Program, q.outline marker = p.outline marker → ∀ t, q.text = .ok t →
        t = String.ofList (frame.fill
          ((Visit.outerBodies marker (q.visits .rebuilding marker)).map Body.text))) ∧
      text = String.ofList (frame.fill
        ((Visit.outerBodies marker (p.visits .rebuilding marker)).map Body.text)) ∧
      (p.resolve marker source file).program.text = .ok (String.ofList (frame.fill
        ((Encounter.outerBodies source file 0 (p.encounters marker)).map Body.text))) := by
  obtain ⟨l, hl⟩ := Program.exists_layout marker (p.outline marker)
  have hframe : ∀ q : Program, q.outline marker = p.outline marker → ∀ t, q.text = .ok t →
      t = String.ofList ((l.frame .clear).fill
        ((Visit.outerBodies marker (q.visits .rebuilding marker)).map Body.text)) := by
    intro q hq t ht
    obtain ⟨fs, hfs, rfl⟩ := Output.text_eq_ok_iff.mp ht
    rw [(hl q hq).written] at hfs
    rw [Fragment.join, Layout.writeAll_fill _ hfs]
  let r := (p.resolve marker source file).program
  have hr : r.outline marker = p.outline marker :=
    congrArg (Program.mk p.toSpot)
      (Stmts.outline_mapCallsM (Pass.outline_resolveCall source file) ..)
  have hb : Visit.outerBodies marker (r.visits .rebuilding marker) =
      Encounter.outerBodies source file 0 (p.encounters marker) :=
    p.outerBodies_resolve marker source file
  have htext : ∃ t, r.text = .ok t := by
    obtain ⟨fs, hfs, _⟩ := Output.text_eq_ok_iff.mp h
    rw [(hl p rfl).written] at hfs
    obtain ⟨gs, hg⟩ := Layout.exists_fill hfs (hl r hr).length (by
      intro b hbody arrow
      rw [hb] at hbody
      obtain ⟨⟨e, k⟩, _, he⟩ := List.mem_filterMap.mp hbody
      obtain ⟨_, rfl⟩ : e.inside = false ∧ e.body source file k = b := by simpa using he
      exact Finding.written?_printLast_body _ _ _)
    rw [← (hl r hr).written] at hg
    exact ⟨_, Output.text_eq_ok_iff.mpr ⟨gs, hg, rfl⟩⟩
  obtain ⟨t, ht⟩ := htext
  refine ⟨l.frame .clear, ?_, hframe, hframe p rfl text h, ?_⟩
  · rw [Layout.gaps_frame, (hl p rfl).length]
  · rw [← hb, ← hframe r hr t ht]
    exact ht

/-- The program `tsst((x = tsst(() => y)) => (x, x)); new tsst(function () { return; });`. -/
def Program.threeProbes : Program :=
  let loc : Loc := ⟨0, 70⟩
  let probe (value : Expr) : Expr := Build.call loc (Build.ident loc "tsst") [Build.argument value]
  let inner := probe (Build.arrow loc [] (Build.exprBody (Build.ident loc "y")))
  let parameter : Param := { Build.param loc "x" with defaultValue := some inner }
  let both := Build.binary loc .comma (Build.ident loc "x") (Build.ident loc "x")
  let outer := probe (Build.arrow loc [parameter] (Build.exprBody both))
  let constructed := probe (Build.function loc none [] (.block loc [Build.ret loc none]))
  Build.program
    [Build.exprStmt outer, Build.exprStmt (.unary (.ofLoc loc) .new constructed)]

theorem Program.text_resolve_threeProbes :
    let source : Source := .steady fun _ => []
    let met := threeProbes.encounters "tsst"
    threeProbes.text = .ok
        "tsst((x=tsst(()=>y))=>(x,x));new tsst(function()\x7breturn;\x7d);" ∧
      ∃ frame : Frame, frame.gaps = 3 ∧
        (threeProbes.resolve "tsst" source ⟨0⟩).program.text = .ok (String.ofList (frame.fill
          ((Encounter.outerBodies source ⟨0⟩ 0 met).map Body.text))) := by
  intro source met
  obtain ⟨frame, hgaps, _, _, htext⟩ :=
    Program.text_resolve "tsst" source ⟨0⟩ threeProbes _ rfl
  exact ⟨rfl, frame, hgaps, htext⟩

end TypeProbe
