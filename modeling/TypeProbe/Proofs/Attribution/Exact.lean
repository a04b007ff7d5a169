import Mathlib.Data.List.Forall2
import TypeProbe.Finding
import TypeProbe.Proofs.Attribution.Shared

/-! # Exact attribution

Bodies stand at 64-bit offsets and diagnostics at 32-bit ones.  On the way from one to the other
the ends of a body are clamped and put in order, the end of a diagnostic is an addition that may
not fit, and findings are made only of diagnostics whose position is known.

None of this shows in the result: what belongs to a body that starts at a 32-bit offset is what lies
within its bounds in exact integers (`Region.gather_ofBody_exact`). -/

namespace TypeProbe

namespace Diagnostic

/-- The offsets between which the diagnostic stands, if its start and its length are known. -/
def extent? (d : Diagnostic) : Option (Nat × Nat) :=
  d.start.bind fun start => d.length.map fun length => (start.toNat, start.toNat + length.toNat)

/-- Whether both ends of the diagnostic are known, and no larger than the largest offset. -/
def isPlaced (d : Diagnostic) : Bool := d.extent?.any fun (_, stop) => stop ≤ 0xffffffff

/-- Whether both ends of the diagnostic are known, no larger than the largest offset, and within the
bounds of `l`. -/
def liesIn (l : Loc) (d : Diagnostic) : Bool :=
  d.extent?.any fun (start, stop) =>
    stop ≤ 0xffffffff && l.start.toNat ≤ start && stop ≤ l.stop.toNat

variable {d : Diagnostic}

/-- The range of a diagnostic has its exact offsets. -/
theorem extent?_of_range? {r : TextRange} (h : d.range? = some r) :
    d.extent? = some (r.start.toNat, r.stop.toNat) := by
  obtain ⟨hstart, length, hlength, hstop⟩ := range?_eq_some_iff.mp h
  simp [extent?, hstart, hlength, hstop]

/-- A diagnostic whose ends are offsets has a range. -/
theorem exists_range?_of_extent? {start stop : Nat} (h : d.extent? = some (start, stop))
    (hmax : stop ≤ 0xffffffff) : ∃ r, d.range? = some r := by
  obtain ⟨first, hfirst, hmap⟩ := Option.bind_eq_some_iff.mp h
  obtain ⟨length, hlength, hextent⟩ := Option.map_eq_some_iff.mp hmap
  obtain ⟨rfl, rfl⟩ := Prod.mk.inj hextent
  refine ⟨⟨first, first + length⟩, ?_⟩
  simp [range?, hfirst, hlength, TextRange.ofLength?, hmax]

theorem isPlaced_eq (d : Diagnostic) : d.isPlaced = d.range?.isSome := by
  rw [Bool.eq_iff_iff, isPlaced, Option.any_eq_true, Option.isSome_iff_exists]
  constructor
  · rintro ⟨⟨start, stop⟩, hextent, hmax⟩
    exact exists_range?_of_extent? hextent (of_decide_eq_true hmax)
  · rintro ⟨r, hr⟩
    exact ⟨_, extent?_of_range? hr, decide_eq_true (Nat.le_of_lt_succ r.stop.toNat_lt)⟩

theorem liesIn_iff {l : Loc} : d.liesIn l = true ↔
    ∃ r, d.range? = some r ∧ l.start.toNat ≤ r.start.toNat ∧ r.stop.toNat ≤ l.stop.toNat := by
  simp only [liesIn, Option.any_eq_true, Bool.and_eq_true, decide_eq_true_eq]
  constructor
  · rintro ⟨⟨start, stop⟩, hextent, ⟨hmax, hstart⟩, hstop⟩
    obtain ⟨r, hr⟩ := exists_range?_of_extent? hextent hmax
    obtain ⟨rfl, rfl⟩ := Prod.mk.inj (Option.some.inj (hextent.symm.trans (extent?_of_range? hr)))
    exact ⟨r, hr, hstart, hstop⟩
  · rintro ⟨r, hr, hstart, hstop⟩
    exact ⟨_, extent?_of_range? hr, ⟨Nat.le_of_lt_succ r.stop.toNat_lt, hstart⟩, hstop⟩

end Diagnostic

namespace Region

/-- Clamping does not change what a body holds that starts at an offset of 32 bits. -/
theorem holds_ofBody_eq {b : Body} (h : b.loc.start ≤ b.loc.stop)
    (hmax : b.loc.start.toNat ≤ 0xffffffff) (d : Diagnostic) :
    (ofBody b).holds d = d.liesIn b.loc := by
  have hstart : b.loc.start32.toNat = min b.loc.start.toNat 0xffffffff := toNat_clampOffset _
  have hstop : b.loc.stop32.toNat = min b.loc.stop.toNat 0xffffffff := toNat_clampOffset _
  rw [Bool.eq_iff_iff, holds_ofBody_iff h, Diagnostic.liesIn_iff]
  refine exists_congr fun r => and_congr_right fun _ => ?_
  -- no range ends beyond the largest offset, so that a stop that is clamped holds it as well
  have hlt := r.stop.toNat_lt
  rw [UInt32.le_iff_toNat_le, UInt32.le_iff_toNat_le]
  omega

/-- Each diagnostic without a usable position is logged, and no other. -/
theorem events_gather (r : Region) (ds : List Diagnostic) :
    (r.gather ds).events =
      (ds.filter fun d => !d.isPlaced).map fun d => .skippedDiagnostic d.start d.length := by
  show ds.filterMap skipped? = _
  induction ds with
  | nil => rfl
  | cons d rest ih =>
      cases hr : d.range? with
      | none => simp [skipped?, Diagnostic.isPlaced_eq, hr, ih]
      | some range => simp [skipped?, Diagnostic.isPlaced_eq, hr, ih]

end Region

namespace Finding

/-- What a finding takes from its diagnostic: the head of the message, and the exact offsets. -/
def IsOf (f : Finding) (d : Diagnostic) : Prop :=
  f.message = d.message.head ∧ d.extent? = some (f.range.start.toNat, f.range.stop.toNat)

theorem isOf_of_finding? {f : Finding} {d : Diagnostic} (h : d.finding? = some f) : f.IsOf d := by
  obtain ⟨r, hr, rfl⟩ := Option.map_eq_some_iff.mp h
  exact ⟨rfl, Diagnostic.extent?_of_range? hr⟩

/-- Every diagnostic with a range comes to one finding. -/
theorem forall₂_ofDiagnostics {ds : List Diagnostic} (h : ∀ d ∈ ds, d.range? ≠ none) :
    List.Forall₂ (fun f d => d.finding? = some f) (ofDiagnostics ds) ds := by
  induction ds with
  | nil => exact .nil
  | cons d rest ih =>
      obtain ⟨r, hr⟩ := Option.ne_none_iff_exists'.mp (h d List.mem_cons_self)
      have hrest := ih fun e he => h e (List.mem_cons_of_mem d he)
      have hfinding : d.finding? = some ⟨d.message.head, r⟩ := by simp [Diagnostic.finding?, hr]
      unfold ofDiagnostics
      rw [List.filterMap_cons_some hfinding]
      exact .cons hfinding hrest

end Finding

namespace Region

variable (r : Region) (ds : List Diagnostic)

theorem forall₂_findings :
    List.Forall₂ (fun f d => d.finding? = some f) (Finding.ofDiagnostics (r.gather ds).selected)
      (r.gather ds).selected :=
  Finding.forall₂_ofDiagnostics fun _ => range?_ne_none_of_mem_selected

/-- No diagnostic of a region is lost on the way to the findings, and none is doubled. -/
theorem map_findings {α : Type} (g : Finding → α) (g' : Diagnostic → α)
    (h : ∀ f d, d.finding? = some f → g f = g' d) :
    (Finding.ofDiagnostics (r.gather ds).selected).map g = (r.gather ds).selected.map g' := by
  rw [← List.forall₂_eq_eq_eq, List.forall₂_map_left_iff, List.forall₂_map_right_iff]
  exact (r.forall₂_findings ds).imp h

end Region

/-- **Which diagnostics a body is given.**  Those of a body that does not end before it starts, and
starts at an offset of 32 bits, are the ones that lie within its bounds in exact integers, in the
order of the list.  Whatever the region is, each of them comes to one finding, and each diagnostic
of the list that has no usable position is logged once, in order. -/
theorem Region.gather_ofBody_exact (b : Body) (h : b.loc.start ≤ b.loc.stop)
    (hmax : b.loc.start.toNat ≤ 0xffffffff) (ds : List Diagnostic) :
    ((ofBody b).gather ds).selected = ds.filter (·.liesIn b.loc) ∧
      ∀ r : Region,
        (r.gather ds).events =
            (ds.filter fun d => !d.isPlaced).map (fun d => .skippedDiagnostic d.start d.length) ∧
          (∀ event ∈ (r.gather ds).events,
            event.message = "skipping diagnostic without a usable position") ∧
          List.Forall₂ Finding.IsOf (Finding.ofDiagnostics (r.gather ds).selected)
            (r.gather ds).selected := by
  refine ⟨?_, fun r => ⟨r.events_gather ds, ?_, ?_⟩⟩
  · exact List.filter_congr fun d _ => holds_ofBody_eq h hmax d
  · rw [r.events_gather ds]
    intro event hevent
    obtain ⟨d, _, rfl⟩ := List.mem_map.mp hevent
    rfl
  · exact (r.forall₂_findings ds).imp fun _ _ => Finding.isOf_of_finding?

/-- A body that ends beyond the largest offset. -/
def Body.long : Body := .block (.ofLoc ⟨10, 0x100000005⟩) []

theorem Region.gather_ofBody_exact_long :
    let ds : List Diagnostic := [.positioned 0xffffffff 0 "last", .positioned 9 2 "before",
      .unpositioned "nowhere", .positioned 0xfffffff0 0x20 "beyond", .positioned 10 3 "first"]
    Body.long.loc.start ≤ Body.long.loc.stop ∧ Body.long.loc.start.toNat ≤ 0xffffffff ∧
      ((ofBody Body.long).gather ds).selected =
        [.positioned 0xffffffff 0 "last", .positioned 10 3 "first"] ∧
      ((ofBody Body.long).gather ds).events =
        [.skippedDiagnostic none none, .skippedDiagnostic (some 0xfffffff0) (some 0x20)] := by
  intro ds
  have hle : Body.long.loc.start ≤ Body.long.loc.stop := by decide
  have hmax : Body.long.loc.start.toNat ≤ 0xffffffff := by decide
  obtain ⟨hselected, hlogged⟩ := gather_ofBody_exact Body.long hle hmax ds
  exact ⟨hle, hmax, hselected.trans rfl, (hlogged _).1.trans rfl⟩

end TypeProbe
