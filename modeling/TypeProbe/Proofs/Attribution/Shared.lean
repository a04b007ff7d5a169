import TypeProbe.Attribution
import TypeProbe.Probe
import TypeProbe.Tree.Build

/-! # Diagnostics that two probes share

The bodies of two probes may touch, and a region holds what lies at either of its ends.  So a
diagnostic can belong to two probes, but only one that covers no byte: it has length zero, and
stands where the body of one probe ends and that of the other begins
(`Program.mem_selected_both_iff`).

Offsets are compared after clamping to 32 bits (`Region.holds_ofBody_iff`); beyond the largest
offset, bodies that are apart have regions that touch. -/

namespace TypeProbe

/-! ### What the region of a body holds -/

theorem clampOffset_mono {m n : UInt64} (h : m ≤ n) :
    (clampOffset m).toNat ≤ (clampOffset n).toNat := by
  have hmn := UInt64.le_iff_toNat_le.mp h
  have hm := toNat_clampOffset m
  have hn := toNat_clampOffset n
  omega

theorem Region.stop_ofBody {b : Body} (h : b.loc.start ≤ b.loc.stop) :
    (Region.ofBody b).stop = b.loc.stop32 := by
  apply UInt32.toNat_inj.mp
  have hstop := toNat_stop_ofBounds b.loc.start32 b.loc.stop32
  have hle : b.loc.start32.toNat ≤ b.loc.stop32.toNat := clampOffset_mono h
  rw [Nat.max_eq_right hle] at hstop
  exact hstop

/-- The region of a body that does not end before it starts holds the diagnostics between the
clamped ends of the body, either end included. -/
theorem Region.holds_ofBody_iff {b : Body} (h : b.loc.start ≤ b.loc.stop) {d : Diagnostic} :
    (Region.ofBody b).holds d = true ↔
      ∃ range, d.range? = some range ∧ b.loc.start32 ≤ range.start ∧
        range.stop ≤ b.loc.stop32 := by
  have hstart : (Region.ofBody b).start = b.loc.start32 := start_ofBounds _ _
  have hstop := stop_ofBody h
  rw [holds_iff]
  simp only [contains, range, TextRange.covers, hstart, hstop, Bool.and_eq_true,
    decide_eq_true_eq]

/-! ### Two bodies -/

/-- The diagnostic is empty and stands where the body `b` ends and the body `c` begins, with both
offsets clamped to 32 bits. -/
def Diagnostic.IsEmptyBetween (d : Diagnostic) (b c : Body) : Prop :=
  d.length = some 0 ∧ d.start = some b.loc.stop32 ∧ c.loc.start32 = b.loc.stop32

section bodies

variable {b c : Body} {d : Diagnostic} (hb : b.loc.start ≤ b.loc.stop)
  (hc : c.loc.start ≤ c.loc.stop)
include hb hc

/-- An empty diagnostic between two bodies is in the regions of both. -/
theorem Diagnostic.IsEmptyBetween.holds (h : d.IsEmptyBetween b c) :
    (Region.ofBody b).holds d = true ∧ (Region.ofBody c).holds d = true := by
  obtain ⟨hlength, hstart, hjoint⟩ := h
  have hrange : d.range? = some ⟨b.loc.stop32, b.loc.stop32⟩ :=
    range?_eq_some_iff.mpr ⟨hstart, 0, hlength, rfl⟩
  have hstarts : b.loc.start32 ≤ b.loc.stop32 := UInt32.le_iff_toNat_le.mpr (clampOffset_mono hb)
  have hstops : b.loc.stop32 ≤ c.loc.stop32 := by
    rw [← hjoint]
    exact UInt32.le_iff_toNat_le.mpr (clampOffset_mono hc)
  constructor
  · exact (Region.holds_ofBody_iff hb).mpr ⟨_, hrange, hstarts, UInt32.le_refl _⟩
  · refine (Region.holds_ofBody_iff hc).mpr ⟨_, hrange, ?_, hstops⟩
    rw [hjoint]
    exact UInt32.le_refl _

/-- What is in the regions of a body and of a later one is empty and between the two. -/
theorem Region.isEmptyBetween_of_holds (h : b.loc.stop ≤ c.loc.start)
    (hdb : (Region.ofBody b).holds d = true) (hdc : (Region.ofBody c).holds d = true) :
    d.IsEmptyBetween b c := by
  obtain ⟨range, hrange, _, hstop⟩ := (holds_ofBody_iff hb).mp hdb
  obtain ⟨range', hrange', hstart, _⟩ := (holds_ofBody_iff hc).mp hdc
  obtain rfl : range = range' := Option.some.inj (hrange.symm.trans hrange')
  obtain ⟨hdstart, length, hlength, hlen⟩ := Diagnostic.range?_eq_some_iff.mp hrange
  -- The diagnostic ends before the joint and starts after it, so it has no room.
  have hjoint : b.loc.stop32.toNat ≤ c.loc.start32.toNat := clampOffset_mono h
  rw [UInt32.le_iff_toNat_le] at hstop hstart
  have hzero : length = 0 := UInt32.toNat_inj.mp (by change length.toNat = 0; omega)
  have hb' : range.start = b.loc.stop32 := UInt32.toNat_inj.mp (by omega)
  have hc' : c.loc.start32 = b.loc.stop32 := UInt32.toNat_inj.mp (by omega)
  exact ⟨hzero ▸ hlength, hb' ▸ hdstart, hc'⟩

end bodies

/-! ### The probes of a program -/

/-- **What two probes share.**  If the bodies of two probes of a program do not overlap, a
diagnostic belongs to both of them exactly if it is empty and stands where one of the bodies ends
and the other one begins.  In particular, they share no diagnostic that covers a byte. -/
theorem Program.mem_selected_both_iff (marker : String) (p : Program) (ds : List Diagnostic) :
    ∀ s ∈ p.calls, ∀ t ∈ p.calls, ∀ f g : Func,
      s.call.probe? marker = some f → t.call.probe? marker = some g →
      f.body.loc.start ≤ f.body.loc.stop → g.body.loc.start ≤ g.body.loc.stop →
      f.body.loc.stop ≤ g.body.loc.start ∨ g.body.loc.stop ≤ f.body.loc.start →
      ∀ d : Diagnostic,
        d ∈ ((Region.ofBody f.body).gather ds).selected ∧
            d ∈ ((Region.ofBody g.body).gather ds).selected ↔
          d ∈ ds ∧ (d.IsEmptyBetween f.body g.body ∨ d.IsEmptyBetween g.body f.body) := by
  intro s _ t _ f g _ _ hf hg hapart d
  have hmem : ∀ b : Body, d ∈ ((Region.ofBody b).gather ds).selected ↔
      d ∈ ds ∧ (Region.ofBody b).holds d = true := fun b => List.mem_filter
  rw [hmem, hmem]
  constructor
  · rintro ⟨⟨hd, hdf⟩, _, hdg⟩
    refine ⟨hd, ?_⟩
    cases hapart with
    | inl h => exact .inl (Region.isEmptyBetween_of_holds hf hg h hdf hdg)
    | inr h => exact .inr (Region.isEmptyBetween_of_holds hg hf h hdg hdf)
  · rintro ⟨hd, hshared⟩
    cases hshared with
    | inl h =>
        obtain ⟨hdf, hdg⟩ := h.holds hf hg
        exact ⟨⟨hd, hdf⟩, hd, hdg⟩
    | inr h =>
        obtain ⟨hdg, hdf⟩ := h.holds hg hf
        exact ⟨⟨hd, hdf⟩, hd, hdg⟩

/-- Two probes whose bodies stand at 10 to 20 and at 20 to 30. -/
def Program.touchingProbes : Program :=
  let probe (loc : Loc) : Expr :=
    Build.call loc (Build.ident loc "tsst")
      [Build.argument (Build.arrow loc [] (.block loc []))]
  Build.program [Build.exprStmt (probe ⟨10, 20⟩), Build.exprStmt (probe ⟨20, 30⟩)]

/-- The first of the two bodies ends where the second begins, and the empty diagnostic there belongs
to both probes. -/
theorem Program.selected_twice_touchingProbes :
    let ds := [.positioned 20 0 "expected"]
    ∃ s ∈ touchingProbes.calls, ∃ t ∈ touchingProbes.calls, ∃ f g : Func,
      s.call.probe? "tsst" = some f ∧ t.call.probe? "tsst" = some g ∧
        f.body.loc = ⟨10, 20⟩ ∧ g.body.loc = ⟨20, 30⟩ ∧
        ∃ d, d ∈ ((Region.ofBody f.body).gather ds).selected ∧
          d ∈ ((Region.ofBody g.body).gather ds).selected := by
  intro ds
  have hs : touchingProbes.calls[0]? = some ⟨⟨10, 20⟩, _⟩ := rfl
  have ht : touchingProbes.calls[1]? = some ⟨⟨20, 30⟩, _⟩ := rfl
  refine ⟨_, List.mem_of_getElem? hs, _, List.mem_of_getElem? ht, _, _, rfl, rfl, rfl, rfl,
    .positioned 20 0 "expected", ?_, ?_⟩
  · exact List.mem_filter.mpr ⟨List.mem_singleton_self _, by decide⟩
  · exact List.mem_filter.mpr ⟨List.mem_singleton_self _, by decide⟩

/-- A diagnostic that covers the byte at 20 belongs to one of them alone. -/
theorem Program.mem_selected_both_touchingProbes :
    let ds := [.positioned 20 0 "expected", .positioned 20 1 "unused"]
    ∃ s ∈ touchingProbes.calls, ∃ t ∈ touchingProbes.calls, ∃ f g : Func,
      s.call.probe? "tsst" = some f ∧ t.call.probe? "tsst" = some g ∧
        f.body.loc = ⟨10, 20⟩ ∧ g.body.loc = ⟨20, 30⟩ ∧
        (.positioned 20 0 "expected" ∈ ((Region.ofBody f.body).gather ds).selected ∧
          .positioned 20 0 "expected" ∈ ((Region.ofBody g.body).gather ds).selected) ∧
        ¬(.positioned 20 1 "unused" ∈ ((Region.ofBody f.body).gather ds).selected ∧
          .positioned 20 1 "unused" ∈ ((Region.ofBody g.body).gather ds).selected) := by
  intro ds
  have hs : touchingProbes.calls[0]? = some ⟨⟨10, 20⟩, _⟩ := rfl
  have ht : touchingProbes.calls[1]? = some ⟨⟨20, 30⟩, _⟩ := rfl
  have hs' := List.mem_of_getElem? hs
  have ht' := List.mem_of_getElem? ht
  refine ⟨_, hs', _, ht', _, _, rfl, rfl, rfl, rfl, ?_⟩
  have hshared := Program.mem_selected_both_iff "tsst" touchingProbes ds _ hs' _ ht' _ _ rfl rfl
    (by decide) (by decide) (.inl (by decide))
  constructor
  · exact (hshared _).mpr ⟨List.mem_cons_self, .inl ⟨rfl, rfl, rfl⟩⟩
  · intro hboth
    obtain ⟨_, hempty⟩ := (hshared _).mp hboth
    have hlength : (Diagnostic.positioned 20 1 "unused").length = some 0 :=
      hempty.elim (fun h => h.1) (fun h => h.1)
    exact absurd hlength (by decide)

end TypeProbe
