import TypeProbe.Event

/-! # Attributing diagnostics

Which of the diagnostics of a file belong to a region, in the order in which they were reported.
Each diagnostic without a usable position is logged on the way, whatever the region is. -/

namespace TypeProbe

/-- The diagnostics that belong to a region, and the log of looking for them. -/
structure Attribution where
  selected : List Diagnostic
  events : List Event

namespace Region

/-- The log entry of a diagnostic that has no usable position. -/
def skipped? (d : Diagnostic) : Option Event :=
  if d.range?.isNone then some (.skippedDiagnostic d.start d.length) else none

/-- Gathers the diagnostics of a file that belong to a region. -/
def gather (r : Region) (ds : List Diagnostic) : Attribution :=
  ⟨ds.filter r.holds, ds.filterMap skipped?⟩

theorem range?_ne_none_of_mem_selected {r : Region} {ds : List Diagnostic} {d : Diagnostic}
    (h : d ∈ (r.gather ds).selected) : d.range? ≠ none := by
  have hd := (List.mem_filter.mp h).2
  obtain ⟨range, hr, _⟩ := holds_iff.mp hd
  rw [hr]
  exact Option.some_ne_none range

end Region

end TypeProbe
