import TypeProbe.Proofs.Print.Order
import TypeProbe.Proofs.Resolution.Sites

/-! # Probes in document order

Document order takes every call before the calls inside it, and the parts of a node in the order in
which they are printed.

The listing of probes takes the parts of a node as its fields are declared.  For one node this is
another order: the condition of a `do` loop is declared before its body, and printed after it.  So
the listing has every probe of a program once, and it is in document order unless there is a `do`
loop with probes both in its condition and in its body (`Program.probes_documentOrder`).  A pass
takes the parts as they are printed. -/

namespace TypeProbe

/-! ### Document order -/

def Part.call? : Part → Option CallSite
  | .expr (.call a c) => some ⟨a.inner, c⟩
  | _ => none

namespace Part

/-- The calls of a part in document order. -/
def callsInOrder (p : Part) : List CallSite :=
  p.call?.toList ++ p.occurrences.filterMap (·.part.call?)

/-- The calls of a part, each after the calls inside it, and otherwise in document order. -/
def callsInnerFirst (p : Part) : List CallSite :=
  (p.parts.attach.flatMap fun q => q.val.callsInnerFirst) ++ p.call?.toList
termination_by sizeOf p
decreasing_by exact sizeOf_lt_of_mem_parts q.property

theorem callsInOrder_eq (p : Part) :
    p.callsInOrder = p.call?.toList ++ p.parts.flatMap callsInOrder := by
  have hq : ∀ q : Part, (Occurrence.mk p q :: q.occurrences).filterMap (·.part.call?) =
      q.callsInOrder := by
    intro q
    unfold callsInOrder
    cases hc : q.call? <;> simp [hc]
  unfold callsInOrder
  rw [occurrences_eq, List.filterMap_flatMap]
  simp only [hq]
  rfl

theorem callsInnerFirst_eq (p : Part) :
    p.callsInnerFirst = p.parts.flatMap callsInnerFirst ++ p.call?.toList := by
  rw [callsInnerFirst]
  exact congrArg (· ++ p.call?.toList) (flatMap_attach p.parts callsInnerFirst)

end Part

/-- The probe that a part is. -/
def Occurrence.site? (marker : String) (o : Occurrence) : Option Site :=
  o.part.call?.bind (·.site? marker)

/-- The probes of a program in document order. -/
def Program.documentProbes (marker : String) (p : Program) : List Site :=
  (Part.program p).occurrences.filterMap (·.site? marker)

/-! ### What the tours make of the parts of a node -/

/-- The parts of a part in the order in which a tour takes them. -/
def Part.partsOn (t : Tour) : Part → List Part
  | .stmt (.doWhile _ condition repeated) => t.doWhile [.expr condition] [.stmt repeated]
  | p => p.parts

/-- A call, if there is one, and the calls inside it. -/
def Tour.aroundAny (t : Tour) : Option CallSite → List CallSite → List CallSite
  | none, inner => inner
  | some call, inner => t.around call inner

section tours

variable (t : Tour) (marker : String)

/-- The calls of a part on a tour. -/
def Part.visits : Part → List Visit
  | .program p => p.visits t marker
  | .expr e => e.visits t marker false
  | .argument a => Arguments.visits t marker false [a]
  | .element e => Elements.visits t marker [e]
  | .func f => f.visits t marker false
  | .body b => b.visits t marker
  | .param p => Params.visits t marker [p]
  | .stmt s => s.visits t marker
  | .block b => b.visits t marker
  | .handler c => c.visits t marker
  | .declarator d => Declarators.visits t marker [d]

/-- The calls of a part in the order in which a tour meets them. -/
def Part.met (p : Part) : List CallSite := (p.visits t marker).map Visit.toCallSite

variable {t marker}

theorem Func.map_visits (probed : Bool) (f : Func) :
    (f.visits t marker probed).map Visit.toCallSite = (Part.func f).met t marker := by
  obtain ⟨spot, arrow, async, generator, parameters, returnType, body⟩ := f
  cases probed with
  | false => rfl
  | true =>
      simp only [Func.visits, Part.met, Part.visits, List.map_append, if_true, map_within]
      rfl

theorem Expr.map_visits (probed : Bool) (e : Expr) :
    (e.visits t marker probed).map Visit.toCallSite = (Part.expr e).met t marker := by
  cases e with
  | arrow a f | function a name f =>
      exact (f.map_visits probed).trans (f.map_visits false).symm
  | _ => rfl

theorem Arguments.map_visits (probed : Bool) (as : List Argument) :
    (Arguments.visits t marker probed as).map Visit.toCallSite =
      (as.map .argument).flatMap (Part.met t marker) := by
  induction as with
  | nil => rfl
  | cons first rest ih =>
      obtain ⟨spot, spread, value⟩ := first
      have hf : (Part.argument ⟨spot, spread, value⟩).met t marker =
          (value.visits t marker probed).map Visit.toCallSite := by
        rw [value.map_visits probed, Part.met, Part.visits, Arguments.visits, Arguments.visits,
          List.append_nil]
        rfl
      rw [Arguments.visits, List.map_append, ih, List.map_cons, List.flatMap_cons, hf]

/-- The calls of a list of parts of one kind, if they are those of its parts one after another. -/
theorem map_visits_of_cons {α : Type} {make : α → Part} {visits : List α → List Visit}
    (hn : visits [] = []) (hc : ∀ a l, visits (a :: l) = (make a).visits t marker ++ visits l)
    (l : List α) : (visits l).map Visit.toCallSite = (l.map make).flatMap (Part.met t marker) := by
  induction l with
  | nil => rw [hn]; rfl
  | cons a rest ih =>
      rw [hc, List.map_append, ih]
      rfl

theorem Elements.map_visits (es : List Element) :
    (Elements.visits t marker es).map Visit.toCallSite =
      (es.map .element).flatMap (Part.met t marker) := by
  refine map_visits_of_cons rfl ?_ es
  intro first rest
  cases first <;> simp [Elements.visits, Part.visits]

theorem Params.map_visits (ps : List Param) :
    (Params.visits t marker ps).map Visit.toCallSite =
      (ps.map .param).flatMap (Part.met t marker) := by
  refine map_visits_of_cons rfl ?_ ps
  rintro ⟨spot, isRest, pattern, type, value⟩ rest
  cases value <;> simp [Params.visits, Part.visits]

theorem Declarators.map_visits (ds : List Declarator) :
    (Declarators.visits t marker ds).map Visit.toCallSite =
      (ds.map .declarator).flatMap (Part.met t marker) := by
  refine map_visits_of_cons rfl ?_ ds
  rintro ⟨pattern, type, value⟩ rest
  cases value <;> simp [Declarators.visits, Part.visits]

theorem Stmts.map_visits (ss : List Stmt) :
    (Stmts.visits t marker ss).map Visit.toCallSite =
      (ss.map .stmt).flatMap (Part.met t marker) :=
  map_visits_of_cons rfl (fun _ _ => rfl) ss

theorem Expr.met_eq (e : Expr) :
    (Part.expr e).met t marker =
      t.aroundAny (Part.expr e).call? (e.parts.flatMap (Part.met t marker)) := by
  cases e with
  | call a c =>
      obtain ⟨optional, callee, arguments⟩ := c
      have hi : ((Call.mk optional callee arguments).visits t marker).map Visit.toCallSite =
          (Expr.parts (.call a ⟨optional, callee, arguments⟩)).flatMap (Part.met t marker) := by
        rw [Call.visits, List.map_append, Arguments.map_visits]
        rfl
      calc (Part.expr (.call a ⟨optional, callee, arguments⟩)).met t marker
          = (t.around ⟨⟨a.inner, ⟨optional, callee, arguments⟩⟩, false⟩
              ((Call.mk optional callee arguments).visits t marker)).map Visit.toCallSite := rfl
        _ = t.aroundAny (some ⟨a.inner, ⟨optional, callee, arguments⟩⟩)
              ((Expr.parts (.call a ⟨optional, callee, arguments⟩)).flatMap
                (Part.met t marker)) := by
            rw [Tour.map_around, hi]
            rfl
  | array a es => exact Elements.map_visits es
  | arrow | function | member | unary | trailing => exact (List.flatMap_singleton ..).symm
  | binary | index | conditional =>
      simp [Part.met, Part.visits, Expr.visits, Expr.parts, Part.call?, Tour.aroundAny]
  | ident | this | boolean | null | number | string => rfl

theorem Stmt.met_eq (s : Stmt) :
    (Part.stmt s).met t marker =
      ((Part.stmt s).partsOn t).flatMap (Part.met t marker) := by
  cases s with
  | block a statements => exact Stmts.map_visits statements
  | varDecl a exported kind declarators => exact Declarators.map_visits declarators
  | doWhile a condition body =>
      cases t <;>
        simp [Part.met, Part.visits, Stmt.visits, Part.partsOn, Tour.doWhile]
  | ifElse a test consequent alternate =>
      cases alternate <;>
        simp [Part.met, Part.visits, Stmt.visits, Part.partsOn, Part.parts, Stmt.parts]
  | ret a value =>
      cases value <;>
        simp [Part.met, Part.visits, Stmt.visits, Part.partsOn, Part.parts, Stmt.parts]
  | tryBlock a wrapped caught finalizer =>
      cases caught <;> cases finalizer <;>
        simp [Part.met, Part.visits, Stmt.visits, Part.partsOn, Part.parts, Stmt.parts]
  | expr | throw | funcDecl => exact (List.flatMap_singleton ..).symm
  | whileDo a condition body =>
      simp [Part.met, Part.visits, Stmt.visits, Part.partsOn, Part.parts, Stmt.parts]
  | breakTo | continueTo | empty => rfl

/-- A tour meets the calls of a part around those of its own parts. -/
theorem Part.met_eq (p : Part) :
    p.met t marker = t.aroundAny p.call? ((p.partsOn t).flatMap (Part.met t marker)) := by
  cases p with
  | program p => exact Stmts.map_visits p.body
  | expr e => exact e.met_eq
  | argument a =>
      obtain ⟨spot, spread, value⟩ := a
      simp [met, visits, Arguments.visits, partsOn, parts, call?, Tour.aroundAny]
  | element e =>
      cases e <;>
        simp [met, visits, Elements.visits, partsOn, parts, Element.parts, call?, Tour.aroundAny]
  | func f =>
      obtain ⟨spot, arrow, async, generator, parameters, returnType, statements⟩ := f
      have hp : (Params.visits t marker parameters).map Visit.toCallSite =
          (parameters.map Part.param).flatMap (met t marker) := Params.map_visits parameters
      simp only [met, visits, Func.visits, List.map_append, hp]
      simp [met, visits, partsOn, parts, call?, Tour.aroundAny]
  | body b =>
      cases b with
      | block spot statements => exact Stmts.map_visits statements
      | expr spot value => exact (List.flatMap_singleton ..).symm
  | param p =>
      obtain ⟨spot, isRest, pattern, type, value⟩ := p
      cases value <;> simp [met, visits, Params.visits, partsOn, parts, call?, Tour.aroundAny]
  | stmt s => exact s.met_eq
  | block b =>
      obtain ⟨spot, statements⟩ := b
      exact Stmts.map_visits statements
  | handler c =>
      obtain ⟨spot, parameter, statements⟩ := c
      exact Stmts.map_visits statements
  | declarator d =>
      obtain ⟨pattern, type, value⟩ := d
      cases value <;>
        simp [met, visits, Declarators.visits, partsOn, parts, call?, Tour.aroundAny]

end tours

/-! ### The two orders -/

/-- A pass meets the calls of a part in document order, but for a call after those inside it. -/
theorem Part.met_rebuilding (marker : String) (p : Part) :
    p.met .rebuilding marker = p.callsInnerFirst := by
  induction p using Part.induction with
  | step p ih =>
      have hp : p.partsOn .rebuilding = p.parts := by
        unfold partsOn
        split <;> rfl
      rw [met_eq, callsInnerFirst_eq, hp, List.flatMap_congr ih]
      cases p.call? with
      | none => exact (List.append_nil _).symm
      | some call => rfl

theorem Part.met_listing (marker : String) (p : Part) :
    p.met .listing marker =
      p.call?.toList ++ (p.partsOn .listing).flatMap (Part.met .listing marker) := by
  rw [met_eq]
  cases p.call? with
  | none => rfl
  | some call => rfl

/-- The listing has the calls of a part, each once. -/
theorem Part.perm_met_listing (marker : String) (p : Part) :
    (p.met .listing marker).Perm p.callsInOrder := by
  induction p using Part.induction with
  | step p ih =>
      have hp : (p.partsOn .listing).Perm p.parts := by
        unfold partsOn
        split
        · exact .swap ..
        · exact .refl _
      rw [met_listing, callsInOrder_eq]
      exact ((hp.flatMap_right _).trans (.flatMap_left _ ih)).append_left _

/-! ### Loops that are listed in another order -/

section loops

variable (marker : String)

/-- The probes of a part in the order in which they are listed. -/
def Part.sitesListed (p : Part) : List Site := CallSite.sites marker (p.met .listing marker)

/-- The probes of a part in document order. -/
def Part.sitesInOrder (p : Part) : List Site := CallSite.sites marker p.callsInOrder

/-- A `do` loop with probes both in its condition and in its body. -/
def Part.IsSplitLoop : Part → Prop
  | .stmt (.doWhile _ condition repeated) =>
      CallSite.sites marker condition.calls ≠ [] ∧ CallSite.sites marker repeated.calls ≠ []
  | _ => False

/-- There is no such loop in a part. -/
def Part.Straight (p : Part) : Prop :=
  ¬p.IsSplitLoop marker ∧ ∀ o ∈ p.occurrences, ¬o.part.IsSplitLoop marker

variable {marker}

theorem Part.straight_iff {p : Part} :
    p.Straight marker ↔ ¬p.IsSplitLoop marker ∧ ∀ q ∈ p.parts, q.Straight marker := by
  unfold Straight
  rw [occurrences_eq]
  simp only [List.mem_flatMap, List.mem_cons]
  constructor
  · rintro ⟨hp, ho⟩
    refine ⟨hp, ?_⟩
    intro q hq
    exact ⟨ho ⟨p, q⟩ ⟨q, hq, .inl rfl⟩, fun o h => ho o ⟨q, hq, .inr h⟩⟩
  · rintro ⟨hp, hq⟩
    refine ⟨hp, ?_⟩
    rintro o ⟨q, hm, rfl | ho⟩
    · exact (hq q hm).1
    · exact (hq q hm).2 o ho

theorem CallSite.sites_flatMap (l : List Part) (f : Part → List CallSite) :
    sites marker (l.flatMap f) = l.flatMap fun p => sites marker (f p) := List.filterMap_flatMap

theorem Part.sitesInOrder_eq (p : Part) :
    p.sitesInOrder marker =
      CallSite.sites marker p.call?.toList ++ p.parts.flatMap (sitesInOrder marker) := by
  unfold sitesInOrder
  rw [callsInOrder_eq, CallSite.sites_append, CallSite.sites_flatMap]

theorem Part.perm_sitesListed (p : Part) :
    (p.sitesListed marker).Perm (p.sitesInOrder marker) := (p.perm_met_listing marker).filterMap _

/-- The calls of a `do` loop are listed in the order of declaration. -/
theorem Part.sitesListed_doWhile (a : Anchor) (condition : Expr) (repeated : Stmt) :
    (Part.stmt (.doWhile a condition repeated)).sitesListed marker =
      (Part.expr condition).sitesListed marker ++ (Part.stmt repeated).sitesListed marker := by
  unfold sitesListed
  rw [met_listing]
  simp [partsOn, Tour.doWhile, call?, CallSite.sites_append]

theorem Part.sitesInOrder_doWhile (a : Anchor) (condition : Expr) (repeated : Stmt) :
    (Part.stmt (.doWhile a condition repeated)).sitesInOrder marker =
      (Part.stmt repeated).sitesInOrder marker ++ (Part.expr condition).sitesInOrder marker := by
  rw [sitesInOrder_eq]
  simp [parts, Stmt.parts, call?, CallSite.sites]

theorem Part.isSplitLoop_doWhile {a : Anchor} {condition : Expr} {repeated : Stmt} :
    (Part.stmt (.doWhile a condition repeated)).IsSplitLoop marker ↔
      (Part.expr condition).sitesListed marker ≠ [] ∧
        (Part.stmt repeated).sitesListed marker ≠ [] := by
  have hc : Tour.Same .listing ((Part.expr condition).met .listing marker) condition.calls :=
    condition.same_visits false
  have hr : Tour.Same .listing ((Part.stmt repeated).met .listing marker) repeated.calls :=
    repeated.same_visits
  unfold Tour.Same at hc hr
  unfold sitesListed
  rw [hc, hr]
  rfl

/-- Unless it is a split loop, the parts of a part are listed in the order in which they are
printed. -/
theorem Part.sitesListed_eq {p : Part} (h : ¬p.IsSplitLoop marker) :
    p.sitesListed marker =
      CallSite.sites marker p.call?.toList ++ p.parts.flatMap (sitesListed marker) := by
  by_cases hd : ∃ a condition repeated, p = .stmt (.doWhile a condition repeated)
  · obtain ⟨a, condition, repeated, rfl⟩ := hd
    rw [isSplitLoop_doWhile] at h
    rw [sitesListed_doWhile]
    have hp : (Part.stmt (.doWhile a condition repeated)).parts =
        [.stmt repeated, .expr condition] := rfl
    rw [hp, List.flatMap_cons, List.flatMap_singleton]
    -- One of the two lists is empty, so that their order does not matter.
    rcases not_and_or.mp h with hc | hr
    · rw [not_not.mp hc, List.append_nil]
      rfl
    · rw [not_not.mp hr, List.append_nil]
      rfl
  · have hp : p.partsOn .listing = p.parts := by
      unfold partsOn
      split
      · exact absurd ⟨_, _, _, rfl⟩ hd
      · rfl
    unfold sitesListed
    rw [met_listing, hp, CallSite.sites_append, CallSite.sites_flatMap]

theorem Part.sitesListed_of_straight {p : Part} (h : p.Straight marker) :
    p.sitesListed marker = p.sitesInOrder marker := by
  induction p using Part.induction with
  | step p ih =>
      obtain ⟨hp, hq⟩ := straight_iff.mp h
      rw [sitesListed_eq hp, sitesInOrder_eq, List.flatMap_congr fun q hm => ih q hm (hq q hm)]

/-- Lists made of pieces of the same lengths are equal only if the pieces are. -/
theorem eq_of_flatMap_eq {α β : Type} {f g : α → List β} {l : List α}
    (hl : ∀ a ∈ l, (f a).length = (g a).length) (h : l.flatMap f = l.flatMap g) :
    ∀ a ∈ l, f a = g a := by
  induction l with
  | nil => nofun
  | cons b rest ih =>
      rw [List.flatMap_cons, List.flatMap_cons] at h
      obtain ⟨hb, hr⟩ := List.append_inj h (hl b List.mem_cons_self)
      intro a ha
      rcases List.mem_cons.mp ha with rfl | ha
      · exact hb
      · exact ih (fun c hc => hl c (List.mem_cons_of_mem b hc)) hr a ha

/-- A split loop is not listed in document order, if no probe is listed twice. -/
theorem Part.not_isSplitLoop_of_eq {p : Part} (hn : (p.sitesListed marker).Nodup)
    (h : p.sitesListed marker = p.sitesInOrder marker) : ¬p.IsSplitLoop marker := by
  intro hs
  cases p with
  | stmt s =>
      cases s with
      | doWhile a condition repeated =>
          obtain ⟨hc, hr⟩ := isSplitLoop_doWhile.mp hs
          have hperm : ((Part.stmt repeated).sitesListed marker).Perm
              ((Part.stmt repeated).sitesInOrder marker) := perm_sitesListed _
          rw [sitesListed_doWhile] at hn h
          rw [sitesInOrder_doWhile] at h
          -- The first probe of the condition would have to be the first one of the body.
          obtain ⟨first, others, hf⟩ := List.exists_cons_of_ne_nil hc
          obtain ⟨first', others', hf'⟩ := List.exists_cons_of_ne_nil fun hnil =>
            hr (hperm.trans (.of_eq hnil)).eq_nil
          have hsame : first = first' := by
            rw [hf, hf'] at h
            exact (List.cons.inj h).1
          have hbody : first ∈ (Part.stmt repeated).sitesListed marker := by
            rw [hperm.mem_iff, hf', hsame]
            exact List.mem_cons_self
          have hcondition : first ∈ (Part.expr condition).sitesListed marker := by
            rw [hf]
            exact List.mem_cons_self
          exact (List.nodup_append.mp hn).2.2 first hcondition first hbody rfl
      | _ => exact hs
  | _ => exact hs

/-- If no probe is listed twice, a part that is listed in document order has no split loop. -/
theorem Part.straight_of_eq {p : Part} (hn : (p.sitesListed marker).Nodup)
    (h : p.sitesListed marker = p.sitesInOrder marker) : p.Straight marker := by
  induction p using Part.induction with
  | step p ih =>
      have hp := not_isSplitLoop_of_eq hn h
      rw [sitesListed_eq hp] at hn h
      rw [sitesInOrder_eq] at h
      have hq := eq_of_flatMap_eq (fun q _ => q.perm_sitesListed.length_eq)
        (List.append_cancel_left h)
      refine straight_iff.mpr ⟨hp, ?_⟩
      intro q hm
      have hs : (q.sitesListed marker).Sublist (p.parts.flatMap (sitesListed marker)) := by
        rw [List.flatMap_def]
        exact List.sublist_flatten_of_mem (List.mem_map_of_mem hm)
      exact ih q hm (hn.sublist (hs.trans (List.sublist_append_right ..))) (hq q hm)

end loops

/-! ### Programs -/

section program

variable (marker : String) (p : Program)

/-- The listing has the calls of a program, each once. -/
theorem Program.perm_calls :
    p.calls.Perm ((Part.program p).occurrences.filterMap (·.part.call?)) := by
  -- A tour is one of probes, but which calls it meets does not depend on the marker.
  have hl : (Part.program p).met .listing "" = p.calls := p.same_visits .listing ""
  rw [← hl]
  exact (Part.program p).perm_met_listing ""

theorem Program.sitesListed_eq_probes :
    (Part.program p).sitesListed marker = p.probes marker :=
  congrArg (List.filterMap (CallSite.site? marker)) (p.same_visits .listing marker)

theorem Program.sitesInOrder_eq_documentProbes :
    (Part.program p).sitesInOrder marker = p.documentProbes marker := List.filterMap_filterMap

/-- The listing has the probes of a program, each once. -/
theorem Program.perm_probes : (p.probes marker).Perm (p.documentProbes marker) := by
  rw [← p.sitesListed_eq_probes, ← p.sitesInOrder_eq_documentProbes]
  exact (Part.program p).perm_sitesListed

end program

/-- **The order in which probes are listed.**  The listing has every probe of a program once, and
it is in document order if there is no `do` loop with probes both in its condition and in its body.
If there is one, and no probe is listed twice, the listing is in another order.  A pass meets the
probes in document order, but for a probe after those inside it. -/
theorem Program.probes_documentOrder (marker : String) (p : Program) :
    (p.probes marker).Perm (p.documentProbes marker) ∧
      ((∀ o ∈ (Part.program p).occurrences, ¬o.part.IsSplitLoop marker) →
        p.probes marker = p.documentProbes marker) ∧
      ((p.probes marker).Nodup → p.probes marker = p.documentProbes marker →
        ∀ o ∈ (Part.program p).occurrences, ¬o.part.IsSplitLoop marker) ∧
      (p.encounters marker).map Encounter.site =
        (Part.program p).callsInnerFirst.filterMap (·.site? marker) ∧
      ∀ (q : Part) (o : Output), q.Prints o → o.error = none → Woven q.parts o := by
  have hs : (Part.program p).Straight marker ↔
      ∀ o ∈ (Part.program p).occurrences, ¬o.part.IsSplitLoop marker := and_iff_right id
  refine ⟨p.perm_probes marker, ?_, ?_, ?_, fun q o => Part.Prints.woven⟩
  · rw [← hs, ← p.sitesListed_eq_probes, ← p.sitesInOrder_eq_documentProbes]
    exact Part.sitesListed_of_straight
  · rw [← hs, ← p.sitesListed_eq_probes, ← p.sitesInOrder_eq_documentProbes]
    exact Part.straight_of_eq
  · rw [p.sites_encounters]
    exact congrArg (List.filterMap _) ((Part.program p).met_rebuilding marker)

/-- The program `do tsst(() => a); while (tsst(x => b));`. -/
def Program.probedLoop : Program :=
  let loc : Loc := ⟨0, 40⟩
  let probe (loc : Loc) (f : Expr) : Expr :=
    Build.call loc (Build.ident loc "tsst") [Build.argument f]
  let first := probe ⟨3, 16⟩ (Build.arrow ⟨8, 15⟩ [] (Build.exprBody (Build.ident ⟨14, 15⟩ "a")))
  let second := probe ⟨25, 37⟩
    (Build.arrow ⟨30, 36⟩ [Build.param ⟨30, 31⟩ "x"] (Build.exprBody (Build.ident ⟨35, 36⟩ "b")))
  Build.program [.doWhile (.ofLoc loc) second (Build.exprStmt first)]

theorem Program.probes_probedLoop :
    let first : Site := ⟨⟨3, 16⟩, .ofBounds 14 15, 0⟩
    let second : Site := ⟨⟨25, 37⟩, .ofBounds 35 36, 1⟩
    probedLoop.probes "tsst" = [second, first] ∧
      probedLoop.documentProbes "tsst" = [first, second] ∧
      (probedLoop.encounters "tsst").map Encounter.site = [first, second] ∧
      probedLoop.text = .ok "do\x7btsst(()=>a);\x7dwhile(tsst((x)=>b));" := by
  refine ⟨by decide, ?_, by decide, rfl⟩
  rw [← sitesInOrder_eq_documentProbes]
  unfold Part.sitesInOrder
  simp only [probedLoop, Build.program, Build.exprStmt, Build.call, Build.ident, Build.argument,
    Build.arrow, Build.func, Build.param, Build.exprBody, Part.callsInOrder_eq (.program _),
    Part.callsInOrder_eq (.stmt _), Part.callsInOrder_eq (.expr _),
    Part.callsInOrder_eq (.argument _), Part.callsInOrder_eq (.func _),
    Part.callsInOrder_eq (.body _), Part.callsInOrder_eq (.param _), Part.parts, Stmt.parts,
    Expr.parts, Body.parts, Part.call?, Option.toList, List.map_cons, List.map_nil,
    List.flatMap_cons, List.flatMap_nil, List.nil_append, List.append_nil, List.cons_append]
  rfl

end TypeProbe
