import TypeProbe.Proofs.Resolution.Requests

/-! # The probes that are left after a pass

After a pass, a program has those probes that were outside the bodies of all others, and no new
ones (`Program.probes_resolve`).

* The outer probes of a program are the probes of its outline (`Program.outerSites_visits`), and a
  pass keeps the outline.
* The bodies that a pass writes hold no probe, so in a program that comes out of a pass no probe is
  inside the body of another one (`Program.apart_visits`). -/

namespace TypeProbe

/-! ### The probes of an outline -/

def CallSite.sites (marker : String) (l : List CallSite) : List Site :=
  l.filterMap (·.site? marker)

/-- The probes of a tour that are outside the bodies of all others. -/
def Visit.outerSites (marker : String) (l : List Visit) : List Site :=
  (l.filter (!·.inside)).filterMap (·.site? marker)

section outline

variable {marker : String}

theorem CallSite.sites_append (l m : List CallSite) :
    sites marker (l ++ m) = sites marker l ++ sites marker m := List.filterMap_append

theorem Visit.outerSites_append (l m : List Visit) :
    outerSites marker (l ++ m) = outerSites marker l ++ outerSites marker m := by
  unfold outerSites
  rw [List.filter_append, List.filterMap_append]

theorem Visit.outerSites_map_within (l : List Visit) : outerSites marker (l.map within) = [] := by
  unfold outerSites
  have hf : (l.map within).filter (!·.inside) = [] := by
    rw [List.filter_eq_nil_iff]
    intro v hv
    obtain ⟨w, _, rfl⟩ := List.mem_map.mp hv
    exact Bool.false_ne_true
  rw [hf]
  rfl

theorem Expr.literal?_outline (probed : Bool) (e : Expr) :
    (e.outline marker probed).literal? = e.literal?.map (Func.outline marker probed) := by
  cases e <;> rfl

theorem Params.length_outline (ps : List Param) :
    (Params.outline marker ps).length = ps.length := by
  induction ps with
  | nil => rfl
  | cons first rest ih =>
      obtain ⟨spot, isRest, pattern, type, value⟩ := first
      cases value with
      | none => exact congrArg (· + 1) ih
      | some value => exact congrArg (· + 1) ih

theorem Func.parameters_outline (probed : Bool) (f : Func) :
    (f.outline marker probed).parameters = Params.outline marker f.parameters := by
  obtain ⟨spot, arrow, async, generator, parameters, returnType, body⟩ := f
  rfl

theorem Func.bodyLoc_outline (probed : Bool) (f : Func) :
    (f.outline marker probed).body.loc = f.body.loc := by
  obtain ⟨spot, arrow, async, generator, parameters, returnType, body⟩ := f
  cases probed with
  | true => rfl
  | false => cases body <;> rfl

theorem Call.probe?_outline (c : Call) :
    (c.outline marker).probe? marker = (c.probe? marker).map (Func.outline marker true) := by
  obtain ⟨optional, callee, arguments⟩ := c
  have hi : (callee.outline marker false).isIdent marker = callee.isIdent marker := by
    cases callee <;> rfl
  have hs : ∀ probed, (Call.mk optional (callee.outline marker false)
      (Arguments.outline marker probed arguments)).soleArgument? =
        (Call.soleArgument? ⟨optional, callee, arguments⟩).map (Expr.outline marker probed) := by
    intro probed
    cases arguments with
    | nil => rfl
    | cons first rest =>
        obtain ⟨spot, spread, value⟩ := first
        cases rest with
        | nil => cases spread <;> rfl
        | cons second rest =>
            obtain ⟨_, _, _⟩ := second
            rfl
  cases hp : Call.probe? marker ⟨optional, callee, arguments⟩ with
  | some f =>
      obtain ⟨_, anchor, spot, value, hc, hl⟩ := Call.probe?_eq_some_iff.mp hp
      obtain ⟨rfl, rfl, rfl⟩ := Call.mk.inj hc
      exact Call.probe?_eq_some_iff.mpr
        ⟨optional, anchor, spot, value.outline marker true, by
          rw [Call.outline, hp]; rfl, by rw [Expr.literal?_outline, hl]; rfl⟩
  | none =>
      rw [Call.outline, hp]
      unfold Call.probe? at hp ⊢
      dsimp only at hp ⊢
      rw [hi]
      split at hp
      · rw [if_pos ‹_›]
        have hn := Option.bind_eq_none_iff.mp hp
        rw [hs]
        cases hv : Call.soleArgument? ⟨optional, callee, arguments⟩ with
        | none => rfl
        | some value =>
            rw [Option.map_some, Option.bind_some, Expr.literal?_outline, hn value hv]
            rfl
      · rw [if_neg ‹_›]
        rfl

/-- In the outline, a call is the same probe as before, or as before none. -/
theorem CallSite.site?_outline (loc : Loc) (c : Call) :
    CallSite.site? marker ⟨loc, c.outline marker⟩ = CallSite.site? marker ⟨loc, c⟩ := by
  simp only [CallSite.site?, Call.probe?_outline, Option.map_map]
  congr 1
  funext f
  have hr : Region.ofBody (f.outline marker true).body = Region.ofBody f.body := by
    unfold Region.ofBody
    rw [Func.bodyLoc_outline]
  simp only [Function.comp_apply, hr, Func.parameters_outline, Params.length_outline]

mutual

theorem Expr.outerSites_visits (probed : Bool) (e : Expr) :
    Visit.outerSites marker (e.visits .listing marker probed) =
      CallSite.sites marker (e.outline marker probed).calls := by
  match e with
  | .arrow a f | .function a name f => exact f.outerSites_visits probed
  | .binary a op l r =>
      simp only [Expr.visits, Expr.outline, Expr.calls, Visit.outerSites_append,
        CallSite.sites_append]
      rw [l.outerSites_visits false, r.outerSites_visits false]
  | .call a c =>
      have ho : Visit.outerSites marker [⟨⟨a.inner, c⟩, false⟩] =
          CallSite.sites marker [⟨a.inner, c.outline marker⟩] := by
        have hs : CallSite.site? marker ⟨a.inner, c.outline marker⟩ = _ :=
          CallSite.site?_outline a.inner c
        simp [Visit.outerSites, CallSite.sites, List.filterMap_cons, hs]
      have hc := c.outerSites_visits
      simp only [Expr.visits, Tour.around, Expr.outline, Expr.calls]
      rw [← List.singleton_append, Visit.outerSites_append, ho, hc, ← CallSite.sites_append]
      rfl
  | .index a optional o k =>
      simp only [Expr.visits, Expr.outline, Expr.calls, Visit.outerSites_append,
        CallSite.sites_append]
      rw [o.outerSites_visits false, k.outerSites_visits false]
  | .conditional a t c e =>
      simp only [Expr.visits, Expr.outline, Expr.calls, Visit.outerSites_append,
        CallSite.sites_append]
      rw [t.outerSites_visits false, c.outerSites_visits false, e.outerSites_visits false]
  | .member a optional o property => exact o.outerSites_visits false
  | .unary a op e | .trailing a op e => exact e.outerSites_visits false
  | .array a es => exact Elements.outerSites_visits es
  | .ident .. | .this _ | .boolean .. | .null _ | .number .. | .string .. => rfl

theorem Call.outerSites_visits (c : Call) :
    Visit.outerSites marker (c.visits .listing marker) =
      CallSite.sites marker (c.outline marker).innerCalls := by
  match c with
  | ⟨optional, callee, arguments⟩ =>
      simp only [Call.visits, Call.outline, Call.innerCalls, Visit.outerSites_append,
        CallSite.sites_append]
      rw [callee.outerSites_visits false, Arguments.outerSites_visits _ arguments]

theorem Arguments.outerSites_visits (probed : Bool) (as : List Argument) :
    Visit.outerSites marker (Arguments.visits .listing marker probed as) =
      CallSite.sites marker (Arguments.calls (Arguments.outline marker probed as)) := by
  match as with
  | [] => rfl
  | ⟨spot, spread, value⟩ :: rest =>
      simp only [Arguments.visits, Arguments.outline, Arguments.calls, Visit.outerSites_append,
        CallSite.sites_append]
      rw [value.outerSites_visits probed, Arguments.outerSites_visits probed rest]

theorem Elements.outerSites_visits (es : List Element) :
    Visit.outerSites marker (Elements.visits .listing marker es) =
      CallSite.sites marker (Elements.calls (Elements.outline marker es)) := by
  match es with
  | [] => rfl
  | .single value :: rest | .rest value :: rest =>
      simp only [Elements.visits, Elements.outline, Elements.calls, Visit.outerSites_append,
        CallSite.sites_append]
      rw [value.outerSites_visits false, Elements.outerSites_visits rest]
  | .hole :: rest => exact Elements.outerSites_visits rest

theorem Func.outerSites_visits (probed : Bool) (f : Func) :
    Visit.outerSites marker (f.visits .listing marker probed) =
      CallSite.sites marker (f.outline marker probed).calls := by
  match f with
  | ⟨spot, arrow, async, generator, parameters, returnType, body⟩ =>
      simp only [Func.visits, Func.outline, Func.calls, Visit.outerSites_append,
        CallSite.sites_append]
      rw [Params.outerSites_visits parameters]
      cases probed with
      | true => exact congrArg _ (Visit.outerSites_map_within _)
      | false => exact congrArg _ body.outerSites_visits

theorem Body.outerSites_visits (b : Body) :
    Visit.outerSites marker (b.visits .listing marker) =
      CallSite.sites marker (b.outline marker).calls := by
  match b with
  | .block spot statements => exact Stmts.outerSites_visits statements
  | .expr spot value => exact value.outerSites_visits false

theorem Params.outerSites_visits (ps : List Param) :
    Visit.outerSites marker (Params.visits .listing marker ps) =
      CallSite.sites marker (Params.calls (Params.outline marker ps)) := by
  match ps with
  | [] => rfl
  | ⟨spot, isRest, pattern, type, none⟩ :: rest => exact Params.outerSites_visits rest
  | ⟨spot, isRest, pattern, type, some value⟩ :: rest =>
      simp only [Params.visits, Params.outline, Params.calls, Visit.outerSites_append,
        CallSite.sites_append]
      rw [value.outerSites_visits false, Params.outerSites_visits rest]

theorem Stmt.outerSites_visits (s : Stmt) :
    Visit.outerSites marker (s.visits .listing marker) =
      CallSite.sites marker (s.outline marker).calls := by
  match s with
  | .block a body => exact Stmts.outerSites_visits body
  | .doWhile a condition body =>
      simp only [Stmt.visits, Tour.doWhile, Stmt.outline, Stmt.calls, Visit.outerSites_append,
        CallSite.sites_append]
      rw [condition.outerSites_visits false, body.outerSites_visits]
  | .expr a value => exact value.outerSites_visits false
  | .ifElse a test consequent none =>
      simp only [Stmt.visits, Stmt.outline, Stmt.calls, Visit.outerSites_append,
        CallSite.sites_append]
      rw [test.outerSites_visits false, consequent.outerSites_visits]
  | .ifElse a test consequent (some alternate) =>
      simp only [Stmt.visits, Stmt.outline, Stmt.calls, Visit.outerSites_append,
        CallSite.sites_append]
      rw [test.outerSites_visits false, consequent.outerSites_visits, alternate.outerSites_visits]
  | .ret a none => rfl
  | .ret a (some value) => exact value.outerSites_visits false
  | .throw a value => exact value.outerSites_visits false
  | .tryBlock a wrapped none none =>
      simp only [Stmt.visits, Stmt.outline, Stmt.calls, List.append_nil]
      exact wrapped.outerSites_visits
  | .tryBlock a wrapped (some handler) none =>
      simp only [Stmt.visits, Stmt.outline, Stmt.calls, List.append_nil, Visit.outerSites_append,
        CallSite.sites_append]
      rw [wrapped.outerSites_visits, handler.outerSites_visits]
  | .tryBlock a wrapped none (some finalizer) =>
      simp only [Stmt.visits, Stmt.outline, Stmt.calls, List.append_nil, Visit.outerSites_append,
        CallSite.sites_append]
      rw [wrapped.outerSites_visits, finalizer.outerSites_visits]
  | .tryBlock a wrapped (some handler) (some finalizer) =>
      simp only [Stmt.visits, Stmt.outline, Stmt.calls, Visit.outerSites_append,
        CallSite.sites_append]
      rw [wrapped.outerSites_visits, handler.outerSites_visits, finalizer.outerSites_visits]
  | .whileDo a condition body =>
      simp only [Stmt.visits, Stmt.outline, Stmt.calls, Visit.outerSites_append,
        CallSite.sites_append]
      rw [condition.outerSites_visits false, body.outerSites_visits]
  | .funcDecl a exported name f => exact f.outerSites_visits false
  | .varDecl a exported kind declarators => exact Declarators.outerSites_visits declarators
  | .breakTo .. | .continueTo .. | .empty _ => rfl

theorem Stmts.outerSites_visits (ss : List Stmt) :
    Visit.outerSites marker (Stmts.visits .listing marker ss) =
      CallSite.sites marker (Stmts.calls (Stmts.outline marker ss)) := by
  match ss with
  | [] => rfl
  | s :: rest =>
      simp only [Stmts.visits, Stmts.outline, Stmts.calls, Visit.outerSites_append,
        CallSite.sites_append]
      rw [s.outerSites_visits, Stmts.outerSites_visits rest]

theorem Block.outerSites_visits (b : Block) :
    Visit.outerSites marker (b.visits .listing marker) =
      CallSite.sites marker (b.outline marker).calls := by
  match b with
  | ⟨spot, body⟩ => exact Stmts.outerSites_visits body

theorem Catch.outerSites_visits (c : Catch) :
    Visit.outerSites marker (c.visits .listing marker) =
      CallSite.sites marker (c.outline marker).calls := by
  match c with
  | ⟨spot, parameter, body⟩ => exact Stmts.outerSites_visits body

theorem Declarators.outerSites_visits (ds : List Declarator) :
    Visit.outerSites marker (Declarators.visits .listing marker ds) =
      CallSite.sites marker (Declarators.calls (Declarators.outline marker ds)) := by
  match ds with
  | [] => rfl
  | ⟨pattern, type, none⟩ :: rest => exact Declarators.outerSites_visits rest
  | ⟨pattern, type, some value⟩ :: rest =>
      simp only [Declarators.visits, Declarators.outline, Declarators.calls,
        Visit.outerSites_append, CallSite.sites_append]
      rw [value.outerSites_visits false, Declarators.outerSites_visits rest]

end

/-- The outer probes of a program are the probes of its outline. -/
theorem Program.outerSites_visits (p : Program) :
    Visit.outerSites marker (p.visits .listing marker) = (p.outline marker).probes marker :=
  Stmts.outerSites_visits p.body

end outline

/-! ### No probe inside another one -/

/-- No probe of a tour is inside the body of another one. -/
def Visit.Apart (marker : String) (l : List Visit) : Prop :=
  ∀ v ∈ l, v.inside = true → v.call.probe? marker = none

/-- No call in a body is a probe. -/
def Body.Bare (marker : String) (b : Body) : Prop :=
  CallSite.All (fun c => c.probe? marker = none) b.calls

/-- If the call is a probe, there is none in its body. -/
def Call.Clean (marker : String) (c : Call) : Prop :=
  ∀ f, c.probe? marker = some f → f.body.Bare marker

section apart

variable {marker : String}

@[simp] theorem Visit.apart_nil : Visit.Apart marker [] := by simp [Visit.Apart]

@[simp] theorem Visit.apart_append {l m : List Visit} :
    Visit.Apart marker (l ++ m) ↔ Visit.Apart marker l ∧ Visit.Apart marker m :=
  List.forall_mem_append

theorem Visit.apart_cons_outside {s : CallSite} {l : List Visit} (h : Visit.Apart marker l) :
    Visit.Apart marker (⟨s, false⟩ :: l) := by
  intro v hv
  cases hv with
  | head => nofun
  | tail _ hm => exact h v hm

theorem Body.apart_map_within {b : Body} (h : b.Bare marker) :
    Visit.Apart marker ((b.visits .listing marker).map Visit.within) := by
  intro v hv _
  obtain ⟨w, hw, rfl⟩ := List.mem_map.mp hv
  have hc : (b.visits .listing marker).map Visit.toCallSite = b.calls :=
    show Tour.Same .listing _ _ from b.same_visits
  have hm : w.toCallSite ∈ b.calls := hc ▸ List.mem_map_of_mem hw
  exact h _ hm

mutual

theorem Expr.apart_visits (probed : Bool) (e : Expr)
    (h : CallSite.All (Call.Clean marker) e.calls)
    (hp : probed = true → ∀ f, e.literal? = some f → f.body.Bare marker) :
    Visit.Apart marker (e.visits .listing marker probed) := by
  match e with
  | .arrow a f | .function a name f => exact f.apart_visits probed h fun ht => hp ht f rfl
  | .binary a op l r =>
      simp only [Expr.calls, CallSite.all_append] at h
      obtain ⟨h₁, h₂⟩ := h
      simp only [Expr.visits, Visit.apart_append]
      exact ⟨l.apart_visits false h₁ nofun, r.apart_visits false h₂ nofun⟩
  | .call a c =>
      simp only [Expr.calls, CallSite.all_cons] at h
      exact Visit.apart_cons_outside (c.apart_visits h.1 h.2)
  | .index a optional o k =>
      simp only [Expr.calls, CallSite.all_append] at h
      obtain ⟨h₁, h₂⟩ := h
      simp only [Expr.visits, Visit.apart_append]
      exact ⟨o.apart_visits false h₁ nofun, k.apart_visits false h₂ nofun⟩
  | .conditional a t c e =>
      simp only [Expr.calls, CallSite.all_append] at h
      obtain ⟨⟨h₁, h₂⟩, h₃⟩ := h
      simp only [Expr.visits, Visit.apart_append]
      exact ⟨⟨t.apart_visits false h₁ nofun, c.apart_visits false h₂ nofun⟩,
        e.apart_visits false h₃ nofun⟩
  | .member a optional o property => exact o.apart_visits false h nofun
  | .unary a op e | .trailing a op e => exact e.apart_visits false h nofun
  | .array a es => exact Elements.apart_visits es h
  | .ident .. | .this _ | .boolean .. | .null _ | .number .. | .string .. => exact Visit.apart_nil

theorem Call.apart_visits (c : Call) (hc : c.Clean marker)
    (h : CallSite.All (Call.Clean marker) c.innerCalls) :
    Visit.Apart marker (c.visits .listing marker) := by
  match c with
  | ⟨optional, callee, arguments⟩ =>
      simp only [Call.innerCalls, CallSite.all_append] at h
      simp only [Call.visits, Visit.apart_append]
      refine ⟨callee.apart_visits false h.1 nofun, Arguments.apart_visits _ arguments h.2 ?_⟩
      -- If the call is a probe, its only argument is the probed function.
      intro hp a ha f hf
      obtain ⟨g, hg⟩ := Option.isSome_iff_exists.mp hp
      obtain ⟨_, _, spot, value, hc', hl⟩ := Call.probe?_eq_some_iff.mp hg
      obtain ⟨rfl, rfl, rfl⟩ := Call.mk.inj hc'
      obtain rfl := List.mem_singleton.mp ha
      obtain rfl := Option.some.inj (hl.symm.trans hf)
      exact hc g hg

theorem Arguments.apart_visits (probed : Bool) (as : List Argument)
    (h : CallSite.All (Call.Clean marker) (Arguments.calls as))
    (hp : probed = true → ∀ a ∈ as, ∀ f, a.value.literal? = some f → f.body.Bare marker) :
    Visit.Apart marker (Arguments.visits .listing marker probed as) := by
  match as with
  | [] => exact Visit.apart_nil
  | ⟨spot, spread, value⟩ :: rest =>
      simp only [Arguments.calls, CallSite.all_append] at h
      simp only [Arguments.visits, Visit.apart_append]
      exact ⟨value.apart_visits probed h.1 fun ht => hp ht _ List.mem_cons_self,
        Arguments.apart_visits probed rest h.2 fun ht a ha => hp ht a (List.mem_cons_of_mem _ ha)⟩

theorem Elements.apart_visits (es : List Element)
    (h : CallSite.All (Call.Clean marker) (Elements.calls es)) :
    Visit.Apart marker (Elements.visits .listing marker es) := by
  match es with
  | [] => exact Visit.apart_nil
  | .single value :: rest | .rest value :: rest =>
      simp only [Elements.calls, CallSite.all_append] at h
      obtain ⟨h₁, h₂⟩ := h
      simp only [Elements.visits, Visit.apart_append]
      exact ⟨value.apart_visits false h₁ nofun, Elements.apart_visits rest h₂⟩
  | .hole :: rest => exact Elements.apart_visits rest h

theorem Func.apart_visits (probed : Bool) (f : Func)
    (h : CallSite.All (Call.Clean marker) f.calls)
    (hp : probed = true → f.body.Bare marker) :
    Visit.Apart marker (f.visits .listing marker probed) := by
  match f with
  | ⟨spot, arrow, async, generator, parameters, returnType, body⟩ =>
      simp only [Func.calls, CallSite.all_append] at h
      simp only [Func.visits, Visit.apart_append]
      refine ⟨Params.apart_visits parameters h.1, ?_⟩
      cases probed with
      | true => exact Body.apart_map_within (hp rfl)
      | false => exact body.apart_visits h.2

theorem Body.apart_visits (b : Body) (h : CallSite.All (Call.Clean marker) b.calls) :
    Visit.Apart marker (b.visits .listing marker) := by
  match b with
  | .block spot statements => exact Stmts.apart_visits statements h
  | .expr spot value => exact value.apart_visits false h nofun

theorem Params.apart_visits (ps : List Param)
    (h : CallSite.All (Call.Clean marker) (Params.calls ps)) :
    Visit.Apart marker (Params.visits .listing marker ps) := by
  match ps with
  | [] => exact Visit.apart_nil
  | ⟨spot, isRest, pattern, type, none⟩ :: rest => exact Params.apart_visits rest h
  | ⟨spot, isRest, pattern, type, some value⟩ :: rest =>
      simp only [Params.calls, CallSite.all_append] at h
      obtain ⟨h₁, h₂⟩ := h
      simp only [Params.visits, Visit.apart_append]
      exact ⟨value.apart_visits false h₁ nofun, Params.apart_visits rest h₂⟩

theorem Stmt.apart_visits (s : Stmt) (h : CallSite.All (Call.Clean marker) s.calls) :
    Visit.Apart marker (s.visits .listing marker) := by
  match s with
  | .block a body => exact Stmts.apart_visits body h
  | .doWhile a condition body =>
      simp only [Stmt.calls, CallSite.all_append] at h
      simp only [Stmt.visits, Tour.doWhile, Visit.apart_append]
      exact ⟨condition.apart_visits false h.1 nofun, body.apart_visits h.2⟩
  | .expr a value => exact value.apart_visits false h nofun
  | .ifElse a test consequent none =>
      simp only [Stmt.calls, CallSite.all_append] at h
      obtain ⟨h₁, h₂⟩ := h
      simp only [Stmt.visits, Visit.apart_append]
      exact ⟨test.apart_visits false h₁ nofun, consequent.apart_visits h₂⟩
  | .ifElse a test consequent (some alternate) =>
      simp only [Stmt.calls, CallSite.all_append] at h
      obtain ⟨⟨h₁, h₂⟩, h₃⟩ := h
      simp only [Stmt.visits, Visit.apart_append]
      exact ⟨⟨test.apart_visits false h₁ nofun, consequent.apart_visits h₂⟩,
        alternate.apart_visits h₃⟩
  | .ret a none => exact Visit.apart_nil
  | .ret a (some value) => exact value.apart_visits false h nofun
  | .throw a value => exact value.apart_visits false h nofun
  | .tryBlock a wrapped none none =>
      simp only [Stmt.calls, List.append_nil] at h
      exact wrapped.apart_visits h
  | .tryBlock a wrapped (some handler) none =>
      simp only [Stmt.calls, List.append_nil, CallSite.all_append] at h
      simp only [Stmt.visits, Visit.apart_append]
      exact ⟨wrapped.apart_visits h.1, handler.apart_visits h.2⟩
  | .tryBlock a wrapped none (some finalizer) =>
      simp only [Stmt.calls, List.append_nil, CallSite.all_append] at h
      simp only [Stmt.visits, Visit.apart_append]
      exact ⟨wrapped.apart_visits h.1, finalizer.apart_visits h.2⟩
  | .tryBlock a wrapped (some handler) (some finalizer) =>
      simp only [Stmt.calls, CallSite.all_append] at h
      obtain ⟨⟨h₁, h₂⟩, h₃⟩ := h
      simp only [Stmt.visits, Visit.apart_append]
      exact ⟨⟨wrapped.apart_visits h₁, handler.apart_visits h₂⟩,
        finalizer.apart_visits h₃⟩
  | .whileDo a condition body =>
      simp only [Stmt.calls, CallSite.all_append] at h
      obtain ⟨h₁, h₂⟩ := h
      simp only [Stmt.visits, Visit.apart_append]
      exact ⟨condition.apart_visits false h₁ nofun, body.apart_visits h₂⟩
  | .funcDecl a exported name f => exact f.apart_visits false h nofun
  | .varDecl a exported kind declarators => exact Declarators.apart_visits declarators h
  | .breakTo .. | .continueTo .. | .empty _ => exact Visit.apart_nil

theorem Stmts.apart_visits (ss : List Stmt)
    (h : CallSite.All (Call.Clean marker) (Stmts.calls ss)) :
    Visit.Apart marker (Stmts.visits .listing marker ss) := by
  match ss with
  | [] => exact Visit.apart_nil
  | s :: rest =>
      simp only [Stmts.calls, CallSite.all_append] at h
      obtain ⟨h₁, h₂⟩ := h
      simp only [Stmts.visits, Visit.apart_append]
      exact ⟨s.apart_visits h₁, Stmts.apart_visits rest h₂⟩

theorem Block.apart_visits (b : Block) (h : CallSite.All (Call.Clean marker) b.calls) :
    Visit.Apart marker (b.visits .listing marker) := by
  match b with
  | ⟨spot, body⟩ => exact Stmts.apart_visits body h

theorem Catch.apart_visits (c : Catch) (h : CallSite.All (Call.Clean marker) c.calls) :
    Visit.Apart marker (c.visits .listing marker) := by
  match c with
  | ⟨spot, parameter, body⟩ => exact Stmts.apart_visits body h

theorem Declarators.apart_visits (ds : List Declarator)
    (h : CallSite.All (Call.Clean marker) (Declarators.calls ds)) :
    Visit.Apart marker (Declarators.visits .listing marker ds) := by
  match ds with
  | [] => exact Visit.apart_nil
  | ⟨pattern, type, none⟩ :: rest => exact Declarators.apart_visits rest h
  | ⟨pattern, type, some value⟩ :: rest =>
      simp only [Declarators.calls, CallSite.all_append] at h
      obtain ⟨h₁, h₂⟩ := h
      simp only [Declarators.visits, Visit.apart_append]
      exact ⟨value.apart_visits false h₁ nofun, Declarators.apart_visits rest h₂⟩

end

/-- If no probe has one in its body, the probes of a program are its outer ones. -/
theorem Program.outerSites_visits_of_clean (p : Program)
    (h : CallSite.All (Call.Clean marker) p.calls) :
    Visit.outerSites marker (p.visits .listing marker) = p.probes marker := by
  have ha : Visit.Apart marker (p.visits .listing marker) := Stmts.apart_visits p.body h
  have hc : (p.visits .listing marker).map Visit.toCallSite = p.calls :=
    p.same_visits .listing marker
  unfold Visit.outerSites Program.probes
  rw [← hc, List.filterMap_map, List.filterMap_filter]
  refine List.filterMap_congr ?_
  intro v hv
  cases hi : v.inside with
  | false => simp
  | true => simp [CallSite.site?, ha v hv hi]

end apart

/-! ### After a pass -/

section resolve

variable {marker : String} {source : Source} {file : FileId}

theorem Pass.establishes_clean :
    Establishes (Call.Clean marker) (Pass.resolveCall marker source file) := by
  have hq : ∀ f : Func, ∀ n, (f.settle (source.answer n file)).body.Bare marker :=
    fun f _ => Finding.calls_body marker f.body.loc _
  exact Pass.establishes_of_settle hq

end resolve

/-- **The probes that are left after a pass**, whatever the source answers, are the outer probes of
the program, in the same order, each at the same position and with the same region and number of
parameters.  No body that a pass can write holds a probe, whatever the marker is. -/
theorem Program.probes_resolve (marker : String) (source : Source) (file : FileId)
    (p : Program) :
    (p.visits .listing marker).map Visit.toCallSite = p.calls ∧
      (p.resolve marker source file).program.probes marker =
        ((p.visits .listing marker).filter (!·.inside)).filterMap (·.site? marker) ∧
      ∀ loc findings, ∀ site ∈ (Finding.body loc findings).calls,
        site.call.probe? marker = none := by
  refine ⟨p.same_visits .listing marker, ?_, Finding.calls_body marker⟩
  have hc : CallSite.All (Call.Clean marker) (p.resolve marker source file).program.calls :=
    p.calls_mapCallsM Pass.establishes_clean .start
  have ho : (p.resolve marker source file).program.outline marker = p.outline marker :=
    congrArg (Program.mk p.toSpot)
      (Stmts.outline_mapCallsM (Pass.outline_resolveCall source file) ..)
  calc (p.resolve marker source file).program.probes marker
      = ((p.resolve marker source file).program.outline marker).probes marker := by
        rw [← Program.outerSites_visits, Program.outerSites_visits_of_clean _ hc]
    _ = Visit.outerSites marker (p.visits .listing marker) := by
        rw [ho, p.outerSites_visits]

end TypeProbe
