import TypeProbe.Proofs.Resolution.Reports
import TypeProbe.Proofs.Resolution.Tour

/-! # Requests, log and bodies of a pass

A pass meets the probes of a program in a fixed order (`Program.encounters`), inner ones first.
The `k`-th of them is served by the `k`-th answer of the source:

* the request is for the file at hand, and there is one for each probe that is listed;
* what the log says of the probe (`Encounter.log`) is about its own region and that answer;
* its body, where it is left in the program, reports what the region holds of that answer
  (`Encounter.body`).

The main statement is `Program.resolve_encounters`.  The state of the pass is the fold of
`Progress.serve` over the encounters (`Program.progress_resolve`), from which requests and log are
read off; the bodies follow the traversal, since a body is written between other requests. -/

namespace TypeProbe

/-! ### Encounters -/

/-- A probe met by a pass. -/
structure Encounter where
  /-- The position of the call. -/
  loc : Loc
  /-- The probed function, as it stands in the program. -/
  func : Func
  /-- Whether the call lies inside the body of another probed function. -/
  inside : Bool

/-- The probe that a call is. -/
def Visit.encounter? (marker : String) (v : Visit) : Option Encounter :=
  (v.call.probe? marker).map fun f => ⟨v.loc, f, v.inside⟩

/-- The probes among the calls of a tour. -/
def Visit.encounters (marker : String) (l : List Visit) : List Encounter :=
  l.filterMap (Visit.encounter? marker)

/-- The probes of a program, in the order in which a pass meets them. -/
def Program.encounters (marker : String) (p : Program) : List Encounter :=
  Visit.encounters marker (p.visits .rebuilding marker)

namespace Encounter

/-- The probe as it is listed. -/
def site (e : Encounter) : Site := ⟨e.loc, .ofBody e.func.body, e.func.parameters.length⟩

variable (source : Source) (file : FileId)

/-- What the log says of a probe that is served by the `k`-th answer. -/
def log (e : Encounter) (k : Nat) : List Event :=
  let found := e.site.region.gather (source.answer k file)
  found.events ++ [.resolvedProbe e.site.region found.selected.length]

/-- The body that a probe gets from the `k`-th answer. -/
def body (e : Encounter) (k : Nat) : Body :=
  Finding.body e.func.body.loc
    (Finding.ofDiagnostics (e.site.region.gather (source.answer k file)).selected)

/-- The log of probes, the first of which is served by the `n`-th answer. -/
def logs (n : Nat) (l : List Encounter) : List Event :=
  (l.zipIdx n).flatMap fun (e, k) => e.log source file k

/-- The bodies of those probes that are outside the bodies of all others. -/
def outerBodies (n : Nat) (l : List Encounter) : List Body :=
  (l.zipIdx n).filterMap fun (e, k) => if e.inside then none else some (e.body source file k)

variable {source file}

theorem logs_cons (n : Nat) (e : Encounter) (l : List Encounter) :
    logs source file n (e :: l) = e.log source file n ++ logs source file (n + 1) l := by
  simp [logs]

theorem outerBodies_append (n : Nat) (l m : List Encounter) :
    outerBodies source file n (l ++ m) =
      outerBodies source file n l ++ outerBodies source file (n + l.length) m := by
  simp [outerBodies, List.zipIdx_append]

end Encounter

namespace Visit

variable {marker : String} {source : Source} {file : FileId}

theorem encounters_append (l m : List Visit) :
    encounters marker (l ++ m) = encounters marker l ++ encounters marker m :=
  List.filterMap_append

/-- Inside the body of a probed function, no probe is outside. -/
theorem outerBodies_within (n : Nat) (l : List Visit) :
    Encounter.outerBodies source file n (encounters marker (l.map within)) = [] := by
  unfold Encounter.outerBodies
  rw [List.filterMap_eq_nil_iff]
  rintro ⟨e, k⟩ he
  have hm := List.fst_mem_of_mem_zipIdx he
  obtain ⟨v, hv, hp⟩ := List.mem_filterMap.mp hm
  obtain ⟨w, _, rfl⟩ := List.mem_map.mp hv
  obtain ⟨f, _, rfl⟩ := Option.map_eq_some_iff.mp hp
  rfl

end Visit

/-! ### The state of a pass -/

/-- Whether an event is about a probe that fails. -/
def Event.isFailure : Event → Bool
  | .resolvedProbe _ findings => findings != 0
  | _ => false

theorem Region.countP_events_gather (r : Region) (ds : List Diagnostic) :
    (r.gather ds).events.countP Event.isFailure = 0 := by
  rw [List.countP_eq_zero]
  intro event he
  obtain ⟨d, _, hd⟩ := List.mem_filterMap.mp he
  unfold skipped? at hd
  split at hd
  · obtain rfl := Option.some.inj hd
    nofun
  · cases hd

/-- No diagnostic of a region is lost on the way to the findings. -/
theorem Region.length_ofDiagnostics_selected (r : Region) (ds : List Diagnostic) :
    (Finding.ofDiagnostics (r.gather ds).selected).length = (r.gather ds).selected.length :=
  (r.forall₂_findings ds).length_eq

section progress

variable (source : Source) (file : FileId)

/-- What a pass has done after one more call, which may probe a body. -/
def Progress.serve (s : Progress) : Option Loc → Progress
  | none => s
  | some loc =>
      let r := Region.ofBounds loc.start32 loc.stop32
      let found := r.gather (source.answer s.requests.length file)
      { requests := s.requests ++ [file]
        probes := s.probes + 1
        failing := s.failing + if found.selected.length = 0 then 0 else 1
        events := s.events ++ (found.events ++ [Event.resolvedProbe r found.selected.length]) }

variable {source file} {marker : String}

theorem Pass.progress_resolve (f : Func) (s : Progress) :
    (Pass.resolve source file f s).2 =
      let found := (Region.ofBody f.body).gather (source.answer s.requests.length file)
      let findings := Finding.ofDiagnostics found.selected
      { requests := s.requests ++ [file]
        probes := s.probes + 1
        failing := if !findings.isEmpty then s.failing + 1 else s.failing
        events := s.events ++ found.events ++
          [Event.resolvedProbe (.ofBody f.body) findings.length] } :=
  rfl

theorem Pass.progress_resolveCall (c : Call) (s : Progress) :
    (Pass.resolveCall marker source file c s).2 =
      s.serve source file (c.probedLoc? marker) := by
  unfold Call.probedLoc?
  cases hp : c.probe? marker with
  | none => rw [Pass.resolveCall_of_none hp]; rfl
  | some f =>
      have hr : (Pass.resolveCall marker source file c s).2 = (Pass.resolve source file f s).2 := by
        unfold Pass.resolveCall
        rw [hp]
        rfl
      have hl := (Region.ofBody f.body).length_ofDiagnostics_selected
        (source.answer s.requests.length file)
      have hs : s.serve source file (some f.body.loc) =
          let found := (Region.ofBody f.body).gather (source.answer s.requests.length file)
          ⟨s.requests ++ [file], s.probes + 1,
            s.failing + if found.selected.length = 0 then 0 else 1,
            s.events ++
              (found.events ++ [Event.resolvedProbe (.ofBody f.body) found.selected.length])⟩ :=
        rfl
      rw [hr, Pass.progress_resolve, Option.map_some, hs]
      simp only [← hl, List.append_assoc, Progress.mk.injEq, true_and, and_true]
      cases Finding.ofDiagnostics
          ((Region.ofBody f.body).gather (source.answer s.requests.length file)).selected with
      | nil => rfl
      | cons finding rest => rfl

/-- What a pass has done after one more probe. -/
theorem Progress.serve_encounter (e : Encounter) (s : Progress) :
    s.serve source file (some e.func.body.loc) =
      let log := e.log source file s.requests.length
      { requests := s.requests ++ [file]
        probes := s.probes + 1
        failing := s.failing + log.countP Event.isFailure
        events := s.events ++ log } := by
  have hz := e.site.region.countP_events_gather (source.answer s.requests.length file)
  have hc : ∀ n, [Event.resolvedProbe e.site.region n].countP Event.isFailure =
      if n = 0 then 0 else 1 := by
    intro n
    by_cases hn : n = 0 <;> simp [Event.isFailure, hn]
  unfold Encounter.log
  simp only [List.countP_append, hz, hc, Nat.zero_add]
  rfl

/-- What a pass has done after the calls of a tour. -/
theorem Progress.foldl_advance (l : List Visit) (s : Progress) :
    l.foldl (Visit.advance marker (Progress.serve source file)) s =
      let met := Visit.encounters marker l
      let log := Encounter.logs source file s.requests.length met
      { requests := s.requests ++ List.replicate met.length file
        probes := s.probes + met.length
        failing := s.failing + log.countP Event.isFailure
        events := s.events ++ log } := by
  induction l generalizing s with
  | nil => simp [Visit.encounters, Encounter.logs]
  | cons v rest ih =>
      rw [List.foldl_cons, ih, Visit.advance, Call.probedLoc?]
      cases hp : v.call.probe? marker with
      | none =>
          have hn : v.encounter? marker = none := by rw [Visit.encounter?, hp]; rfl
          simp only [Visit.encounters, List.filterMap_cons_none hn]
          rfl
      | some f =>
          have hs : v.encounter? marker = some ⟨v.loc, f, v.inside⟩ := by
            rw [Visit.encounter?, hp]; rfl
          have he : s.serve source file (some f.body.loc) = _ :=
            Progress.serve_encounter ⟨v.loc, f, v.inside⟩ s
          simp only [Option.map_some, Visit.encounters, List.filterMap_cons_some hs,
            Encounter.logs_cons]
          rw [he]
          simp only [List.length_append, List.length_cons, List.length_nil, List.countP_append,
            Nat.zero_add, List.append_assoc, List.replicate_succ, List.singleton_append,
            Progress.mk.injEq, true_and, and_true]
          omega

theorem Pass.length_requests_foldl (l : List Visit) (s : Progress) :
    (l.foldl (Visit.advance marker (Progress.serve source file)) s).requests.length =
      s.requests.length + (Visit.encounters marker l).length := by
  rw [Progress.foldl_advance]
  simp

/-- What a pass over a program has done in the end. -/
theorem Program.progress_resolve (p : Program) :
    (p.mapCallsM (Pass.resolveCall marker source file) .start).2 =
      let met := p.encounters marker
      let log := Encounter.logs source file 0 met
      { requests := List.replicate met.length file
        probes := met.length
        failing := log.countP Event.isFailure
        events := log } := by
  rw [Program.state_mapCallsM Pass.progress_resolveCall, Progress.foldl_advance]
  simp [Progress.start, Program.encounters]

end progress

/-! ### The bodies that a pass leaves in a program -/

/-- The bodies of those probes of a tour that are outside the bodies of all others. -/
def Visit.outerBodies (marker : String) (l : List Visit) : List Body :=
  (encounters marker l).filterMap fun e => if e.inside then none else some e.func.body

namespace Visit

variable {marker : String}

theorem outerBodies_append (l m : List Visit) :
    outerBodies marker (l ++ m) = outerBodies marker l ++ outerBodies marker m := by
  unfold outerBodies
  rw [encounters_append, List.filterMap_append]

theorem outerBodies_map_within (l : List Visit) : outerBodies marker (l.map within) = [] := by
  unfold outerBodies encounters
  rw [List.filterMap_filterMap, List.filterMap_eq_nil_iff]
  intro v hv
  obtain ⟨w, _, rfl⟩ := List.mem_map.mp hv
  cases hp : w.call.probe? marker <;> simp [encounter?, within, hp]

end Visit

theorem Func.visits_probed (marker : String) (f : Func) (t : Tour) :
    f.visits t marker true =
      Params.visits t marker f.parameters ++ (f.body.visits t marker).map Visit.within := by
  obtain ⟨spot, arrow, async, generator, parameters, returnType, body⟩ := f
  rfl

/-- The calls inside a probe are those of the parameters, and inside those of the body. -/
theorem Call.visits_of_probe? {marker : String} {c : Call} {f : Func}
    (h : c.probe? marker = some f) (t : Tour) :
    c.visits t marker =
      Params.visits t marker f.parameters ++ (f.body.visits t marker).map Visit.within := by
  have hp := h
  obtain ⟨optional, anchor, spot, value, rfl, hl⟩ := Call.probe?_eq_some_iff.mp h
  rw [Call.visits, hp, ← f.visits_probed]
  cases value with
  | arrow | function =>
      obtain rfl := Option.some.inj hl
      exact List.append_nil _
  | _ => cases hl

section bodies

variable {marker : String} {source : Source} {file : FileId}

/-- The probes outside of a probed body stand whatever becomes of the body. -/
theorem Pass.outerBodies_resolveCall (c : Call) (s : Progress) (t : Tour) :
    Visit.outerBodies marker ((Pass.resolveCall marker source file c s).1.visits t marker) =
      Visit.outerBodies marker (c.visits t marker) := by
  cases hp : c.probe? marker with
  | none => rw [Pass.resolveCall_of_none hp]
  | some f =>
      rw [Pass.resolveCall_of_some hp, Call.visits_of_probe? hp,
        Call.visits_of_probe? (Call.probe?_withProbe _ hp)]
      simp only [Visit.outerBodies_append, Visit.outerBodies_map_within]
      rfl

/-- The body that a call is given, if it is a probe. -/
theorem Pass.outerBodies_visit (loc : Loc) {c c' : Call} {s : Progress}
    (h : c'.probedLoc? marker = c.probedLoc? marker) :
    Visit.outerBodies marker [⟨⟨loc, (Pass.resolveCall marker source file c' s).1⟩, false⟩] =
      Encounter.outerBodies source file s.requests.length
        (Visit.encounters marker [⟨⟨loc, c⟩, false⟩]) := by
  unfold Call.probedLoc? at h
  cases hp : c'.probe? marker with
  | none =>
      rw [hp, Option.map_none, eq_comm, Option.map_eq_none_iff] at h
      rw [Pass.resolveCall_of_none hp]
      simp [Visit.outerBodies, Visit.encounters, Visit.encounter?, hp, h, Encounter.outerBodies]
  | some f' =>
      rw [hp, Option.map_some, eq_comm, Option.map_eq_some_iff] at h
      obtain ⟨f, hf, hl⟩ := h
      have hb : Region.ofBody f'.body = Region.ofBody f.body := by
        unfold Region.ofBody
        rw [hl]
      rw [Pass.resolveCall_of_some hp]
      simp [Visit.outerBodies, Visit.encounters, Visit.encounter?, Call.probe?_withProbe _ hp, hf,
        Encounter.outerBodies, Encounter.body, Encounter.site, Func.settle, Body.findings, hb, hl]

theorem Encounter.outerBodies_encounters_append (n : Nat) (l m : List Visit) :
    Encounter.outerBodies source file n (Visit.encounters marker (l ++ m)) =
      Encounter.outerBodies source file n (Visit.encounters marker l) ++
        Encounter.outerBodies source file (n + (Visit.encounters marker l).length)
          (Visit.encounters marker m) := by
  rw [Visit.encounters_append, Encounter.outerBodies_append]

/-- The action of a pass, as far as its state and the bodies it writes are concerned. -/
structure Pass.Serves (marker : String) (source : Source) (file : FileId)
    (f : Call → Pass Call) : Prop where
  progress : ∀ c s, (f c s).2 = s.serve source file (c.probedLoc? marker)
  outer : ∀ c s t, Visit.outerBodies marker ((f c s).1.visits t marker) =
    Visit.outerBodies marker (c.visits t marker)
  given : ∀ loc c c' s, c'.probedLoc? marker = c.probedLoc? marker →
    Visit.outerBodies marker [⟨⟨loc, (f c' s).1⟩, false⟩] =
      Encounter.outerBodies source file s.requests.length
        (Visit.encounters marker [⟨⟨loc, c⟩, false⟩])

theorem Pass.serves_resolveCall :
    Pass.Serves marker source file (Pass.resolveCall marker source file) where
  progress := Pass.progress_resolveCall
  outer := Pass.outerBodies_resolveCall
  given := fun loc _ _ _ h => Pass.outerBodies_visit loc h

end bodies

section outerBodies

variable {marker : String} {source : Source} {file : FileId} {f : Call → Pass Call}
  (hf : Pass.Serves marker source file f)
include hf

set_option linter.unusedSectionVars false

mutual

theorem Expr.outerBodies_mapCallsM (probed : Bool) (e : Expr) (s : Progress) :
    Visit.outerBodies marker ((e.mapCallsM f s).1.visits .rebuilding marker probed) =
      Encounter.outerBodies source file s.requests.length
        (Visit.encounters marker (e.visits .rebuilding marker probed)) := by
  match e with
  | .arrow a fn | .function a name fn => exact fn.outerBodies_mapCallsM probed s
  | .binary a op l r =>
      simp only [Expr.mapCallsM, bind_apply, pure_apply, Expr.visits,
        Visit.outerBodies_append, Encounter.outerBodies_encounters_append]
      rw [l.outerBodies_mapCallsM false, r.outerBodies_mapCallsM false,
        l.state_mapCallsM hf.progress false, Pass.length_requests_foldl]
  | .call a c =>
      simp only [Expr.mapCallsM, bind_apply, pure_apply, Expr.visits, Tour.around,
        Visit.outerBodies_append, Encounter.outerBodies_encounters_append]
      rw [hf.outer, hf.given a.inner _ _ _ (c.probedLoc?_mapInnerCallsM s),
        c.outerBodies_mapInnerCallsM, c.state_mapInnerCallsM hf.progress,
        Pass.length_requests_foldl]
  | .index a optional o k =>
      simp only [Expr.mapCallsM, bind_apply, pure_apply, Expr.visits,
        Visit.outerBodies_append, Encounter.outerBodies_encounters_append]
      rw [o.outerBodies_mapCallsM false, k.outerBodies_mapCallsM false,
        o.state_mapCallsM hf.progress false, Pass.length_requests_foldl]
  | .conditional a t c e =>
      simp only [Expr.mapCallsM, bind_apply, pure_apply, Expr.visits,
        Visit.outerBodies_append, Encounter.outerBodies_encounters_append]
      rw [t.outerBodies_mapCallsM false, c.outerBodies_mapCallsM false,
        e.outerBodies_mapCallsM false, c.state_mapCallsM hf.progress false,
        Pass.length_requests_foldl, t.state_mapCallsM hf.progress false, Pass.length_requests_foldl,
        Visit.encounters_append, List.length_append, Nat.add_assoc]
  | .member a optional o property => exact o.outerBodies_mapCallsM false s
  | .unary a op e | .trailing a op e => exact e.outerBodies_mapCallsM false s
  | .array a es => exact Elements.outerBodies_mapCallsM es s
  | .ident .. | .this _ | .boolean .. | .null _ | .number .. | .string .. => rfl

theorem Call.outerBodies_mapInnerCallsM (c : Call) (s : Progress) :
    Visit.outerBodies marker ((c.mapInnerCallsM f s).1.visits .rebuilding marker) =
      Encounter.outerBodies source file s.requests.length
        (Visit.encounters marker (c.visits .rebuilding marker)) := by
  have hp := c.isSome_probe?_mapInnerCallsM (f := f) marker s
  match c with
  | ⟨optional, callee, arguments⟩ =>
      simp only [Call.mapInnerCallsM, bind_apply, pure_apply] at hp ⊢
      simp only [Call.visits, hp, Visit.outerBodies_append,
        Encounter.outerBodies_encounters_append]
      rw [callee.outerBodies_mapCallsM false, Arguments.outerBodies_mapCallsM _ arguments,
        callee.state_mapCallsM hf.progress false, Pass.length_requests_foldl]

theorem Arguments.outerBodies_mapCallsM (probed : Bool) (as : List Argument) (s : Progress) :
    Visit.outerBodies marker
        (Arguments.visits .rebuilding marker probed (Arguments.mapCallsM f as s).1) =
      Encounter.outerBodies source file s.requests.length
        (Visit.encounters marker (Arguments.visits .rebuilding marker probed as)) := by
  match as with
  | [] => rfl
  | ⟨spot, spread, value⟩ :: rest =>
      simp only [Arguments.mapCallsM, bind_apply, pure_apply, Arguments.visits,
        Visit.outerBodies_append, Encounter.outerBodies_encounters_append]
      rw [value.outerBodies_mapCallsM probed, Arguments.outerBodies_mapCallsM probed rest,
        value.state_mapCallsM hf.progress probed, Pass.length_requests_foldl]

theorem Elements.outerBodies_mapCallsM (es : List Element) (s : Progress) :
    Visit.outerBodies marker (Elements.visits .rebuilding marker (Elements.mapCallsM f es s).1) =
      Encounter.outerBodies source file s.requests.length
        (Visit.encounters marker (Elements.visits .rebuilding marker es)) := by
  match es with
  | [] => rfl
  | .single value :: rest | .rest value :: rest =>
      simp only [Elements.mapCallsM, bind_apply, pure_apply, Elements.visits,
        Visit.outerBodies_append, Encounter.outerBodies_encounters_append]
      rw [value.outerBodies_mapCallsM false, Elements.outerBodies_mapCallsM rest,
        value.state_mapCallsM hf.progress false, Pass.length_requests_foldl]
  | .hole :: rest => exact Elements.outerBodies_mapCallsM rest s

theorem Func.outerBodies_mapCallsM (probed : Bool) (fn : Func) (s : Progress) :
    Visit.outerBodies marker ((fn.mapCallsM f s).1.visits .rebuilding marker probed) =
      Encounter.outerBodies source file s.requests.length
        (Visit.encounters marker (fn.visits .rebuilding marker probed)) := by
  match fn with
  | ⟨spot, arrow, async, generator, parameters, returnType, body⟩ =>
      simp only [Func.mapCallsM, bind_apply, pure_apply, Func.visits,
        Visit.outerBodies_append, Encounter.outerBodies_encounters_append]
      rw [Params.outerBodies_mapCallsM parameters]
      cases probed with
      | true => simp only [if_true, Visit.outerBodies_map_within, Visit.outerBodies_within]
      | false =>
          simp only [Bool.false_eq_true, if_false]
          rw [body.outerBodies_mapCallsM, Params.state_mapCallsM hf.progress,
            Pass.length_requests_foldl]

theorem Body.outerBodies_mapCallsM (b : Body) (s : Progress) :
    Visit.outerBodies marker ((b.mapCallsM f s).1.visits .rebuilding marker) =
      Encounter.outerBodies source file s.requests.length
        (Visit.encounters marker (b.visits .rebuilding marker)) := by
  match b with
  | .block spot statements => exact Stmts.outerBodies_mapCallsM statements s
  | .expr spot value => exact value.outerBodies_mapCallsM false s

theorem Params.outerBodies_mapCallsM (ps : List Param) (s : Progress) :
    Visit.outerBodies marker (Params.visits .rebuilding marker (Params.mapCallsM f ps s).1) =
      Encounter.outerBodies source file s.requests.length
        (Visit.encounters marker (Params.visits .rebuilding marker ps)) := by
  match ps with
  | [] => rfl
  | ⟨spot, isRest, pattern, type, none⟩ :: rest => exact Params.outerBodies_mapCallsM rest s
  | ⟨spot, isRest, pattern, type, some value⟩ :: rest =>
      simp only [Params.mapCallsM, bind_apply, pure_apply, Params.visits,
        Visit.outerBodies_append, Encounter.outerBodies_encounters_append]
      rw [value.outerBodies_mapCallsM false, Params.outerBodies_mapCallsM rest,
        value.state_mapCallsM hf.progress false, Pass.length_requests_foldl]

theorem Stmt.outerBodies_mapCallsM (t : Stmt) (s : Progress) :
    Visit.outerBodies marker ((t.mapCallsM f s).1.visits .rebuilding marker) =
      Encounter.outerBodies source file s.requests.length
        (Visit.encounters marker (t.visits .rebuilding marker)) := by
  match t with
  | .block a body => exact Stmts.outerBodies_mapCallsM body s
  | .doWhile a condition body =>
      simp only [Stmt.mapCallsM, bind_apply, pure_apply, Stmt.visits, Tour.doWhile,
        Visit.outerBodies_append, Encounter.outerBodies_encounters_append]
      rw [body.outerBodies_mapCallsM, condition.outerBodies_mapCallsM false,
        body.state_mapCallsM hf.progress, Pass.length_requests_foldl]
  | .expr a value => exact value.outerBodies_mapCallsM false s
  | .ifElse a test consequent none =>
      simp only [Stmt.mapCallsM, bind_apply, pure_apply, Stmt.visits,
        Visit.outerBodies_append, Encounter.outerBodies_encounters_append]
      rw [test.outerBodies_mapCallsM false, consequent.outerBodies_mapCallsM,
        test.state_mapCallsM hf.progress false, Pass.length_requests_foldl]
  | .ifElse a test consequent (some alternate) =>
      simp only [Stmt.mapCallsM, bind_apply, pure_apply, Stmt.visits,
        Visit.outerBodies_append, Encounter.outerBodies_encounters_append]
      rw [test.outerBodies_mapCallsM false, consequent.outerBodies_mapCallsM,
        alternate.outerBodies_mapCallsM, consequent.state_mapCallsM hf.progress,
        Pass.length_requests_foldl, test.state_mapCallsM hf.progress false,
        Pass.length_requests_foldl, Visit.encounters_append, List.length_append, Nat.add_assoc]
  | .ret a none => rfl
  | .ret a (some value) => exact value.outerBodies_mapCallsM false s
  | .throw a value => exact value.outerBodies_mapCallsM false s
  | .tryBlock a wrapped none none => exact wrapped.outerBodies_mapCallsM s
  | .tryBlock a wrapped (some handler) none =>
      simp only [Stmt.mapCallsM, bind_apply, pure_apply, map_apply, Stmt.visits,
        Visit.outerBodies_append, Encounter.outerBodies_encounters_append]
      rw [wrapped.outerBodies_mapCallsM, handler.outerBodies_mapCallsM,
        wrapped.state_mapCallsM hf.progress, Pass.length_requests_foldl]
  | .tryBlock a wrapped none (some finalizer) =>
      simp only [Stmt.mapCallsM, bind_apply, pure_apply, map_apply, Stmt.visits,
        Visit.outerBodies_append, Encounter.outerBodies_encounters_append]
      rw [wrapped.outerBodies_mapCallsM, finalizer.outerBodies_mapCallsM,
        wrapped.state_mapCallsM hf.progress, Pass.length_requests_foldl]
  | .tryBlock a wrapped (some handler) (some finalizer) =>
      simp only [Stmt.mapCallsM, bind_apply, pure_apply, map_apply, Stmt.visits,
        Visit.outerBodies_append, Encounter.outerBodies_encounters_append]
      rw [wrapped.outerBodies_mapCallsM, handler.outerBodies_mapCallsM,
        finalizer.outerBodies_mapCallsM, handler.state_mapCallsM hf.progress,
        Pass.length_requests_foldl, wrapped.state_mapCallsM hf.progress, Pass.length_requests_foldl,
        Visit.encounters_append, List.length_append, Nat.add_assoc]
  | .whileDo a condition body =>
      simp only [Stmt.mapCallsM, bind_apply, pure_apply, Stmt.visits,
        Visit.outerBodies_append, Encounter.outerBodies_encounters_append]
      rw [condition.outerBodies_mapCallsM false, body.outerBodies_mapCallsM,
        condition.state_mapCallsM hf.progress false, Pass.length_requests_foldl]
  | .funcDecl a exported name fn => exact fn.outerBodies_mapCallsM false s
  | .varDecl a exported kind declarators => exact Declarators.outerBodies_mapCallsM declarators s
  | .breakTo .. | .continueTo .. | .empty _ => rfl

theorem Stmts.outerBodies_mapCallsM (ts : List Stmt) (s : Progress) :
    Visit.outerBodies marker (Stmts.visits .rebuilding marker (Stmts.mapCallsM f ts s).1) =
      Encounter.outerBodies source file s.requests.length
        (Visit.encounters marker (Stmts.visits .rebuilding marker ts)) := by
  match ts with
  | [] => rfl
  | t :: rest =>
      simp only [Stmts.mapCallsM, bind_apply, pure_apply, Stmts.visits,
        Visit.outerBodies_append, Encounter.outerBodies_encounters_append]
      rw [t.outerBodies_mapCallsM, Stmts.outerBodies_mapCallsM rest,
        t.state_mapCallsM hf.progress, Pass.length_requests_foldl]

theorem Block.outerBodies_mapCallsM (b : Block) (s : Progress) :
    Visit.outerBodies marker ((b.mapCallsM f s).1.visits .rebuilding marker) =
      Encounter.outerBodies source file s.requests.length
        (Visit.encounters marker (b.visits .rebuilding marker)) := by
  match b with
  | ⟨spot, body⟩ => exact Stmts.outerBodies_mapCallsM body s

theorem Catch.outerBodies_mapCallsM (c : Catch) (s : Progress) :
    Visit.outerBodies marker ((c.mapCallsM f s).1.visits .rebuilding marker) =
      Encounter.outerBodies source file s.requests.length
        (Visit.encounters marker (c.visits .rebuilding marker)) := by
  match c with
  | ⟨spot, parameter, body⟩ => exact Stmts.outerBodies_mapCallsM body s

theorem Declarators.outerBodies_mapCallsM (ds : List Declarator) (s : Progress) :
    Visit.outerBodies marker
        (Declarators.visits .rebuilding marker (Declarators.mapCallsM f ds s).1) =
      Encounter.outerBodies source file s.requests.length
        (Visit.encounters marker (Declarators.visits .rebuilding marker ds)) := by
  match ds with
  | [] => rfl
  | ⟨pattern, type, none⟩ :: rest => exact Declarators.outerBodies_mapCallsM rest s
  | ⟨pattern, type, some value⟩ :: rest =>
      simp only [Declarators.mapCallsM, bind_apply, pure_apply, Declarators.visits,
        Visit.outerBodies_append, Encounter.outerBodies_encounters_append]
      rw [value.outerBodies_mapCallsM false, Declarators.outerBodies_mapCallsM rest,
        value.state_mapCallsM hf.progress false, Pass.length_requests_foldl]

end

end outerBodies

/-- The bodies of the probes that are left in a program, in the order in which the pass wrote
them. -/
theorem Program.outerBodies_resolve (marker : String) (source : Source) (file : FileId)
    (p : Program) :
    Visit.outerBodies marker ((p.resolve marker source file).program.visits .rebuilding marker) =
      Encounter.outerBodies source file 0 (p.encounters marker) :=
  Stmts.outerBodies_mapCallsM Pass.serves_resolveCall p.body .start

/-! ### The pass over a program -/

/-- Whether an event is about a probe. -/
def Event.isProbe : Event → Bool
  | .resolvedProbe .. => true
  | _ => false

theorem Region.filter_events_gather (r : Region) (ds : List Diagnostic) :
    (r.gather ds).events.filter Event.isProbe = [] := by
  rw [List.filter_eq_nil_iff]
  intro event he
  obtain ⟨d, _, hd⟩ := List.mem_filterMap.mp he
  unfold skipped? at hd
  split at hd
  · obtain rfl := Option.some.inj hd
    nofun
  · cases hd

/-- The log has one event about each probe. -/
theorem Encounter.filter_logs (source : Source) (file : FileId) (n : Nat) (l : List Encounter) :
    (logs source file n l).filter Event.isProbe =
      (l.zipIdx n).map fun (e, k) => .resolvedProbe e.site.region
        (e.site.region.gather (source.answer k file)).selected.length := by
  induction l generalizing n with
  | nil => rfl
  | cons e rest ih =>
      rw [logs_cons, List.filter_append, ih, log, List.filter_append, Region.filter_events_gather]
      rfl

/-- The probes that a pass meets are those among the calls of its tour. -/
theorem Program.sites_encounters (marker : String) (p : Program) :
    (p.encounters marker).map Encounter.site =
      ((p.visits .rebuilding marker).map Visit.toCallSite).filterMap (·.site? marker) := by
  unfold Program.encounters Visit.encounters
  rw [List.map_filterMap, List.filterMap_map]
  congr 1
  funext v
  simp only [Visit.encounter?, CallSite.site?, Option.map_map]
  rfl

/-- The probes that a pass meets are those that are listed. -/
theorem Program.map_site_encounters (marker : String) (p : Program) :
    ((p.encounters marker).map Encounter.site).Perm (p.probes marker) := by
  have hv : ((p.visits .rebuilding marker).map Visit.toCallSite).Perm p.calls :=
    p.same_visits .rebuilding marker
  rw [p.sites_encounters]
  exact hv.filterMap _

/-- **Requests, log and bodies of a pass**, for any source, also one that changes its mind.

The pass meets every probe that is listed once.  It makes one request for each of them, always for
the file at hand.  The log is about the probes in the order in which they are met; it tells of the
`k`-th one how many diagnostics of the `k`-th answer its region holds, and in the end how many
probes there were and how many of them fail.  The bodies that stand in the program, in that order,
are those that the `k`-th answer and the region of the `k`-th probe determine. -/
theorem Program.resolve_encounters (marker : String) (source : Source) (file : FileId)
    (p : Program) :
    let done := p.resolve marker source file
    let met := p.encounters marker
    let log := Encounter.logs source file 0 met
    (met.map Encounter.site).Perm (p.probes marker) ∧
      done.requests = List.replicate met.length file ∧
      done.requests.length = (p.probes marker).length ∧
      done.events = log ++ [.resolvedProgram done.requests.length (log.countP Event.isFailure)] ∧
      done.events.filter Event.isProbe =
        met.zipIdx.map (fun (e, k) => .resolvedProbe e.site.region
          (e.site.region.gather (source.answer k file)).selected.length) ∧
      Visit.outerBodies marker (done.program.visits .rebuilding marker) =
        Encounter.outerBodies source file 0 met := by
  intro done met log
  have hsites := p.map_site_encounters marker
  have hstate : (p.mapCallsM (Pass.resolveCall marker source file) .start).2 = _ :=
    p.progress_resolve
  have hrequests : done.requests = List.replicate met.length file :=
    congrArg Progress.requests hstate
  have hevents : done.events =
      log ++ [Event.resolvedProgram done.requests.length (log.countP Event.isFailure)] := by
    have he : done.events = _ := congrArg
      (fun s : Progress => s.events ++ [Event.resolvedProgram s.probes s.failing]) hstate
    rw [he, hrequests, List.length_replicate]
  refine ⟨hsites, hrequests, ?_, hevents, ?_, p.outerBodies_resolve marker source file⟩
  · rw [hrequests, List.length_replicate, ← hsites.length_eq, List.length_map]
  · rw [hevents, List.filter_append, Encounter.filter_logs]
    exact List.append_nil _

end TypeProbe
