import Mathlib.Data.List.Perm.Basic
import TypeProbe.Evaluation

/-! # What an evaluation does to reporting

What concerns reporting are **incidents** (`Incident`): capture is turned off, or an error is
created.  Replaying incidents in turn tells how errors are reported after them
(`Reporting.replay`).

The incidents of an evaluation are those of the statements that it comes to, also if it fails after
them.

* They turn capture off exactly if the evaluation comes to a statement `Error.stackTraceLimit = 0`
  (`Stmts.suppressed_mem_incidents_iff`).
* The errors come last, and so they agree on whether they have captured a stack trace
  (`Stmts.hasStack_of_created_mem`).
* What an evaluation reports are the errors that it has created (`Stmts.errors_evaluate`). -/

namespace TypeProbe

/-! ### Statements that turn capture off -/

/-- The statement `Error.stackTraceLimit = 0`, with a zero of either sign. -/
inductive Stmt.IsTraceWrite : Stmt → Prop where
  | intro {a b c d e : Anchor} {optional : Bool} {zero : Binary64} (h : zero.isZero = true) :
      IsTraceWrite (.expr a (.binary b .assignment
        (.member c optional (.ident d Finding.errorName) Finding.traceLimitName)
        (.number e zero)))

theorem Expr.isTraceLimit_iff {e : Expr} :
    e.isTraceLimit = true ↔ ∃ a optional b,
      e = .member a optional (.ident b Finding.errorName) Finding.traceLimitName := by
  constructor
  · intro h
    cases e with
    | member a optional object property =>
        obtain ⟨hobject, hproperty⟩ := Bool.and_eq_true_iff.mp h
        obtain rfl : property = Finding.traceLimitName := beq_iff_eq.mp hproperty
        obtain ⟨b, rfl⟩ := isIdent_iff.mp hobject
        exact ⟨a, optional, b, rfl⟩
    | _ => cases h
  · rintro ⟨a, optional, b, rfl⟩
    simp [isTraceLimit, isIdent]

theorem Expr.isZero_iff {e : Expr} :
    e.isZero = true ↔ ∃ a zero, e = .number a zero ∧ zero.isZero = true := by
  constructor
  · intro h
    cases e with
    | number a zero => exact ⟨a, zero, rfl, h⟩
    | _ => cases h
  · rintro ⟨a, zero, rfl, h⟩
    exact h

theorem Expr.acceptTraceWrite_eq_ok_iff {e : Expr} :
    e.acceptTraceWrite = .ok () ↔ ∃ a target value, e = .binary a .assignment target value ∧
      target.isTraceLimit = true ∧ value.isZero = true := by
  constructor
  · intro h
    cases e with
    | binary a op target value =>
        simp only [acceptTraceWrite] at h
        split_ifs at h with hop htarget hvalue
        obtain rfl := not_not.mp hop
        exact ⟨a, target, value, rfl, by simpa using htarget, by simpa using hvalue⟩
    | _ => cases h
  · rintro ⟨a, target, value, rfl, htarget, hvalue⟩
    simp [acceptTraceWrite, htarget, hvalue]

/-- An evaluation accepts these statements and no other expression statements. -/
theorem Stmt.isTraceWrite_expr_iff {a : Anchor} {value : Expr} :
    (Stmt.expr a value).IsTraceWrite ↔ value.acceptTraceWrite = .ok () := by
  rw [Expr.acceptTraceWrite_eq_ok_iff]
  constructor
  · rintro ⟨hzero⟩
    exact ⟨_, _, _, rfl, Expr.isTraceLimit_iff.mpr ⟨_, _, _, rfl⟩, hzero⟩
  · rintro ⟨b, target, value, rfl, htarget, hvalue⟩
    obtain ⟨c, optional, d, rfl⟩ := Expr.isTraceLimit_iff.mp htarget
    obtain ⟨e, zero, rfl, hzero⟩ := Expr.isZero_iff.mp hvalue
    exact .intro hzero

/-- Running the statements comes to one that turns capture off: what stands before it lets the
evaluation go on. -/
def Stmts.WritesTraceLimit (statements : List Stmt) : Prop :=
  ∃ before write after, statements = before ++ write :: after ∧ write.IsTraceWrite ∧
    ∀ s ∈ before, s.isEmpty = true ∨ s.IsTraceWrite

/-- Running the body comes to a statement that turns capture off. -/
def Body.WritesTraceLimit : Body → Prop
  | .block _ statements => Stmts.WritesTraceLimit statements
  | .expr .. => False

namespace Stmts

theorem not_writesTraceLimit_nil : ¬WritesTraceLimit [] := by
  rintro ⟨before, write, after, h, _⟩
  exact absurd h.symm (List.append_ne_nil_of_right_ne_nil before (List.cons_ne_nil write after))

theorem writesTraceLimit_cons {s : Stmt} {rest : List Stmt} :
    WritesTraceLimit (s :: rest) ↔
      s.IsTraceWrite ∨ s.isEmpty = true ∧ WritesTraceLimit rest := by
  constructor
  · rintro ⟨before, write, after, h, hwrite, hbefore⟩
    cases before with
    | nil =>
        obtain ⟨rfl, rfl⟩ := List.cons.inj h
        exact .inl hwrite
    | cons first before =>
        obtain ⟨rfl, rfl⟩ := List.cons.inj h
        cases hbefore s List.mem_cons_self with
        | inl hempty =>
            have hrest := fun t ht => hbefore t (List.mem_cons_of_mem s ht)
            exact .inr ⟨hempty, before, write, after, rfl, hwrite, hrest⟩
        | inr hs => exact .inl hs
  · rintro (hs | ⟨hempty, before, write, after, rfl, hwrite, hbefore⟩)
    · exact ⟨[], s, rest, rfl, hs, nofun⟩
    · exact ⟨s :: before, write, after, rfl, hwrite,
        List.forall_mem_cons.mpr ⟨.inl hempty, hbefore⟩⟩

/-- A statement that is no expression and no lone semicolon ends the evaluation. -/
theorem not_writesTraceLimit_cons {s : Stmt} {rest : List Stmt} (hempty : s.isEmpty = false)
    (hexpr : ∀ a value, s ≠ .expr a value) : ¬WritesTraceLimit (s :: rest) := by
  rw [writesTraceLimit_cons, hempty]
  rintro (hwrite | ⟨h, _⟩)
  · cases hwrite with
    | intro => exact hexpr _ _ rfl
  · cases h

end Stmts

/-! ### Incidents -/

/-- Something that concerns reporting. -/
inductive Incident where
  /-- Capture is turned off. -/
  | suppressed
  /-- An error is created. -/
  | created (error : RuntimeError)

/-- How errors are reported after an incident. -/
def Reporting.next (r : Reporting) : Incident → Reporting
  | .suppressed => r.suppress
  | .created _ => r

/-- How errors are reported after incidents in turn. -/
def Reporting.replay (r : Reporting) (incidents : List Incident) : Reporting :=
  incidents.foldl Reporting.next r

/-- The error that an incident creates. -/
def Incident.error? : Incident → Option RuntimeError
  | suppressed => none
  | created error => some error

namespace Incidents

/-- Each error has captured a stack trace exactly if capture was on when it was created. -/
def Truthful : Reporting → List Incident → Prop
  | _, [] => True
  | r, .suppressed :: rest => Truthful r.suppress rest
  | r, .created error :: rest => error.hasStack = r.captures ∧ Truthful r rest

theorem replay_append (r : Reporting) (l m : List Incident) :
    r.replay (l ++ m) = (r.replay l).replay m := List.foldl_append

theorem replay_created (r : Reporting) (errors : List RuntimeError) :
    r.replay (errors.map .created) = r := by
  induction errors with
  | nil => rfl
  | cons error rest ih => exact ih

/-- Capture is never turned on again. -/
theorem captures_replay (r : Reporting) (l : List Incident) :
    (r.replay l).captures = true ↔ r.captures = true ∧ .suppressed ∉ l := by
  induction l generalizing r with
  | nil => simp [Reporting.replay]
  | cons incident rest ih =>
      have hnext : r.replay (incident :: rest) = (r.next incident).replay rest := rfl
      rw [hnext, ih, List.mem_cons]
      cases incident with
      | suppressed => simp [Reporting.next, Reporting.captures_suppress]
      | created error => simp [Reporting.next]

theorem truthful_append {r : Reporting} {l m : List Incident} :
    Truthful r (l ++ m) ↔ Truthful r l ∧ Truthful (r.replay l) m := by
  induction l generalizing r with
  | nil => exact ⟨fun h => ⟨trivial, h⟩, fun h => h.2⟩
  | cons incident rest ih =>
      cases incident with
      | suppressed => exact ih
      | created error => exact (and_congr_right fun _ => ih).trans and_assoc.symm

theorem truthful_created {r : Reporting} {errors : List RuntimeError}
    (h : ∀ error ∈ errors, error.hasStack = r.captures) : Truthful r (errors.map .created) := by
  induction errors with
  | nil => trivial
  | cons error rest ih =>
      exact ⟨h error List.mem_cons_self, ih fun e he => h e (List.mem_cons_of_mem error he)⟩

/-- An error of truthful incidents tells whether capture had been suppressed before it. -/
theorem Truthful.hasStack_iff {r : Reporting} {l before later : List Incident}
    {error : RuntimeError} (h : Truthful r l) (hl : l = before ++ .created error :: later) :
    error.hasStack = true ↔ r.captures = true ∧ .suppressed ∉ before := by
  rw [hl, truthful_append] at h
  rw [h.2.1, captures_replay]

theorem mem_filterMap_error? {l : List Incident} {error : RuntimeError} :
    error ∈ l.filterMap Incident.error? ↔ .created error ∈ l := by
  rw [List.mem_filterMap]
  constructor
  · rintro ⟨incident, hmem, herror⟩
    cases incident with
    | suppressed => cases herror
    | created created =>
        obtain rfl := Option.some.inj herror
        exact hmem
  · intro h
    exact ⟨_, h, rfl⟩

theorem filterMap_error?_created (errors : List RuntimeError) :
    (errors.map Incident.created).filterMap Incident.error? = errors := by
  rw [List.filterMap_map]
  exact List.filterMap_some

end Incidents

/-! ### The incidents of an evaluation -/

/-- The errors that the elements of the list at `loc` create, up to the first that is none. -/
def Elements.created (r : Reporting) (loc : Loc) : List Element → List RuntimeError
  | [] => []
  | element :: rest =>
      match element.asError r loc with
      | .ok error => error :: Elements.created r loc rest
      | .error _ => []

/-- The errors that an expression creates when it is evaluated as a list of errors. -/
def Expr.createdAsErrors (r : Reporting) : Expr → List RuntimeError
  | .array a elements => Elements.created r a.loc elements
  | _ => []

/-- The errors that an expression creates when it is thrown. -/
def Expr.createdThrown (r : Reporting) : Expr → List RuntimeError
  | .index _ _ object _ => object.createdAsErrors r
  | e => (e.asError r).toOption.toList

/-- The incidents of evaluating statements. -/
def Stmts.incidents (r : Reporting) : List Stmt → List Incident
  | [] => []
  | .empty _ :: rest => Stmts.incidents r rest
  | .expr _ value :: rest =>
      match value.acceptTraceWrite with
      | .ok () => .suppressed :: Stmts.incidents r.suppress rest
      | .error _ => []
  | .ret _ (some value) :: _ => (value.createdAsErrors r).map .created
  | .throw _ value :: _ => (value.createdThrown r).map .created
  | _ :: _ => []

/-- The incidents of evaluating a probed function. -/
def Func.incidents (r : Reporting) (f : Func) : List Incident :=
  match f.body with
  | .block _ statements => Stmts.incidents r statements
  | .expr .. => []

section evaluation

variable {r : Reporting}

theorem Expr.hasStack_of_asError {e : Expr} {error : RuntimeError} (h : e.asError r = .ok error) :
    error.hasStack = r.captures := by
  unfold asError at h
  split at h
  · split at h
    · obtain rfl := Except.ok.inj h
      rfl
    · cases h
  · cases h
  · cases h

theorem Elements.hasStack_of_mem_created {loc : Loc} {elements : List Element} :
    ∀ error ∈ Elements.created r loc elements, error.hasStack = r.captures := by
  induction elements with
  | nil => exact List.forall_mem_nil _
  | cons element rest ih =>
      unfold created
      split
      · next error h =>
          refine List.forall_mem_cons.mpr ⟨?_, ih⟩
          cases element with
          | single value => exact Expr.hasStack_of_asError h
          | rest value | hole => cases h
      · exact List.forall_mem_nil _

theorem Expr.hasStack_of_mem_createdAsErrors {e : Expr} :
    ∀ error ∈ e.createdAsErrors r, error.hasStack = r.captures := by
  cases e with
  | array a elements => exact Elements.hasStack_of_mem_created
  | _ => exact List.forall_mem_nil _

theorem Expr.hasStack_of_mem_createdThrown {e : Expr} :
    ∀ error ∈ e.createdThrown r, error.hasStack = r.captures := by
  unfold createdThrown
  split
  · exact Expr.hasStack_of_mem_createdAsErrors
  · intro error herror
    cases h : e.asError r with
    | ok created =>
        rw [h] at herror
        obtain rfl := List.mem_singleton.mp herror
        exact Expr.hasStack_of_asError h
    | error failure =>
        rw [h] at herror
        cases herror

/-- A list of errors is made of what its elements create. -/
theorem Elements.created_of_mapM {loc : Loc} {elements : List Element}
    {errors : List RuntimeError} (h : elements.mapM (Element.asError r loc) = .ok errors) :
    Elements.created r loc elements = errors := by
  induction elements generalizing errors with
  | nil =>
      obtain rfl := Except.ok.inj h
      rfl
  | cons element rest ih =>
      rw [List.mapM_cons] at h
      unfold created
      cases hfirst : element.asError r loc with
      | error failure =>
          rw [hfirst] at h
          cases h
      | ok first =>
          rw [hfirst] at h
          cases hrest : rest.mapM (Element.asError r loc) with
          | error failure =>
              rw [hrest] at h
              cases h
          | ok others =>
              rw [hrest] at h
              obtain rfl := Except.ok.inj h
              simp only [ih hrest]

theorem Expr.createdAsErrors_of_asErrors {e : Expr} {errors : List RuntimeError}
    (h : e.asErrors r = .ok errors) : e.createdAsErrors r = errors := by
  cases e with
  | array a elements => exact Elements.created_of_mapM h
  | _ => cases h

theorem Expr.createdThrown_of_asError {e : Expr} {errors : List RuntimeError}
    (h : (e.asError r).map ([·]) = .ok errors) : (e.asError r).toOption.toList = errors := by
  cases he : e.asError r with
  | ok error =>
      rw [he] at h
      exact Except.ok.inj h
  | error failure =>
      rw [he] at h
      cases h

/-- What is reported by throwing is what has been created, the thrown error first. -/
theorem Expr.createdThrown_of_thrown {e : Expr} {errors : List RuntimeError}
    (h : e.thrown r = .ok errors) : errors.Perm (e.createdThrown r) := by
  unfold thrown at h
  split at h
  · next object key =>
      show errors.Perm (object.createdAsErrors r)
      cases hobject : object.asErrors r with
      | error failure =>
          rw [hobject] at h
          cases h
      | ok created =>
          rw [hobject] at h
          rw [Expr.createdAsErrors_of_asErrors hobject]
          cases hkey : key.asIndex? with
          | none =>
              rw [hkey] at h
              cases h
          | some k =>
              rw [hkey] at h
              change (if hk : min k largestIndex < created.length then _ else _) = _ at h
              split at h
              · next hk =>
                  obtain rfl := Except.ok.inj h
                  exact List.getElem_cons_eraseIdx_perm hk
              · cases h
  · next hindex =>
      have hcreated : e.createdThrown r = (e.asError r).toOption.toList := by
        unfold createdThrown
        split
        · exact absurd rfl (hindex _ _ _ _)
        · rfl
      rw [hcreated]
      exact .of_eq (Expr.createdThrown_of_asError h).symm

end evaluation

/-! ### What an evaluation does to reporting -/

/-- Evaluating a function replays its incidents. -/
theorem Stmts.reporting_evaluate (statements : List Stmt) (r : Reporting) :
    (Stmts.evaluate r statements).2 = r.replay (Stmts.incidents r statements) := by
  induction statements generalizing r with
  | nil => rfl
  | cons s rest ih =>
      cases s with
      | empty a => exact ih r
      | expr a value =>
          simp only [Stmts.evaluate, Stmts.incidents]
          cases value.acceptTraceWrite with
          | ok => exact ih r.suppress
          | error failure => rfl
      | ret a value =>
          cases value with
          | none => rfl
          | some value => exact (Incidents.replay_created r _).symm
      | throw a value => exact (Incidents.replay_created r _).symm
      | _ => rfl

theorem Stmts.truthful_incidents (statements : List Stmt) (r : Reporting) :
    Incidents.Truthful r (Stmts.incidents r statements) := by
  induction statements generalizing r with
  | nil => trivial
  | cons s rest ih =>
      cases s with
      | empty a => exact ih r
      | expr a value =>
          simp only [Stmts.incidents]
          cases value.acceptTraceWrite with
          | ok => exact ih r.suppress
          | error failure => trivial
      | ret a value =>
          cases value with
          | none => trivial
          | some value => exact Incidents.truthful_created Expr.hasStack_of_mem_createdAsErrors
      | throw a value => exact Incidents.truthful_created Expr.hasStack_of_mem_createdThrown
      | _ => trivial

/-- The incidents turn capture off exactly if the evaluation comes to a statement that does. -/
theorem Stmts.suppressed_mem_incidents_iff (statements : List Stmt) (r : Reporting) :
    .suppressed ∈ Stmts.incidents r statements ↔ Stmts.WritesTraceLimit statements := by
  have hcreated : ∀ errors : List RuntimeError, Incident.suppressed ∉ errors.map .created := by
    simp
  induction statements generalizing r with
  | nil => exact iff_of_false List.not_mem_nil Stmts.not_writesTraceLimit_nil
  | cons s rest ih =>
      cases s with
      | empty a =>
          have hwrite : ¬(Stmt.empty a).IsTraceWrite := fun h => nomatch h
          rw [writesTraceLimit_cons]
          simpa [incidents, hwrite, Stmt.isEmpty] using ih r
      | expr a value =>
          rw [writesTraceLimit_cons, Stmt.isTraceWrite_expr_iff]
          simp only [incidents]
          cases value.acceptTraceWrite with
          | ok => simp
          | error failure => simp [Stmt.isEmpty]
      | ret a value =>
          refine iff_of_false ?_ (not_writesTraceLimit_cons rfl (by simp))
          cases value with
          | none => exact List.not_mem_nil
          | some value => exact hcreated _
      | throw a value => exact iff_of_false (hcreated _) (not_writesTraceLimit_cons rfl (by simp))
      | _ => exact iff_of_false List.not_mem_nil (not_writesTraceLimit_cons rfl (by simp))

/-- All errors that an evaluation creates agree: they come last. -/
theorem Stmts.hasStack_of_created_mem {statements : List Stmt} {r : Reporting}
    {error : RuntimeError} (h : .created error ∈ Stmts.incidents r statements) :
    error.hasStack = (Stmts.evaluate r statements).2.captures := by
  induction statements generalizing r with
  | nil => cases h
  | cons s rest ih =>
      cases s with
      | empty a => exact ih h
      | expr a value =>
          simp only [Stmts.evaluate, Stmts.incidents] at h ⊢
          cases hvalue : value.acceptTraceWrite with
          | ok =>
              rw [hvalue] at h
              exact ih ((List.mem_cons.mp h).resolve_left (by simp))
          | error failure =>
              rw [hvalue] at h
              cases h
      | ret a value =>
          cases value with
          | none => cases h
          | some value =>
              obtain ⟨_, hmem, ⟨⟩⟩ := List.mem_map.mp h
              exact Expr.hasStack_of_mem_createdAsErrors error hmem
      | throw a value =>
          obtain ⟨_, hmem, ⟨⟩⟩ := List.mem_map.mp h
          exact Expr.hasStack_of_mem_createdThrown error hmem
      | _ => cases h

/-- What an evaluation reports is what it has created. -/
theorem Stmts.errors_evaluate {statements : List Stmt} {r : Reporting} {outcome : Outcome}
    (h : (Stmts.evaluate r statements).1 = .ok outcome) :
    outcome.errors.Perm ((Stmts.incidents r statements).filterMap Incident.error?) := by
  induction statements generalizing r with
  | nil =>
      obtain rfl := Except.ok.inj h
      exact .refl []
  | cons s rest ih =>
      cases s with
      | empty a => exact ih h
      | expr a value =>
          simp only [Stmts.evaluate, Stmts.incidents] at h ⊢
          cases hvalue : value.acceptTraceWrite with
          | ok =>
              rw [hvalue] at h
              exact ih h
          | error failure =>
              rw [hvalue] at h
              cases h
      | ret a value =>
          cases value with
          | none =>
              obtain rfl := Except.ok.inj h
              exact .refl []
          | some value =>
              simp only [Stmts.evaluate, Stmts.incidents] at h ⊢
              cases hvalue : value.asErrors r with
              | error failure =>
                  rw [hvalue] at h
                  cases h
              | ok errors =>
                  rw [hvalue] at h
                  obtain rfl := Except.ok.inj h
                  rw [Outcome.errors_ofErrors, Incidents.filterMap_error?_created,
                    Expr.createdAsErrors_of_asErrors hvalue]
      | throw a value =>
          simp only [Stmts.evaluate, Stmts.incidents] at h ⊢
          cases hvalue : value.thrown r with
          | error failure =>
              rw [hvalue] at h
              cases h
          | ok errors =>
              rw [hvalue] at h
              obtain rfl := Except.ok.inj h
              rw [Incidents.filterMap_error?_created]
              exact Expr.createdThrown_of_thrown hvalue
      | _ => cases h

namespace Func

variable (f : Func) (r : Reporting)

theorem reporting_evaluate : (f.evaluate r).2 = r.replay (f.incidents r) := by
  unfold evaluate incidents
  cases f.body with
  | block spot statements => exact Stmts.reporting_evaluate statements r
  | expr spot value => rfl

theorem truthful_incidents : Incidents.Truthful r (f.incidents r) := by
  unfold incidents
  cases f.body with
  | block spot statements => exact Stmts.truthful_incidents statements r
  | expr spot value => trivial

theorem suppressed_mem_incidents_iff :
    .suppressed ∈ f.incidents r ↔ f.body.WritesTraceLimit := by
  unfold incidents
  cases f.body with
  | block spot statements => exact Stmts.suppressed_mem_incidents_iff statements r
  | expr spot value => exact iff_of_false List.not_mem_nil id

variable {f r}

theorem hasStack_of_created_mem {error : RuntimeError} (h : .created error ∈ f.incidents r) :
    error.hasStack = (f.evaluate r).2.captures := by
  unfold incidents at h
  unfold evaluate
  cases hbody : f.body with
  | block spot statements =>
      rw [hbody] at h
      exact Stmts.hasStack_of_created_mem h
  | expr spot value =>
      rw [hbody] at h
      cases h

theorem errors_evaluate {outcome : Outcome}
    (h : (f.evaluate r).1 = .ok outcome) :
    outcome.errors.Perm ((f.incidents r).filterMap Incident.error?) := by
  unfold evaluate at h
  unfold incidents
  cases hbody : f.body with
  | block spot statements =>
      rw [hbody] at h
      exact Stmts.errors_evaluate h
  | expr spot value =>
      rw [hbody] at h
      cases h

end Func

end TypeProbe
