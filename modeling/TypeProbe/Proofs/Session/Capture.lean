import TypeProbe.Proofs.Evaluation.Incidents
import TypeProbe.Session

/-! # When errors capture a stack trace

Evaluations, expectations and whoever uses the library share one `Reporting`.  Capture is on at
first, and nothing turns it on again.

An **act** is a step that anyone may take, on any result, with any answer of a search for a
pattern.  What acts do to reporting and which errors they create is a list of incidents, in the
order in which they happen.

The main statement is `Acts.captures_reporting`: after any acts, capture is on exactly if none of
them suppresses it, and each error has captured a stack trace exactly if capture had not been
suppressed before.  The steps of a session are acts on its latest result
(`Session.reporting_run`). -/

namespace TypeProbe

/-! ### Expectations, whatever a search finds -/

/-- What is expected of a result, with what a search for its pattern finds: the messages in which
the pattern occurs, or nothing if it is no pattern. -/
inductive Demand where
  | toCompile
  | toFail
  | toFailWith (pattern : String) (search : Option (String → Bool))
  | toFailMatching (pattern : String) (search : String → Bool)

namespace Demand

/-- The verdict on errors of which one should match a pattern. -/
def matching (pattern : String) (search : String → Bool) : List RuntimeError → Verdict
  | [] => .error (.noMatchingFailures pattern)
  | first :: rest =>
      if (first :: rest).any fun e => search e.message then .ok ()
      else .error (.mismatch pattern first)

def verdict (errors : List RuntimeError) : Demand → Verdict
  | toCompile => match errors with
    | [] => .ok ()
    | first :: _ => .error (.didNotCompile first)
  | toFail => if errors.isEmpty then .error .noFailures else .ok ()
  | toFailWith pattern none => .error (.invalidPattern pattern)
  | toFailWith pattern (some search) => matching pattern search errors
  | toFailMatching pattern search => matching pattern search errors

end Demand

/-- The demand of an expectation, with the search of this library. -/
def Expectation.demand : Expectation → Demand
  | toCompile => .toCompile
  | toFail => .toFail
  | toFailWith text => .toFailWith text ((Pattern.ofText? text).map Pattern.occursIn)
  | toFailMatching pattern => .toFailMatching pattern.text pattern.occursIn

theorem Pattern.text_of_ofText? {text : String} {pattern : Pattern}
    (h : ofText? text = some pattern) : pattern.text = text := by
  obtain ⟨node, _, rfl⟩ := Option.map_eq_some_iff.mp h
  rfl

theorem Expectation.verdict_demand (expectation : Expectation) (errors : List RuntimeError) :
    expectation.demand.verdict errors = expectation.verdict errors := by
  have hmatching : ∀ pattern : Pattern,
      Demand.matching pattern.text pattern.occursIn errors = matching pattern errors := by
    intro pattern
    cases errors <;> rfl
  cases expectation with
  | toCompile | toFail => rfl
  | toFailMatching pattern => exact hmatching pattern
  | toFailWith text =>
      simp only [demand, verdict]
      cases hpattern : Pattern.ofText? text with
      | none => rfl
      | some pattern =>
          obtain rfl := Pattern.text_of_ofText? hpattern
          exact hmatching pattern

/-! ### Acts -/

/-- A step that shares reporting with all others.  A demand is made on whatever errors a result
holds. -/
inductive Act where
  /-- Evaluates a probe, and may make what it reports a result. -/
  | evaluate (probe : Func)
  /-- Creates an error. -/
  | create (message : String) (origin : Option TextRange)
  /-- Suppresses stack traces. -/
  | suppress
  /-- Checks a demand on a result. -/
  | expect (errors : List RuntimeError) (demand : Demand)

/-- A verdict turns capture off if it is a failure. -/
def Incidents.ofVerdict : Verdict → List Incident
  | .ok () => []
  | .error _ => [.suppressed]

theorem Incidents.replay_ofVerdict (r : Reporting) (verdict : Verdict) :
    r.replay (ofVerdict verdict) = r.settle verdict := by
  cases verdict <;> rfl

theorem Incidents.suppressed_mem_ofVerdict_iff {verdict : Verdict} :
    .suppressed ∈ ofVerdict verdict ↔ ∃ failure, verdict = .error failure := by
  cases verdict <;> simp [ofVerdict]

namespace Act

/-- How errors are reported after an act. -/
def reporting (r : Reporting) : Act → Reporting
  | evaluate f => (f.evaluate r).2
  | create .. => r
  | suppress => r.suppress
  | expect errors demand => r.settle (demand.verdict errors)

def incidents (r : Reporting) : Act → List Incident
  | evaluate f => f.incidents r
  | create message origin => [.created { RuntimeError.create r message with origin }]
  | suppress => [.suppressed]
  | expect errors demand => Incidents.ofVerdict (demand.verdict errors)

/-- The act suppresses stack traces: on demand, by a demand that is not met, or by a body that comes
to turning capture off. -/
def Suppresses : Act → Prop
  | evaluate f => f.body.WritesTraceLimit
  | create .. => False
  | suppress => True
  | expect errors demand => ∃ failure, demand.verdict errors = .error failure

variable (act : Act) (r : Reporting)

theorem reporting_eq : act.reporting r = r.replay (act.incidents r) := by
  cases act with
  | evaluate f => exact f.reporting_evaluate r
  | create message origin => rfl
  | suppress => rfl
  | expect errors demand => exact (Incidents.replay_ofVerdict r _).symm

theorem truthful_incidents : Incidents.Truthful r (act.incidents r) := by
  cases act with
  | evaluate f => exact f.truthful_incidents r
  | create message origin => exact ⟨rfl, trivial⟩
  | suppress => trivial
  | expect errors demand =>
      simp only [incidents]
      cases demand.verdict errors <;> trivial

theorem suppressed_mem_incidents_iff : .suppressed ∈ act.incidents r ↔ act.Suppresses := by
  cases act with
  | evaluate f => exact f.suppressed_mem_incidents_iff r
  | create message origin => exact iff_of_false (by simp [incidents]) id
  | suppress => exact iff_of_true (List.mem_singleton_self _) trivial
  | expect errors demand => exact Incidents.suppressed_mem_ofVerdict_iff

end Act

/-! ### Runs of acts -/

namespace Acts

/-- How errors are reported after acts in turn. -/
def reporting (r : Reporting) (acts : List Act) : Reporting := acts.foldl Act.reporting r

def incidents (r : Reporting) : List Act → List Incident
  | [] => []
  | act :: rest => act.incidents r ++ incidents (act.reporting r) rest

variable (r : Reporting) (acts : List Act)

theorem reporting_eq : reporting r acts = r.replay (incidents r acts) := by
  induction acts generalizing r with
  | nil => rfl
  | cons act rest ih =>
      have hcons : reporting r (act :: rest) = reporting (act.reporting r) rest := rfl
      rw [hcons, ih, incidents, Incidents.replay_append, Act.reporting_eq]

theorem truthful_incidents : Incidents.Truthful r (incidents r acts) := by
  induction acts generalizing r with
  | nil => trivial
  | cons act rest ih =>
      rw [incidents, Incidents.truthful_append, ← Act.reporting_eq]
      exact ⟨act.truthful_incidents r, ih _⟩

theorem suppressed_mem_incidents_iff :
    .suppressed ∈ incidents r acts ↔ ∃ act ∈ acts, act.Suppresses := by
  induction acts generalizing r with
  | nil => simp [incidents]
  | cons act rest ih =>
      rw [incidents, List.mem_append, act.suppressed_mem_incidents_iff, ih]
      simp

/-- After acts, capture is on exactly if it was on before and none of them suppresses it. -/
theorem captures_eq : (reporting r acts).captures = true ↔
    r.captures = true ∧ ∀ act ∈ acts, ¬act.Suppresses := by
  rw [reporting_eq, Incidents.captures_replay, suppressed_mem_incidents_iff]
  simp

variable {r}

theorem incidents_append (acts others : List Act) :
    incidents r (acts ++ others) = incidents r acts ++ incidents (reporting r acts) others := by
  induction acts generalizing r with
  | nil => rfl
  | cons act rest ih =>
      rw [List.cons_append, incidents, incidents, ih, List.append_assoc]
      rfl

theorem reporting_append (acts others : List Act) :
    reporting r (acts ++ others) = reporting (reporting r acts) others := List.foldl_append

theorem reporting_create (messages : List String) :
    reporting r (messages.map (.create · none)) = r := by
  induction messages with
  | nil => rfl
  | cons message rest ih => exact ih

theorem incidents_create (messages : List String) :
    incidents r (messages.map (.create · none)) =
      messages.map fun message => .created (RuntimeError.create r message) := by
  induction messages with
  | nil => rfl
  | cons message rest ih => exact congrArg (_ :: ·) ih

end Acts

/-! ### Sessions -/

/-- The errors that an answer tells of. -/
def Answer.errors : Answer → List RuntimeError
  | .outcome (.ok reported) => reported.errors
  | .result (.ok latest) => latest
  | .created error => [error]
  | .outcome (.error _) | .result (.error _) | .done | .verdict _ => []

namespace Session

/-- What a step of a session does, as acts. -/
def stepActs (s : Session) : SessionStep → List Act
  | .evaluate f | .probe f => [.evaluate f]
  | .result messages => messages.map (.create · none)
  | .create message origin => [.create message origin]
  | .suppress => [.suppress]
  | .expect expectation => [.expect s.errors expectation.demand]

/-- What the steps of a session do, as acts. -/
def acts (s : Session) : List SessionStep → List Act
  | [] => []
  | step :: rest => s.stepActs step ++ acts (s.step step).1 rest

theorem reporting_step (s : Session) (step : SessionStep) :
    (s.step step).1.reporting = Acts.reporting s.reporting (s.stepActs step) := by
  cases step with
  | evaluate f => rfl
  | probe f =>
      have hacts : Acts.reporting s.reporting (s.stepActs (.probe f)) =
          (f.evaluate s.reporting).2 := rfl
      rw [hacts, Session.step]
      split
      · next hf => rw [hf]
      · next hf => rw [hf]
  | result messages => exact (Acts.reporting_create messages).symm
  | create message origin | suppress => rfl
  | expect expectation =>
      have hacts : Acts.reporting s.reporting (s.stepActs (.expect expectation)) =
          s.reporting.settle (expectation.demand.verdict s.errors) := rfl
      rw [hacts, expectation.verdict_demand]
      rfl

/-- Every error that an answer tells of is created on the way to it. -/
theorem created_of_mem_step {s : Session} {step : SessionStep} {error : RuntimeError}
    (h : error ∈ (s.step step).2.errors) :
    .created error ∈ Acts.incidents s.reporting (s.stepActs step) := by
  have hevaluate : ∀ f outcome, (f.evaluate s.reporting).1 = .ok outcome →
      error ∈ outcome.errors → .created error ∈ Acts.incidents s.reporting [.evaluate f] := by
    intro f outcome hf herror
    have hmem := (Func.errors_evaluate hf).mem_iff.mp herror
    exact List.mem_append_left _ (Incidents.mem_filterMap_error?.mp hmem)
  cases step with
  | evaluate f =>
      cases hf : (f.evaluate s.reporting).1 with
      | ok outcome =>
          simp only [Session.step, hf] at h
          exact hevaluate f outcome hf h
      | error failure =>
          simp only [Session.step, hf] at h
          cases h
  | probe f =>
      rw [Session.step] at h
      split at h
      · next outcome _ hf => exact hevaluate f outcome (congrArg Prod.fst hf) h
      · cases h
  | result messages =>
      obtain ⟨message, hmessage, rfl⟩ := List.mem_map.mp h
      show _ ∈ Acts.incidents s.reporting (messages.map (.create · none))
      rw [Acts.incidents_create]
      exact List.mem_map.mpr ⟨message, hmessage, rfl⟩
  | create message origin =>
      obtain rfl := List.mem_singleton.mp h
      exact List.mem_singleton_self _
  | suppress | expect => cases h

theorem reporting_run (s : Session) (steps : List SessionStep) :
    (s.run steps).1.reporting = Acts.reporting s.reporting (s.acts steps) := by
  induction steps generalizing s with
  | nil => rfl
  | cons step rest ih =>
      have hrun : (s.run (step :: rest)).1 = ((s.step step).1.run rest).1 := rfl
      rw [hrun, ih, acts, Acts.reporting_append, reporting_step]

theorem created_of_mem_run {s : Session} {steps : List SessionStep} {answer : Answer}
    {error : RuntimeError} (ha : answer ∈ (s.run steps).2) (he : error ∈ answer.errors) :
    .created error ∈ Acts.incidents s.reporting (s.acts steps) := by
  induction steps generalizing s with
  | nil => cases ha
  | cons step rest ih =>
      have hrun : (s.run (step :: rest)).2 = (s.step step).2 :: ((s.step step).1.run rest).2 := rfl
      rw [acts, Acts.incidents_append, ← reporting_step, List.mem_append]
      rw [hrun] at ha
      cases ha with
      | head => exact .inl (created_of_mem_step he)
      | tail _ ha => exact .inr (ih ha)

end Session

/-! ### The switch over whole runs -/

/-- **When errors capture a stack trace.**  After any acts that start with fresh reporting, capture
is on exactly if none of them suppresses it; reporting is what the incidents make of it in turn.

Every error that the acts create, also one that an evaluation gives up again, has captured a stack
trace exactly if capture had not been suppressed before; the errors that one evaluation creates
agree, and they are those that it reports.  A session is an instance: its reporting is that of its
acts, and the errors that its answers tell of are created by them. -/
theorem Acts.captures_reporting (acts : List Act) :
    ((reporting .fresh acts).captures = true ↔ ∀ act ∈ acts, ¬act.Suppresses) ∧
      reporting .fresh acts = Reporting.fresh.replay (incidents .fresh acts) ∧
      (∀ before error later, incidents .fresh acts = before ++ .created error :: later →
        (error.hasStack = true ↔ .suppressed ∉ before)) ∧
      (∀ f : Func, let r := reporting .fresh acts
        (∀ error, .created error ∈ f.incidents r →
          error.hasStack = (f.evaluate r).2.captures) ∧
        ∀ outcome, (f.evaluate r).1 = .ok outcome →
          outcome.errors.Perm ((f.incidents r).filterMap Incident.error?)) ∧
      ∀ steps : List SessionStep, let s := Session.start .fresh
        (s.run steps).1.reporting = reporting .fresh (s.acts steps) ∧
          ∀ answer ∈ (s.run steps).2, ∀ error ∈ answer.errors,
            .created error ∈ incidents .fresh (s.acts steps) := by
  have hfresh : Reporting.fresh.captures = true := Reporting.captures_fresh
  refine ⟨?_, reporting_eq .fresh acts, ?_, ?_, ?_⟩
  · simpa only [hfresh, true_and] using captures_eq .fresh acts
  · intro before error later h
    simpa only [hfresh, true_and] using (truthful_incidents .fresh acts).hasStack_iff h
  · intro f r
    exact ⟨fun _ => Func.hasStack_of_created_mem, fun _ => Func.errors_evaluate⟩
  · intro steps s
    exact ⟨s.reporting_run steps, fun _ ha _ he => Session.created_of_mem_run ha he⟩

end TypeProbe
