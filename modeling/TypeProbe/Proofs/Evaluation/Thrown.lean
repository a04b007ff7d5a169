import TypeProbe.Proofs.Evaluation.Incidents
import TypeProbe.Proofs.Number.Value

/-! # What a probe throws

A probe that throws `[e, …][k]` reports all errors of the list, the one at `k` first
(`Func.evaluate_throws`).  The index is a number literal, and so it may be any number: it has to be
a natural one, of either sign if it is zero, and less than the length of the list.

A probe that fails reports at least one error (`Stmts.evaluate_ne_fail_nil`): an empty list that is
returned is no failure, and one that is thrown from has no element to throw. -/

namespace TypeProbe

/-! ### Constructions -/

/-- The error that a construction `new Error(..)` creates: its message is that of the only argument,
and its origin that of the node. -/
inductive Expr.Creates (captures : Bool) : Expr → RuntimeError → Prop where
  | silent {a b c : Anchor} {optional : Bool} :
      Creates captures (.unary a .new (.call b ⟨optional, .ident c Finding.errorName, []⟩))
        ⟨"", a.origin, captures⟩
  | saying {a b c d : Anchor} {optional : Bool} {spot : Spot} {message : String} :
      Creates captures
        (.unary a .new
          (.call b ⟨optional, .ident c Finding.errorName, [⟨spot, false, .string d message⟩]⟩))
        ⟨message, a.origin, captures⟩

theorem Expr.stringLiteral?_eq_some_iff {e : Expr} {text : String} :
    e.stringLiteral? = some text ↔ ∃ a, e = .string a text := by
  cases e <;> simp [stringLiteral?]

theorem Call.errorMessage?_eq_some_iff {c : Call} {message : String} :
    c.errorMessage? = some message ↔ ∃ optional a,
      (c = ⟨optional, .ident a Finding.errorName, []⟩ ∧ message = "") ∨
        ∃ spot b,
          c = ⟨optional, .ident a Finding.errorName, [⟨spot, false, .string b message⟩]⟩ := by
  constructor
  · intro h
    obtain ⟨optional, callee, arguments⟩ := c
    unfold errorMessage? at h
    split at h
    · next hcallee =>
        obtain ⟨a, rfl : callee = _⟩ := Expr.isIdent_iff.mp hcallee
        split at h
        · next harguments =>
            obtain rfl : arguments = [] := List.isEmpty_iff.mp harguments
            exact ⟨optional, a, .inl ⟨rfl, (Option.some.inj h).symm⟩⟩
        · obtain ⟨value, hvalue, htext⟩ := Option.bind_eq_some_iff.mp h
          obtain ⟨spot, rfl : arguments = _⟩ := soleArgument?_eq_some_iff.mp hvalue
          obtain ⟨b, rfl⟩ := Expr.stringLiteral?_eq_some_iff.mp htext
          exact ⟨optional, a, .inr ⟨spot, b, rfl⟩⟩
    · cases h
  · rintro ⟨optional, a, ⟨rfl, rfl⟩ | ⟨spot, b, rfl⟩⟩ <;>
      simp [errorMessage?, Expr.isIdent, soleArgument?, Expr.stringLiteral?]

section errors

variable {r : Reporting} {e : Expr} {error : RuntimeError} {es : List Expr}
  {errors : List RuntimeError}

/-- An evaluation accepts these constructions as errors, and nothing else. -/
theorem Expr.asError_eq_ok_iff : e.asError r = .ok error ↔ e.Creates r.captures error := by
  constructor
  · intro h
    unfold asError at h
    split at h
    · next c =>
        split at h
        · next message hmessage =>
            obtain rfl := Except.ok.inj h
            obtain ⟨optional, a, ⟨rfl, rfl⟩ | ⟨spot, b, rfl⟩⟩ :=
              Call.errorMessage?_eq_some_iff.mp hmessage
            · exact .silent
            · exact .saying
        · cases h
    · cases h
    · cases h
  · intro h
    cases h with
    | silent | saying =>
        simp [asError, Call.errorMessage?, isIdent, Call.soleArgument?, stringLiteral?,
          RuntimeError.create]

/-- A list of constructions creates the errors of its elements. -/
theorem Expr.asErrors_array (h : List.Forall₂ (Creates r.captures) es errors) (a : Anchor) :
    (array a (es.map .single)).asErrors r = .ok errors := by
  show (es.map Element.single).mapM (Element.asError r a.loc) = _
  induction h with
  | nil => rfl
  | cons he _ ih =>
      have hfirst := Expr.asError_eq_ok_iff.mpr he
      simp only [List.map_cons, List.mapM_cons, Element.asError, hfirst, ih]
      rfl

/-! ### Throwing an element of a list -/

namespace Expr

variable {a b key : Anchor} {optional : Bool} {k : Binary64} {i : Nat}

/-- Throwing an element of a list of constructions: the index decides. -/
theorem thrown_index (h : List.Forall₂ (Creates r.captures) es errors) :
    (index a optional (array b (es.map .single)) (number key k)).thrown r =
      match k.toNat? with
      | none => .error (.unsupported .thrownIndex key.loc)
      | some i =>
          if h : min i largestIndex < errors.length then
            .ok (bringToFront errors (min i largestIndex) h)
          else .error (.indexOutOfBounds (min i largestIndex) errors.length key.loc) := by
  simp only [thrown, asErrors_array h]
  rfl

theorem thrown_of_lt (h : List.Forall₂ (Creates r.captures) es errors)
    (hcount : errors.length ≤ largestIndex) (hi : i < errors.length) (hk : k.toNat? = some i) :
    (index a optional (array b (es.map .single)) (number key k)).thrown r =
      .ok (errors[i] :: (errors.take i ++ errors.drop (i + 1))) := by
  -- an index in the list is never the largest one, at which larger numbers end up
  have hmin : min i largestIndex = i := Nat.min_eq_left (by omega)
  rw [thrown_index h, hk]
  simp only [hmin, hi, dite_true, bringToFront, List.eraseIdx_eq_take_drop_succ]

theorem thrown_of_le (h : List.Forall₂ (Creates r.captures) es errors)
    (hcount : errors.length ≤ largestIndex) (hi : errors.length ≤ i) (hk : k.toNat? = some i) :
    (index a optional (array b (es.map .single)) (number key k)).thrown r =
      .error (.indexOutOfBounds (min i largestIndex) errors.length key.loc) := by
  have hmin : ¬ min i largestIndex < errors.length := by omega
  rw [thrown_index h, hk]
  simp only [hmin, dite_false]

theorem thrown_of_none (h : List.Forall₂ (Creates r.captures) es errors) (hk : k.toNat? = none) :
    (index a optional (array b (es.map .single)) (number key k)).thrown r =
      .error (.unsupported .thrownIndex key.loc) := by
  rw [thrown_index h, hk]

/-- Something is thrown. -/
theorem thrown_ne_nil (h : e.thrown r = .ok errors) : errors ≠ [] := by
  unfold thrown at h
  split at h
  · next object key =>
      cases hlist : object.asErrors r with
      | error failure =>
          rw [hlist] at h
          cases h
      | ok list =>
          simp only [hlist, bind, Except.bind] at h
          split at h
          · cases h
          · split at h
            · obtain rfl := Except.ok.inj h
              exact List.cons_ne_nil _ _
            · cases h
  · cases he : e.asError r with
    | error failure =>
        rw [he] at h
        cases h
    | ok error =>
        rw [he] at h
        obtain rfl := Except.ok.inj h
        exact List.cons_ne_nil _ _

end Expr

end errors

/-! ### Bodies that throw -/

/-- The body comes to `throw [e, …][k]`, with the number literal `k` at `key`: what stands before it
lets the evaluation go on. -/
def Body.Throws (body : Body) (es : List Expr) (key : Anchor) (k : Binary64) : Prop :=
  ∃ spot before a b c optional after,
    body = .block spot (before ++
      .throw a (.index b optional (.array c (es.map .single)) (.number key k)) :: after) ∧
      ∀ s ∈ before, s.isEmpty = true ∨ s.IsTraceWrite

namespace Stmts

/-- Statements that let an evaluation go on matter to reporting only. -/
theorem exists_evaluate_append {before : List Stmt}
    (h : ∀ s ∈ before, s.isEmpty = true ∨ s.IsTraceWrite) (r : Reporting) (rest : List Stmt) :
    ∃ r', evaluate r (before ++ rest) = evaluate r' rest := by
  induction before generalizing r with
  | nil => exact ⟨r, rfl⟩
  | cons s before ih =>
      have hbefore := fun t ht => h t (List.mem_cons_of_mem s ht)
      rcases h s List.mem_cons_self with hempty | hwrite
      · cases s with
        | empty a => exact ih hbefore r
        | _ => cases hempty
      · cases s with
        | expr a value =>
            have haccept := Stmt.isTraceWrite_expr_iff.mp hwrite
            obtain ⟨r', hr'⟩ := ih hbefore r.suppress
            refine ⟨r', ?_⟩
            simp only [List.cons_append, evaluate, haccept, hr']
        | _ => cases hwrite

/-- A probe that fails reports an error. -/
theorem evaluate_ne_fail_nil (r : Reporting) (statements : List Stmt) :
    (evaluate r statements).1 ≠ .ok (.fail []) := by
  have hrefused (failure : EvalError) : Except.error failure ≠ Except.ok (Outcome.fail []) :=
    fun h => by cases h
  have hpassed : Except.ok Outcome.ok ≠ (Except.ok (.fail []) : Except EvalError Outcome) :=
    fun h => by cases h
  induction statements generalizing r with
  | nil => exact hpassed
  | cons s rest ih =>
      cases s with
      | empty a => exact ih r
      | expr a value =>
          simp only [evaluate]
          cases value.acceptTraceWrite with
          | ok => exact ih r.suppress
          | error failure => exact hrefused _
      | ret a value =>
          cases value with
          | none => exact hpassed
          | some value =>
              simp only [evaluate]
              cases value.asErrors r with
              | error failure => exact hrefused _
              | ok errors => exact fun h => Outcome.ofErrors_ne_fail_nil errors (Except.ok.inj h)
      | throw a value =>
          simp only [evaluate]
          cases hthrown : value.thrown r with
          | error failure => exact hrefused _
          | ok errors =>
              intro h
              exact Expr.thrown_ne_nil hthrown (Outcome.fail.inj (Except.ok.inj h))
      | _ => exact hrefused _

end Stmts

/-- A body that throws an element of a list is evaluated as the expression thrown is, with reporting
as it is then. -/
theorem Func.evaluate_of_throws {f : Func} {es : List Expr} {key : Anchor} {k : Binary64}
    (h : f.body.Throws es key k) (r : Reporting) :
    ∃ b c optional, (f.evaluate r).1 =
      ((Expr.index b optional (.array c (es.map .single)) (.number key k)).thrown
        (f.evaluate r).2).map .fail := by
  obtain ⟨spot, before, a, b, c, optional, after, hbody, hbefore⟩ := h
  obtain ⟨r', hr'⟩ := Stmts.exists_evaluate_append hbefore r
    (.throw a (.index b optional (.array c (es.map .single)) (.number key k)) :: after)
  refine ⟨b, c, optional, ?_⟩
  unfold evaluate
  rw [hbody]
  simp only [Body.evaluate, hr', Stmts.evaluate]

/-- **What a probe throws.**  A failing probe reports at least one error.  If its body comes to
`throw [e, …][k]` and every element is a construction, what comes of it depends on the value of `k`:
a natural number below the length of the list has the error at that place reported first and the
others after it in their order; a larger natural number is out of bounds, and anything else is no
index.  A list in memory is never longer than the largest index. -/
theorem Func.evaluate_throws (f : Func) (r : Reporting) :
    (f.evaluate r).1 ≠ .ok (.fail []) ∧
      ∀ (es : List Expr) (key : Anchor) (k : Binary64) (errors : List RuntimeError),
        f.body.Throws es key k →
        List.Forall₂ (Expr.Creates (f.evaluate r).2.captures) es errors →
        errors.length ≤ largestIndex →
        (∀ (i : Nat) (_ : i < errors.length), k.value? = some (i : ℚ) →
          (f.evaluate r).1 =
            .ok (.fail (errors[i] :: (errors.take i ++ errors.drop (i + 1))))) ∧
        (∀ i : Nat, errors.length ≤ i → k.value? = some (i : ℚ) →
          (f.evaluate r).1 =
            .error (.indexOutOfBounds (min i largestIndex) errors.length key.loc)) ∧
        ((∀ i : Nat, k.value? ≠ some (i : ℚ)) →
          (f.evaluate r).1 = .error (.unsupported .thrownIndex key.loc)) := by
  constructor
  · unfold evaluate Body.evaluate
    cases f.body with
    | block spot statements => exact Stmts.evaluate_ne_fail_nil r statements
    | expr spot value => exact fun h => by cases h
  · intro es key k errors hthrows hes hcount
    obtain ⟨b, c, optional, hevaluate⟩ := evaluate_of_throws hthrows r
    refine ⟨?_, ?_, ?_⟩
    · intro i hi hk
      rw [hevaluate, Expr.thrown_of_lt hes hcount hi (Binary64.toNat?_eq_some_iff.mpr hk)]
      rfl
    · intro i hi hk
      rw [hevaluate, Expr.thrown_of_le hes hcount hi (Binary64.toNat?_eq_some_iff.mpr hk)]
      rfl
    · intro hk
      have hnone : k.toNat? = none := by
        rw [Option.eq_none_iff_forall_ne_some]
        exact fun i hi => hk i (Binary64.toNat?_eq_some_iff.mp hi)
      rw [hevaluate, Expr.thrown_of_none hes hnone]
      rfl

/-- The list `[new Error("first"), new Error()]`; the second error stands for the range from 5
to 9. -/
def Func.thrownErrors (loc : Loc) : List Expr :=
  let errorName := Build.ident loc "Error"
  [Build.construct loc errorName [Build.argument (Build.string loc "first")],
    .unary { Anchor.ofLoc loc with origin := some ⟨5, 9⟩ } .new (Build.call loc errorName [])]

/-- The function `() => { ; Error.stackTraceLimit = 0; throw errors[k]; }`, with the list above. -/
def Func.throwsAt (k : Binary64) : Func :=
  let loc : Loc := ⟨0, 60⟩
  let thrown := Build.index loc (Build.array loc (thrownErrors loc)) (Build.number loc k)
  Build.func loc true []
    (.block loc [.empty (.ofLoc loc), Finding.disableTraces loc, Build.throw loc thrown])

/-- The indices are 1, 2 ^ 64 and no number. -/
theorem Func.evaluate_throwsAt :
    let first : RuntimeError := ⟨"first", none, false⟩
    let second : RuntimeError := ⟨"", some ⟨5, 9⟩, false⟩
    ((throwsAt ⟨0x3ff0000000000000⟩).evaluate .fresh).1 = .ok (.fail [second, first]) ∧
      ((throwsAt ⟨0x43f0000000000000⟩).evaluate .fresh).1 =
        .error (.indexOutOfBounds 0xffffffffffffffff 2 ⟨0, 60⟩) ∧
      ((throwsAt ⟨0x7ff8000000000000⟩).evaluate .fresh).1 =
        .error (.unsupported .thrownIndex ⟨0, 60⟩) := by
  intro first second
  let loc : Loc := ⟨0, 60⟩
  have hbody (k : Binary64) : (throwsAt k).body.Throws (thrownErrors loc) (.ofLoc loc) k := by
    refine ⟨_, [.empty _, Finding.disableTraces _], _, _, _, _, [], rfl, ?_⟩
    intro s hs
    simp only [List.mem_cons, List.not_mem_nil, or_false] at hs
    rcases hs with rfl | rfl
    · exact .inl rfl
    · exact .inr (.intro (by decide))
  have herrors : List.Forall₂ (Expr.Creates false) (thrownErrors loc) [first, second] :=
    .cons .saying (.cons .silent .nil)
  have hresult (k : Binary64) :=
    (evaluate_throws (throwsAt k) .fresh).2 (thrownErrors loc) (.ofLoc loc) k [first, second]
      (hbody k) herrors (by decide)
  refine ⟨?_, ?_, ?_⟩
  · exact (hresult _).1 1 (by decide) (Binary64.toNat?_eq_some_iff.mp (by decide))
  · exact (hresult _).2.1 0x10000000000000000 (by decide)
      (Binary64.toNat?_eq_some_iff.mp (by decide))
  · have hnone : Binary64.value? ⟨0x7ff8000000000000⟩ = none := if_neg (by decide)
    refine (hresult _).2.2 fun i hi => ?_
    rw [hnone] at hi
    cases hi

end TypeProbe
