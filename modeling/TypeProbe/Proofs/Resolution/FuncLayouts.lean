import TypeProbe.Proofs.Resolution.ExprLayouts

/-! # Layouts of functions

One lemma for every form of function, body and parameter, as `Proofs/Resolution/ExprLayouts` has
them for expressions.  The body of a probed function is a slot of its own, with what stands before
it and after it (`Expr.HasProbedLayout`).

Where printing fails the layout says so, but still has the slots of what would have stood there, so
that slots and bodies always match. -/

namespace TypeProbe

open Output

section HasLayout

variable (marker : String)

def Body.HasLayout : Body → Prop :=
  SharedLayout (Body.outline marker) Body.print fun b =>
    Visit.outerBodies marker (b.visits .rebuilding marker)

def Stmts.HasLayout : List Stmt → Prop :=
  SharedLayout (Stmts.outline marker) Stmts.print fun ss =>
    Visit.outerBodies marker (Stmts.visits .rebuilding marker ss)

def Params.HasLayout : List Param → Prop :=
  SharedLayout (Params.outline marker) (fun ps => commaSeparated (Params.outputs ps)) fun ps =>
    Visit.outerBodies marker (Params.visits .rebuilding marker ps)

/-- A function literal that is probed is printed with the parenthesis after it. -/
def Expr.HasProbedLayout (o : Expr) : Prop :=
  ∃ l : Layout, ∀ (e : Expr) (f : Func), e.outline marker true = o → e.literal? = some f →
    (e.print ++ punct ")").Fits l
      (Visit.outerBodies marker (Params.visits .rebuilding marker f.parameters) ++ [f.body])

end HasLayout

section forms

variable {marker : String} {spot : Spot} {arrow async generator : Bool} {parameters : List Param}
  {returnType : Option TypeExpr} {body : Body}

/-! ### Functions -/

theorem Func.hasArrowLayout_mk (hp : Params.HasLayout marker parameters)
    (hb : body.HasLayout marker) :
    (Func.mk spot arrow async generator parameters returnType body).HasArrowLayout marker := by
  obtain ⟨p, hp⟩ := hp
  obtain ⟨b, hb⟩ := hb
  refine ⟨(onlyIf async (keyword "async")).layout ++ signatureLayout returnType p ++
    (punct "=>").layout ++ b, ?_⟩
  rintro ⟨spot', arrow', async', generator', parameters', returnType', body'⟩ hf
  cases hf
  simp only [Func.visits, Visit.outerBodies_append]
  exact ((((hp parameters' rfl).signature returnType).before _).after _).append (hb body' rfl)

theorem Func.hasFunctionLayout_mk {name : Option Name} (hp : Params.HasLayout marker parameters)
    (hb : body.HasLayout marker) :
    (Func.mk spot arrow async generator parameters returnType body).HasFunctionLayout marker
      name := by
  obtain ⟨p, hp⟩ := hp
  obtain ⟨b, hb⟩ := hb
  refine ⟨(printFunctionHead async generator name).layout ++ signatureLayout returnType p ++ b, ?_⟩
  rintro ⟨spot', arrow', async', generator', parameters', returnType', body'⟩ hf
  cases hf
  simp only [Func.visits, Visit.outerBodies_append]
  exact (((hp parameters' rfl).signature returnType).before _).append (hb body' rfl)

theorem Body.hasLayout_block {statements : List Stmt} (hs : Stmts.HasLayout marker statements) :
    (Body.block spot statements).HasLayout marker := by
  obtain ⟨l, hl⟩ := hs
  refine ⟨(punct "\x7b").layout ++ l ++ (punct "\x7d").layout, ?_⟩
  intro b hb
  cases b with
  | block _ statements' =>
      cases hb
      exact (hl statements' rfl).braced
  | _ => cases hb

theorem Body.hasLayout_expr {value : Expr} (hv : value.HasLayout marker) :
    (Body.expr spot value).HasLayout marker := by
  obtain ⟨l, hl⟩ := hv
  refine ⟨value.wrapLayout Precedence.assignment l, ?_⟩
  intro b hb
  cases b with
  | expr _ value' =>
      cases hb
      rw [Expr.wrapLayout_outline]
      exact (hl value' rfl).wrap _ _
  | _ => cases hb

/-! ### Parameters -/

namespace Params

theorem isEmpty_outputs (ps : List Param) :
    (outputs ps).isEmpty = (outline marker ps).isEmpty := by
  cases ps with
  | nil => rfl
  | cons first rest =>
      obtain ⟨spot, isRest, pattern, type, value⟩ := first
      cases value <;> rfl

theorem outerBodies_of_isEmpty {ps : List Param}
    (h : (outline marker ps).isEmpty = true) :
    Visit.outerBodies marker (visits .rebuilding marker ps) = [] := by
  cases ps with
  | nil => rfl
  | cons first rest =>
      obtain ⟨spot, isRest, pattern, type, value⟩ := first
      cases value <;> cases h

theorem hasLayout_nil : Params.HasLayout marker [] := by
  refine ⟨[], ?_⟩
  intro ps hp
  cases ps with
  | nil => exact fits_empty
  | cons first rest =>
      obtain ⟨spot, isRest, pattern, type, value⟩ := first
      cases value <;> cases hp

variable {isRest : Bool} {pattern : Name} {type : Option TypeExpr} {rest : List Param}

theorem hasLayout_required (hr : Params.HasLayout marker rest) :
    Params.HasLayout marker (⟨spot, isRest, pattern, type, none⟩ :: rest) := by
  obtain ⟨r, hr⟩ := hr
  let first := (onlyIf isRest (punct "...") ++ identifier pattern.text ++ printType? type).layout
  refine ⟨if rest.isEmpty then first else first ++ ((punct ",").layout ++ r), ?_⟩
  intro ps hp
  cases ps with
  | nil => cases hp
  | cons first' rest' =>
      obtain ⟨spot', isRest', pattern', type', value'⟩ := first'
      cases value' with
      | some _ => cases hp
      | none =>
          cases hp
          exact (fits_layout _).comma _ (isEmpty_outputs rest') (hr rest' rfl)
            outerBodies_of_isEmpty

theorem hasLayout_optional {value : Expr} (hv : value.HasLayout marker)
    (hr : Params.HasLayout marker rest) :
    Params.HasLayout marker (⟨spot, isRest, pattern, type, some value⟩ :: rest) := by
  obtain ⟨l, hl⟩ := hv
  obtain ⟨r, hr⟩ := hr
  let given := (identifier pattern.text ++ printType? type ++ punct "=").layout ++
    value.wrapLayout Precedence.assignment l
  let first := if isRest then .written none :: given else given
  refine ⟨if rest.isEmpty then first else first ++ ((punct ",").layout ++ r), ?_⟩
  intro ps hp
  cases ps with
  | nil => cases hp
  | cons first' rest' =>
      obtain ⟨spot', isRest', pattern', type', value'⟩ := first'
      cases value' with
      | none => cases hp
      | some value' =>
          cases hp
          have hgiven := ((hl value' rfl).wrap value' Precedence.assignment).before
            (identifier pattern.text ++ printType? type ++ punct "=")
          have hfirst := hgiven.unless isRest .restWithDefault spot
          simp only [first, given, Expr.wrapLayout_outline, Params.visits,
            Visit.outerBodies_append]
          exact hfirst.comma _ (isEmpty_outputs rest') (hr rest' rfl) outerBodies_of_isEmpty

end Params

/-! ### Probed functions -/

namespace Expr

variable {a : Anchor}

theorem hasProbedLayout_arrow (hp : Params.HasLayout marker parameters) :
    (Expr.arrow a ⟨spot, arrow, async, generator, parameters, returnType, body⟩).HasProbedLayout
      marker := by
  obtain ⟨p, hp⟩ := hp
  let l := (onlyIf async (keyword "async")).layout ++ signatureLayout returnType p ++
    [Slot.body true]
  refine ⟨if generator then .written none :: l else l, ?_⟩
  intro e f he hf
  cases e with
  | arrow a' f' =>
      obtain ⟨spot', arrow', async', generator', parameters', returnType', body'⟩ := f'
      cases he
      cases hf
      have h := (((hp parameters' rfl).signature returnType).before
        (onlyIf async (keyword "async"))).append (fits_printLast true body')
      cases generator with
      | true => exact h.failed rfl
      | false =>
          rw [Body.printLast, ← append_assoc, ← append_assoc] at h
          exact h
  | _ => cases he

theorem hasProbedLayout_function {name : Option Name} (hp : Params.HasLayout marker parameters) :
    (Expr.function a name
      ⟨spot, arrow, async, generator, parameters, returnType, body⟩).HasProbedLayout marker := by
  obtain ⟨p, hp⟩ := hp
  refine ⟨(printFunctionHead async generator name).layout ++ signatureLayout returnType p ++
    [Slot.body false], ?_⟩
  intro e f he hf
  cases e with
  | function a' name' f' =>
      obtain ⟨spot', arrow', async', generator', parameters', returnType', body'⟩ := f'
      cases he
      cases hf
      have h := (((hp parameters' rfl).signature returnType).before
        (printFunctionHead async generator name)).append (fits_printLast false body')
      cases body' with
      | block bodySpot statements =>
          rw [Body.printLast, ← append_assoc] at h
          exact h
      | expr bodySpot value =>
          refine ⟨h.length, ?_⟩
          rw [← h.written, written?_append _ (Body.printLast ..)]
          exact (joined_none_right _).symm
  | _ => cases he

/-- Only a function literal is probed. -/
theorem hasProbedLayout_of_literal? {o : Expr} (h : o.literal? = none) :
    o.HasProbedLayout marker := by
  refine ⟨[], ?_⟩
  rintro e f rfl hf
  cases e with
  | arrow | function => cases h
  | _ => cases hf

end Expr

theorem Arguments.hasProbedLayout_nil : Arguments.HasProbedLayout marker [] :=
  ⟨[], fun _ _ _ h => nomatch h⟩

theorem Arguments.hasProbedLayout_cons {spread : Bool} {value : Expr} {rest : List Argument}
    (hv : value.HasProbedLayout marker) :
    Arguments.HasProbedLayout marker (⟨spot, spread, value⟩ :: rest) := by
  obtain ⟨l, hl⟩ := hv
  refine ⟨l, ?_⟩
  intro spot value f ho hf
  cases ho
  have hfits := hl value f rfl hf
  cases value with
  | arrow | function => exact hfits
  | _ => cases hf

end forms

end TypeProbe
