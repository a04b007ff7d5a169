import TypeProbe.Proofs.Resolution.FuncLayouts

/-! # Layouts of statements

One lemma for every form of statement, clause and declaration, as `Proofs/Resolution/ExprLayouts`
has them for expressions. -/

namespace TypeProbe

open Output

section HasLayout

variable (marker : String)

def Stmt.HasLayout : Stmt → Prop :=
  SharedLayout (Stmt.outline marker) Stmt.print fun s =>
    Visit.outerBodies marker (s.visits .rebuilding marker)

def Block.HasLayout : Block → Prop :=
  SharedLayout (Block.outline marker) Block.print fun b =>
    Visit.outerBodies marker (b.visits .rebuilding marker)

def Catch.HasLayout : Catch → Prop :=
  SharedLayout (Catch.outline marker) Catch.print fun c =>
    Visit.outerBodies marker (c.visits .rebuilding marker)

def Declarators.HasLayout : List Declarator → Prop :=
  SharedLayout (Declarators.outline marker)
    (fun ds => commaSeparated (Declarators.outputs ds)) fun ds =>
    Visit.outerBodies marker (Declarators.visits .rebuilding marker ds)

end HasLayout

section forms

variable {marker : String} {a : Anchor}

/-! ### Statements -/

namespace Stmt

variable {condition test value : Expr} {body consequent alternate : Stmt}

theorem hasLayout_block {statements : List Stmt} (hb : Stmts.HasLayout marker statements) :
    (block a statements).HasLayout marker := by
  obtain ⟨l, hl⟩ := hb
  refine ⟨(punct "\x7b").layout ++ l ++ (punct "\x7d").layout, ?_⟩
  intro s hs
  cases s with
  | block _ statements' =>
      cases hs
      exact (hl statements' rfl).braced
  | _ => cases ctorIdx_of_outline hs

theorem hasLayout_breakTo {label : Option String} : (breakTo a label).HasLayout marker := by
  refine .leaf ?_
  intro s hs
  cases s with
  | breakTo => cases hs; exact ⟨rfl, rfl⟩
  | _ => cases ctorIdx_of_outline hs

theorem hasLayout_continueTo {label : Option String} : (continueTo a label).HasLayout marker := by
  refine .leaf ?_
  intro s hs
  cases s with
  | continueTo => cases hs; exact ⟨rfl, rfl⟩
  | _ => cases ctorIdx_of_outline hs

theorem hasLayout_empty : (empty a).HasLayout marker := by
  refine .leaf ?_
  intro s hs
  cases s with
  | empty => cases hs; exact ⟨rfl, rfl⟩
  | _ => cases ctorIdx_of_outline hs

theorem hasLayout_doWhile (hc : condition.HasLayout marker) (hb : body.HasLayout marker) :
    (doWhile a condition body).HasLayout marker := by
  obtain ⟨l, hl⟩ := hc
  obtain ⟨r, hr⟩ := hb
  refine ⟨(keyword "do").layout ++ body.branchLayout r ++ (keyword "while").layout ++
    ((punct "(").layout ++ l ++ (punct ")").layout) ++ (punct ";").layout, ?_⟩
  intro s hs
  cases s with
  | doWhile _ condition' body' =>
      cases hs
      simp only [branchLayout_outline, visits, Tour.doWhile, Visit.outerBodies_append]
      exact (((((hr body' rfl).branch _).before _).after _).append
        (hl condition' rfl).parenthesized).after _
  | _ => cases ctorIdx_of_outline hs

theorem hasLayout_whileDo (hc : condition.HasLayout marker) (hb : body.HasLayout marker) :
    (whileDo a condition body).HasLayout marker := by
  obtain ⟨l, hl⟩ := hc
  obtain ⟨r, hr⟩ := hb
  refine ⟨(keyword "while").layout ++ ((punct "(").layout ++ l ++ (punct ")").layout) ++
    body.branchLayout r, ?_⟩
  intro s hs
  cases s with
  | whileDo _ condition' body' =>
      cases hs
      simp only [branchLayout_outline, visits, Visit.outerBodies_append]
      exact ((hl condition' rfl).parenthesized.before _).append ((hr body' rfl).branch _)
  | _ => cases ctorIdx_of_outline hs

/-- Parentheses keep a `function` from the beginning of a statement. -/
theorem hasLayout_expr (hv : value.HasLayout marker) : (expr a value).HasLayout marker := by
  obtain ⟨l, hl⟩ := hv
  refine ⟨(if value.startsWithFunction then (punct "(").layout ++ l ++ (punct ")").layout
    else l) ++ (punct ";").layout, ?_⟩
  intro s hs
  cases s with
  | expr _ value' =>
      cases hs
      rw [Expr.startsWithFunction_outline]
      have h : (if value'.startsWithFunction then parenthesized value'.print
          else value'.print).Fits
          (if value'.startsWithFunction then (punct "(").layout ++ l ++ (punct ")").layout
            else l) (Visit.outerBodies marker (value'.visits .rebuilding marker false)) := by
        split
        · exact (hl value' rfl).parenthesized
        · exact hl value' rfl
      exact h.after _
  | _ => cases ctorIdx_of_outline hs

theorem hasLayout_if (ht : test.HasLayout marker) (hc : consequent.HasLayout marker) :
    (ifElse a test consequent none).HasLayout marker := by
  obtain ⟨t, ht⟩ := ht
  obtain ⟨l, hl⟩ := hc
  refine ⟨(keyword "if").layout ++ ((punct "(").layout ++ t ++ (punct ")").layout) ++
    consequent.branchLayout l, ?_⟩
  intro s hs
  cases s with
  | ifElse _ test' consequent' alternate' =>
      cases alternate' with
      | some _ => cases hs
      | none =>
          cases hs
          simp only [branchLayout_outline, visits, Visit.outerBodies_append]
          exact ((ht test' rfl).parenthesized.before _).append ((hl consequent' rfl).branch _)
  | _ => cases ctorIdx_of_outline hs

theorem hasLayout_ifElse (ht : test.HasLayout marker) (hc : consequent.HasLayout marker)
    (ha : alternate.HasLayout marker) :
    (ifElse a test consequent (some alternate)).HasLayout marker := by
  obtain ⟨t, ht⟩ := ht
  obtain ⟨l, hl⟩ := hc
  obtain ⟨r, hr⟩ := ha
  refine ⟨(keyword "if").layout ++ ((punct "(").layout ++ t ++ (punct ")").layout) ++
    consequent.branchLayout l ++ (keyword "else").layout ++ alternate.branchLayout r, ?_⟩
  intro s hs
  cases s with
  | ifElse _ test' consequent' alternate' =>
      cases alternate' with
      | none => cases hs
      | some alternate' =>
          cases hs
          simp only [branchLayout_outline, visits, Visit.outerBodies_append]
          exact ((((ht test' rfl).parenthesized.before _).append
            ((hl consequent' rfl).branch _)).after _).append ((hr alternate' rfl).branch _)
  | _ => cases ctorIdx_of_outline hs

theorem hasLayout_retNothing : (ret a none).HasLayout marker := by
  refine .leaf ?_
  intro s hs
  cases s with
  | ret _ value' =>
      cases value' with
      | some _ => cases hs
      | none => exact ⟨rfl, rfl⟩
  | _ => cases ctorIdx_of_outline hs

theorem hasLayout_ret (hv : value.HasLayout marker) : (ret a (some value)).HasLayout marker := by
  obtain ⟨l, hl⟩ := hv
  refine ⟨(keyword "return").layout ++ l ++ (punct ";").layout, ?_⟩
  intro s hs
  cases s with
  | ret _ value' =>
      cases value' with
      | none => cases hs
      | some value' =>
          cases hs
          exact ((hl value' rfl).before _).after _
  | _ => cases ctorIdx_of_outline hs

theorem hasLayout_throw (hv : value.HasLayout marker) : (throw a value).HasLayout marker := by
  obtain ⟨l, hl⟩ := hv
  refine ⟨(keyword "throw").layout ++ l ++ (punct ";").layout, ?_⟩
  intro s hs
  cases s with
  | throw _ value' =>
      cases hs
      exact ((hl value' rfl).before _).after _
  | _ => cases ctorIdx_of_outline hs

section tryBlock

variable {wrapped finalizer : Block} {handler : Catch} (hw : wrapped.HasLayout marker)
include hw

theorem hasLayout_tryAlone : (tryBlock a wrapped none none).HasLayout marker := by
  obtain ⟨l, hl⟩ := hw
  refine ⟨.written none :: l, ?_⟩
  intro s hs
  cases s with
  | tryBlock _ wrapped' handler' finalizer' =>
      cases handler' <;> cases finalizer' <;> cases hs
      exact (hl wrapped' rfl).failed rfl
  | _ => cases ctorIdx_of_outline hs

theorem hasLayout_tryCatch (hh : handler.HasLayout marker) :
    (tryBlock a wrapped (some handler) none).HasLayout marker := by
  obtain ⟨l, hl⟩ := hw
  obtain ⟨h, hh⟩ := hh
  refine ⟨(keyword "try").layout ++ l ++ h, ?_⟩
  intro s hs
  cases s with
  | tryBlock _ wrapped' handler' finalizer' =>
      cases handler' <;> cases finalizer' <;> cases hs
      simp only [visits, Visit.outerBodies_append]
      exact ((hl wrapped' rfl).before _).append (hh _ rfl)
  | _ => cases ctorIdx_of_outline hs

theorem hasLayout_tryFinally (hf : finalizer.HasLayout marker) :
    (tryBlock a wrapped none (some finalizer)).HasLayout marker := by
  obtain ⟨l, hl⟩ := hw
  obtain ⟨r, hr⟩ := hf
  refine ⟨(keyword "try").layout ++ l ++ (keyword "finally").layout ++ r, ?_⟩
  intro s hs
  cases s with
  | tryBlock _ wrapped' handler' finalizer' =>
      cases handler' <;> cases finalizer' <;> cases hs
      simp only [visits, Visit.outerBodies_append]
      exact (((hl wrapped' rfl).before _).after _).append (hr _ rfl)
  | _ => cases ctorIdx_of_outline hs

theorem hasLayout_tryCatchFinally (hh : handler.HasLayout marker)
    (hf : finalizer.HasLayout marker) :
    (tryBlock a wrapped (some handler) (some finalizer)).HasLayout marker := by
  obtain ⟨l, hl⟩ := hw
  obtain ⟨h, hh⟩ := hh
  obtain ⟨r, hr⟩ := hf
  refine ⟨(keyword "try").layout ++ l ++ h ++ (keyword "finally").layout ++ r, ?_⟩
  intro s hs
  cases s with
  | tryBlock _ wrapped' handler' finalizer' =>
      cases handler' <;> cases finalizer' <;> cases hs
      simp only [visits, Visit.outerBodies_append]
      exact ((((hl wrapped' rfl).before _).append (hh _ rfl)).after _).append (hr _ rfl)
  | _ => cases ctorIdx_of_outline hs

end tryBlock

section declarations

variable {exported : Bool} {f : Func}

theorem hasLayout_unnamed (hf : f.HasFunctionLayout marker none) :
    (funcDecl a exported none f).HasLayout marker := by
  obtain ⟨l, hl⟩ := hf
  refine ⟨.written none :: l, ?_⟩
  intro s hs
  cases s with
  | funcDecl _ _ _ f' =>
      cases hs
      exact (hl f' rfl).failed rfl
  | _ => cases ctorIdx_of_outline hs

theorem hasLayout_funcDecl {name : Name} (hf : f.HasFunctionLayout marker (some name)) :
    (funcDecl a exported (some name) f).HasLayout marker := by
  obtain ⟨l, hl⟩ := hf
  refine ⟨if f.body.isBlock then (onlyIf exported (keyword "export")).layout ++ l
    else .written none :: l, ?_⟩
  intro s hs
  cases s with
  | funcDecl _ _ _ f' =>
      cases hs
      rw [print_funcDecl, Func.isBlock_outline]
      split
      · exact (hl f' rfl).before _
      · exact (hl f' rfl).failed rfl
  | _ => cases ctorIdx_of_outline hs

theorem hasLayout_varDecl {kind : BindingKind} {declarators : List Declarator}
    (hd : Declarators.HasLayout marker declarators) :
    (varDecl a exported kind declarators).HasLayout marker := by
  obtain ⟨l, hl⟩ := hd
  let full := (onlyIf exported (keyword "export") ++ keyword kind.token).layout ++ l ++
    (punct ";").layout
  refine ⟨if declarators.isEmpty then .written none :: full else full, ?_⟩
  intro s hs
  cases s with
  | varDecl _ _ _ declarators' =>
      cases hs
      have h := ((hl declarators' rfl).before
        (onlyIf exported (keyword "export") ++ keyword kind.token)).after (punct ";")
      rw [Declarators.isEmpty_outline]
      exact h.unless _ .noDeclarators a.inner
  | _ => cases ctorIdx_of_outline hs

end declarations

end Stmt

theorem Stmts.hasLayout_nil : Stmts.HasLayout marker [] := by
  refine ⟨[], ?_⟩
  intro ss hs
  cases ss with
  | nil => exact fits_empty
  | cons _ _ => cases hs

theorem Stmts.hasLayout_cons {s : Stmt} {rest : List Stmt} (hs : s.HasLayout marker)
    (hr : Stmts.HasLayout marker rest) : Stmts.HasLayout marker (s :: rest) := by
  obtain ⟨l, hl⟩ := hs
  obtain ⟨r, hr⟩ := hr
  refine ⟨l ++ r, ?_⟩
  intro ss hs
  cases ss with
  | nil => cases hs
  | cons s' rest' =>
      cases hs
      simp only [Stmts.visits, Visit.outerBodies_append]
      exact (hl s' rfl).append (hr rest' rfl)

/-! ### Clauses -/

theorem Block.hasLayout_mk {spot : Spot} {body : List Stmt} (hb : Stmts.HasLayout marker body) :
    (Block.mk spot body).HasLayout marker := by
  obtain ⟨l, hl⟩ := hb
  refine ⟨(punct "\x7b").layout ++ l ++ (punct "\x7d").layout, ?_⟩
  rintro ⟨spot', body'⟩ hb
  cases hb
  exact (hl body' rfl).braced

/-- What is printed of a `catch` clause before its statements. -/
def catchHead : Option Name → Output
  | none => keyword "catch" ++ empty
  | some name => keyword "catch" ++ parenthesized (identifier name.text)

theorem Catch.hasLayout_mk {spot : Spot} {parameter : Option Name} {body : List Stmt}
    (hb : Stmts.HasLayout marker body) : (Catch.mk spot parameter body).HasLayout marker := by
  obtain ⟨l, hl⟩ := hb
  refine ⟨(catchHead parameter).layout ++
    ((punct "\x7b").layout ++ l ++ (punct "\x7d").layout), ?_⟩
  rintro ⟨spot', parameter', body'⟩ hc
  cases hc
  have hfits := (hl body' rfl).braced.before (catchHead parameter)
  cases parameter <;> exact hfits

/-! ### Variables -/

namespace Declarators

theorem isEmpty_outputs (ds : List Declarator) :
    (outputs ds).isEmpty = (outline marker ds).isEmpty := by
  cases ds with
  | nil => rfl
  | cons first rest =>
      obtain ⟨pattern, type, value⟩ := first
      cases value <;> rfl

theorem outerBodies_of_isEmpty {ds : List Declarator}
    (h : (outline marker ds).isEmpty = true) :
    Visit.outerBodies marker (visits .rebuilding marker ds) = [] := by
  cases ds with
  | nil => rfl
  | cons first rest =>
      obtain ⟨pattern, type, value⟩ := first
      cases value <;> cases h

theorem hasLayout_nil : Declarators.HasLayout marker [] := by
  refine ⟨[], ?_⟩
  intro ds hd
  cases ds with
  | nil => exact fits_empty
  | cons first rest =>
      obtain ⟨pattern, type, value⟩ := first
      cases value <;> cases hd

variable {pattern : Name} {type : Option TypeExpr} {rest : List Declarator}

theorem hasLayout_unset (hr : Declarators.HasLayout marker rest) :
    Declarators.HasLayout marker (⟨pattern, type, none⟩ :: rest) := by
  obtain ⟨r, hr⟩ := hr
  let first := (identifier pattern.text ++ printType? type).layout
  refine ⟨if rest.isEmpty then first else first ++ ((punct ",").layout ++ r), ?_⟩
  intro ds hd
  cases ds with
  | nil => cases hd
  | cons first' rest' =>
      obtain ⟨pattern', type', value'⟩ := first'
      cases value' with
      | some _ => cases hd
      | none =>
          cases hd
          exact (fits_layout _).comma _ (isEmpty_outputs rest') (hr rest' rfl)
            outerBodies_of_isEmpty

theorem hasLayout_set {value : Expr} (hv : value.HasLayout marker)
    (hr : Declarators.HasLayout marker rest) :
    Declarators.HasLayout marker (⟨pattern, type, some value⟩ :: rest) := by
  obtain ⟨l, hl⟩ := hv
  obtain ⟨r, hr⟩ := hr
  let first := (identifier pattern.text ++ printType? type ++ punct "=").layout ++
    value.wrapLayout Precedence.assignment l
  refine ⟨if rest.isEmpty then first else first ++ ((punct ",").layout ++ r), ?_⟩
  intro ds hd
  cases ds with
  | nil => cases hd
  | cons first' rest' =>
      obtain ⟨pattern', type', value'⟩ := first'
      cases value' with
      | none => cases hd
      | some value' =>
          cases hd
          simp only [first, Expr.wrapLayout_outline, Declarators.visits,
            Visit.outerBodies_append]
          exact (((hl value' rfl).wrap _ _).before _).comma _ (isEmpty_outputs rest')
            (hr rest' rfl) outerBodies_of_isEmpty

end Declarators

end forms

end TypeProbe
