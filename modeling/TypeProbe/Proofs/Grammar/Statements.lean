import TypeProbe.Proofs.Grammar.Derivations

/-! # Derivations of statements

What is printed of a statement derives its bare tree if what is printed of its parts derives
theirs, one lemma for every form (`Stmt.derives_ifElse` and so on).  A lone semicolon is not
written at all, so it derives nothing; branches are blocks, which no `else` can join
(`Stmt.derives_branch`). -/

namespace TypeProbe

open Grammar Output Token

variable {ts : List Token}

/-- Whether statements in braces derive their bare tree. -/
def Block.Derives (b : Block) : Prop := ∀ ts, b.print.Spells ts → Braced ts b.bare

/-- Whether a `catch` clause derives its bare tree. -/
def Catch.Derives (c : Catch) : Prop := ∀ ts, c.print.Spells ts → CatchClause ts c.bare

theorem Expr.Derives.expression {e : Expr} (hd : e.Derives) (h : e.print.Spells ts) :
    Expression .expression ts e.bare :=
  (hd ts h).climb_within e.level.within_expression

namespace Stmt

/-- Whether a statement that is written at all derives its bare tree. -/
def Derives (s : Stmt) : Prop :=
  s.isEmpty = false → ∀ ts, s.print.Spells ts → Item ts s.bare

/-! ### Simple statements and branches -/

/-- A branch or loop body is a block, which no `else` can join. -/
theorem derives_branch {s : Stmt} (hd : s.Derives) (h : (s.printBranch s.print).Spells ts) :
    Statement ts (s.branch s.bare) ∧ (s.branch s.bare).endsOpen = false := by
  by_cases hb : ∃ a body, s = .block a body
  · obtain ⟨a, body, rfl⟩ := hb
    refine ⟨?_, rfl⟩
    cases hd rfl ts h with
    | statement hs => exact hs
  · have hprint : s.printBranch s.print = braced s.print := by
      cases s with
      | block a body => exact absurd ⟨a, body, rfl⟩ hb
      | _ => rfl
    rw [hprint] at h
    obtain ⟨us, hu, rfl⟩ := spells_braced.mp h
    cases hempty : s.isEmpty with
    | true =>
        cases s with
        | empty a =>
            obtain rfl := spells_empty.mp hu
            exact ⟨.block .nil, rfl⟩
        | _ => cases hempty
    | false =>
        have hbranch : s.branch s.bare = .block .blank [s.bare] := by
          cases s with
          | block a body => exact absurd ⟨a, body, rfl⟩ hb
          | empty a => cases hempty
          | _ => rfl
        have hs := Statements.cons (hd hempty us hu) .nil
        rw [List.append_nil] at hs
        rw [hbranch]
        exact ⟨.block hs, rfl⟩

theorem optionalName_of_label {label : Option String} (hl : label.all isFreeName = true) :
    OptionalName (label.map word).toList label := by
  cases label with
  | none => exact .absent
  | some l => exact .present (isIdentifier_of_isFreeName hl)

/-- An expression statement is in parentheses if it would begin with `function`. -/
theorem derives_expr {a : Anchor} {value : Expr} (hp : value.passes wellPlaced = true)
    (hd : value.Derives) : (expr a value).Derives := by
  intro _ ts hs
  obtain ⟨us, hu, _, hend, rfl⟩ := spells_append.mp hs
  obtain rfl := spells_punct.mp hend
  refine .statement ?_
  cases hf : value.startsWithFunction with
  | true =>
      rw [hf] at hu
      have he := Expr.derives_parenthesized hd hu
      obtain ⟨vs, _, rfl⟩ := spells_parenthesized.mp hu
      exact .expr (he.climb_within rfl) rfl
  | false =>
      rw [hf] at hu
      have hb := Expr.begins_print hp hu
      rw [hf] at hb
      exact .expr (hd.expression hu) (beginsOtherwise_of_begins hb)

variable {a : Anchor}

theorem derives_block {body : List Stmt} (hb : Stmts.Derive body) : (block a body).Derives := by
  intro _ ts hs
  obtain ⟨us, hu, rfl⟩ := spells_braced.mp hs
  exact .statement (.block (hb us hu))

theorem derives_breakTo {label : Option String} (hl : label.all isFreeName = true) :
    (breakTo a label).Derives := by
  intro _ ts hs
  obtain rfl := spells_printJump hs
  exact .statement (.breakTo (optionalName_of_label hl))

theorem derives_continueTo {label : Option String} (hl : label.all isFreeName = true) :
    (continueTo a label).Derives := by
  intro _ ts hs
  obtain rfl := spells_printJump hs
  exact .statement (.continueTo (optionalName_of_label hl))

theorem derives_retNothing : (ret a none).Derives := by
  intro _ ts hs
  obtain rfl := spells_ret hs
  exact .statement .ret

theorem derives_ret {value : Expr} (hv : value.Derives) : (ret a (some value)).Derives := by
  intro _ ts hs
  obtain ⟨us, hu, rfl⟩ := spells_wordValue hs
  exact .statement (.retValue (hv.expression hu))

theorem derives_throw {value : Expr} (hv : value.Derives) : (throw a value).Derives := by
  intro _ ts hs
  obtain ⟨us, hu, rfl⟩ := spells_wordValue hs
  exact .statement (.throw (hv.expression hu))

/-! ### Conditions and loops -/

section branches

variable {condition : Expr} {body consequent alternate : Stmt}

theorem derives_doWhile (hc : condition.Derives) (hb : body.Derives) :
    (doWhile a condition body).Derives := by
  intro _ ts hs
  obtain ⟨us, hu, _, hcondition, rfl⟩ := spells_doWhile hs
  obtain ⟨vs, hv, rfl⟩ := spells_parenthesized.mp hcondition
  obtain ⟨hbody, _⟩ := derives_branch hb hu
  exact .statement (.doWhile hbody (hc.expression hv))

theorem derives_whileDo (hc : condition.Derives) (hb : body.Derives) :
    (whileDo a condition body).Derives := by
  intro _ ts hs
  obtain ⟨_, hcondition, vs, hv, rfl⟩ := spells_whileDo hs
  obtain ⟨us, hu, rfl⟩ := spells_parenthesized.mp hcondition
  obtain ⟨hbody, _⟩ := derives_branch hb hv
  exact .statement (.whileDo (hc.expression hu) hbody)

theorem derives_if (hc : condition.Derives) (ht : consequent.Derives) :
    (ifElse a condition consequent none).Derives := by
  intro _ ts hs
  obtain ⟨_, hcondition, vs, hv, rfl⟩ := spells_ifThen hs
  obtain ⟨us, hu, rfl⟩ := spells_parenthesized.mp hcondition
  obtain ⟨hbranch, _⟩ := derives_branch ht hv
  exact .statement (.ifThen (hc.expression hu) hbranch)

theorem derives_ifElse (hc : condition.Derives) (ht : consequent.Derives)
    (he : alternate.Derives) : (ifElse a condition consequent (some alternate)).Derives := by
  intro _ ts hs
  obtain ⟨_, hcondition, vs, hv, ws, hw, rfl⟩ := spells_ifElse hs
  obtain ⟨us, hu, rfl⟩ := spells_parenthesized.mp hcondition
  obtain ⟨hthen, hopen⟩ := derives_branch ht hv
  obtain ⟨helse, _⟩ := derives_branch he hw
  exact .statement (.ifElse (hc.expression hu) hthen hopen helse)

end branches

/-! ### Handlers -/

section tryBlock

variable {wrapped finalizer : Block} {handler : Catch} (hw : wrapped.Derives)
include hw

theorem derives_tryCatch (hh : handler.Derives) :
    (tryBlock a wrapped (some handler) none).Derives := by
  intro _ ts hs
  obtain ⟨us, hu, vs, hv, rfl⟩ := spells_tryCatch hs
  exact .statement (.tryCatch (hw us hu) (hh vs hv))

theorem derives_tryFinally (hf : finalizer.Derives) :
    (tryBlock a wrapped none (some finalizer)).Derives := by
  intro _ ts hs
  obtain ⟨us, hu, vs, hv, rfl⟩ := spells_tryFinally hs
  exact .statement (.tryFinally (hw us hu) (hf vs hv))

theorem derives_tryCatchFinally (hh : handler.Derives) (hf : finalizer.Derives) :
    (tryBlock a wrapped (some handler) (some finalizer)).Derives := by
  intro _ ts hs
  obtain ⟨us, hu, vs, hv, ws, hz, rfl⟩ := spells_tryCatchFinally hs
  exact .statement (.tryCatchFinally (hw us hu) (hh vs hv) (hf ws hz))

end tryBlock

/-! ### Declarations -/

theorem derives_funcDecl {exported : Bool} {name : Name} {f : Func}
    {statements : List Stmt} {spot : Spot} (hb : f.body = .block spot statements)
    (hn : Name.passes wellPlaced (some name) = true)
    (hr : TypeExpr.optionPasses wellPlaced f.returnType = true)
    (hp : Params.Derive f.parameters) (hd : Stmts.Derive statements) :
    (funcDecl a exported (some name) f).Derives := by
  intro _ ts hs
  obtain ⟨us, hu, rfl⟩ := spells_funcDecl hs
  exact .funcDecl (Func.derives_function hb hn hr hp hd hu)

theorem derives_varDecl {exported : Bool} {kind : BindingKind}
    {declarators : List Declarator}
    (hd : ∀ tss, List.Forall₂ Spells (Declarators.outputs declarators) tss →
      Grammar.Declarators tss (Declarators.bare declarators)) :
    (varDecl a exported kind declarators).Derives := by
  intro _ ts hs
  obtain ⟨hne, us, hu, rfl⟩ := spells_varDecl hs
  obtain ⟨tss, ht, rfl⟩ := spells_commaSeparated.mp hu
  refine .varDecl ?_ (hd tss ht) ?_
  · cases kind <;> decide
  · intro hb
    cases declarators with
    | nil => exact hne rfl
    | cons d rest =>
        obtain ⟨pattern, type, value⟩ := d
        cases value <;> cases hb

end Stmt

/-! ### Clauses -/

theorem Block.derives_mk {spot : Spot} {body : List Stmt} (hb : Stmts.Derive body) :
    (Block.mk spot body).Derives := by
  intro ts hs
  obtain ⟨us, hu, rfl⟩ := spells_braced.mp hs
  exact .intro (hb us hu)

theorem Catch.derives_mk {spot : Spot} {parameter : Option Name} {body : List Stmt}
    (hn : Name.passes wellPlaced parameter = true) (hb : Stmts.Derive body) :
    (Catch.mk spot parameter body).Derives := by
  intro ts hs
  obtain ⟨_, hbraces, rfl⟩ := spells_print hs
  obtain ⟨us, hu, rfl⟩ := spells_braced.mp hbraces
  cases parameter with
  | none => exact .plain (hb us hu)
  | some name => exact .binding (isIdentifier_of_isFreeName hn) (hb us hu)

end TypeProbe
