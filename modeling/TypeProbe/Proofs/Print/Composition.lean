import TypeProbe.Proofs.Grammar.Token
import TypeProbe.Proofs.Tree.Chain
import TypeProbe.Proofs.Tree.Check

/-! # Properties that printing builds up

Outputs are put together from words, numbers, marks and literals with `++`, and brackets always come
in pairs.  A property that this keeps is `Compositional`, and it holds of what is printed for any
tree (`Expr.holds_print`, `Stmts.holds_print` and so on).  What has to be known of the names, the
numbers and the operators of the tree is a check on it. -/

namespace TypeProbe

open Output

/-- The marks that are no brackets and no operators; the two brackets of an array type are one
mark. -/
def plainMarks : List String :=
  [",", ";", ":", "?", "?.", ".", "...", "=>", "=", "*", "<", ">", "[]"]

/-- A property of outputs that is kept by the ways in which the outputs of a tree that passes the
check are put together. -/
structure Compositional (k : Check) (Q : Output → Prop) : Prop where
  empty : Q empty
  fail (cause : Unprintable) (loc : Loc) : Q (fail cause loc)
  append {a b : Output} : Q a → Q b → Q (a ++ b)
  parenthesized {o : Output} : Q o → Q (parenthesized o)
  braced {o : Output} : Q o → Q (braced o)
  bracketed {o : Output} : Q o → Q (punct "[" ++ o ++ punct "]")
  word {w : String} : w.toList ≠ [] → w.toList.all isWordChar = true → Q (keyword w)
  mark {m : String} : m ∈ plainMarks → Q (punct m)
  operator (op : Operator) : Q op.print
  trailing {a : Anchor} {op : Operator} {e : Expr} :
    k.expr (.trailing a op e) = true → Q (punct op.token)
  name {n : String} : k.name n = true → Q (identifier n)
  property {n : String} : k.property n = true → Q (identifier n)
  number {a : Anchor} {x : Binary64} : k.expr (.number a x) = true → Q x.print
  quoted (value : String) : Q (quoted value)

section compositional

variable {k : Check} {Q : Output → Prop} (hq : Compositional k Q)
include hq

namespace Compositional

theorem onlyIf {o : Output} (h : Q o) (condition : Bool) : Q (Output.onlyIf condition o) := by
  cases condition with
  | true => exact h
  | false => exact hq.empty

theorem commaSeparated {os : List Output} (h : ∀ o ∈ os, Q o) : Q (Output.commaSeparated os) := by
  induction os with
  | nil => exact hq.empty
  | cons o os ih =>
      have ho := h o List.mem_cons_self
      have hrest := ih fun o' ho' => h o' (List.mem_cons_of_mem _ ho')
      cases os with
      | nil => exact ho
      | cons o' os => exact hq.append (hq.append ho (hq.mark (by decide))) hrest

/-- Brackets after an output. -/
theorem bracketedAfter {a b : Output} (ha : Q a) (hb : Q b) :
    Q (a ++ punct "[" ++ b ++ punct "]") := by
  have h := hq.append ha (hq.bracketed hb)
  rwa [append_assoc (punct "["), ← append_assoc, ← append_assoc] at h

theorem wrap {e : Expr} (h : Q e.print) (min : Nat) : Q (e.wrap min e.print) := by
  unfold Expr.wrap
  split
  · exact hq.parenthesized h
  · exact h

theorem integerPoint (e : Expr) : Q e.integerPoint := by
  unfold Expr.integerPoint
  split
  · exact hq.onlyIf (hq.mark (by decide)) _
  · exact hq.empty

theorem jump {w : String} {label : Option String} (hne : w.toList ≠ [])
    (hw : w.toList.all isWordChar = true) (h : label.all k.name = true) :
    Q (printJump w label) := by
  refine hq.append (hq.append (hq.word hne hw) ?_) (hq.mark (by decide))
  cases label with
  | none => exact hq.empty
  | some l => exact hq.name h

theorem functionHead (async generator : Bool) {name : Option Name}
    (h : Name.passes k name = true) : Q (printFunctionHead async generator name) := by
  refine hq.append (hq.append (hq.append (hq.onlyIf (hq.word (by decide) rfl) _)
    (hq.word (by decide) rfl)) (hq.onlyIf (hq.mark (by decide)) _)) ?_
  cases name with
  | none => exact hq.empty
  | some n => exact hq.name h

theorem branch {s : Stmt} (h : Q s.print) : Q (s.printBranch s.print) := by
  cases s with
  | block a body => exact h
  | _ => exact hq.braced h

section unary

variable {a : Anchor} {op : Operator} {e : Expr}

theorem leading (hop : op ≠ .new) (h : Q e.print) : Q (Expr.unary a op e).print := by
  rw [Expr.print_leading hop]
  exact hq.append (hq.operator op) (hq.wrap h _)

theorem new (he : e.isCall = false) (h : Q e.print) : Q (Expr.unary a .new e).print := by
  rw [Expr.print_new he]
  exact hq.append (hq.operator .new) (hq.wrap h _)

/-- A call under `new` is printed by its parts. -/
theorem newCall {b : Anchor} {optional : Bool} {callee : Expr} {arguments : List Argument}
    (hc : Q callee.print) (ha : ∀ o ∈ Arguments.outputs arguments, Q o) :
    Q (Expr.unary a .new (.call b ⟨optional, callee, arguments⟩)).print := by
  refine hq.append (hq.operator .new) ?_
  cases optional with
  | true => exact hq.fail _ _
  | false => exact hq.append (hq.wrap hc _) (hq.parenthesized (hq.commaSeparated ha))

end unary

end Compositional

set_option linter.unusedSectionVars false

mutual

theorem TypeExpr.holds_print : (t : TypeExpr) → t.passes k = true → Q t.print
  | .array _ element, h => hq.append (element.holds_print h) (hq.mark (by decide))
  | .keyword _ w, _ => by
      cases w <;> exact hq.word (by decide) rfl
  | .reference _ name arguments, h => by
      simp only [TypeExpr.passes, Bool.and_eq_true] at h
      have ha := hq.commaSeparated (TypeExprs.holds_outputs arguments h.2)
      have hangles := hq.append (hq.append (hq.mark (m := "<") (by decide)) ha)
        (hq.mark (m := ">") (by decide))
      exact hq.append (hq.name h.1) (hq.onlyIf hangles _)

theorem TypeExprs.holds_outputs : (types : List TypeExpr) → TypeExprs.passes k types = true →
    ∀ o ∈ TypeExprs.outputs types, Q o
  | [], _ => nofun
  | t :: rest, h => by
      simp only [TypeExprs.passes, Bool.and_eq_true] at h
      exact List.forall_mem_cons.mpr ⟨t.holds_print h.1, TypeExprs.holds_outputs rest h.2⟩

end

theorem Compositional.annotation {type : Option TypeExpr}
    (h : TypeExpr.optionPasses k type = true) : Q (printType? type) := by
  cases type with
  | none => exact hq.empty
  | some t => exact hq.append (hq.mark (by decide)) (t.holds_print hq h)

theorem Compositional.signature {outputs : List Output} {type : Option TypeExpr}
    (ho : ∀ o ∈ outputs, Q o) (ht : TypeExpr.optionPasses k type = true) :
    Q (printSignature outputs type) :=
  hq.append (hq.parenthesized (hq.commaSeparated ho)) (hq.annotation ht)

mutual

theorem Expr.holds_print : (e : Expr) → e.passes k = true → Q e.print
  | .arrow a ⟨spot, arrow, async, generator, parameters, returnType, body⟩, h => by
      simp only [Expr.passes, Func.passes, Bool.and_eq_true] at h
      obtain ⟨_, ⟨⟨_, hp⟩, hr⟩, hb⟩ := h
      cases generator with
      | true => exact hq.fail _ _
      | false =>
          have hsignature := hq.signature (Params.holds_outputs parameters hp) hr
          have hhead := hq.append (hq.onlyIf (hq.word (w := "async") (by decide) rfl) async)
            hsignature
          exact hq.append (hq.append hhead (hq.mark (by decide))) (body.holds_print hb)
  | .binary a op l r, h => by
      simp only [Expr.passes, Bool.and_eq_true] at h
      obtain ⟨⟨_, hl⟩, hr⟩ := h
      exact hq.append (hq.append (hq.wrap (l.holds_print hl) _) (hq.operator op))
        (hq.wrap (r.holds_print hr) _)
  | .call a ⟨optional, callee, arguments⟩, h => by
      simp only [Expr.passes, Call.passes, Bool.and_eq_true] at h
      obtain ⟨_, hc, ha⟩ := h
      have hcallee := hq.append (hq.wrap (callee.holds_print hc) Precedence.callMember)
        (hq.onlyIf (hq.mark (m := "?.") (by decide)) optional)
      exact hq.append hcallee
        (hq.parenthesized (hq.commaSeparated (Arguments.holds_outputs arguments ha)))
  | .index a optional object key, h => by
      simp only [Expr.passes, Bool.and_eq_true] at h
      obtain ⟨⟨_, ho⟩, hk⟩ := h
      have hobject := hq.append (hq.wrap (object.holds_print ho) Precedence.callMember)
        (hq.onlyIf (hq.mark (m := "?.") (by decide)) optional)
      exact hq.bracketedAfter hobject (key.holds_print hk)
  | .conditional a t c e, h => by
      simp only [Expr.passes, Bool.and_eq_true] at h
      obtain ⟨⟨⟨_, ht⟩, hc⟩, he⟩ := h
      have htest := hq.append (hq.wrap (t.holds_print ht) (Precedence.assignment + 1))
        (hq.mark (m := "?") (by decide))
      have hbranch := hq.append (hq.append htest (hq.wrap (c.holds_print hc) Precedence.assignment))
        (hq.mark (m := ":") (by decide))
      exact hq.append hbranch (hq.wrap (e.holds_print he) _)
  | .function a name ⟨spot, arrow, async, generator, parameters, returnType, .block l statements⟩,
    h => by
      simp only [Expr.passes, Func.passes, Body.passes, Bool.and_eq_true] at h
      obtain ⟨⟨_, hn⟩, ⟨⟨_, hp⟩, hr⟩, hb⟩ := h
      exact hq.append (hq.append (hq.functionHead async generator hn)
        (hq.signature (Params.holds_outputs parameters hp) hr))
        (hq.braced (Stmts.holds_print statements hb))
  | .function a name ⟨spot, arrow, async, generator, parameters, returnType, .expr l value⟩, _ =>
      hq.fail _ _
  | .ident a name, h => by
      simp only [Expr.passes, Bool.and_eq_true] at h
      exact hq.name h.2
  | .member a optional object property, h => by
      simp only [Expr.passes, Bool.and_eq_true] at h
      obtain ⟨⟨_, ho⟩, hp⟩ := h
      have hobject := hq.append (hq.wrap (object.holds_print ho) Precedence.callMember)
        (hq.integerPoint object)
      refine hq.append (hq.append hobject ?_) (hq.property hp)
      cases optional <;> exact hq.mark (by decide)
  | .this a, _ => hq.word (by decide) rfl
  | .unary _ op argument, h => by
      simp only [Expr.passes, Bool.and_eq_true] at h
      obtain ⟨_, ha⟩ := h
      have hargument := argument.holds_print ha
      by_cases hnew : op = .new
      · subst hnew
        cases argument with
        | call b c =>
            obtain ⟨optional, callee, arguments⟩ := c
            simp only [Expr.passes, Call.passes, Bool.and_eq_true] at ha
            exact hq.newCall (callee.holds_print ha.2.1)
              (Arguments.holds_outputs arguments ha.2.2)
        | _ => exact hq.new rfl hargument
      · exact hq.leading hnew hargument
  | .trailing a op e, h => by
      simp only [Expr.passes, Bool.and_eq_true] at h
      exact hq.append (hq.wrap (e.holds_print h.2) _) (hq.trailing h.1)
  | .array a elements, h => by
      simp only [Expr.passes, Bool.and_eq_true] at h
      have hinner := hq.append (hq.commaSeparated (Elements.holds_outputs elements h.2))
        (hq.onlyIf (hq.mark (m := ",") (by decide)) (endsInHole elements))
      have hall := hq.bracketed hinner
      rwa [← append_assoc] at hall
  | .boolean a value, _ => by
      cases value <;> exact hq.word (by decide) rfl
  | .null a, _ => hq.word (by decide) rfl
  | .number a value, h => hq.number h
  | .string a value, _ => hq.quoted value

theorem Arguments.holds_outputs : (arguments : List Argument) →
    Arguments.passes k arguments = true → ∀ o ∈ Arguments.outputs arguments, Q o
  | [], _ => nofun
  | ⟨spot, spread, value⟩ :: rest, h => by
      simp only [Arguments.passes, Bool.and_eq_true] at h
      have hvalue := hq.wrap (value.holds_print h.1) Precedence.assignment
      exact List.forall_mem_cons.mpr ⟨hq.append (hq.onlyIf (hq.mark (by decide)) _) hvalue,
        Arguments.holds_outputs rest h.2⟩

theorem Elements.holds_outputs : (elements : List Element) →
    Elements.passes k elements = true → ∀ o ∈ Elements.outputs elements, Q o
  | [], _ => nofun
  | .single value :: rest, h => by
      simp only [Elements.passes, Bool.and_eq_true] at h
      exact List.forall_mem_cons.mpr
        ⟨hq.wrap (value.holds_print h.1) _, Elements.holds_outputs rest h.2⟩
  | .rest value :: rest, h => by
      simp only [Elements.passes, Bool.and_eq_true] at h
      have hvalue := hq.wrap (value.holds_print h.1) Precedence.assignment
      exact List.forall_mem_cons.mpr ⟨hq.append (hq.mark (by decide)) hvalue,
        Elements.holds_outputs rest h.2⟩
  | .hole :: rest, h => List.forall_mem_cons.mpr ⟨hq.empty, Elements.holds_outputs rest h⟩

theorem Params.holds_outputs : (parameters : List Param) →
    Params.passes k parameters = true → ∀ o ∈ Params.outputs parameters, Q o
  | [], _ => nofun
  | ⟨spot, isRest, pattern, type, none⟩ :: params, h => by
      simp only [Params.passes, Bool.and_eq_true] at h
      obtain ⟨⟨hn, ht⟩, hp⟩ := h
      have hname := hq.append (hq.onlyIf (hq.mark (m := "...") (by decide)) isRest) (hq.name hn)
      exact List.forall_mem_cons.mpr ⟨hq.append hname (hq.annotation ht),
        Params.holds_outputs params hp⟩
  | ⟨spot, isRest, pattern, type, some value⟩ :: params, h => by
      simp only [Params.passes, Bool.and_eq_true] at h
      obtain ⟨⟨⟨hn, ht⟩, hv⟩, hp⟩ := h
      refine List.forall_mem_cons.mpr ⟨?_, Params.holds_outputs params hp⟩
      cases isRest with
      | true => exact hq.fail _ _
      | false =>
          exact hq.append (hq.append (hq.append (hq.name hn) (hq.annotation ht))
            (hq.mark (by decide))) (hq.wrap (value.holds_print hv) _)

theorem Body.holds_print : (b : Body) → b.passes k = true → Q b.print
  | .block _ statements, h => hq.braced (Stmts.holds_print statements h)
  | .expr _ value, h => hq.wrap (value.holds_print h) _

theorem Stmt.holds_print : (s : Stmt) → s.passes k = true → Q s.print
  | .block _ body, h => hq.braced (Stmts.holds_print body h)
  | .breakTo _ label, h => hq.jump (by decide) rfl h
  | .continueTo _ label, h => hq.jump (by decide) rfl h
  | .doWhile _ condition body, h => by
      simp only [Stmt.passes, Bool.and_eq_true] at h
      have hdo := hq.append (hq.word (w := "do") (by decide) rfl) (hq.branch (body.holds_print h.2))
      have hwhile := hq.append (hq.append hdo (hq.word (w := "while") (by decide) rfl))
        (hq.parenthesized (condition.holds_print h.1))
      exact hq.append hwhile (hq.mark (by decide))
  | .empty _, _ => hq.empty
  | .expr _ value, h => by
      refine hq.append ?_ (hq.mark (by decide))
      split
      · exact hq.parenthesized (value.holds_print h)
      · exact value.holds_print h
  | .ifElse _ test consequent none, h => by
      simp only [Stmt.passes, Bool.and_eq_true] at h
      exact hq.append (hq.append (hq.word (by decide) rfl)
        (hq.parenthesized (test.holds_print h.1))) (hq.branch (consequent.holds_print h.2))
  | .ifElse _ test consequent (some alternate), h => by
      simp only [Stmt.passes, Bool.and_eq_true] at h
      obtain ⟨⟨ht, hc⟩, ha⟩ := h
      have hthen := hq.append (hq.append (hq.word (w := "if") (by decide) rfl)
        (hq.parenthesized (test.holds_print ht))) (hq.branch (consequent.holds_print hc))
      exact hq.append (hq.append hthen (hq.word (by decide) rfl))
        (hq.branch (alternate.holds_print ha))
  | .ret _ none, _ => hq.append (hq.word (by decide) rfl) (hq.mark (by decide))
  | .ret _ (some value), h =>
      hq.append (hq.append (hq.word (by decide) rfl) (value.holds_print h)) (hq.mark (by decide))
  | .throw _ value, h =>
      hq.append (hq.append (hq.word (by decide) rfl) (value.holds_print h)) (hq.mark (by decide))
  | .tryBlock _ _ none none, _ => hq.fail _ _
  | .tryBlock _ wrapped (some handler) none, h => by
      simp only [Stmt.passes, Bool.and_eq_true] at h
      exact hq.append (hq.append (hq.word (by decide) rfl) (wrapped.holds_print h.1))
        (handler.holds_print h.2)
  | .tryBlock _ wrapped none (some finalizer), h => by
      simp only [Stmt.passes, Bool.and_eq_true] at h
      exact hq.append (hq.append (hq.append (hq.word (by decide) rfl) (wrapped.holds_print h.1))
        (hq.word (by decide) rfl)) (finalizer.holds_print h.2)
  | .tryBlock _ wrapped (some handler) (some finalizer), h => by
      simp only [Stmt.passes, Bool.and_eq_true] at h
      obtain ⟨⟨hb, hc⟩, hf⟩ := h
      have htry := hq.append (hq.append (hq.word (w := "try") (by decide) rfl)
        (wrapped.holds_print hb)) (handler.holds_print hc)
      exact hq.append (hq.append htry (hq.word (by decide) rfl)) (finalizer.holds_print hf)
  | .whileDo _ condition body, h => by
      simp only [Stmt.passes, Bool.and_eq_true] at h
      exact hq.append (hq.append (hq.word (by decide) rfl)
        (hq.parenthesized (condition.holds_print h.1))) (hq.branch (body.holds_print h.2))
  | .funcDecl _ _ none _, _ => hq.fail _ _
  | .funcDecl _ exported (some name)
      ⟨spot, arrow, async, generator, parameters, returnType, .block l statements⟩, h => by
      simp only [Stmt.passes, Func.passes, Body.passes, Bool.and_eq_true] at h
      obtain ⟨hn, ⟨⟨_, hp⟩, hr⟩, hb⟩ := h
      have hfunction := hq.append (hq.append (hq.functionHead async generator hn)
        (hq.signature (Params.holds_outputs parameters hp) hr))
        (hq.braced (Stmts.holds_print statements hb))
      exact hq.append (hq.onlyIf (hq.word (by decide) rfl) _) hfunction
  | .funcDecl _ exported (some name)
      ⟨spot, arrow, async, generator, parameters, returnType, .expr l value⟩, _ => hq.fail _ _
  | .varDecl _ exported kind declarators, h => by
      have hdeclarators := hq.commaSeparated (Declarators.holds_outputs declarators h)
      have hkind : Q (keyword kind.token) := by
        cases kind <;> exact hq.word (by decide) rfl
      unfold Stmt.print
      split
      · exact hq.fail _ _
      · exact hq.append (hq.append (hq.append (hq.onlyIf (hq.word (by decide) rfl) _) hkind)
          hdeclarators) (hq.mark (by decide))

theorem Stmts.holds_print : (statements : List Stmt) → Stmts.passes k statements = true →
    Q (Stmts.print statements)
  | [], _ => hq.empty
  | s :: rest, h => by
      simp only [Stmts.passes, Bool.and_eq_true] at h
      exact hq.append (s.holds_print h.1) (Stmts.holds_print rest h.2)

theorem Block.holds_print : (b : Block) → b.passes k = true → Q b.print
  | ⟨_, body⟩, h => hq.braced (Stmts.holds_print body h)

theorem Catch.holds_print : (c : Catch) → c.passes k = true → Q c.print
  | ⟨_, none, body⟩, h => by
      simp only [Catch.passes, Bool.and_eq_true] at h
      exact hq.append (hq.append (hq.word (by decide) rfl) hq.empty)
        (hq.braced (Stmts.holds_print body h.2))
  | ⟨_, some name, body⟩, h => by
      simp only [Catch.passes, Bool.and_eq_true] at h
      exact hq.append (hq.append (hq.word (by decide) rfl) (hq.parenthesized (hq.name h.1)))
        (hq.braced (Stmts.holds_print body h.2))

theorem Declarators.holds_outputs : (declarators : List Declarator) →
    Declarators.passes k declarators = true → ∀ o ∈ Declarators.outputs declarators, Q o
  | [], _ => nofun
  | ⟨pattern, type, none⟩ :: rest, h => by
      simp only [Declarators.passes, Bool.and_eq_true] at h
      obtain ⟨⟨hn, ht⟩, hr⟩ := h
      exact List.forall_mem_cons.mpr
        ⟨hq.append (hq.name hn) (hq.annotation ht), Declarators.holds_outputs rest hr⟩
  | ⟨pattern, type, some value⟩ :: rest, h => by
      simp only [Declarators.passes, Bool.and_eq_true] at h
      obtain ⟨⟨⟨hn, ht⟩, hv⟩, hr⟩ := h
      have hname := hq.append (hq.append (hq.name hn) (hq.annotation ht))
        (hq.mark (m := "=") (by decide))
      exact List.forall_mem_cons.mpr ⟨hq.append hname (hq.wrap (value.holds_print hv) _),
        Declarators.holds_outputs rest hr⟩

end

end compositional

end TypeProbe
