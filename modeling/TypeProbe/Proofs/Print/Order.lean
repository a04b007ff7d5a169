import Mathlib.Data.List.Forall2
import TypeProbe.Print.Tree
import TypeProbe.Proofs.Tree.Parts

/-! # The order in which parts are printed

The text of a part that can be printed consists of the texts of its own parts, one after another in
the order of `Part.parts`, with marks and words of its own around them (`Part.Prints.woven`).

* `Part.Prints` tells which outputs a part is printed as.  There may be several: a function is
  written as an arrow function or with `function`, and a call under `new` has its callee in other
  parentheses than elsewhere.
* `Woven` tells that an output has outputs of given parts in it, in the given order. -/

namespace TypeProbe

open Output

/-- What a part is printed as where it occurs, without parentheses or braces around it that only
its place asks for. -/
inductive Part.Prints : Part → Output → Prop
  | program (p : Program) : Prints (.program p) p.print
  | expr (e : Expr) : Prints (.expr e) e.print
  | constructed (a : Anchor) (callee : Expr) (arguments : List Argument) :
      Prints (.expr (.call a ⟨false, callee, arguments⟩))
        (callee.wrap callee.constructorMin callee.print ++
          parenthesized (commaSeparated (Arguments.outputs arguments)))
  | argument {a : Argument} {o : Output} : Arguments.outputs [a] = [o] → Prints (.argument a) o
  | element {e : Element} {o : Output} : Elements.outputs [e] = [o] → Prints (.element e) o
  | arrow (f : Func) : Prints (.func f) f.printArrow
  | function (name : Option Name) (f : Func) : Prints (.func f) (f.printFunction name)
  | body (b : Body) : Prints (.body b) b.print
  | param {p : Param} {o : Output} : Params.outputs [p] = [o] → Prints (.param p) o
  | stmt (s : Stmt) : Prints (.stmt s) s.print
  | block (b : Block) : Prints (.block b) b.print
  | handler (c : Catch) : Prints (.handler c) c.print
  | declarator {d : Declarator} {o : Output} :
      Declarators.outputs [d] = [o] → Prints (.declarator d) o

/-- Parts are printed within an output, one after another in the given order. -/
inductive Woven : List Part → Output → Prop
  | nil (o : Output) : Woven [] o
  | cons {p : Part} {ps : List Part} {o later : Output} (before : Output) :
      p.Prints o → Woven ps later → Woven (p :: ps) (before ++ o ++ later)

namespace Woven

variable {p : Part} {ps qs : List Part} {a b o : Output}

theorem single (h : p.Prints o) : Woven [p] o := by
  have hw := cons .empty h (nil .empty)
  rwa [empty_append, append_empty] at hw

theorem before (h : Woven ps o) (a : Output) : Woven ps (a ++ o) := by
  cases h with
  | nil => exact nil _
  | cons b hp hl =>
      have hw := cons (a ++ b) hp hl
      rwa [append_assoc a, append_assoc a] at hw

theorem after (h : Woven ps o) (a : Output) : Woven ps (o ++ a) := by
  induction h with
  | nil => exact nil _
  | cons b hp _ ih =>
      rw [append_assoc]
      exact cons b hp ih

theorem append (hp : Woven ps a) (hq : Woven qs b) : Woven (ps ++ qs) (a ++ b) := by
  induction hp with
  | nil a => exact hq.before a
  | cons b h _ ih =>
      rw [append_assoc]
      exact cons b h ih

theorem parenthesized (h : Woven ps o) : Woven ps (Output.parenthesized o) :=
  (h.before _).after _

theorem braced (h : Woven ps o) : Woven ps (Output.braced o) := (h.before _).after _

theorem commaSeparated {os : List Output} (h : List.Forall₂ Part.Prints ps os) :
    Woven ps (Output.commaSeparated os) := by
  induction h with
  | nil => exact nil _
  | @cons p o ps os hp hs ih =>
      cases hs with
      | nil => exact single hp
      | cons => exact ((single hp).after _).append ih

/-- Parentheses around an expression do not matter. -/
theorem wrapped (e : Expr) (min : Nat) : Woven [.expr e] (e.wrap min e.print) := by
  unfold Expr.wrap
  split
  · exact (single (.expr e)).parenthesized
  · exact single (.expr e)

/-- Nor do braces around a branch. -/
theorem branched (s : Stmt) : Woven [.stmt s] (s.printBranch s.print) := by
  cases s with
  | block => exact single (.stmt _)
  | _ => exact (single (.stmt _)).braced

theorem stmts (ss : List Stmt) : Woven (ss.map .stmt) (Stmts.print ss) := by
  induction ss with
  | nil => exact nil _
  | cons s rest ih => exact (single (.stmt s)).append ih

end Woven

/-! ### The lists of a node -/

theorem Arguments.prints_outputs (as : List Argument) :
    List.Forall₂ Part.Prints (as.map .argument) (Arguments.outputs as) := by
  induction as with
  | nil => exact .nil
  | cons first rest ih =>
      obtain ⟨spot, spread, value⟩ := first
      exact .cons (.argument rfl) ih

theorem Elements.prints_outputs (es : List Element) :
    List.Forall₂ Part.Prints (es.map .element) (Elements.outputs es) := by
  induction es with
  | nil => exact .nil
  | cons first rest ih => cases first <;> exact .cons (.element rfl) ih

theorem Params.prints_outputs (ps : List Param) :
    List.Forall₂ Part.Prints (ps.map .param) (Params.outputs ps) := by
  induction ps with
  | nil => exact .nil
  | cons first rest ih =>
      obtain ⟨spot, isRest, pattern, type, value⟩ := first
      cases value <;> exact .cons (.param rfl) ih

theorem Declarators.prints_outputs (ds : List Declarator) :
    List.Forall₂ Part.Prints (ds.map .declarator) (Declarators.outputs ds) := by
  induction ds with
  | nil => exact .nil
  | cons first rest ih =>
      obtain ⟨pattern, type, value⟩ := first
      cases value <;> exact .cons (.declarator rfl) ih

/-! ### The parts of a node -/

section node

open Woven

theorem Func.woven_printArrow (f : Func) : Woven (Part.func f).parts f.printArrow := by
  obtain ⟨spot, arrow, async, generator, parameters, returnType, body⟩ := f
  have hs : Woven (parameters.map .param) (printSignature (Params.outputs parameters) returnType) :=
    (commaSeparated (Params.prints_outputs parameters)).parenthesized.after _
  exact ((hs.before _).after _).append (single (.body body))

theorem Func.woven_printFunction (name : Option Name) (f : Func) :
    Woven (Part.func f).parts (f.printFunction name) := by
  obtain ⟨spot, arrow, async, generator, parameters, returnType, body⟩ := f
  have hs : Woven (parameters.map .param) (printSignature (Params.outputs parameters) returnType) :=
    (commaSeparated (Params.prints_outputs parameters)).parenthesized.after _
  exact (hs.before _).append (single (.body body))

theorem Expr.woven_print (e : Expr) (he : e.print.error = none) : Woven e.parts e.print := by
  cases e with
  | arrow a f =>
      have hg : (Expr.arrow a f).print = f.printArrow := by
        unfold Expr.print at he ⊢
        split at he
        · cases he
        · exact if_neg ‹_›
      rw [hg]
      exact single (.arrow f)
  | binary a op l r => exact ((wrapped l _).after _).append (wrapped r _)
  | call a c =>
      obtain ⟨optional, callee, arguments⟩ := c
      have ha := (commaSeparated (Arguments.prints_outputs arguments)).parenthesized
      exact ((wrapped callee _).after _).append ha
  | index a optional o k =>
      exact (((wrapped o _).after _).after _).append (single (.expr k)) |>.after _
  | conditional a t c e =>
      have ht := (wrapped t (Precedence.assignment + 1)).after (punct "?")
      exact ((ht.append (wrapped c _)).after _).append (wrapped e _)
  | function a name f =>
      have hb : (Expr.function a name f).print = f.printFunction name := by
        unfold Expr.print at he ⊢
        split at he
        · cases he
        · rfl
      rw [hb]
      exact single (.function name f)
  | member a optional o property => exact (((wrapped o _).after _).after _).after _
  | unary a op e =>
      unfold Expr.print at he ⊢
      have hr := (error_append.mp he).2
      refine before ?_ op.print
      split at hr
      -- a call under `new` is not printed as elsewhere, and with a `?.` not at all
      · split at hr
        · cases hr
        · next hf =>
            rw [if_neg hf]
            obtain rfl := eq_false_of_ne_true hf
            exact single (.constructed ..)
      · exact wrapped _ _
      · exact wrapped _ _
  | trailing a op e => exact (wrapped e _).after _
  | array a es =>
      have hs := commaSeparated (Elements.prints_outputs es)
      exact ((hs.before _).after _).after _
  | ident | this | boolean | null | number | string => exact nil _

theorem Body.woven_print (b : Body) : Woven b.parts b.print := by
  cases b with
  | block spot statements => exact (stmts statements).braced
  | expr spot value => exact wrapped value _

theorem Stmt.woven_print (s : Stmt) (he : s.print.error = none) : Woven s.parts s.print := by
  cases s with
  | block a statements => exact (stmts statements).braced
  | doWhile a condition body =>
      have hb := ((branched body).before (keyword "do")).after (keyword "while")
      exact (hb.append (single (.expr condition)).parenthesized).after _
  | expr a value =>
      refine after ?_ _
      split
      · exact (single (.expr value)).parenthesized
      · exact single (.expr value)
  | ifElse a test consequent alternate =>
      have ht := (single (.expr test)).parenthesized.before (keyword "if")
      have hc := ht.append (branched consequent)
      cases alternate with
      | none => exact hc
      | some alternate => exact (hc.after _).append (branched alternate)
  | ret a value =>
      cases value with
      | none => exact nil _
      | some value => exact ((single (.expr value)).before _).after _
  | throw a value => exact ((single (.expr value)).before _).after _
  | tryBlock a wrapped caught finalizer =>
      have hw := (single (.block wrapped)).before (keyword "try")
      cases caught with
      | none =>
          cases finalizer with
          | none => cases he
          | some finalizer => exact (hw.after _).append (single (.block finalizer))
      | some caught =>
          have hc := hw.append (single (.handler caught))
          cases finalizer with
          | none => exact hc
          | some finalizer => exact (hc.after _).append (single (.block finalizer))
  | whileDo a condition body =>
      exact ((single (.expr condition)).parenthesized.before _).append (branched body)
  | funcDecl a exported name f =>
      cases name with
      | none => cases he
      | some name =>
          have hb : (Stmt.funcDecl a exported (some name) f).print =
              onlyIf exported (keyword "export") ++ f.printFunction (some name) := by
            unfold Stmt.print at he ⊢
            split at he
            · cases he
            · rfl
          rw [hb]
          exact (single (.function (some name) f)).before _
  | varDecl a exported kind declarators =>
      unfold Stmt.print at he ⊢
      split at he
      · cases he
      · have hs := commaSeparated (Declarators.prints_outputs declarators)
        rw [if_neg ‹_›]
        exact (hs.before _).after _
  | breakTo | continueTo | empty => exact nil _

end node

/-- **The order in which parts are printed.**  An output of a part that can be printed has outputs
of all its parts in it, one after another in the order of `Part.parts`. -/
theorem Part.Prints.woven {p : Part} {o : Output} (h : p.Prints o) (he : o.error = none) :
    Woven p.parts o := by
  cases h with
  | program p => exact .stmts p.body
  | expr e => exact e.woven_print he
  | constructed a callee arguments =>
      have ha := (Woven.commaSeparated (Arguments.prints_outputs arguments)).parenthesized
      exact (Woven.wrapped callee _).append ha
  | @argument a _ ho =>
      obtain ⟨spot, spread, value⟩ := a
      obtain rfl := List.head_eq_of_cons_eq ho
      exact (Woven.wrapped value _).before _
  | @element e _ ho =>
      cases e with
      | single value =>
          obtain rfl := List.head_eq_of_cons_eq ho
          exact .wrapped value _
      | rest value =>
          obtain rfl := List.head_eq_of_cons_eq ho
          exact (Woven.wrapped value _).before _
      | hole => exact .nil _
  | arrow f => exact f.woven_printArrow
  | function name f => exact f.woven_printFunction name
  | body b => exact b.woven_print
  | @param p _ ho =>
      obtain ⟨spot, isRest, pattern, type, value⟩ := p
      cases value with
      | none => exact .nil _
      | some value =>
          obtain rfl := List.head_eq_of_cons_eq ho
          split at he
          · cases he
          · rw [if_neg ‹_›]
            exact (Woven.wrapped value _).before _
  | stmt s => exact s.woven_print he
  | block b =>
      obtain ⟨spot, statements⟩ := b
      exact (Woven.stmts statements).braced
  | handler c =>
      obtain ⟨spot, parameter, statements⟩ := c
      exact (Woven.stmts statements).braced.before _
  | @declarator d _ ho =>
      obtain ⟨pattern, type, value⟩ := d
      cases value with
      | none => exact .nil _
      | some value =>
          obtain rfl := List.head_eq_of_cons_eq ho
          exact (Woven.wrapped value _).before _

end TypeProbe
