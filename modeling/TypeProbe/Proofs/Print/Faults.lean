import TypeProbe.Proofs.Print.Order

/-! # Why printing fails

Eight shapes have no text.  Each of them shows at a single part of the program, in one case
together with the node around it (`Occurrence.fault`).

* **Main result** (`Program.text_eq_error_iff`): printing fails exactly if some part of the program
  has such a shape, and then for the first one in document order.

Outputs that are put together fail for the first reason that one of them has, and so a part that is
printed fails for its own reason or for the first one among its parts (`Part.Prints.error_eq`). -/

namespace TypeProbe

open Output

/-! ### Shapes that have no text -/

def Body.isExpr : Body → Bool
  | .block .. => false
  | .expr .. => true

/-- Why an expression has no text, whatever its operands are. -/
def Expr.fault : Expr → Option PrintError
  | .arrow a f => if f.generator then some ⟨.generatorArrow, a.inner⟩ else none
  | .function a _ f => if f.body.isExpr then some ⟨.functionWithExprBody, a.inner⟩ else none
  | _ => none

/-- Why a parameter has no text. -/
def Param.fault (p : Param) : Option PrintError :=
  if p.rest && p.defaultValue.isSome then some ⟨.restWithDefault, p.loc⟩ else none

/-- Why a statement has no text, whatever its parts are. -/
def Stmt.fault : Stmt → Option PrintError
  | .tryBlock a _ none none => some ⟨.tryWithoutHandler, a.inner⟩
  | .funcDecl a _ none _ => some ⟨.declarationWithoutName, a.inner⟩
  | .funcDecl a _ (some _) f =>
      if f.body.isExpr then some ⟨.declarationWithExprBody, a.inner⟩ else none
  | .varDecl a _ _ [] => some ⟨.noDeclarators, a.inner⟩
  | _ => none

/-- Why a part has no text, wherever it occurs. -/
def Part.fault : Part → Option PrintError
  | expr e => e.fault
  | param p => p.fault
  | stmt s => s.fault
  | _ => none

/-- Why a part has no text where it occurs: an optional call has none directly under `new`. -/
def Occurrence.fault : Occurrence → Option PrintError
  | ⟨.expr (.unary _ .new _), .expr (.call a ⟨true, _, _⟩)⟩ => some ⟨.optionalCallUnderNew, a.inner⟩
  | ⟨_, p⟩ => p.fault

/-- The first reason why a part has no text, of its own or of what is in it. -/
def Part.error? (p : Part) : Option PrintError :=
  p.fault.or (p.occurrences.findSome? Occurrence.fault)

/-! ### The first reason -/

section first

variable {α β γ : Type}

theorem findSome?_cons_eq (f : α → Option β) (a : α) (l : List α) :
    (a :: l).findSome? f = (f a).or (l.findSome? f) := by
  rw [← List.singleton_append, List.findSome?_append, List.findSome?_singleton]

theorem findSome?_flatMap (f : β → Option γ) (g : α → List β) (l : List α) :
    (l.flatMap g).findSome? f = l.findSome? fun a => (g a).findSome? f := by
  induction l with
  | nil => rfl
  | cons a l ih => rw [List.flatMap_cons, List.findSome?_append, ih, findSome?_cons_eq]

end first

def Part.isConstruction : Part → Bool
  | expr (.unary _ .new _) => true
  | _ => false

theorem Occurrence.fault_of_plain {p : Part} (hp : p.isConstruction = false) (q : Part) :
    Occurrence.fault ⟨p, q⟩ = q.fault := by
  cases p with
  | expr e =>
      cases e with
      | unary a op e => cases op <;> first | rfl | cases hp
      | _ => rfl
  | _ => rfl

theorem Part.findSome?_occurrences (p : Part) :
    p.occurrences.findSome? Occurrence.fault =
      p.parts.findSome? fun q =>
        (Occurrence.fault ⟨p, q⟩).or (q.occurrences.findSome? Occurrence.fault) := by
  rw [occurrences_eq, findSome?_flatMap]
  simp only [findSome?_cons_eq]

/-- Except under `new`, the first reason is that of the part, or the first one among its parts. -/
theorem Part.error?_eq (p : Part) (hp : p.isConstruction = false) :
    p.error? = p.fault.or (p.parts.findSome? Part.error?) := by
  unfold Part.error?
  simp only [findSome?_occurrences p, Occurrence.fault_of_plain hp]

/-! ### Outputs that are put together -/

namespace Output

theorem error_append_eq (a b : Output) : (a ++ b).error = a.error.or b.error := by
  obtain ⟨fs, ea⟩ := a
  cases ea <;> rfl

theorem error_before {a : Output} (h : a.error = none) (b : Output) : (a ++ b).error = b.error := by
  rw [error_append_eq, h, Option.none_or]

theorem error_after {b : Output} (h : b.error = none) (a : Output) : (a ++ b).error = a.error := by
  rw [error_append_eq, h, Option.or_none]

theorem error_onlyIf {o : Output} (h : o.error = none) (condition : Bool) :
    (onlyIf condition o).error = none := by
  cases condition with
  | true => exact h
  | false => rfl

theorem error_parenthesized (o : Output) : (parenthesized o).error = o.error := by
  rw [parenthesized, error_after rfl, error_before rfl]

theorem error_braced (o : Output) : (braced o).error = o.error := by
  rw [braced, error_after rfl, error_before rfl]

theorem error_commaSeparated_eq (os : List Output) :
    (commaSeparated os).error = os.findSome? Output.error := by
  induction os with
  | nil => rfl
  | cons o os ih =>
      cases os with
      | nil => exact List.findSome?_singleton.symm
      | cons o' os =>
          show (o ++ punct "," ++ commaSeparated (o' :: os)).error = _
          rw [error_append_eq, error_after rfl, ih, findSome?_cons_eq _ o]

end Output

theorem Expr.error_wrap (e : Expr) (min : Nat) (o : Output) : (e.wrap min o).error = o.error := by
  unfold wrap
  split
  · exact error_parenthesized o
  · rfl

theorem Expr.error_integerPoint (e : Expr) : e.integerPoint.error = none := by
  unfold integerPoint
  split
  · exact error_onlyIf rfl _
  · rfl

theorem error_printOptional (optional : Bool) : (printOptional optional).error = none :=
  error_onlyIf rfl optional

theorem Stmt.error_printBranch (s : Stmt) (o : Output) : (s.printBranch o).error = o.error := by
  cases s with
  | block => rfl
  | _ => exact error_braced o

theorem Operator.error_print (op : Operator) : op.print.error = none := by
  unfold print
  split <;> rfl

mutual

/-- Types always have a text. -/
theorem TypeExpr.error_print : (t : TypeExpr) → t.print.error = none
  | .array _ element => by
      rw [TypeExpr.print, error_after rfl, element.error_print]
  | .keyword .. => rfl
  | .reference _ name arguments => by
      rw [TypeExpr.print, error_before rfl]
      refine error_onlyIf ?_ _
      rw [error_after rfl, error_before rfl, error_commaSeparated_eq, List.findSome?_eq_none_iff]
      exact TypeExprs.error_outputs arguments

theorem TypeExprs.error_outputs : (types : List TypeExpr) →
    ∀ o ∈ TypeExprs.outputs types, o.error = none
  | [] => nofun
  | t :: rest => List.forall_mem_cons.mpr ⟨t.error_print, TypeExprs.error_outputs rest⟩

end

theorem error_printType (type : Option TypeExpr) : (printType? type).error = none := by
  cases type with
  | none => rfl
  | some t => rw [printType?, error_before rfl, t.error_print]

theorem error_printSignature (os : List Output) (type : Option TypeExpr) :
    (printSignature os type).error = os.findSome? Output.error := by
  rw [printSignature, error_after (error_printType type), error_parenthesized,
    error_commaSeparated_eq]

theorem error_printFunctionHead (async generator : Bool) (name : Option Name) :
    (printFunctionHead async generator name).error = none := by
  cases async <;> cases generator <;> cases name <;> rfl

/-! ### The parts of a node -/

/-- However a part is printed, it fails for its first reason. -/
def Part.FailsFirst (p : Part) : Prop := ∀ o, p.Prints o → o.error = p.error?

/-- So do several parts. -/
theorem Part.findSome?_error {ps : List Part} {os : List Output} (hp : ∀ p ∈ ps, p.FailsFirst)
    (h : List.Forall₂ Part.Prints ps os) :
    os.findSome? Output.error = ps.findSome? Part.error? := by
  induction h with
  | nil => rfl
  | @cons p o ps os ho _ ih =>
      obtain ⟨hfirst, hrest⟩ := List.forall_mem_cons.mp hp
      rw [findSome?_cons_eq, findSome?_cons_eq, hfirst o ho, ih hrest]

theorem Part.error_cons {p : Part} {ps : List Part} {o : Output} (hp : p.FailsFirst)
    (ho : p.Prints o) :
    (p :: ps).findSome? Part.error? = o.error.or (ps.findSome? Part.error?) := by
  rw [findSome?_cons_eq, hp o ho]

theorem Part.error_single {p : Part} {o : Output} (hp : ∀ q ∈ [p], q.FailsFirst) (ho : p.Prints o) :
    o.error = [p].findSome? Part.error? := by
  rw [error_cons (hp p List.mem_cons_self) ho, List.findSome?_nil, Option.or_none]

theorem Part.error_pair {p q : Part} {o o' : Output} (hp : ∀ r ∈ [p, q], r.FailsFirst)
    (ho : p.Prints o) (ho' : q.Prints o') :
    o.error.or o'.error = [p, q].findSome? Part.error? := by
  obtain ⟨hfirst, hrest⟩ := List.forall_mem_cons.mp hp
  rw [error_cons hfirst ho, error_single hrest ho']

theorem Stmts.error_print {ss : List Stmt} (hp : ∀ p ∈ ss.map Part.stmt, p.FailsFirst) :
    (Stmts.print ss).error = (ss.map Part.stmt).findSome? Part.error? := by
  induction ss with
  | nil => rfl
  | cons s ss ih =>
      rw [List.map_cons] at hp ⊢
      obtain ⟨hfirst, hrest⟩ := List.forall_mem_cons.mp hp
      rw [Stmts.print, error_append_eq, findSome?_cons_eq, hfirst _ (.stmt s), ih hrest]

theorem Func.error_print {f : Func} (hp : ∀ p ∈ (Part.func f).parts, p.FailsFirst) {o : Output}
    (ho : (Part.func f).Prints o) : o.error = (Part.func f).parts.findSome? Part.error? := by
  have hparts : (Part.func f).parts = f.parameters.map Part.param ++ [Part.body f.body] := rfl
  rw [hparts] at hp ⊢
  obtain ⟨hparameters, hbody⟩ := List.forall_mem_append.mp hp
  obtain ⟨spot, arrow, async, generator, parameters, returnType, body⟩ := f
  have hsignature := Part.findSome?_error hparameters (Params.prints_outputs parameters)
  have hbody := hbody _ List.mem_cons_self _ (.body body)
  rw [List.findSome?_append, List.findSome?_singleton]
  cases ho with
  | arrow =>
      rw [Func.printArrow, error_append_eq, error_after rfl, error_before (error_onlyIf rfl _),
        error_printSignature, hsignature, hbody]
  | function name =>
      rw [Func.printFunction, error_append_eq, error_before (error_printFunctionHead ..),
        error_printSignature, hsignature, hbody]

/-! ### Expressions -/

namespace Expr

/-- What is behind a leading operator fails for its first reason; under `new` it is printed in its
own way, and not at all if it is an optional call. -/
theorem error_unary {a : Anchor} {op : Operator} {e : Expr} (hp : (Part.expr e).FailsFirst) :
    (unary a op e).print.error = (Part.expr (unary a op e)).error? := by
  have herror : (Part.expr (unary a op e)).error? =
      (Occurrence.fault ⟨.expr (unary a op e), .expr e⟩).or
        ((Part.expr e).occurrences.findSome? Occurrence.fault) := by
    rw [Part.error?, Part.findSome?_occurrences]
    exact List.findSome?_singleton
  rw [herror]
  unfold Expr.print
  rw [error_before op.error_print]
  split
  · next b optional callee arguments =>
      cases optional with
      | true => rfl
      | false => exact hp _ (.constructed b callee arguments)
  · next hcall =>
      have hfault : Occurrence.fault ⟨.expr (unary a .new e), .expr e⟩ = e.fault := by
        cases e with
        | call b c =>
            obtain ⟨optional, callee, arguments⟩ := c
            exact (hcall _ _ _ _ rfl).elim
        | _ => rfl
      rw [error_wrap, hfault]
      exact hp _ (.expr e)
  · next hop _ =>
      have hplain : (Part.expr (unary a op e)).isConstruction = false := by
        cases op <;> first | rfl | exact (hop rfl).elim
      rw [error_wrap, Occurrence.fault_of_plain hplain]
      exact hp _ (.expr e)

theorem error_function {a : Anchor} {name : Option Name} {f : Func}
    (hp : (Part.func f).FailsFirst) :
    (function a name f).print.error = (function a name f).fault.or (Part.func f).error? := by
  have hf := hp _ (.function name f)
  obtain ⟨spot, arrow, async, generator, parameters, returnType, body⟩ := f
  cases body with
  | block => exact hf
  | expr => rfl

theorem error_print {e : Expr} (hp : ∀ p ∈ e.parts, p.FailsFirst) :
    e.print.error = (Part.expr e).error? := by
  by_cases hunary : ∃ a op e', e = unary a op e'
  · obtain ⟨a, op, e', rfl⟩ := hunary
    exact error_unary (hp _ List.mem_cons_self)
  have hplain : (Part.expr e).isConstruction = false := by
    cases e with
    | unary a op e' => exact absurd ⟨a, op, e', rfl⟩ hunary
    | _ => rfl
  rw [Part.error?_eq _ hplain]
  show _ = e.fault.or (e.parts.findSome? Part.error?)
  cases e with
  | unary a op e' => exact absurd ⟨a, op, e', rfl⟩ hunary
  | arrow a f =>
      rw [fault, Expr.print]
      split
      · rfl
      · exact Part.error_single hp (.arrow f)
  | function a name f =>
      rw [parts, List.findSome?_singleton, error_function (hp _ List.mem_cons_self)]
  | binary a op l r =>
      rw [Expr.print, error_append_eq, error_after op.error_print, error_wrap, error_wrap]
      exact Part.error_pair hp (.expr l) (.expr r)
  | call a c =>
      obtain ⟨optional, callee, arguments⟩ := c
      obtain ⟨hc, ha⟩ := List.forall_mem_cons.mp hp
      rw [Expr.print, error_append_eq, error_after (error_printOptional _), error_wrap,
        error_parenthesized, error_commaSeparated_eq,
        Part.findSome?_error ha (Arguments.prints_outputs arguments),
        ← Part.error_cons hc (.expr callee)]
      rfl
  | index a optional o k =>
      rw [Expr.print, error_after rfl, error_append_eq, error_after rfl,
        error_after (error_printOptional _), error_wrap]
      exact Part.error_pair hp (.expr o) (.expr k)
  | conditional a t c e =>
      obtain ⟨ht, hbranches⟩ := List.forall_mem_cons.mp hp
      rw [Expr.print, error_append_eq, error_after rfl, error_append_eq, error_after rfl,
        error_wrap, error_wrap, error_wrap, Option.or_assoc,
        Part.error_pair hbranches (.expr c) (.expr e), ← Part.error_cons ht (.expr t)]
      rfl
  | member a optional o property =>
      rw [Expr.print, error_after rfl, error_after rfl, error_after o.error_integerPoint,
        error_wrap]
      exact Part.error_single hp (.expr o)
  | trailing a op e =>
      rw [Expr.print, error_after rfl, error_wrap]
      exact Part.error_single hp (.expr e)
  | array a es =>
      rw [Expr.print, error_after rfl, error_after (error_onlyIf rfl _), error_before rfl,
        error_commaSeparated_eq, Part.findSome?_error hp (Elements.prints_outputs es)]
      rfl
  | ident | this | boolean | null | number | string => rfl

end Expr

/-! ### Statements and programs -/

namespace Stmt

theorem error_tryBlock {a : Anchor} {b : Block} {c : Option Catch} {f : Option Block}
    (hp : ∀ p ∈ (tryBlock a b c f).parts, p.FailsFirst) :
    (tryBlock a b c f).print.error =
      (tryBlock a b c f).fault.or ((tryBlock a b c f).parts.findSome? Part.error?) := by
  cases c with
  | none =>
      cases f with
      | none => rfl
      | some f =>
          rw [Stmt.print, error_append_eq, error_after rfl, error_before rfl]
          exact Part.error_pair hp (.block b) (.block f)
  | some c =>
      cases f with
      | none =>
          rw [Stmt.print, error_append_eq, error_before rfl]
          exact Part.error_pair hp (.block b) (.handler c)
      | some f =>
          obtain ⟨hb, hrest⟩ := List.forall_mem_cons.mp hp
          rw [Stmt.print, error_append_eq, error_after rfl, error_append_eq, error_before rfl,
            Option.or_assoc, Part.error_pair hrest (.handler c) (.block f),
            ← Part.error_cons hb (.block b)]
          rfl

theorem error_funcDecl {a : Anchor} {exported : Bool} {name : Option Name} {f : Func}
    (hp : (Part.func f).FailsFirst) :
    (funcDecl a exported name f).print.error =
      (funcDecl a exported name f).fault.or (Part.func f).error? := by
  cases name with
  | none => rfl
  | some name =>
      have hf := hp _ (.function (some name) f)
      obtain ⟨spot, arrow, async, generator, parameters, returnType, body⟩ := f
      cases body with
      | block => exact (error_before (error_onlyIf rfl exported) _).trans hf
      | expr => rfl

theorem error_varDecl {a : Anchor} {exported : Bool} {kind : BindingKind} {ds : List Declarator}
    (hp : ∀ p ∈ ds.map Part.declarator, p.FailsFirst) :
    (varDecl a exported kind ds).print.error =
      (varDecl a exported kind ds).fault.or ((ds.map .declarator).findSome? Part.error?) := by
  cases ds with
  | nil => rfl
  | cons d ds =>
      have hlist := Part.findSome?_error hp (Declarators.prints_outputs (d :: ds))
      have hhead : (onlyIf exported (keyword "export") ++ keyword kind.token).error = none :=
        (error_after rfl _).trans (error_onlyIf rfl exported)
      calc (varDecl a exported kind (d :: ds)).print.error
          = (onlyIf exported (keyword "export") ++ keyword kind.token ++
              commaSeparated (Declarators.outputs (d :: ds)) ++ punct ";").error := rfl
        _ = (commaSeparated (Declarators.outputs (d :: ds))).error := by
              rw [error_after rfl, error_before hhead]
        _ = ((d :: ds).map Part.declarator).findSome? Part.error? := by
              rw [error_commaSeparated_eq, hlist]

theorem error_print {s : Stmt} (hp : ∀ p ∈ s.parts, p.FailsFirst) :
    s.print.error = s.fault.or (s.parts.findSome? Part.error?) := by
  cases s with
  | block a statements =>
      rw [Stmt.print, error_braced, Stmts.error_print hp]
      rfl
  | breakTo a label | continueTo a label => cases label <;> rfl
  | empty => rfl
  | doWhile a condition body =>
      rw [Stmt.print, error_after rfl, error_append_eq, error_after rfl, error_before rfl,
        error_printBranch, error_parenthesized]
      exact Part.error_pair hp (.stmt body) (.expr condition)
  | expr a value =>
      rw [Stmt.print, error_after rfl]
      refine Eq.trans ?_ (Part.error_single hp (.expr value))
      split
      · exact error_parenthesized _
      · rfl
  | ifElse a test consequent alternate =>
      cases alternate with
      | none =>
          rw [Stmt.print, error_append_eq, error_before rfl, error_parenthesized,
            error_printBranch]
          exact Part.error_pair hp (.expr test) (.stmt consequent)
      | some alternate =>
          obtain ⟨ht, hbranches⟩ := List.forall_mem_cons.mp hp
          rw [Stmt.print, error_append_eq, error_after rfl, error_append_eq, error_before rfl,
            error_parenthesized, error_printBranch, error_printBranch, Option.or_assoc,
            Part.error_pair hbranches (.stmt consequent) (.stmt alternate),
            ← Part.error_cons ht (.expr test)]
          rfl
  | ret a value =>
      cases value with
      | none => rfl
      | some value =>
          rw [Stmt.print, error_after rfl, error_before rfl]
          exact Part.error_single hp (.expr value)
  | throw a value =>
      rw [Stmt.print, error_after rfl, error_before rfl]
      exact Part.error_single hp (.expr value)
  | tryBlock a b c f => exact error_tryBlock hp
  | whileDo a condition body =>
      rw [Stmt.print, error_append_eq, error_before rfl, error_parenthesized, error_printBranch]
      exact Part.error_pair hp (.expr condition) (.stmt body)
  | funcDecl a exported name f =>
      rw [error_funcDecl (hp _ List.mem_cons_self), parts, List.findSome?_singleton]
  | varDecl a exported kind declarators => exact error_varDecl hp

end Stmt

theorem Argument.error_print {a : Argument} (hp : ∀ p ∈ (Part.argument a).parts, p.FailsFirst)
    {o : Output} (ho : Arguments.outputs [a] = [o]) :
    o.error = (Part.argument a).parts.findSome? Part.error? := by
  obtain ⟨spot, spread, value⟩ := a
  obtain rfl := List.head_eq_of_cons_eq ho
  rw [error_before (error_onlyIf rfl spread), Expr.error_wrap]
  exact Part.error_single hp (.expr value)

theorem Element.error_print {e : Element} (hp : ∀ p ∈ e.parts, p.FailsFirst) {o : Output}
    (ho : Elements.outputs [e] = [o]) : o.error = e.parts.findSome? Part.error? := by
  cases e with
  | single value =>
      obtain rfl := List.head_eq_of_cons_eq ho
      rw [Expr.error_wrap]
      exact Part.error_single hp (.expr value)
  | rest value =>
      obtain rfl := List.head_eq_of_cons_eq ho
      rw [error_before rfl, Expr.error_wrap]
      exact Part.error_single hp (.expr value)
  | hole =>
      obtain rfl := List.head_eq_of_cons_eq ho
      rfl

theorem Param.error_print {p : Param} (hp : ∀ q ∈ (Part.param p).parts, q.FailsFirst) {o : Output}
    (ho : Params.outputs [p] = [o]) : o.error = (Part.param p).error? := by
  rw [Part.error?_eq _ rfl]
  obtain ⟨spot, rest, pattern, type, value⟩ := p
  cases value with
  | none =>
      obtain rfl := List.head_eq_of_cons_eq ho
      rw [error_after (error_printType type), error_after rfl, error_onlyIf rfl]
      cases rest <;> rfl
  | some value =>
      obtain rfl := List.head_eq_of_cons_eq ho
      cases rest with
      | true => rfl
      | false =>
          rw [if_neg Bool.false_ne_true, error_append_eq, error_after rfl,
            error_before rfl, error_printType, Expr.error_wrap]
          exact Part.error_single hp (.expr value)

theorem Block.error_print {b : Block} (hp : ∀ p ∈ (Part.block b).parts, p.FailsFirst) :
    b.print.error = (Part.block b).parts.findSome? Part.error? := by
  obtain ⟨spot, statements⟩ := b
  exact (error_braced _).trans (Stmts.error_print hp)

theorem Catch.error_print {c : Catch} (hp : ∀ p ∈ (Part.handler c).parts, p.FailsFirst) :
    c.print.error = (Part.handler c).parts.findSome? Part.error? := by
  obtain ⟨spot, parameter, statements⟩ := c
  cases parameter <;> exact (error_braced _).trans (Stmts.error_print hp)

theorem Declarator.error_print {d : Declarator}
    (hp : ∀ p ∈ (Part.declarator d).parts, p.FailsFirst) {o : Output}
    (ho : Declarators.outputs [d] = [o]) :
    o.error = (Part.declarator d).parts.findSome? Part.error? := by
  obtain ⟨pattern, type, value⟩ := d
  cases value with
  | none =>
      obtain rfl := List.head_eq_of_cons_eq ho
      exact error_before rfl _ |>.trans (error_printType type)
  | some value =>
      obtain rfl := List.head_eq_of_cons_eq ho
      rw [error_append_eq, error_after rfl, error_before rfl, error_printType,
        Expr.error_wrap]
      exact Part.error_single hp (.expr value)

theorem Body.error_print {b : Body} (hp : ∀ p ∈ b.parts, p.FailsFirst) :
    b.print.error = b.parts.findSome? Part.error? := by
  cases b with
  | block spot statements =>
      rw [Body.print, error_braced, Stmts.error_print hp]
      rfl
  | expr spot value =>
      rw [Body.print, Expr.error_wrap]
      exact Part.error_single hp (.expr value)

/-- A call under `new` fails for the same reasons as elsewhere, as long as it is not optional. -/
theorem Part.error_constructed {a : Anchor} {callee : Expr} {arguments : List Argument}
    (hp : ∀ p ∈ (Expr.call a ⟨false, callee, arguments⟩).parts, p.FailsFirst) :
    (callee.wrap callee.constructorMin callee.print ++
        parenthesized (commaSeparated (Arguments.outputs arguments))).error =
      (Part.expr (.call a ⟨false, callee, arguments⟩)).error? := by
  obtain ⟨hc, ha⟩ := List.forall_mem_cons.mp hp
  rw [error_append_eq, Expr.error_wrap, error_parenthesized, error_commaSeparated_eq,
    Part.findSome?_error ha (Arguments.prints_outputs arguments),
    ← Part.error_cons hc (.expr callee),
    Part.error?_eq (.expr (.call a ⟨false, callee, arguments⟩)) rfl]
  rfl

/-- **A part fails for its own reason, or for the first one among its parts.** -/
theorem Part.Prints.error_eq {p : Part} {o : Output} (ho : p.Prints o) : o.error = p.error? := by
  revert o ho
  show p.FailsFirst
  induction p using Part.induction with
  | step p ih =>
      intro o ho
      cases ho with
      | expr e => exact Expr.error_print ih
      | constructed a callee arguments => exact error_constructed ih
      | param ho => exact Param.error_print ih ho
      -- the others are no constructions
      | program p =>
          rw [error?_eq _ rfl]
          exact Stmts.error_print ih
      | argument ho =>
          rw [error?_eq _ rfl]
          exact Argument.error_print ih ho
      | element ho =>
          rw [error?_eq _ rfl]
          exact Element.error_print ih ho
      | arrow f =>
          rw [error?_eq _ rfl]
          exact Func.error_print ih (.arrow f)
      | function name f =>
          rw [error?_eq _ rfl]
          exact Func.error_print ih (.function name f)
      | body b =>
          rw [error?_eq _ rfl]
          exact Body.error_print ih
      | stmt s =>
          rw [error?_eq _ rfl]
          exact Stmt.error_print ih
      | block b =>
          rw [error?_eq _ rfl]
          exact Block.error_print ih
      | handler c =>
          rw [error?_eq _ rfl]
          exact Catch.error_print ih
      | declarator ho =>
          rw [error?_eq _ rfl]
          exact Declarator.error_print ih ho

/-! ### The result -/

/-- A program's output holds the first reason why one of its parts has no text. -/
theorem Program.error_print (p : Program) :
    p.print.error = (Part.program p).occurrences.findSome? Occurrence.fault :=
  Part.Prints.error_eq (.program p)

theorem Output.text_error {o : Output} {e : PrintError} : o.text = .error e ↔ o.error = some e := by
  unfold Output.text
  cases o.error with
  | none => exact ⟨nofun, nofun⟩
  | some e' => exact ⟨fun h => congrArg some (Except.error.inj h),
      fun h => congrArg Except.error (Option.some.inj h)⟩

/-- **When printing fails, and why.**  A program has no text exactly if some part of it has a shape
that has none, and the error reported tells the shape and the position of the first such part in
document order. -/
theorem Program.text_eq_error_iff (p : Program) :
    ((∃ e, p.text = .error e) ↔
        ∃ o ∈ (Part.program p).occurrences, ∃ e, Occurrence.fault o = some e) ∧
      ∀ e, p.text = .error e ↔
        ∃ before o after, (Part.program p).occurrences = before ++ o :: after ∧
          (∀ q ∈ before, Occurrence.fault q = none) ∧ Occurrence.fault o = some e := by
  have htext (e : PrintError) : p.text = .error e ↔
      (Part.program p).occurrences.findSome? Occurrence.fault = some e := by
    rw [← p.error_print]
    exact Output.text_error
  have hfirst (e : PrintError) : p.text = .error e ↔
      ∃ before o after, (Part.program p).occurrences = before ++ o :: after ∧
        (∀ q ∈ before, Occurrence.fault q = none) ∧ Occurrence.fault o = some e := by
    rw [htext e, List.findSome?_eq_some_iff]
    simp only [and_comm]
  refine ⟨?_, hfirst⟩
  simp only [htext, ← Option.isSome_iff_exists, List.findSome?_isSome_iff]

/-- A missing name is told whatever the body is, and the body of a loop comes before its
condition. -/
example (l m : Loc) (f g : Func) :
    Program.text ⟨.ofLoc l, [.doWhile (.ofLoc l) (.arrow (.ofLoc l) g)
        (.funcDecl (.ofLoc m) false none f)]⟩ =
      .error ⟨.declarationWithoutName, m⟩ := rfl

end TypeProbe
