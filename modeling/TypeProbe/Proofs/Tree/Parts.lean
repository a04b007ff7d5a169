import TypeProbe.Tree.Calls

/-! # The parts of a program

A program is made of parts: expressions, statements, functions, and whatever a node puts around
them.  `Part.parts` tells which parts a part is directly made of, in the order in which they are
printed.

* **Occurrences.**  `Part.occurrences` goes through a part in document order: every part before its
  own parts, each together with the whole that it is directly part of.
* **Induction.**  What holds of a part as soon as it holds of its parts, holds of all
  (`Part.induction`). -/

namespace TypeProbe

/-- A piece of a program. -/
inductive Part where
  | program (p : Program)
  | expr (e : Expr)
  | argument (a : Argument)
  | element (e : Element)
  | func (f : Func)
  | body (b : Body)
  | param (p : Param)
  | stmt (s : Stmt)
  | block (b : Block)
  | handler (c : Catch)
  | declarator (d : Declarator)

def Expr.parts : Expr → List Part
  | .arrow _ f => [.func f]
  | .binary _ _ l r => [.expr l, .expr r]
  | .call _ ⟨_, callee, arguments⟩ => .expr callee :: arguments.map .argument
  | .index _ _ o k => [.expr o, .expr k]
  | .conditional _ t c e => [.expr t, .expr c, .expr e]
  | .function _ _ f => [.func f]
  | .member _ _ o _ => [.expr o]
  | .unary _ _ e => [.expr e]
  | .trailing _ _ e => [.expr e]
  | .array _ es => es.map .element
  | .ident .. | .this _ | .boolean .. | .null _ | .number .. | .string .. => []

def Element.parts : Element → List Part
  | .single value | .rest value => [.expr value]
  | .hole => []

def Body.parts : Body → List Part
  | .block _ statements => statements.map .stmt
  | .expr _ value => [.expr value]

/-- The parts of a statement; the body of a `do` loop is printed before its condition. -/
def Stmt.parts : Stmt → List Part
  | .block _ body => body.map .stmt
  | .doWhile _ condition body => [.stmt body, .expr condition]
  | .expr _ value => [.expr value]
  | .ifElse _ test consequent alternate =>
      .expr test :: .stmt consequent :: alternate.toList.map .stmt
  | .ret _ value => value.toList.map .expr
  | .throw _ value => [.expr value]
  | .tryBlock _ wrapped handler finalizer =>
      .block wrapped :: (handler.toList.map .handler ++ finalizer.toList.map .block)
  | .whileDo _ condition body => [.expr condition, .stmt body]
  | .funcDecl _ _ _ f => [.func f]
  | .varDecl _ _ _ declarators => declarators.map .declarator
  | .breakTo .. | .continueTo .. | .empty _ => []

namespace Part

/-- The parts that a part is directly made of, in the order in which they are printed. -/
def parts : Part → List Part
  | program p => p.body.map stmt
  | expr e => e.parts
  | argument a => [expr a.value]
  | element e => e.parts
  | func f => f.parameters.map param ++ [body f.body]
  | body b => b.parts
  | param p => p.defaultValue.toList.map expr
  | stmt s => s.parts
  | block b => b.body.map stmt
  | handler c => c.body.map stmt
  | declarator d => d.value.toList.map expr

/-! ### Going through a part -/

section size

variable {α : Type} [SizeOf α] {make : α → Part} {q : Part}

theorem sizeOf_lt_of_mem_map (hm : ∀ a, sizeOf (make a) = 1 + sizeOf a) {l : List α}
    (h : q ∈ l.map make) : sizeOf q < 1 + sizeOf l := by
  obtain ⟨a, ha, rfl⟩ := List.mem_map.mp h
  have hs : sizeOf a < sizeOf l := List.sizeOf_lt_of_mem ha
  rw [hm]
  omega

theorem sizeOf_lt_of_mem_toList (hm : ∀ a, sizeOf (make a) = 1 + sizeOf a) {o : Option α}
    (h : q ∈ o.toList.map make) : sizeOf q < 1 + sizeOf o := by
  cases o with
  | none => cases h
  | some a =>
      obtain rfl := List.mem_singleton.mp h
      rw [hm, Option.some.sizeOf_spec]
      omega

end size

theorem sizeOf_lt_of_mem_expr {e : Expr} {q : Part} (h : q ∈ e.parts) :
    sizeOf q < 1 + sizeOf e := by
  cases e with
  | call a c =>
      obtain ⟨optional, callee, arguments⟩ := c
      rcases List.mem_cons.mp h with rfl | ha
      · simp only [expr.sizeOf_spec, Expr.call.sizeOf_spec, Call.mk.sizeOf_spec]
        omega
      · have hs := sizeOf_lt_of_mem_map argument.sizeOf_spec ha
        simp only [Expr.call.sizeOf_spec, Call.mk.sizeOf_spec]
        omega
  | array a es =>
      have hs := sizeOf_lt_of_mem_map element.sizeOf_spec h
      simp only [Expr.array.sizeOf_spec]
      omega
  | ident | this | boolean | null | number | string => cases h
  | arrow | binary | index | conditional | function | member | unary | trailing =>
      simp only [Expr.parts, List.mem_cons, List.not_mem_nil, or_false] at h
      rcases h with rfl | rfl | rfl <;> simp <;> omega

theorem sizeOf_lt_of_mem_body {b : Body} {q : Part} (h : q ∈ b.parts) :
    sizeOf q < 1 + sizeOf b := by
  cases b with
  | block spot statements =>
      have hs := sizeOf_lt_of_mem_map stmt.sizeOf_spec h
      simp only [Body.block.sizeOf_spec]
      omega
  | expr spot value =>
      obtain rfl := List.mem_singleton.mp h
      simp only [Part.expr.sizeOf_spec, Body.expr.sizeOf_spec]
      omega

theorem sizeOf_lt_of_mem_element {e : Element} {q : Part} (h : q ∈ e.parts) :
    sizeOf q < 1 + sizeOf e := by
  cases e with
  | single value | rest value =>
      obtain rfl := List.mem_singleton.mp h
      simp
  | hole => cases h

theorem sizeOf_lt_of_mem_stmt {s : Stmt} {q : Part} (h : q ∈ s.parts) :
    sizeOf q < 1 + sizeOf s := by
  cases s with
  | block a statements =>
      have hs := sizeOf_lt_of_mem_map stmt.sizeOf_spec h
      simp only [Stmt.block.sizeOf_spec]
      omega
  | ret a value =>
      have hs := sizeOf_lt_of_mem_toList expr.sizeOf_spec h
      simp only [Stmt.ret.sizeOf_spec]
      omega
  | varDecl a exported kind declarators =>
      have hs := sizeOf_lt_of_mem_map declarator.sizeOf_spec h
      simp only [Stmt.varDecl.sizeOf_spec]
      omega
  | ifElse a test consequent alternate =>
      simp only [Stmt.parts, List.mem_cons] at h
      simp only [Stmt.ifElse.sizeOf_spec]
      rcases h with rfl | rfl | ha
      · simp only [expr.sizeOf_spec]
        omega
      · simp only [stmt.sizeOf_spec]
        omega
      · have hs := sizeOf_lt_of_mem_toList stmt.sizeOf_spec ha
        omega
  | tryBlock a wrapped caught finalizer =>
      simp only [Stmt.parts, List.mem_cons, List.mem_append] at h
      simp only [Stmt.tryBlock.sizeOf_spec]
      rcases h with rfl | hc | hf
      · simp only [Part.block.sizeOf_spec]
        omega
      · have hs := sizeOf_lt_of_mem_toList handler.sizeOf_spec hc
        omega
      · have hs := sizeOf_lt_of_mem_toList Part.block.sizeOf_spec hf
        omega
  | breakTo | continueTo | empty => cases h
  | doWhile | expr | throw | whileDo | funcDecl =>
      simp only [Stmt.parts, List.mem_cons, List.not_mem_nil, or_false] at h
      rcases h with rfl | rfl <;> simp <;> omega

/-- A part is larger than what it is made of. -/
theorem sizeOf_lt_of_mem_parts {p q : Part} (h : q ∈ p.parts) : sizeOf q < sizeOf p := by
  cases p with
  | program p =>
      obtain ⟨spot, statements⟩ := p
      have hs : sizeOf q < 1 + sizeOf statements := sizeOf_lt_of_mem_map stmt.sizeOf_spec h
      simp only [program.sizeOf_spec, Program.mk.sizeOf_spec]
      omega
  | expr e =>
      rw [expr.sizeOf_spec]
      exact sizeOf_lt_of_mem_expr h
  | argument a =>
      obtain ⟨spot, spread, value⟩ := a
      obtain rfl := List.mem_singleton.mp h
      simp only [expr.sizeOf_spec, argument.sizeOf_spec, Argument.mk.sizeOf_spec]
      omega
  | element e =>
      rw [element.sizeOf_spec]
      exact sizeOf_lt_of_mem_element h
  | func f =>
      obtain ⟨spot, arrow, async, generator, parameters, returnType, b⟩ := f
      simp only [func.sizeOf_spec, Func.mk.sizeOf_spec]
      rcases List.mem_append.mp h with hp | hb
      · have hs : sizeOf q < 1 + sizeOf parameters := sizeOf_lt_of_mem_map param.sizeOf_spec hp
        omega
      · obtain rfl := List.mem_singleton.mp hb
        simp only [body.sizeOf_spec]
        omega
  | body b =>
      rw [body.sizeOf_spec]
      exact sizeOf_lt_of_mem_body h
  | param p =>
      obtain ⟨spot, isRest, pattern, type, value⟩ := p
      have hs : sizeOf q < 1 + sizeOf value := sizeOf_lt_of_mem_toList expr.sizeOf_spec h
      simp only [param.sizeOf_spec, Param.mk.sizeOf_spec]
      omega
  | stmt s =>
      rw [stmt.sizeOf_spec]
      exact sizeOf_lt_of_mem_stmt h
  | block b =>
      obtain ⟨spot, statements⟩ := b
      have hs : sizeOf q < 1 + sizeOf statements := sizeOf_lt_of_mem_map stmt.sizeOf_spec h
      simp only [block.sizeOf_spec, Block.mk.sizeOf_spec]
      omega
  | handler c =>
      obtain ⟨spot, parameter, statements⟩ := c
      have hs : sizeOf q < 1 + sizeOf statements := sizeOf_lt_of_mem_map stmt.sizeOf_spec h
      simp only [handler.sizeOf_spec, Catch.mk.sizeOf_spec]
      omega
  | declarator d =>
      obtain ⟨pattern, type, value⟩ := d
      have hs : sizeOf q < 1 + sizeOf value := sizeOf_lt_of_mem_toList expr.sizeOf_spec h
      simp only [declarator.sizeOf_spec, Declarator.mk.sizeOf_spec]
      omega

/-- What holds of every part whose own parts it holds of, holds of all. -/
@[elab_as_elim]
theorem induction {motive : Part → Prop}
    (step : ∀ p : Part, (∀ q ∈ p.parts, motive q) → motive p) (p : Part) : motive p :=
  step p fun q _ => induction step q
termination_by sizeOf p
decreasing_by exact sizeOf_lt_of_mem_parts ‹_›

end Part

/-- A part where it occurs, in the whole that it is directly part of. -/
structure Occurrence where
  whole : Part
  part : Part

/-- A recursion over parts does not depend on the proofs that they are parts. -/
theorem Part.flatMap_attach {α : Type} (l : List Part) (f : Part → List α) :
    (l.attach.flatMap fun q => f q.val) = l.flatMap f := by
  calc (l.attach.flatMap fun q => f q.val)
      = (l.attach.map Subtype.val).flatMap f := by rw [List.flatMap_map]
    _ = l.flatMap f := by rw [List.attach_map_subtype_val]

namespace Part

/-- All parts of a part, in document order: each before its own parts, and these in the order in
which they are printed. -/
def occurrences (p : Part) : List Occurrence :=
  p.parts.attach.flatMap fun q => ⟨p, q.val⟩ :: q.val.occurrences
termination_by sizeOf p
decreasing_by exact sizeOf_lt_of_mem_parts q.property

theorem occurrences_eq (p : Part) :
    p.occurrences = p.parts.flatMap fun q => ⟨p, q⟩ :: q.occurrences := by
  rw [occurrences]
  exact flatMap_attach p.parts fun q => ⟨p, q⟩ :: q.occurrences

end Part

end TypeProbe
