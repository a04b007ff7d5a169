import TypeProbe.Proofs.Reading.Statements
import TypeProbe.Tree.Build

/-! # Reading programs back

What is printed of a readable program is read as its bare tree (`Program.readProgram_text`), and so
programs with the same text have the same bare tree (`Program.bare_eq_of_text_eq`).

The induction is over all trees at once.  For an expression it shows that reading goes on with its
bare tree at what follows, for a list that it is read up to the mark that closes it, and for a
statement that it is read in front of everything that may come after it. -/

namespace TypeProbe

open Grammar Output Lexeme

mutual

theorem Expr.reads : (e : Expr) → e.passes readable = true → e.Reads
  | .arrow a ⟨spot, arrow, async, generator, parameters, returnType, body⟩, h => by
      simp only [Expr.passes, Func.passes, Bool.and_eq_true] at h
      obtain ⟨_, ⟨⟨_, hp⟩, hr⟩, hb⟩ := h
      exact Expr.reads_arrow hp hr (Params.read parameters hp) (body.reads hb)
  | .binary a op l r, h => by
      have hop := Expr.check_of_passes h
      simp only [Expr.passes, Bool.and_eq_true] at h
      obtain ⟨⟨_, hl⟩, hr⟩ := h
      exact Expr.reads_binary hop (l.reads hl) hl (r.reads hr) hr
  | .call a ⟨optional, callee, arguments⟩, h => by
      simp only [Expr.passes, Call.passes, Bool.and_eq_true] at h
      obtain ⟨_, hc, ha⟩ := h
      exact Expr.reads_call (callee.reads hc) hc (Arguments.read arguments ha)
  | .index a optional object key, h => by
      simp only [Expr.passes, Bool.and_eq_true] at h
      obtain ⟨⟨_, ho⟩, hk⟩ := h
      exact Expr.reads_index (object.reads ho) ho (key.reads hk) hk
  | .conditional a t c e, h => by
      simp only [Expr.passes, Bool.and_eq_true] at h
      obtain ⟨⟨⟨_, ht⟩, hc⟩, he⟩ := h
      exact Expr.reads_conditional (t.reads ht) ht (c.reads hc) hc (e.reads he) he
  | .function a name ⟨spot, arrow, async, generator, parameters, returnType, .block l statements⟩,
    h => by
      simp only [Expr.passes, Func.passes, Body.passes, Bool.and_eq_true] at h
      obtain ⟨_, ⟨⟨_, hp⟩, hr⟩, hb⟩ := h
      exact Expr.reads_function rfl hr (Params.read parameters hp) (Stmts.reads statements hb)
  | .function a name ⟨spot, arrow, async, generator, parameters, returnType, .expr l value⟩, _ => by
      intro ts hs
      exact absurd hs not_spells_fail
  | .ident a name, h => by
      simp only [Expr.passes, Bool.and_eq_true] at h
      exact Expr.reads_ident h.2
  | .member a optional object property, h => by
      simp only [Expr.passes, Bool.and_eq_true] at h
      obtain ⟨⟨_, ho⟩, _⟩ := h
      exact Expr.reads_member (object.reads ho) ho
  | .this a, _ => fun _ hs _ _ _ _ => Expr.reads_keyword rfl hs
  | .unary a op e, h => by
      have hop := Expr.check_of_passes h
      simp only [Expr.passes, Bool.and_eq_true] at h
      obtain ⟨_, he⟩ := h
      have hread := e.reads he
      by_cases hnew : op = .new
      · subst hnew
        cases e with
        | call b c =>
            obtain ⟨optional, callee, arguments⟩ := c
            simp only [Expr.passes, Call.passes, Bool.and_eq_true] at he
            obtain ⟨_, hc, ha⟩ := he
            exact Expr.reads_newCall (callee.reads hc) hc (Arguments.read arguments ha)
        | _ => exact Expr.reads_new rfl hread he
      · exact Expr.reads_leading hop hnew hread he
  | .trailing a op e, h => by
      have hop := Expr.check_of_passes h
      simp only [Expr.passes, Bool.and_eq_true] at h
      exact Expr.reads_trailing hop (e.reads h.2) h.2
  | .array a elements, h => by
      simp only [Expr.passes, Bool.and_eq_true] at h
      exact Expr.reads_array (Elements.read elements h.2)
  | .boolean a value, _ => by
      intro ts hs min rest _ _
      cases value with
      | true => exact Expr.reads_keyword rfl hs
      | false => exact Expr.reads_keyword rfl hs
  | .null a, _ => fun _ hs _ _ _ _ => Expr.reads_keyword rfl hs
  | .number a value, h => by
      obtain ⟨hfinite, hpositive⟩ := (Expr.isReadable_number_iff (a := a)).mp h
      exact Expr.reads_number hfinite hpositive
  | .string a value, _ => Expr.reads_string a value

theorem Arguments.read : (arguments : List Argument) →
    Arguments.passes readable arguments = true → Arguments.Read arguments
  | [], _ => Elements.read_nil
  | ⟨spot, spread, value⟩ :: rest, h => by
      simp only [Arguments.passes, Bool.and_eq_true] at h
      exact Elements.read_entry spread (value.reads h.1) h.1 (Arguments.read rest h.2)

theorem Elements.read : (elements : List Element) →
    Elements.passes readable elements = true → Elements.Read elements
  | [], _ => Elements.read_nil
  | .single value :: rest, h => by
      simp only [Elements.passes, Bool.and_eq_true] at h
      exact Elements.read_entry false (value.reads h.1) h.1 (Elements.read rest h.2)
  | .rest value :: rest, h => by
      simp only [Elements.passes, Bool.and_eq_true] at h
      exact Elements.read_entry true (value.reads h.1) h.1 (Elements.read rest h.2)
  | .hole :: rest, h => Elements.read_hole (Elements.read rest h)

theorem Params.read : (parameters : List Param) → Params.passes readable parameters = true →
    Params.Read parameters
  | [], _ => Params.read_nil
  | ⟨spot, isRest, pattern, type, none⟩ :: params, h => by
      simp only [Params.passes, Bool.and_eq_true] at h
      obtain ⟨⟨_, ht⟩, hp⟩ := h
      exact Params.read_cons ht nofun (Params.read params hp)
  | ⟨spot, isRest, pattern, type, some value⟩ :: params, h => by
      simp only [Params.passes, Bool.and_eq_true] at h
      obtain ⟨⟨⟨_, ht⟩, hv⟩, hp⟩ := h
      have hvalue := value.reads hv
      exact Params.read_cons ht (Params.legibleDefault_some hvalue hv) (Params.read params hp)

theorem Body.reads : (b : Body) → b.passes readable = true → b.Reads
  | .block _ statements, h => Body.reads_block (Stmts.reads statements h)
  | .expr _ value, h => Body.reads_expr (value.reads h) h

theorem Stmt.reads : (s : Stmt) → s.passes readable = true → s.isEmpty = false → s.Reads
  | .block a body, h, _ => Stmt.reads_block (Stmts.reads body h)
  | .breakTo a label, _, _ => Stmt.reads_breakTo a label
  | .continueTo a label, _, _ => Stmt.reads_continueTo a label
  | .doWhile a condition body, h, _ => by
      simp only [Stmt.passes, Bool.and_eq_true] at h
      exact Stmt.reads_doWhile (condition.reads h.1) (Stmt.readsBranch_of_reads (body.reads h.2))
  | .empty a, _, h => nomatch h
  | .expr a value, h, _ => Stmt.reads_expr (value.reads h) h
  | .ifElse a test consequent none, h, _ => by
      simp only [Stmt.passes, Bool.and_eq_true] at h
      exact Stmt.reads_ifThen (test.reads h.1) (Stmt.readsBranch_of_reads (consequent.reads h.2))
  | .ifElse a test consequent (some alternate), h, _ => by
      simp only [Stmt.passes, Bool.and_eq_true] at h
      obtain ⟨⟨ht, hc⟩, ha⟩ := h
      exact Stmt.reads_ifElse (test.reads ht) (Stmt.readsBranch_of_reads (consequent.reads hc))
        (Stmt.readsBranch_of_reads (alternate.reads ha))
  | .ret a none, _, _ => Stmt.reads_ret a
  | .ret a (some value), h, _ => Stmt.reads_retValue (value.reads h) h
  | .throw a value, h, _ => Stmt.reads_throw (value.reads h)
  | .tryBlock a wrapped none none, _, _ => by
      intro ts hs
      exact absurd hs not_spells_fail
  | .tryBlock a wrapped (some handler) none, h, _ => by
      simp only [Stmt.passes, Bool.and_eq_true] at h
      exact Stmt.reads_tryCatch (wrapped.reads h.1) (handler.reads h.2)
  | .tryBlock a wrapped none (some finalizer), h, _ => by
      simp only [Stmt.passes, Bool.and_eq_true] at h
      exact Stmt.reads_tryFinally (wrapped.reads h.1) (finalizer.reads h.2)
  | .tryBlock a wrapped (some handler) (some finalizer), h, _ => by
      simp only [Stmt.passes, Bool.and_eq_true] at h
      obtain ⟨⟨hb, hc⟩, hf⟩ := h
      exact Stmt.reads_tryCatchFinally (wrapped.reads hb) (handler.reads hc) (finalizer.reads hf)
  | .whileDo a condition body, h, _ => by
      simp only [Stmt.passes, Bool.and_eq_true] at h
      exact Stmt.reads_whileDo (condition.reads h.1) (Stmt.readsBranch_of_reads (body.reads h.2))
  | .funcDecl a exported none f, _, _ => by
      intro ts hs
      exact absurd hs not_spells_fail
  | .funcDecl a exported (some name)
      ⟨spot, arrow, async, generator, parameters, returnType, .block l statements⟩, h, _ => by
      simp only [Stmt.passes, Func.passes, Body.passes, Bool.and_eq_true] at h
      obtain ⟨_, ⟨⟨_, hp⟩, hr⟩, hb⟩ := h
      exact Stmt.reads_funcDecl rfl hr (Params.read parameters hp) (Stmts.reads statements hb)
  | .funcDecl a exported (some name)
      ⟨spot, arrow, async, generator, parameters, returnType, .expr l value⟩, _, _ => by
      intro ts hs
      exact absurd hs not_spells_fail
  | .varDecl a exported kind declarators, h, _ =>
      Stmt.reads_varDecl (Declarators.read declarators h)

theorem Stmts.reads : (statements : List Stmt) → Stmts.passes readable statements = true →
    Stmts.Reads statements
  | [], _ => Stmts.reads_nil
  | s :: rest, h => by
      simp only [Stmts.passes, Bool.and_eq_true] at h
      exact Stmts.reads_cons (s.reads h.1) (Stmts.reads rest h.2)

theorem Block.reads : (b : Block) → b.passes readable = true → b.Reads
  | ⟨_, body⟩, h => Block.reads_of_body (Stmts.reads body h)

theorem Catch.reads : (c : Catch) → c.passes readable = true → c.Reads
  | ⟨spot, parameter, body⟩, h => by
      simp only [Catch.passes, Bool.and_eq_true] at h
      exact Catch.reads_of_body (Stmts.reads body h.2)

theorem Declarators.read : (declarators : List Declarator) →
    Declarators.passes readable declarators = true → Declarators.Read declarators
  | [], _ => Params.read_nil
  | ⟨pattern, type, none⟩ :: rest, h => by
      simp only [Declarators.passes, Bool.and_eq_true] at h
      obtain ⟨⟨_, ht⟩, hr⟩ := h
      exact Params.read_cons ht nofun (Declarators.read rest hr)
  | ⟨pattern, type, some value⟩ :: rest, h => by
      simp only [Declarators.passes, Bool.and_eq_true] at h
      obtain ⟨⟨⟨_, ht⟩, hv⟩, hr⟩ := h
      have hvalue := value.reads hv
      exact Params.read_cons ht (Params.legibleDefault_some hvalue hv) (Declarators.read rest hr)

end

/-! ### Programs -/

/-- The text of a readable program is read as its bare tree. -/
theorem Program.readProgram_text {p : Program} {text : String} (hp : p.passes readable = true)
    (ht : p.text = .ok text) : readProgram text.toList = some p.bare := by
  have hs : p.print.Spells (p.print.fragments.map Fragment.token) := by
    refine ⟨?_, rfl⟩
    unfold Program.text Output.text at ht
    split at ht
    · cases ht
    · next he => exact he
  have hscan := scan_text ht hs (Stmts.regular p.body hp _ hs).1
  obtain ⟨_, hread⟩ := Stmts.reads p.body hp _ hs [] rfl
  rw [List.append_nil] at hread
  rw [readProgram, hscan, Option.bind_some, hread]
  rfl

/-- **Printing is unambiguous.**  Programs with readable names, operators and numbers that have
the same text are the same tree, up to positions and origins, lone semicolons and braces around
branches. -/
theorem Program.bare_eq_of_text_eq (p q : Program) (text : String)
    (hp : p.passes readable = true) (hq : q.passes readable = true)
    (htp : p.text = .ok text) (htq : q.text = .ok text) : p.bare = q.bare :=
  Option.some.inj ((p.readProgram_text hp htp).symm.trans (q.readProgram_text hq htq))

/-- The call `1..e(...[, y], x => x)` somewhere, with or without the mark of an arrow function. -/
def Expr.spreadCall (loc : Loc) (arrow : Bool) : Expr :=
  let one : Expr := Build.number loc ⟨0x3ff0000000000000⟩
  let holes : Expr := .array (.ofLoc loc) [.hole, .single (Build.ident loc "y")]
  let body := Build.exprBody (Build.ident loc "x")
  let same : Expr := .arrow (.ofLoc loc) (Build.func loc arrow [Build.param loc "x"] body)
  Build.call loc (Build.member loc one "e") [Build.spread holes, Build.argument same]

/-- The program `; while (a) 1..e(...[, y], x => x);`. -/
def Program.looseLoop : Program :=
  let loc : Loc := ⟨2, 36⟩
  Build.program
    [.empty (.ofLoc ⟨0, 1⟩),
      .whileDo (.ofLoc loc) (Build.ident loc "a") (Build.exprStmt (Expr.spreadCall loc true))]

/-- The program `while (a) { 1..e(...[, y], x => x);; }`. -/
def Program.bracedLoop : Program :=
  let loc : Loc := ⟨0, 39⟩
  let body := [Build.exprStmt (Expr.spreadCall loc false), .empty (.ofLoc loc)]
  Build.program [.whileDo (.ofLoc loc) (Build.ident loc "a") (.block (.ofLoc loc) body)]

theorem Program.bare_eq_of_text_eq_loops :
    Program.looseLoop.text = .ok "while(a)\x7b1..e(...[,y],(x)=>x);\x7d" ∧
      Program.bracedLoop.text = .ok "while(a)\x7b1..e(...[,y],(x)=>x);\x7d" ∧
      Program.looseLoop.bare = Program.bracedLoop.bare :=
  ⟨rfl, rfl, Program.bare_eq_of_text_eq Program.looseLoop Program.bracedLoop _ (by decide)
    (by decide) rfl rfl⟩

end TypeProbe
