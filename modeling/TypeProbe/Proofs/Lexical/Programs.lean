import TypeProbe.Proofs.Lexical.Expressions
import TypeProbe.Tree.Build

/-! # Printed programs split into what was written

A program without type annotations, whose names are words of ASCII, whose operators stand in their
own position and whose numbers are finite and have positive sign (`Part.isLexical`), is printed as a
text that splits into the tokens that were written (`Program.split_text`).

The induction is over the parts of a program.  It shows that whatever a part is printed as is a
row, and an operand if the part is an expression. -/

namespace TypeProbe

open Grammar Output Lexical

section printed

variable {ts : List Token}

/-! ### Statements -/

theorem notPoint_of_head {t : Token} (h : ts.head? = some t) (ht : t.isPoint = false) :
    ∀ u ∈ ts.head?, u.isPoint = false := by
  intro u hu
  rw [h] at hu
  exact Option.some.inj hu ▸ ht

theorem row_jump {w : String} {label : Option String} (hw : (Token.word w).isSettled = true)
    (hl : label.all (fun l => isWord l.toList) = true) (hs : (printJump w label).Spells ts) :
    Row ts ∧ ts.head? = some (.word w) := by
  obtain rfl := spells_printJump hs
  have hname : Row (label.map Token.word).toList := by
    cases label with
    | none => exact row_nil
    | some l => exact (operand_word hl).toRow
  exact ⟨(hname.cons hw).snoc (by decide) rfl, rfl⟩

/-- A word, an expression in parentheses and a branch, as `if` and `while` begin. -/
theorem row_conditioned {e : Expr} {s : Stmt} {us vs : List Token} {w : String}
    (he : (Part.expr e).PrintsRows) (hb : (Part.stmt s).PrintsRows)
    (hw : (Token.word w).isSettled = true) (hu : (parenthesized e.print).Spells us)
    (hv : (s.printBranch s.print).Spells vs) : Row ([Token.word w] ++ us ++ vs) := by
  obtain ⟨es, hes, rfl⟩ := spells_parenthesized.mp hu
  have hcondition := (operand_parenthesized (he.operand hes).toRow).toRow.cons hw
  obtain ⟨hbranch, hhead⟩ := row_branch hb hv
  exact hcondition.append hbranch (.inr (notPoint_of_head hhead rfl))

theorem Stmt.row_expr {a : Anchor} {value : Expr} (h : (Part.expr value).PrintsRows)
    (hs : (expr a value).print.Spells ts) : Operand ts := by
  obtain ⟨us, hu, _, hend, rfl⟩ := spells_append.mp hs
  obtain rfl := spells_punct.mp hend
  have hoperand : Operand us := by
    split at hu
    · obtain ⟨vs, hv, rfl⟩ := spells_parenthesized.mp hu
      exact operand_parenthesized (h.operand hv).toRow
    · exact h.operand hu
  exact hoperand.grow (hoperand.toRow.snoc (by decide) rfl) (List.prefix_append _ _)

namespace Stmt

variable {a : Anchor} {condition value : Expr}

theorem row_doWhile {body : Stmt} (hc : (Part.expr condition).PrintsRows)
    (hb : (Part.stmt body).PrintsRows) (hs : (doWhile a condition body).print.Spells ts) :
    Row ts ∧ ts.head? = some (.word "do") := by
  obtain ⟨us, hu, _, hcondition, rfl⟩ := spells_doWhile hs
  obtain ⟨vs, hv, rfl⟩ := spells_parenthesized.mp hcondition
  have hbody := (row_branch hb hu).1
  have hloop := (hbody.cons (t := .word "do") (by decide)).between (t := .word "while")
    (by decide) rfl (operand_parenthesized (hc.operand hv).toRow).toRow
  exact ⟨hloop.snoc (by decide) rfl, rfl⟩

theorem row_whileDo {body : Stmt} (hc : (Part.expr condition).PrintsRows)
    (hb : (Part.stmt body).PrintsRows) (hs : (whileDo a condition body).print.Spells ts) :
    Row ts ∧ ts.head? = some (.word "while") := by
  obtain ⟨us, hu, vs, hv, rfl⟩ := spells_whileDo hs
  exact ⟨row_conditioned hc hb (by decide) hu hv, rfl⟩

theorem row_ifElse {consequent : Stmt} {alternate : Option Stmt}
    (ht : (Part.expr condition).PrintsRows) (hc : (Part.stmt consequent).PrintsRows)
    (he : ∀ s, alternate = some s → (Part.stmt s).PrintsRows)
    (hs : (ifElse a condition consequent alternate).print.Spells ts) :
    Row ts ∧ ts.head? = some (.word "if") := by
  cases alternate with
  | none =>
      obtain ⟨us, hu, vs, hv, rfl⟩ := spells_ifThen hs
      exact ⟨row_conditioned ht hc (by decide) hu hv, rfl⟩
  | some alternate =>
      obtain ⟨us, hu, vs, hv, ws, hw, rfl⟩ := spells_ifElse hs
      have hthen := row_conditioned (w := "if") ht hc (by decide) hu hv
      exact ⟨hthen.between (by decide) rfl (row_branch (he _ rfl) hw).1, rfl⟩

/-- A `return` or a `throw` with a value. -/
theorem row_wordValue {w : String} (hw : (Token.word w).isSettled = true)
    (hv : (Part.expr value).PrintsRows)
    (hs : (keyword w ++ value.print ++ punct ";").Spells ts) :
    Row ts ∧ ts.head? = some (.word w) := by
  obtain ⟨us, hu, rfl⟩ := spells_wordValue hs
  exact ⟨((hv.operand hu).toRow.cons hw).snoc (by decide) rfl, rfl⟩

theorem row_ret {value : Option Expr} (hv : ∀ e, value = some e → (Part.expr e).PrintsRows)
    (hs : (ret a value).print.Spells ts) : Row ts ∧ ts.head? = some (.word "return") := by
  cases value with
  | none =>
      obtain rfl := spells_ret hs
      exact ⟨(row_nil.cons (by decide)).snoc (by decide) rfl, rfl⟩
  | some value => exact row_wordValue (by decide) (hv value rfl) hs

theorem row_tryBlock {wrapped : Block} {caught : Option Catch} {finalizer : Option Block}
    (ih : ∀ q ∈ (tryBlock a wrapped caught finalizer).parts, q.PrintsRows)
    (hs : (tryBlock a wrapped caught finalizer).print.Spells ts) :
    Row ts ∧ ts.head? = some (.word "try") := by
  have hwrapped {us : List Token} (hu : wrapped.print.Spells us) : Row (.word "try" :: us) :=
    (ih _ List.mem_cons_self _ (.block wrapped) us hu).1.cons (by decide)
  have hcaught {us vs : List Token} (hu : Row us) (c : Catch) (hc : caught = some c)
      (hv : c.print.Spells vs) : Row (us ++ vs) := by
    have hmem : Part.handler c ∈ (tryBlock a wrapped caught finalizer).parts := by simp [parts, hc]
    obtain ⟨hrow, hbegins⟩ := ih _ hmem _ (.handler c) vs hv
    exact hu.append hrow (.inr hbegins)
  have hfinally {us vs : List Token} (hu : Row us) (b : Block) (hb : finalizer = some b)
      (hv : b.print.Spells vs) : Row (us ++ [Token.word "finally"] ++ vs) := by
    have hmem : Part.block b ∈ (tryBlock a wrapped caught finalizer).parts := by simp [parts, hb]
    exact hu.between (by decide) rfl (ih _ hmem _ (.block b) vs hv).1
  cases caught with
  | none =>
      cases finalizer with
      | none => exact absurd hs not_spells_fail
      | some b =>
          obtain ⟨us, hu, vs, hv, rfl⟩ := spells_tryFinally hs
          exact ⟨hfinally (hwrapped hu) b rfl hv, rfl⟩
  | some c =>
      cases finalizer with
      | none =>
          obtain ⟨us, hu, vs, hv, rfl⟩ := spells_tryCatch hs
          exact ⟨hcaught (hwrapped hu) c rfl hv, rfl⟩
      | some b =>
          obtain ⟨us, hu, vs, hv, ws, hw, rfl⟩ := spells_tryCatchFinally hs
          exact ⟨hfinally (hcaught (hwrapped hu) c rfl hv) b rfl hw, rfl⟩

theorem operand_funcDecl {exported : Bool} {name : Option Name} {f : Func}
    (hn : name.all (fun n => isWord n.text.toList) = true) (hf : (Part.func f).PrintsRows)
    (hs : (funcDecl a exported name f).print.Spells ts) : Operand ts := by
  cases name with
  | none => exact absurd hs not_spells_fail
  | some name =>
      obtain ⟨us, hu, rfl⟩ := spells_funcDecl hs
      exact operand_onlyIf (by decide) rfl exported (hf.2 (some name) hn us hu)

theorem row_varDecl {exported : Bool} {kind : BindingKind} {declarators : List Declarator}
    (hd : ∀ q ∈ declarators.map Part.declarator, q.PrintsRows)
    (hs : (varDecl a exported kind declarators).print.Spells ts) :
    Row ts ∧ ∀ t ∈ ts.head?, t.isPoint = false := by
  obtain ⟨_, us, hu, rfl⟩ := spells_varDecl hs
  have hkind : (Token.word kind.token).isSettled = true := by cases kind <;> decide
  have hdeclarators := row_commaSeparated (Declarators.prints_outputs declarators)
    (by simp [Part.isItem]) hd hu
  have hrow := row_onlyIf (t := .word "export") (by decide) exported
    ((hdeclarators.cons hkind).snoc (t := .mark ";") (by decide) rfl)
  rw [List.append_assoc, List.append_assoc]
  refine ⟨hrow, ?_⟩
  cases exported <;> exact notPoint_of_head rfl rfl

end Stmt

/-- **Statements**: the text of a statement is a row if its parts are printed as rows. -/
theorem Stmt.row_print {s : Stmt} (hl : s.isLexical = true) (ih : ∀ q ∈ s.parts, q.PrintsRows)
    (hs : s.print.Spells ts) : Row ts ∧ ∀ t ∈ ts.head?, t.isPoint = false := by
  have hword {w : String} (h : Row ts ∧ ts.head? = some (.word w)) :
      Row ts ∧ ∀ t ∈ ts.head?, t.isPoint = false := ⟨h.1, notPoint_of_head h.2 rfl⟩
  cases s with
  | block a body =>
      obtain ⟨hrow, hhead⟩ := row_braced (fun us hu => (row_stmts ih hu).1) hs
      exact ⟨hrow, notPoint_of_head hhead rfl⟩
  | breakTo a label => exact hword (row_jump (by decide) hl hs)
  | continueTo a label => exact hword (row_jump (by decide) hl hs)
  | doWhile a condition body =>
      exact hword (row_doWhile (ih _ (by simp [parts])) (ih _ (by simp [parts])) hs)
  | empty a =>
      obtain rfl := spells_empty.mp hs
      refine ⟨row_nil, fun t ht => ?_⟩
      cases ht
  | expr a value =>
      have hrow := row_expr (ih _ (List.mem_singleton_self _)) hs
      exact ⟨hrow.toRow, hrow.notPoint⟩
  | ifElse a test consequent alternate =>
      refine hword (row_ifElse (ih _ (by simp [parts])) (ih _ (by simp [parts])) ?_ hs)
      rintro s rfl
      exact ih _ (by simp [parts])
  | ret a value =>
      refine hword (row_ret ?_ hs)
      rintro e rfl
      exact ih _ (List.mem_singleton_self _)
  | throw a value =>
      exact hword (row_wordValue (by decide) (ih _ (List.mem_singleton_self _)) hs)
  | tryBlock a wrapped caught finalizer => exact hword (row_tryBlock ih hs)
  | whileDo a condition body =>
      exact hword (row_whileDo (ih _ (by simp [parts])) (ih _ (by simp [parts])) hs)
  | funcDecl a exported name f =>
      have hdeclaration := operand_funcDecl hl (ih _ (List.mem_singleton_self _)) hs
      exact ⟨hdeclaration.toRow, hdeclaration.notPoint⟩
  | varDecl a exported kind declarators => exact row_varDecl ih hs

/-! ### Parts -/

theorem operand_constructed {callee : Expr} {arguments : List Argument} {n : Nat}
    (hc : (Part.expr callee).PrintsRows) (ha : ∀ q ∈ arguments.map Part.argument, q.PrintsRows)
    (hs : (callee.wrap n callee.print ++
      parenthesized (commaSeparated (Arguments.outputs arguments))).Spells ts) : Operand ts := by
  obtain ⟨us, hu, vs, hv, rfl⟩ := spells_append.mp hs
  obtain ⟨ws, hw, rfl⟩ := spells_parenthesized.mp hv
  have harguments := row_commaSeparated (Arguments.prints_outputs arguments)
    (by simp [Part.isItem]) ha hw
  have hcall := row_call (hc.wrap hu) harguments false
  rwa [Token.onlyIf, if_neg Bool.false_ne_true, List.append_nil] at hcall

theorem Argument.row_print {a : Argument} {o : Output} (ih : (Part.expr a.value).PrintsRows)
    (ho : Arguments.outputs [a] = [o]) (hs : o.Spells ts) : Row ts := by
  obtain ⟨spot, spread, value⟩ := a
  obtain rfl := List.head_eq_of_cons_eq ho
  obtain ⟨_, hspread, us, hu, rfl⟩ := spells_append.mp hs
  obtain rfl := spells_onlyIf_punct.mp hspread
  exact row_onlyIf (by decide) spread (ih.wrap hu).toRow

theorem Element.row_print {e : Element} {o : Output}
    (ih : ∀ q ∈ (Part.element e).parts, q.PrintsRows) (ho : Elements.outputs [e] = [o])
    (hs : o.Spells ts) : Row ts := by
  cases e with
  | single value =>
      obtain rfl := List.head_eq_of_cons_eq ho
      exact ((ih _ (List.mem_singleton_self _)).wrap hs).toRow
  | rest value =>
      obtain rfl := List.head_eq_of_cons_eq ho
      obtain ⟨_, hdots, us, hu, rfl⟩ := spells_append.mp hs
      obtain rfl := spells_punct.mp hdots
      have hvalue := (ih _ (List.mem_singleton_self _)).wrap hu
      exact hvalue.toRow.cons (by decide)
  | hole =>
      obtain rfl := List.head_eq_of_cons_eq ho
      obtain rfl := spells_empty.mp hs
      exact row_nil

theorem Param.row_print {p : Param} {o : Output} (hl : (Part.param p).isLexical = true)
    (ih : ∀ q ∈ (Part.param p).parts, q.PrintsRows) (ho : Params.outputs [p] = [o])
    (hs : o.Spells ts) : Row ts := by
  obtain ⟨spot, isRest, pattern, type, value⟩ := p
  simp only [Part.isLexical, Bool.and_eq_true] at hl
  obtain ⟨ht, hn⟩ := hl
  obtain rfl := Option.isNone_iff_eq_none.mp ht
  cases value with
  | none =>
      obtain rfl := List.head_eq_of_cons_eq ho
      simp only [printType?, append_empty, spells_append, spells_onlyIf_punct,
        spells_identifier] at hs
      obtain ⟨_, rfl, _, rfl, rfl⟩ := hs
      exact row_onlyIf (by decide) isRest (operand_word hn).toRow
  | some value =>
      obtain rfl := List.head_eq_of_cons_eq ho
      split at hs
      · exact absurd hs not_spells_fail
      · simp only [printType?, append_empty] at hs
        obtain ⟨_, hleft, vs, hv, rfl⟩ := spells_append.mp hs
        simp only [spells_append, spells_identifier, spells_punct] at hleft
        obtain ⟨_, rfl, _, rfl, rfl⟩ := hleft
        have hvalue := (ih _ (List.mem_singleton_self _)).wrap hv
        exact hvalue.after (operand_word hn).toRow (by decide)

theorem Declarator.row_print {d : Declarator} {o : Output}
    (hl : (Part.declarator d).isLexical = true)
    (ih : ∀ q ∈ (Part.declarator d).parts, q.PrintsRows) (ho : Declarators.outputs [d] = [o])
    (hs : o.Spells ts) : Operand ts := by
  obtain ⟨pattern, type, value⟩ := d
  simp only [Part.isLexical, Bool.and_eq_true] at hl
  obtain ⟨ht, hn⟩ := hl
  obtain rfl := Option.isNone_iff_eq_none.mp ht
  have hname := operand_word hn
  cases value with
  | none =>
      obtain rfl := List.head_eq_of_cons_eq ho
      simp only [printType?, append_empty, spells_identifier] at hs
      subst hs
      exact hname
  | some value =>
      obtain rfl := List.head_eq_of_cons_eq ho
      simp only [printType?, append_empty] at hs
      obtain ⟨_, hleft, vs, hv, rfl⟩ := spells_append.mp hs
      simp only [spells_append, spells_identifier, spells_punct] at hleft
      obtain ⟨_, rfl, _, rfl, rfl⟩ := hleft
      have hvalue := (ih _ (List.mem_singleton_self _)).wrap hv
      exact hname.grow (hvalue.after hname.toRow (by decide)) ⟨_, rfl⟩

theorem Catch.row_print {c : Catch} (hl : (Part.handler c).isLexical = true)
    (ih : ∀ q ∈ (Part.handler c).parts, q.PrintsRows) (hs : c.print.Spells ts) :
    Row ts ∧ ts.head? = some (.word "catch") := by
  obtain ⟨spot, parameter, body⟩ := c
  obtain ⟨us, hu, rfl⟩ := spells_print hs
  obtain ⟨hbody, hhead⟩ := row_braced (fun vs hv => (row_stmts ih hv).1) hu
  have hparameter : Row (parameter.toList.flatMap fun n =>
      [Token.mark "(", Token.word n.text, Token.mark ")"]) := by
    cases parameter with
    | none => exact row_nil
    | some name => exact (operand_parenthesized (operand_word hl).toRow).toRow
  exact ⟨(hparameter.cons (by decide)).append hbody (.inr (notPoint_of_head hhead rfl)), rfl⟩

/-- **One step**: a part is printed as a row of tokens if its parts are. -/
theorem Part.printsRows_of_parts {q : Part} (hl : q.isLexical = true)
    (ih : ∀ r ∈ q.parts, r.PrintsRows) : q.PrintsRows := by
  cases q with
  | program p =>
      rintro _ ⟨⟩ ts hs
      exact row_stmts ih hs
  | expr e =>
      intro o ho ts hs
      cases ho with
      | expr _ =>
          have hoperand := e.operand_print hl ih hs
          exact ⟨hoperand.toRow, hoperand.opens⟩
      | constructed a callee arguments =>
          have hoperand := operand_constructed (ih (.expr callee) List.mem_cons_self)
            (fun r hr => ih r (List.mem_cons_of_mem _ hr)) hs
          exact ⟨hoperand.toRow, hoperand.opens⟩
  | argument a =>
      rintro o (_ | _ | _ | ho) ts hs
      exact ⟨a.row_print (ih _ (List.mem_singleton_self _)) ho hs, trivial⟩
  | element e =>
      intro o ho ts hs
      cases ho with
      | element ho => exact ⟨e.row_print ih ho hs, trivial⟩
  | func f =>
      exact ⟨fun _ hs => f.operand_printArrow hl ih hs,
        fun _ hn _ hs => f.operand_printFunction hl hn ih hs⟩
  | body b =>
      rintro _ ⟨⟩ ts hs
      exact b.row_print ih hs
  | param p =>
      intro o ho ts hs
      cases ho with
      | param ho => exact ⟨p.row_print hl ih ho hs, trivial⟩
  | stmt s =>
      rintro _ ⟨⟩ ts hs
      exact s.row_print hl ih hs
  | block b =>
      obtain ⟨spot, body⟩ := b
      rintro _ ⟨⟩ ts hs
      obtain ⟨hrow, hhead⟩ := row_braced (fun us hu => (row_stmts ih hu).1) hs
      exact ⟨hrow, notPoint_of_head hhead rfl⟩
  | handler c =>
      rintro _ ⟨⟩ ts hs
      obtain ⟨hrow, hhead⟩ := c.row_print hl ih hs
      exact ⟨hrow, notPoint_of_head hhead rfl⟩
  | declarator d =>
      intro o ho ts hs
      cases ho with
      | declarator ho =>
          have hoperand := d.row_print hl ih ho hs
          exact ⟨hoperand.toRow, hoperand.notPoint⟩

end printed

/-- **All of a part**: it is printed as a row of tokens if it and all that occurs in it is
lexical. -/
theorem Part.printsRows (q : Part) (hq : q.isLexical = true)
    (ho : ∀ o ∈ q.occurrences, o.part.isLexical = true) : q.PrintsRows := by
  induction q using Part.induction with
  | step q ih =>
      refine printsRows_of_parts hq fun r hr => ?_
      have hmem (o : Occurrence) (h : o = ⟨q, r⟩ ∨ o ∈ r.occurrences) : o ∈ q.occurrences := by
        rw [occurrences_eq]
        exact List.mem_flatMap.mpr ⟨r, hr, List.mem_cons.mpr h⟩
      have hself : r.isLexical = true := ho ⟨q, r⟩ (hmem _ (.inl rfl))
      exact ih r hr hself fun o h => ho o (hmem o (.inr h))

/-- **Printed tokens never merge.**  The text of a lexical program splits into the tokens that were
written, where an integer takes the point that was put behind it. -/
theorem Program.split_text (closing : List Char → Bool) (p : Program) (text : String)
    (hp : ∀ o ∈ (Part.program p).occurrences, o.part.isLexical = true) (ht : p.text = .ok text) :
    split closing [] text.toList =
      some ((merged (p.print.fragments.map Fragment.token)).map Token.symbol) := by
  have hrows := (Part.program p).printsRows rfl hp
  unfold Program.text Output.text at ht
  split at ht
  · cases ht
  · next herror =>
      have hrow : Row (p.print.fragments.map Fragment.token) :=
        (hrows _ (.program p) _ ⟨herror, rfl⟩).1
      have hjoin : text.toList = (Tail.clear.writeAll p.print.fragments).1 := by
        rw [← Except.ok.inj ht, Fragment.join, String.toList_ofList]
      rw [hjoin]
      exact split_writeAll _ (fun f hf => hrow.written _ (List.mem_map_of_mem hf)) hrow.chain _ _

/-- The program `1..e < ! --f;`, of which the operators must not open a comment. -/
def Program.crowded : Program :=
  let loc : Loc := ⟨0, 13⟩
  let one := Build.member loc (Build.number loc ⟨0x3ff0000000000000⟩) "e"
  let decremented : Expr := .unary (.ofLoc loc) .prefixDecrement (Build.ident loc "f")
  let comparison := Build.binary loc .lessThan one (.unary (.ofLoc loc) .logicalNot decremented)
  Build.program [Build.exprStmt comparison]

theorem Program.split_text_crowded :
    Program.crowded.text = .ok "1..e<! --f;" ∧
      split (fun _ => true) [] "1..e<! --f;".toList =
        some [⟨.number, "1.".toList⟩, ⟨.punctuator, ".".toList⟩, ⟨.word, "e".toList⟩,
          ⟨.punctuator, "<".toList⟩, ⟨.punctuator, "!".toList⟩, ⟨.punctuator, "--".toList⟩,
          ⟨.word, "f".toList⟩, ⟨.punctuator, ";".toList⟩] := by
  refine ⟨rfl, Program.split_text _ Program.crowded _ ?_ rfl⟩
  simp only [Program.crowded, Build.program, Build.exprStmt, Build.binary, Build.member,
    Build.number, Build.ident, Part.occurrences_eq (.program _), Part.occurrences_eq (.stmt _),
    Part.occurrences_eq (.expr _), Part.parts, Stmt.parts, Expr.parts, List.map_cons, List.map_nil,
    List.flatMap_cons, List.flatMap_nil, List.append_nil, List.forall_mem_cons]
  decide

end TypeProbe
