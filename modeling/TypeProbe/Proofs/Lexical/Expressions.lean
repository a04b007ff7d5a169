import TypeProbe.Proofs.Lexical.Rows
import TypeProbe.Proofs.Print.Order
import TypeProbe.Proofs.Reading.Regular

/-! # Printed expressions as rows of tokens

What is assumed of a program whose tokens are to be told apart (`Part.isLexical`), and what then is
shown of each of its parts (`Part.PrintsRows`): whatever it is printed as is a row, and an operand
if the part is an expression.

Here are functions and expressions, one lemma for every form, with what is known of the parts as
hypotheses.  Statements and the induction over the parts follow in `Proofs/Lexical/Programs`. -/

namespace TypeProbe

open Grammar Output Lexical

/-! ### Programs of words, operators and numbers -/

/-- Whether an expression is readable, with names that are words. -/
def Expr.isLexical : Expr → Bool
  | function _ name _ => name.all fun n => isWord n.text.toList
  | ident _ name => isWord name.toList
  | member _ _ _ property => isWord property.toList
  | e => e.isReadable

/-- Whether the names of a statement are words. -/
def Stmt.isLexical : Stmt → Bool
  | breakTo _ label | continueTo _ label => label.all fun l => isWord l.toList
  | funcDecl _ _ name _ => name.all fun n => isWord n.text.toList
  | _ => true

/-- **What is assumed of the parts of a program**: names are words of ASCII, operators stand in
their own position, numbers are finite and have positive sign, and there are no types. -/
def Part.isLexical : Part → Bool
  | expr e => e.isLexical
  | stmt s => s.isLexical
  | func f => f.returnType.isNone
  | param p => p.annotation.isNone && isWord p.pattern.text.toList
  | declarator d => d.annotation.isNone && isWord d.pattern.text.toList
  | handler c => c.parameter.all fun n => isWord n.text.toList
  | _ => true

/-! ### What parts are printed as -/

/-- What the text of a part may begin with. -/
def Part.Begins : Part → List Token → Prop
  | expr _, ts | func _, ts => ∃ t ∈ ts.head?, t.isOpener = true
  | argument _, _ | element _, _ | param _, _ => True
  | _, ts => ∀ t ∈ ts.head?, t.isPoint = false

/-- Whatever a part is printed as is a row, and begins as it may.  A function gets its name from
where it stands, so that the name is an assumption of its own. -/
def Part.PrintsRows : Part → Prop
  | func f =>
      (∀ ts, f.printArrow.Spells ts → Operand ts) ∧
        ∀ name : Option Name, name.all (fun n => isWord n.text.toList) = true →
          ∀ ts, (f.printFunction name).Spells ts → Operand ts
  | q => ∀ o, q.Prints o → ∀ ts, o.Spells ts → Row ts ∧ q.Begins ts

/-- Whether a part stands between commas. -/
def Part.isItem : Part → Bool
  | argument _ | element _ | param _ | declarator _ => true
  | _ => false

section printed

variable {ts : List Token}

theorem Part.PrintsRows.operand {e : Expr} (h : (Part.expr e).PrintsRows) (hs : e.print.Spells ts) :
    Operand ts :=
  have hself := h _ (.expr e) ts hs
  ⟨hself.1, hself.2⟩

theorem operand_parenthesized {us : List Token} (h : Row us) :
    Operand ([Token.mark "("] ++ us ++ [Token.mark ")"]) :=
  .ofRow (h.enclosed (by decide) (by decide) rfl) rfl

theorem Part.PrintsRows.wrap {e : Expr} {n : Nat} (h : (Part.expr e).PrintsRows)
    (hs : (e.wrap n e.print).Spells ts) : Operand ts := by
  unfold Expr.wrap at hs
  split at hs
  · obtain ⟨us, hu, rfl⟩ := spells_parenthesized.mp hs
    exact operand_parenthesized (h.operand hu).toRow
  · exact h.operand hs

theorem Part.PrintsRows.item {q : Part} {o : Output} (h : q.PrintsRows) (hi : q.isItem = true)
    (ho : q.Prints o) (hs : o.Spells ts) : Row ts := by
  cases q with
  | argument _ | element _ | param _ | declarator _ => exact (h o ho ts hs).1
  | _ => cases hi

theorem row_commaSeparated {ps : List Part} {os : List Output}
    (h : List.Forall₂ Part.Prints ps os) (hi : ∀ p ∈ ps, p.isItem = true)
    (hp : ∀ p ∈ ps, p.PrintsRows) (hs : (commaSeparated os).Spells ts) : Row ts := by
  induction h generalizing ts with
  | nil =>
      obtain rfl := spells_empty.mp hs
      exact row_nil
  | @cons p o ps os hfirst _ ih =>
      obtain ⟨hitem, hitems⟩ := List.forall_mem_cons.mp hi
      obtain ⟨hself, hrest⟩ := List.forall_mem_cons.mp hp
      obtain ⟨us, hu, ⟨_, rfl⟩ | ⟨_, vs, hv, rfl⟩⟩ := spells_commaSeparated_cons.mp hs
      · exact hself.item hitem hfirst hu
      · exact (hself.item hitem hfirst hu).between (by decide) rfl (ih hitems hrest hv)

theorem row_stmts {ss : List Stmt} (hp : ∀ q ∈ ss.map Part.stmt, q.PrintsRows)
    (hs : (Stmts.print ss).Spells ts) : Row ts ∧ ∀ t ∈ ts.head?, t.isPoint = false := by
  induction ss generalizing ts with
  | nil =>
      obtain rfl := spells_empty.mp hs
      exact ⟨row_nil, nofun⟩
  | cons s ss ih =>
      obtain ⟨us, hu, vs, hv, rfl⟩ := spells_append.mp hs
      have hself := hp _ List.mem_cons_self
      obtain ⟨hfirst, hbegins⟩ := hself _ (.stmt s) us hu
      obtain ⟨hrest, hhead⟩ := ih (fun q hq => hp q (List.mem_cons_of_mem _ hq)) hv
      refine ⟨hfirst.append hrest (.inr hhead), ?_⟩
      intro t ht
      cases us with
      | nil => exact hhead t ht
      | cons u us => exact hbegins t ht

theorem row_braced {o : Output} (h : ∀ us, o.Spells us → Row us)
    (hs : (braced o).Spells ts) : Row ts ∧ ts.head? = some (.mark "\x7b") := by
  obtain ⟨us, hu, rfl⟩ := spells_braced.mp hs
  exact ⟨(h us hu).enclosed (by decide) (by decide) rfl, rfl⟩

theorem row_branch {s : Stmt} (h : (Part.stmt s).PrintsRows)
    (hs : (s.printBranch s.print).Spells ts) : Row ts ∧ ts.head? = some (.mark "\x7b") := by
  have hself {us : List Token} (hu : s.print.Spells us) : Row us := (h _ (.stmt s) us hu).1
  by_cases hb : ∃ a body, s = .block a body
  · obtain ⟨a, body, rfl⟩ := hb
    refine ⟨hself hs, ?_⟩
    obtain ⟨_, _, rfl⟩ := spells_braced.mp hs
    rfl
  · have hprint : s.printBranch s.print = braced s.print := by
      cases s with
      | block a body => exact absurd ⟨a, body, rfl⟩ hb
      | _ => rfl
    rw [hprint] at hs
    exact row_braced (fun _ hu => hself hu) hs

/-! ### Functions -/

theorem row_parameters {ps : List Param} (hp : ∀ q ∈ ps.map Part.param, q.PrintsRows)
    (hs : (printSignature (Params.outputs ps) none).Spells ts) : Operand ts := by
  obtain ⟨_, hparameters, _, hnone, rfl⟩ := spells_append.mp hs
  obtain rfl := spells_empty.mp hnone
  obtain ⟨us, hu, rfl⟩ := spells_parenthesized.mp hparameters
  rw [List.append_nil]
  exact operand_parenthesized
    (row_commaSeparated (Params.prints_outputs ps) (by simp [Part.isItem]) hp hu)

theorem row_onlyIf {t : Token} (ht : t.isSettled = true) (condition : Bool)
    {us : List Token} (hu : Row us) : Row (Token.onlyIf condition t ++ us) := by
  cases condition with
  | true => exact hu.cons ht
  | false => exact hu

theorem operand_onlyIf {t : Token} (ht : t.isSettled = true) (ho : t.isOpener = true)
    (condition : Bool) {us : List Token} (hu : Operand us) :
    Operand (Token.onlyIf condition t ++ us) := by
  cases condition with
  | true => exact .ofRow (hu.toRow.cons ht) ho
  | false => exact hu

/-- The head of a function: the star waits for the name or the parameters. -/
theorem operand_functionHead {async generator : Bool} {name : Option Name} {us : List Token}
    (hn : name.all (fun n => isWord n.text.toList) = true) (hu : Operand us)
    (hs : (printFunctionHead async generator name).Spells ts) : Operand (ts ++ us) := by
  obtain rfl := spells_printFunctionHead hs
  have hname : Operand ((name.map fun n => Token.word n.text).toList ++ us) := by
    cases name with
    | none => exact hu
    | some n =>
        have hword : isWord n.text.toList = true := hn
        exact .ofRow ((operand_word hword).toRow.append hu.toRow (.inl rfl)) rfl
  have hstar : Row (Token.onlyIf generator (.mark "*") ++
      ((name.map fun n => Token.word n.text).toList ++ us)) := by
    cases generator with
    | true => exact hname.behind (by decide)
    | false => exact hname.toRow
  have hfunction := Operand.ofRow (hstar.cons (t := .word "function") (by decide)) rfl
  have hasync := operand_onlyIf (t := .word "async") (by decide) rfl async hfunction
  simpa only [List.append_assoc, List.cons_append, List.nil_append] using hasync

theorem Func.operand_printArrow {f : Func} (ht : f.returnType.isNone = true)
    (ih : ∀ q ∈ (Part.func f).parts, q.PrintsRows) (hs : f.printArrow.Spells ts) : Operand ts := by
  obtain ⟨_, _, async, generator, parameters, returnType, body⟩ := f
  obtain rfl := Option.isNone_iff_eq_none.mp ht
  obtain ⟨_, hleft, bs, hb, rfl⟩ := spells_append.mp hs
  obtain ⟨_, hhead, _, hmark, rfl⟩ := spells_append.mp hleft
  obtain ⟨_, hasync, ss, hsignature, rfl⟩ := spells_append.mp hhead
  obtain rfl := spells_onlyIf_keyword.mp hasync
  obtain rfl := spells_punct.mp hmark
  have hparameters := row_parameters (fun q hq => ih q (List.mem_append_left _ hq)) hsignature
  have hbody := (ih _ (List.mem_append_right _ (List.mem_singleton_self _)) _ (.body body) bs hb).1
  have hhead := operand_onlyIf (t := .word "async") (by decide) rfl async hparameters
  exact hhead.grow (hhead.toRow.between (by decide) rfl hbody) ⟨_, (List.append_assoc _ _ _).symm⟩

theorem Func.operand_printFunction {f : Func} {name : Option Name} (ht : f.returnType.isNone = true)
    (hn : name.all (fun n => isWord n.text.toList) = true)
    (ih : ∀ q ∈ (Part.func f).parts, q.PrintsRows) (hs : (f.printFunction name).Spells ts) :
    Operand ts := by
  obtain ⟨_, _, async, generator, parameters, returnType, body⟩ := f
  obtain rfl := Option.isNone_iff_eq_none.mp ht
  obtain ⟨_, hleft, bs, hb, rfl⟩ := spells_append.mp hs
  obtain ⟨hs, hhead, ss, hsignature, rfl⟩ := spells_append.mp hleft
  have hparameters := row_parameters (fun q hq => ih q (List.mem_append_left _ hq)) hsignature
  obtain ⟨hbody, hbegins⟩ :=
    ih _ (List.mem_append_right _ (List.mem_singleton_self _)) _ (.body body) bs hb
  have hfunction := operand_functionHead hn hparameters hhead
  exact hfunction.grow (hfunction.toRow.append hbody (.inr hbegins)) (List.prefix_append _ _)

theorem Body.row_print {b : Body} (ih : ∀ q ∈ b.parts, q.PrintsRows) (hs : b.print.Spells ts) :
    Row ts ∧ ∀ t ∈ ts.head?, t.isPoint = false := by
  cases b with
  | block spot statements =>
      obtain ⟨hrow, hhead⟩ := row_braced (fun us hu => (row_stmts ih hu).1) hs
      refine ⟨hrow, fun t ht => ?_⟩
      rw [hhead] at ht
      exact Option.some.inj ht ▸ rfl
  | expr spot value =>
      have hvalue := (ih _ (List.mem_singleton_self _)).wrap hs
      exact ⟨hvalue.toRow, hvalue.notPoint⟩

/-! ### Expressions -/

theorem Operator.isWaiting_sign {op : Operator} (h : op.isTrailing = false) :
    op.sign.isWaiting = true := by
  revert h
  cases op <;> decide

theorem row_call {us vs : List Token} (hu : Operand us) (hv : Row vs) (optional : Bool) :
    Operand (us ++ Token.onlyIf optional (.mark "?.") ++
      ([Token.mark "("] ++ vs ++ [Token.mark ")"])) := by
  have harguments := (operand_parenthesized hv).toRow
  exact hu.grow (hu.toRow.link harguments rfl rfl optional) ⟨_, (List.append_assoc _ _ _).symm⟩

/-- The object of a member access ends in no integer unless it is one without parentheses. -/
theorem Expr.endsInInteger_object {e : Expr} (hi : e.isInteger = false)
    (hs : (e.wrap Precedence.callMember e.print).Spells ts) : endsInInteger ts = false := by
  by_cases hn : ∀ a value, e ≠ .number a value
  · exact endsInInteger_wrap hn hs
  · simp only [not_forall, not_not] at hn
    obtain ⟨a, value, rfl⟩ := hn
    unfold wrap at hs
    split at hs
    · obtain ⟨us, _, rfl⟩ := spells_parenthesized.mp hs
      exact endsInInteger_append _ [] _
    · next hge =>
        obtain rfl := spells_number.mp hs
        have hp : (number a value).precedence = Precedence.primary := by
          have hor : (number a value).precedence = Precedence.unary ∨
              (number a value).precedence = Precedence.primary := by
            by_cases hminus : (value.isNegative && !value.isNaN) = true
            · exact .inl (if_pos hminus)
            · exact .inr (if_neg hminus)
          rcases hor with h | h
          · rw [h] at hge
            exact absurd (by decide) hge
          · exact h
        have hdigits : value.text.all Char.isDigit = false := by
          rw [isInteger, hp] at hi
          simpa using hi
        show (String.ofList value.text).toList.all Char.isDigit = false
        rwa [String.toList_ofList]

theorem Binary64.operand_text {x : Binary64} (hf : x.isFinite = true) (hn : x.isNegative = false) :
    Operand [.numeral (String.ofList x.text)] := by
  refine operand_numeral (isNumeral_text hf hn) ?_
  unfold text
  rw [not_isNaN_of_isFinite hf, not_isInfinite_of_isFinite hf, hn]
  cases x.isZero with
  | true => rfl
  | false =>
      have hwhole := integerDigits_toDigits (x.shortest.coefficient / Nat.pow 10 x.shortest.places)
      show isInteger (x.shortest.text.takeWhile Char.isDigit) = true
      unfold Decimal.text
      split
      · rw [List.takeWhile_eq_self_iff.mpr hwhole.isDigit]
        exact isInteger_of_integerDigits hwhole
      · rw [(takeWhile_digits hwhole.isDigit ('.' :: _) rfl).1]
        exact isInteger_of_integerDigits hwhole

namespace Expr

variable {a : Anchor} {op : Operator} {optional : Bool}

theorem operand_arrow {f : Func} (hf : (Part.func f).PrintsRows)
    (hs : (arrow a f).print.Spells ts) : Operand ts := by
  obtain ⟨_, _, _, generator, _, _, _⟩ := f
  cases generator with
  | true => exact absurd hs not_spells_fail
  | false => exact hf.1 ts hs

theorem operand_function {name : Option Name} {f : Func} (hf : (Part.func f).PrintsRows)
    (hn : name.all (fun n => isWord n.text.toList) = true)
    (hs : (function a name f).print.Spells ts) : Operand ts := by
  obtain ⟨_, _, _, _, _, _, body⟩ := f
  cases body with
  | expr => exact absurd hs not_spells_fail
  | block => exact hf.2 name hn ts hs

theorem operand_binary {l r : Expr} (hop : op.isInfix = true) (hl : (Part.expr l).PrintsRows)
    (hr : (Part.expr r).PrintsRows) (hs : (binary a op l r).print.Spells ts) : Operand ts := by
  have htrailing : op.isTrailing = false := by
    unfold Operator.isInfix at hop
    simp only [Bool.and_eq_true, Bool.not_eq_true'] at hop
    exact hop.2
  obtain ⟨us, hu, vs, hv, rfl⟩ := spells_binary hs
  have hleft := hl.wrap hu
  exact hleft.grow ((hr.wrap hv).after hleft.toRow (Operator.isWaiting_sign htrailing))
    ⟨_, (List.append_assoc _ _ _).symm⟩

theorem operand_call {callee : Expr} {arguments : List Argument}
    (hc : (Part.expr callee).PrintsRows)
    (ha : ∀ q ∈ arguments.map Part.argument, q.PrintsRows)
    (hs : (call a ⟨optional, callee, arguments⟩).print.Spells ts) : Operand ts := by
  obtain ⟨us, hu, vs, hv, rfl⟩ := spells_call hs
  have harguments := row_commaSeparated (Arguments.prints_outputs arguments)
    (by simp [Part.isItem]) ha hv
  exact row_call (hc.wrap hu) harguments optional

theorem operand_index {object key : Expr} (ho : (Part.expr object).PrintsRows)
    (hk : (Part.expr key).PrintsRows) (hs : (index a optional object key).print.Spells ts) :
    Operand ts := by
  obtain ⟨us, hu, vs, hv, rfl⟩ := spells_index hs
  have hobject := ho.wrap hu
  have hbrackets : Row ([Token.mark "["] ++ vs ++ [Token.mark "]"]) :=
    (hk.operand hv).toRow.enclosed (by decide) (by decide) rfl
  have hindex := hobject.toRow.link hbrackets rfl rfl optional
  rw [List.append_assoc (us ++ _), List.append_assoc (us ++ _)]
  exact hobject.grow hindex ⟨_, (List.append_assoc _ _ _).symm⟩

theorem operand_conditional {t c e : Expr} (ht : (Part.expr t).PrintsRows)
    (hc : (Part.expr c).PrintsRows) (he : (Part.expr e).PrintsRows)
    (hs : (conditional a t c e).print.Spells ts) : Operand ts := by
  obtain ⟨us, hu, vs, hv, ws, hw, rfl⟩ := spells_conditional hs
  have htest := ht.wrap hu
  have hrow := ((hc.wrap hv).after (t := .mark "?") htest.toRow (by decide)).between
    (t := .mark ":") (by decide) rfl (he.wrap hw).toRow
  exact htest.grow hrow (by simp only [List.append_assoc]; exact ⟨_, rfl⟩)

/-- An integer takes a point of its own, so that two points may follow it. -/
theorem operand_member {object : Expr} {property : String} (hn : isWord property.toList = true)
    (ho : (Part.expr object).PrintsRows)
    (hs : (member a optional object property).print.Spells ts) : Operand ts := by
  obtain ⟨_, hleft, rfl⟩ := spells_member hs
  obtain ⟨us, hu, _, hpoint, rfl⟩ := spells_append.mp hleft
  obtain rfl := spells_integerPoint.mp hpoint
  have hobject := ho.wrap hu
  cases hinteger : object.isInteger with
  | true =>
      obtain ⟨w, hd, rfl⟩ := spells_integer hinteger hu
      have hwritten := hobject.written _ (List.mem_singleton_self _)
      exact hobject.grow (Row.integerMember hwritten hd hn optional)
        ⟨[.mark ".", .mark (if optional then "?." else "."), .word property], rfl⟩
  | false =>
      have hnone : us ++ Token.onlyIf false (.mark ".") = us := List.append_nil us
      rw [hnone]
      exact hobject.grow (hobject.toRow.member (endsInInteger_object hinteger hu) hn optional)
        ⟨_, (List.append_assoc _ _ _).symm⟩

theorem operand_unary {e : Expr} (hop : op.isLeading = true) (he : (Part.expr e).PrintsRows)
    (hs : (unary a op e).print.Spells ts) : Operand ts := by
  have hsign : op.sign.isWaiting = true ∧ op.sign.isOpener = true := by
    revert hop
    cases op <;> decide
  have hsplit : ∃ us, Operand us ∧ ts = [op.sign] ++ us := by
    by_cases hnew : op = .new
    · subst hnew
      cases e with
      -- a call under `new` is printed by its parts
      | call b c =>
          obtain ⟨optional, callee, arguments⟩ := c
          obtain ⟨rfl, us, hu, vs, hv, rfl⟩ := spells_newCall hs
          obtain ⟨hrow, hopens⟩ := he _ (.constructed b callee arguments) _
            (spells_append.mpr ⟨us, hu, _, spells_parenthesized.mpr ⟨vs, hv, rfl⟩, rfl⟩)
          exact ⟨_, ⟨hrow, hopens⟩, rfl⟩
      | _ =>
          obtain ⟨us, hu, rfl⟩ := spells_new rfl hs
          exact ⟨us, he.wrap hu, rfl⟩
    · obtain ⟨us, hu, rfl⟩ := spells_leading hnew hs
      exact ⟨us, he.wrap hu, rfl⟩
  obtain ⟨us, hoperand, rfl⟩ := hsplit
  exact .ofRow (hoperand.behind hsign.1) hsign.2

theorem operand_trailing {e : Expr} (hop : op.isTrailing = true) (he : (Part.expr e).PrintsRows)
    (hs : (trailing a op e).print.Spells ts) : Operand ts := by
  have hsign : (Token.mark op.token).isSettled = true ∧
      (Token.mark op.token).isPoint = false := by
    revert hop
    cases op <;> decide
  obtain ⟨us, hu, rfl⟩ := spells_trailing hs
  have hoperand := he.wrap hu
  exact hoperand.grow (hoperand.toRow.snoc hsign.1 hsign.2) (List.prefix_append _ _)

theorem operand_array {elements : List Element}
    (he : ∀ q ∈ elements.map Part.element, q.PrintsRows)
    (hs : (array a elements).print.Spells ts) : Operand ts := by
  obtain ⟨us, hu, rfl⟩ := spells_array hs
  have helements := row_commaSeparated (Elements.prints_outputs elements)
    (by simp [Part.isItem]) he hu
  have hinner : Row (us ++ Token.onlyIf (endsInHole elements) (.mark ",")) := by
    cases endsInHole elements with
    | true => exact helements.snoc (by decide) rfl
    | false => exact (List.append_nil us).symm ▸ helements
  rw [List.append_assoc [Token.mark "["]]
  exact .ofRow (hinner.enclosed (by decide) (by decide) rfl) rfl

theorem operand_number {value : Binary64} (h : (number a value).isReadable = true)
    (hs : (number a value).print.Spells ts) : Operand ts := by
  obtain ⟨hfinite, hpositive⟩ := isReadable_number_iff.mp h
  obtain rfl := spells_number.mp hs
  exact Binary64.operand_text hfinite hpositive

theorem operand_keyword {w : String} (hw : isWord w.toList = true) (hs : (keyword w).Spells ts) :
    Operand ts := by
  obtain rfl := spells_keyword.mp hs
  exact operand_word hw

/-- **Expressions**: the text of an expression is an operand if its parts are printed as rows. -/
theorem operand_print {e : Expr} (hl : e.isLexical = true)
    (ih : ∀ q ∈ e.parts, q.PrintsRows) (hs : e.print.Spells ts) : Operand ts := by
  cases e with
  | arrow a f => exact operand_arrow (ih _ (List.mem_singleton_self _)) hs
  | binary a op l r =>
      exact operand_binary hl (ih (.expr l) (by simp [parts])) (ih (.expr r) (by simp [parts])) hs
  | call a c =>
      obtain ⟨_, callee, _⟩ := c
      exact operand_call (ih (.expr callee) List.mem_cons_self)
        (fun q hq => ih q (List.mem_cons_of_mem _ hq)) hs
  | index a optional object key =>
      exact operand_index (ih (.expr object) (by simp [parts])) (ih (.expr key) (by simp [parts]))
        hs
  | conditional a t c e =>
      exact operand_conditional (ih (.expr t) (by simp [parts])) (ih (.expr c) (by simp [parts]))
        (ih (.expr e) (by simp [parts])) hs
  | function a name f => exact operand_function (ih _ (List.mem_singleton_self _)) hl hs
  | ident a name =>
      obtain rfl := spells_identifier.mp hs
      exact operand_word hl
  | member a optional object property =>
      exact operand_member hl (ih _ (List.mem_singleton_self _)) hs
  | unary a op e => exact operand_unary hl (ih _ (List.mem_singleton_self _)) hs
  | trailing a op e => exact operand_trailing hl (ih _ (List.mem_singleton_self _)) hs
  | array a elements => exact operand_array ih hs
  | this a => exact operand_keyword rfl hs
  | null a => exact operand_keyword rfl hs
  | boolean a value => cases value <;> exact operand_keyword rfl hs
  | number a value => exact operand_number hl hs
  | string a value =>
      obtain rfl := spells_quoted.mp hs
      exact operand_singleton rfl rfl rfl

end Expr

end printed

end TypeProbe
