import TypeProbe.Proofs.Grammar.Token
import TypeProbe.Proofs.Tree.Chain

/-! # What the text of a tree spells

The text of an expression with operands spells the tokens of the operands and its own tokens
between them, and that of a statement those of its parts.  There is one lemma for every form
(`Expr.spells_binary`, `Stmt.spells_ifElse` and so on), which takes the tokens apart; how a text
begins and ends, what it derives and what it is read as is read off these lemmas. -/

namespace TypeProbe

open Output Token

variable {ts : List Token}

/-! ### Operators and links -/

namespace Operator

/-- The token that an operator is written as. -/
def sign (op : Operator) : Token := if op.isWord then .word op.token else .mark op.token

theorem spells_print {op : Operator} : op.print.Spells ts ↔ ts = [op.sign] := by
  unfold print sign
  split
  · exact spells_keyword
  · exact spells_punct

end Operator

theorem spells_printOptional {optional : Bool} :
    (printOptional optional).Spells ts ↔ ts = Token.onlyIf optional (mark "?.") :=
  spells_onlyIf_punct

/-! ### Functions -/

theorem spells_printFunctionHead {async generator : Bool} {name : Option Name}
    (h : (printFunctionHead async generator name).Spells ts) :
    ts = Token.onlyIf async (word "async") ++ [word "function"] ++
      Token.onlyIf generator (mark "*") ++ (name.map fun n => word n.text).toList := by
  obtain ⟨_, hmark, ns, hname, rfl⟩ := spells_append.mp h
  obtain ⟨_, hword, _, hstar, rfl⟩ := spells_append.mp hmark
  obtain ⟨_, hasync, _, hfunction, rfl⟩ := spells_append.mp hword
  obtain rfl := spells_onlyIf_keyword.mp hasync
  obtain rfl := spells_keyword.mp hfunction
  obtain rfl := spells_onlyIf_punct.mp hstar
  cases name with
  | none =>
      obtain rfl := spells_empty.mp hname
      rfl
  | some n =>
      obtain rfl := spells_identifier.mp hname
      rfl

theorem Func.spells_printFunction {f : Func} {name : Option Name} {spot : Spot}
    {statements : List Stmt} (hb : f.body = .block spot statements)
    (h : (f.printFunction name).Spells ts) :
    ∃ ss, (printSignature (Params.outputs f.parameters) f.returnType).Spells ss ∧
      ∃ us, (Stmts.print statements).Spells us ∧
        ts = Token.onlyIf f.async (word "async") ++ [word "function"] ++
          Token.onlyIf f.generator (mark "*") ++ (name.map fun n => word n.text).toList ++ ss ++
          ([mark "\x7b"] ++ us ++ [mark "\x7d"]) := by
  obtain ⟨_, _, async, generator, parameters, returnType, body⟩ := f
  obtain rfl := hb
  obtain ⟨_, hsignature, _, hbody, rfl⟩ := spells_append.mp h
  obtain ⟨_, hhead, ss, hs, rfl⟩ := spells_append.mp hsignature
  obtain rfl := spells_printFunctionHead hhead
  obtain ⟨us, hu, rfl⟩ := spells_braced.mp hbody
  exact ⟨ss, hs, us, hu, rfl⟩

/-! ### Expressions -/

namespace Expr

variable {a : Anchor}

theorem spells_arrow {f : Func} (h : (arrow a f).print.Spells ts) :
    f.generator = false ∧
      ∃ ss, (printSignature (Params.outputs f.parameters) f.returnType).Spells ss ∧
        ∃ us, f.body.print.Spells us ∧
          ts = Token.onlyIf f.async (word "async") ++ ss ++ [mark "=>"] ++ us := by
  obtain ⟨_, _, async, generator, parameters, returnType, body⟩ := f
  cases generator with
  | true => exact absurd h not_spells_fail
  | false =>
      obtain ⟨_, hleft, us, hu, rfl⟩ := spells_append.mp h
      obtain ⟨_, hhead, _, hmark, rfl⟩ := spells_append.mp hleft
      obtain ⟨_, hasync, ss, hs, rfl⟩ := spells_append.mp hhead
      obtain rfl := spells_onlyIf_keyword.mp hasync
      obtain rfl := spells_punct.mp hmark
      exact ⟨rfl, ss, hs, us, hu, rfl⟩

theorem spells_binary {op : Operator} {l r : Expr} (h : (binary a op l r).print.Spells ts) :
    ∃ us, (l.wrap (op.leftMin l) l.print).Spells us ∧
      ∃ vs, (r.wrap (op.rightMin r) r.print).Spells vs ∧ ts = us ++ [op.sign] ++ vs := by
  obtain ⟨_, hleft, vs, hv, rfl⟩ := spells_append.mp h
  obtain ⟨us, hu, _, hsign, rfl⟩ := spells_append.mp hleft
  obtain rfl := Operator.spells_print.mp hsign
  exact ⟨us, hu, vs, hv, rfl⟩

theorem spells_call {optional : Bool} {callee : Expr} {arguments : List Argument}
    (h : (call a ⟨optional, callee, arguments⟩).print.Spells ts) :
    ∃ us, (callee.wrap Precedence.callMember callee.print).Spells us ∧
      ∃ vs, (commaSeparated (Arguments.outputs arguments)).Spells vs ∧
        ts = us ++ Token.onlyIf optional (mark "?.") ++ ([mark "("] ++ vs ++ [mark ")"]) := by
  obtain ⟨_, hleft, _, hright, rfl⟩ := spells_append.mp h
  obtain ⟨us, hu, _, hmark, rfl⟩ := spells_append.mp hleft
  obtain rfl := spells_printOptional.mp hmark
  obtain ⟨vs, hv, rfl⟩ := spells_parenthesized.mp hright
  exact ⟨us, hu, vs, hv, rfl⟩

theorem spells_index {optional : Bool} {object key : Expr}
    (h : (index a optional object key).print.Spells ts) :
    ∃ us, (object.wrap Precedence.callMember object.print).Spells us ∧
      ∃ vs, key.print.Spells vs ∧
        ts = us ++ Token.onlyIf optional (mark "?.") ++ [mark "["] ++ vs ++ [mark "]"] := by
  obtain ⟨_, hrest, _, hclose, rfl⟩ := spells_append.mp h
  obtain ⟨_, hleft, vs, hv, rfl⟩ := spells_append.mp hrest
  obtain ⟨_, hobject, _, hopen, rfl⟩ := spells_append.mp hleft
  obtain ⟨us, hu, _, hmark, rfl⟩ := spells_append.mp hobject
  obtain rfl := spells_printOptional.mp hmark
  obtain rfl := spells_punct.mp hopen
  obtain rfl := spells_punct.mp hclose
  exact ⟨us, hu, vs, hv, rfl⟩

theorem spells_conditional {t c e : Expr} (h : (conditional a t c e).print.Spells ts) :
    ∃ us, (t.wrap (Precedence.assignment + 1) t.print).Spells us ∧
      ∃ vs, (c.wrap Precedence.assignment c.print).Spells vs ∧
        ∃ ws, (e.wrap Precedence.assignment e.print).Spells ws ∧
          ts = us ++ [mark "?"] ++ vs ++ [mark ":"] ++ ws := by
  obtain ⟨_, hleft, ws, hw, rfl⟩ := spells_append.mp h
  obtain ⟨_, hbranch, _, hcolon, rfl⟩ := spells_append.mp hleft
  obtain ⟨_, htest, vs, hv, rfl⟩ := spells_append.mp hbranch
  obtain ⟨us, hu, _, hquestion, rfl⟩ := spells_append.mp htest
  obtain rfl := spells_punct.mp hquestion
  obtain rfl := spells_punct.mp hcolon
  exact ⟨us, hu, vs, hv, ws, hw, rfl⟩

/-- Whether the expression is a numeral of digits only, which would take a point after it. -/
def isInteger : Expr → Bool
  | e@(number _ value) => e.precedence == Precedence.primary && value.text.all Char.isDigit
  | _ => false

theorem spells_integerPoint {e : Expr} :
    e.integerPoint.Spells ts ↔ ts = Token.onlyIf e.isInteger (.mark ".") := by
  cases e with
  | number a value => exact spells_onlyIf_punct
  | _ => exact spells_empty

/-- Such a numeral stands without parentheses. -/
theorem spells_integer {e : Expr} (h : e.isInteger = true)
    (hs : (e.wrap Precedence.callMember e.print).Spells ts) :
    ∃ text, text.toList.all Char.isDigit = true ∧ ts = [numeral text] := by
  cases e with
  | number a value =>
      simp only [isInteger, Bool.and_eq_true, beq_iff_eq] at h
      rw [wrap, h.1, if_neg (by decide)] at hs
      refine ⟨_, ?_, spells_number.mp hs⟩
      rw [String.toList_ofList]
      exact h.2
  | _ => cases h

theorem spells_member {optional : Bool} {object : Expr} {property : String}
    (h : (member a optional object property).print.Spells ts) :
    ∃ us, (object.wrap Precedence.callMember object.print ++ object.integerPoint).Spells us ∧
      ts = us ++ [mark (if optional then "?." else ".")] ++ [word property] := by
  obtain ⟨_, hleft, _, hname, rfl⟩ := spells_append.mp h
  obtain ⟨us, hu, _, hmark, rfl⟩ := spells_append.mp hleft
  obtain rfl := spells_identifier.mp hname
  obtain rfl := spells_punct.mp hmark
  exact ⟨us, hu, rfl⟩

theorem spells_unary {op : Operator} {e : Expr} (h : (unary a op e).print.Spells ts) :
    ∃ us, ts = [op.sign] ++ us := by
  unfold print at h
  obtain ⟨_, hsign, us, _, rfl⟩ := spells_append.mp h
  obtain rfl := Operator.spells_print.mp hsign
  exact ⟨us, rfl⟩

theorem spells_leading {op : Operator} {e : Expr} (hop : op ≠ .new)
    (h : (unary a op e).print.Spells ts) :
    ∃ us, (e.wrap Precedence.unary e.print).Spells us ∧ ts = [op.sign] ++ us := by
  rw [print_leading hop] at h
  obtain ⟨_, hsign, us, hu, rfl⟩ := spells_append.mp h
  obtain rfl := Operator.spells_print.mp hsign
  exact ⟨us, hu, rfl⟩

theorem spells_new {e : Expr} (he : e.isCall = false) (h : (unary a .new e).print.Spells ts) :
    ∃ us, (e.wrap e.constructorMin e.print).Spells us ∧
      ts = [Operator.sign .new] ++ us := by
  rw [print_new he] at h
  obtain ⟨_, hsign, us, hu, rfl⟩ := spells_append.mp h
  obtain rfl := Operator.spells_print.mp hsign
  exact ⟨us, hu, rfl⟩

/-- The arguments of a construction are those of the call under `new`. -/
theorem spells_newCall {b : Anchor} {optional : Bool} {callee : Expr} {arguments : List Argument}
    (h : (unary a .new (call b ⟨optional, callee, arguments⟩)).print.Spells ts) :
    optional = false ∧ ∃ us, (callee.wrap callee.constructorMin callee.print).Spells us ∧
      ∃ vs, (commaSeparated (Arguments.outputs arguments)).Spells vs ∧
        ts = [Operator.sign .new] ++ (us ++ ([mark "("] ++ vs ++ [mark ")"])) := by
  obtain ⟨_, hsign, _, hrest, rfl⟩ := spells_append.mp h
  obtain rfl := Operator.spells_print.mp hsign
  cases optional with
  | true => exact absurd hrest not_spells_fail
  | false =>
      obtain ⟨us, hu, _, hright, rfl⟩ := spells_append.mp hrest
      obtain ⟨vs, hv, rfl⟩ := spells_parenthesized.mp hright
      exact ⟨rfl, us, hu, vs, hv, rfl⟩

theorem spells_trailing {op : Operator} {e : Expr} (h : (trailing a op e).print.Spells ts) :
    ∃ us, (e.wrap Precedence.callMember e.print).Spells us ∧ ts = us ++ [mark op.token] := by
  obtain ⟨us, hu, _, hsign, rfl⟩ := spells_append.mp h
  obtain rfl := spells_punct.mp hsign
  exact ⟨us, hu, rfl⟩

theorem spells_array {elements : List Element} (h : (array a elements).print.Spells ts) :
    ∃ us, (commaSeparated (Elements.outputs elements)).Spells us ∧
      ts = [mark "["] ++ us ++ Token.onlyIf (endsInHole elements) (mark ",") ++ [mark "]"] := by
  obtain ⟨_, hleft, _, hclose, rfl⟩ := spells_append.mp h
  obtain ⟨_, hinner, _, hcomma, rfl⟩ := spells_append.mp hleft
  obtain ⟨_, hopen, us, hu, rfl⟩ := spells_append.mp hinner
  obtain rfl := spells_punct.mp hopen
  obtain rfl := spells_onlyIf_punct.mp hcomma
  obtain rfl := spells_punct.mp hclose
  exact ⟨us, hu, rfl⟩

end Expr

/-! ### Statements -/

theorem spells_printJump {w : String} {label : Option String} (h : (printJump w label).Spells ts) :
    ts = [word w] ++ (label.map word).toList ++ [mark ";"] := by
  obtain ⟨_, hleft, _, hend, rfl⟩ := spells_append.mp h
  obtain ⟨_, hword, _, hlabel, rfl⟩ := spells_append.mp hleft
  obtain rfl := spells_keyword.mp hword
  obtain rfl := spells_punct.mp hend
  cases label with
  | none =>
      obtain rfl := spells_empty.mp hlabel
      rfl
  | some l =>
      obtain rfl := spells_identifier.mp hlabel
      rfl

/-- A word, an expression and a semicolon, as a `return` or a `throw` has them. -/
theorem spells_wordValue {w : String} {value : Expr}
    (h : (keyword w ++ value.print ++ punct ";").Spells ts) :
    ∃ us, value.print.Spells us ∧ ts = [word w] ++ us ++ [mark ";"] := by
  obtain ⟨_, hleft, _, hend, rfl⟩ := spells_append.mp h
  obtain ⟨_, hword, us, hu, rfl⟩ := spells_append.mp hleft
  obtain rfl := spells_keyword.mp hword
  obtain rfl := spells_punct.mp hend
  exact ⟨us, hu, rfl⟩

namespace Stmt

variable {a : Anchor} {condition test : Expr} {body consequent alternate : Stmt}

theorem spells_ret (h : (ret a none).print.Spells ts) : ts = [word "return"] ++ [mark ";"] := by
  obtain ⟨_, hword, _, hend, rfl⟩ := spells_append.mp h
  obtain rfl := spells_keyword.mp hword
  obtain rfl := spells_punct.mp hend
  rfl

theorem spells_doWhile (h : (doWhile a condition body).print.Spells ts) :
    ∃ us, (body.printBranch body.print).Spells us ∧
      ∃ vs, (parenthesized condition.print).Spells vs ∧
        ts = [word "do"] ++ us ++ [word "while"] ++ vs ++ [mark ";"] := by
  obtain ⟨_, hleft, _, hend, rfl⟩ := spells_append.mp h
  obtain ⟨_, hloop, vs, hv, rfl⟩ := spells_append.mp hleft
  obtain ⟨_, hbody, _, hwhile, rfl⟩ := spells_append.mp hloop
  obtain ⟨_, hdo, us, hu, rfl⟩ := spells_append.mp hbody
  obtain rfl := spells_keyword.mp hdo
  obtain rfl := spells_keyword.mp hwhile
  obtain rfl := spells_punct.mp hend
  exact ⟨us, hu, vs, hv, rfl⟩

theorem spells_whileDo (h : (whileDo a condition body).print.Spells ts) :
    ∃ us, (parenthesized condition.print).Spells us ∧
      ∃ vs, (body.printBranch body.print).Spells vs ∧ ts = [word "while"] ++ us ++ vs := by
  obtain ⟨_, hleft, vs, hv, rfl⟩ := spells_append.mp h
  obtain ⟨_, hwhile, us, hu, rfl⟩ := spells_append.mp hleft
  obtain rfl := spells_keyword.mp hwhile
  exact ⟨us, hu, vs, hv, rfl⟩

theorem spells_ifThen (h : (ifElse a test consequent none).print.Spells ts) :
    ∃ us, (parenthesized test.print).Spells us ∧
      ∃ vs, (consequent.printBranch consequent.print).Spells vs ∧
        ts = [word "if"] ++ us ++ vs := by
  obtain ⟨_, hleft, vs, hv, rfl⟩ := spells_append.mp h
  obtain ⟨_, hif, us, hu, rfl⟩ := spells_append.mp hleft
  obtain rfl := spells_keyword.mp hif
  exact ⟨us, hu, vs, hv, rfl⟩

theorem spells_ifElse (h : (ifElse a test consequent (some alternate)).print.Spells ts) :
    ∃ us, (parenthesized test.print).Spells us ∧
      ∃ vs, (consequent.printBranch consequent.print).Spells vs ∧
        ∃ ws, (alternate.printBranch alternate.print).Spells ws ∧
          ts = [word "if"] ++ us ++ vs ++ [word "else"] ++ ws := by
  obtain ⟨_, hleft, ws, hw, rfl⟩ := spells_append.mp h
  obtain ⟨_, hthen, _, helse, rfl⟩ := spells_append.mp hleft
  obtain ⟨us, hu, vs, hv, rfl⟩ := spells_ifThen (a := a) hthen
  obtain rfl := spells_keyword.mp helse
  exact ⟨us, hu, vs, hv, ws, hw, rfl⟩

section tryBlock

variable {wrapped finalizer : Block} {handler : Catch}

theorem spells_tryCatch (h : (tryBlock a wrapped (some handler) none).print.Spells ts) :
    ∃ us, wrapped.print.Spells us ∧
      ∃ vs, handler.print.Spells vs ∧ ts = [word "try"] ++ us ++ vs := by
  obtain ⟨_, hleft, vs, hv, rfl⟩ := spells_append.mp h
  obtain ⟨_, htry, us, hu, rfl⟩ := spells_append.mp hleft
  obtain rfl := spells_keyword.mp htry
  exact ⟨us, hu, vs, hv, rfl⟩

theorem spells_tryFinally (h : (tryBlock a wrapped none (some finalizer)).print.Spells ts) :
    ∃ us, wrapped.print.Spells us ∧
      ∃ ws, finalizer.print.Spells ws ∧ ts = [word "try"] ++ us ++ [word "finally"] ++ ws := by
  obtain ⟨_, hleft, ws, hw, rfl⟩ := spells_append.mp h
  obtain ⟨_, hbody, _, hfinally, rfl⟩ := spells_append.mp hleft
  obtain ⟨_, htry, us, hu, rfl⟩ := spells_append.mp hbody
  obtain rfl := spells_keyword.mp htry
  obtain rfl := spells_keyword.mp hfinally
  exact ⟨us, hu, ws, hw, rfl⟩

theorem spells_tryCatchFinally
    (h : (tryBlock a wrapped (some handler) (some finalizer)).print.Spells ts) :
    ∃ us, wrapped.print.Spells us ∧
      ∃ vs, handler.print.Spells vs ∧
        ∃ ws, finalizer.print.Spells ws ∧
          ts = [word "try"] ++ us ++ vs ++ [word "finally"] ++ ws := by
  obtain ⟨_, hleft, ws, hw, rfl⟩ := spells_append.mp h
  obtain ⟨_, hclause, _, hfinally, rfl⟩ := spells_append.mp hleft
  obtain ⟨us, hu, vs, hv, rfl⟩ := spells_tryCatch (a := a) hclause
  obtain rfl := spells_keyword.mp hfinally
  exact ⟨us, hu, vs, hv, ws, hw, rfl⟩

end tryBlock

/-- A function declaration that is printed has a name, and statements as its body. -/
theorem spells_funcDecl {exported : Bool} {name : Name} {f : Func}
    (h : (funcDecl a exported (some name) f).print.Spells ts) :
    ∃ us, (f.printFunction (some name)).Spells us ∧
      ts = Token.onlyIf exported (word "export") ++ us := by
  obtain ⟨_, _, _, _, _, _, functionBody⟩ := f
  cases functionBody with
  | expr => exact absurd h not_spells_fail
  | block =>
      obtain ⟨_, hexport, us, hu, rfl⟩ := spells_append.mp h
      obtain rfl := spells_onlyIf_keyword.mp hexport
      exact ⟨us, hu, rfl⟩

/-- A declaration of variables that is printed has at least one of them. -/
theorem spells_varDecl {exported : Bool} {kind : BindingKind} {declarators : List Declarator}
    (h : (varDecl a exported kind declarators).print.Spells ts) :
    declarators ≠ [] ∧ ∃ us, (commaSeparated (Declarators.outputs declarators)).Spells us ∧
      ts = Token.onlyIf exported (word "export") ++ [word kind.token] ++ us ++ [mark ";"] := by
  cases declarators with
  | nil => exact absurd h not_spells_fail
  | cons d rest =>
      obtain ⟨_, hleft, _, hend, rfl⟩ := spells_append.mp h
      obtain ⟨_, hwords, us, hu, rfl⟩ := spells_append.mp hleft
      obtain ⟨_, hexport, _, hkind, rfl⟩ := spells_append.mp hwords
      obtain rfl := spells_onlyIf_keyword.mp hexport
      obtain rfl := spells_keyword.mp hkind
      obtain rfl := spells_punct.mp hend
      exact ⟨List.cons_ne_nil _ _, us, hu, rfl⟩

end Stmt

/-- A `catch` clause may bind a name. -/
theorem Catch.spells_print {spot : Spot} {parameter : Option Name} {body : List Stmt}
    (h : (Catch.mk spot parameter body).print.Spells ts) :
    ∃ us, (braced (Stmts.print body)).Spells us ∧
      ts = [word "catch"] ++
        (parameter.toList.flatMap fun n => [mark "(", word n.text, mark ")"]) ++ us := by
  obtain ⟨_, hleft, us, hu, rfl⟩ := spells_append.mp h
  obtain ⟨_, hword, _, hparameter, rfl⟩ := spells_append.mp hleft
  obtain rfl := spells_keyword.mp hword
  cases parameter with
  | none =>
      obtain rfl := spells_empty.mp hparameter
      exact ⟨us, hu, rfl⟩
  | some name =>
      obtain ⟨_, hname, rfl⟩ := spells_parenthesized.mp hparameter
      obtain rfl := spells_identifier.mp hname
      exact ⟨us, hu, rfl⟩

end TypeProbe
