import TypeProbe.Proofs.Grammar.Statements
import TypeProbe.Tree.Build

/-! # Printing respects the grammar

What is printed of a tree with well-placed parts is a sentence of the grammar, and the sentence has
the bare tree (`print_respects_grammar`).

The induction is over all trees at once.  It shows for an expression that its text without
parentheses is of the nonterminal `Expr.level`, for the parts of a list that each of them derives
its tree on its own, and for a statement that it may stand in a list; branches are blocks by
then. -/

namespace TypeProbe

open Grammar Output Token

mutual

theorem Expr.derives : (e : Expr) → e.passes wellPlaced = true → e.Derives
  | .arrow a ⟨spot, arrow, async, generator, parameters, returnType, body⟩, h => by
      simp only [Expr.passes, Func.passes, Bool.and_eq_true] at h
      obtain ⟨_, ⟨⟨hrest, hp⟩, hr⟩, hb⟩ := h
      exact Expr.derives_arrow hr (Params.derives parameters hrest hp) (body.derives hb)
  | .binary a op l r, h => by
      have hw := Expr.check_of_passes h
      simp only [Expr.passes, Bool.and_eq_true] at h
      obtain ⟨⟨_, hl⟩, hr⟩ := h
      exact Expr.derives_binary hw (Expr.check_of_passes hl) (Expr.check_of_passes hr)
        (l.derives hl) (r.derives hr)
  | .call a ⟨optional, callee, arguments⟩, h => by
      simp only [Expr.passes, Call.passes, Bool.and_eq_true] at h
      obtain ⟨_, hc, ha⟩ := h
      exact Expr.derives_call (callee.derives hc) (Arguments.derives arguments ha)
  | .index a optional object key, h => by
      simp only [Expr.passes, Bool.and_eq_true] at h
      obtain ⟨⟨_, ho⟩, hk⟩ := h
      exact Expr.derives_index (object.derives ho) (key.derives hk)
  | .conditional a t c e, h => by
      simp only [Expr.passes, Bool.and_eq_true] at h
      obtain ⟨⟨⟨_, ht⟩, hc⟩, he⟩ := h
      exact Expr.derives_conditional (t.derives ht) (c.derives hc) (e.derives he)
  | .function a name ⟨spot, arrow, async, generator, parameters, returnType, .block l statements⟩,
    h => by
      simp only [Expr.passes, Func.passes, Body.passes, Bool.and_eq_true] at h
      obtain ⟨⟨_, hn⟩, ⟨⟨hrest, hp⟩, hr⟩, hb⟩ := h
      exact Expr.derives_function rfl hn hr (Params.derives parameters hrest hp)
        (Stmts.derives statements hb)
  | .function a name ⟨spot, arrow, async, generator, parameters, returnType, .expr l value⟩, h => by
      intro ts hs
      exact absurd hs not_spells_fail
  | .ident a name, h => by
      intro ts hs
      simp only [Expr.passes, Bool.and_eq_true] at h
      obtain rfl := spells_identifier.mp hs
      exact .ident (isIdentifier_of_isFreeName h.2)
  | .member a optional object property, h => by
      simp only [Expr.passes, Bool.and_eq_true] at h
      obtain ⟨⟨_, ho⟩, hp⟩ := h
      exact Expr.derives_member (Expr.check_of_passes ho) (object.derives ho) hp
  | .this a, _ => by
      intro ts hs
      obtain rfl := spells_keyword.mp hs
      exact .this
  | .unary a op e, h => by
      have hw := Expr.check_of_passes h
      simp only [Expr.passes, Bool.and_eq_true] at h
      obtain ⟨_, he⟩ := h
      by_cases hop : op = .new
      · subst hop
        have hm := Expr.hasOptionalMember_of_isWellPlaced (a := a) hw
        have hd := e.derives he
        cases e with
        | call b c =>
            obtain ⟨optional, callee, arguments⟩ := c
            simp only [Expr.passes, Call.passes, Bool.and_eq_true] at he
            obtain ⟨_, hc, ha⟩ := he
            exact Expr.derives_newCall hm (callee.derives hc) (Arguments.derives arguments ha)
        | _ => exact Expr.derives_new rfl hm hd
      · exact Expr.derives_leading hw hop (e.derives he)
  | .trailing a op e, h => by
      have hw := Expr.check_of_passes h
      simp only [Expr.passes, Bool.and_eq_true] at h
      exact Expr.derives_trailing hw (e.derives h.2)
  | .array a elements, h => by
      simp only [Expr.passes, Bool.and_eq_true] at h
      exact Expr.derives_array (Elements.derives elements h.2)
  | .boolean a value, _ => by
      intro ts hs
      obtain rfl := spells_keyword.mp hs
      cases value with
      | true => exact .yes
      | false => exact .no
  | .null a, _ => by
      intro ts hs
      obtain rfl := spells_keyword.mp hs
      exact .null
  | .number a value, h => Expr.derives_number (Expr.check_of_passes h)
  | .string a value, _ => by
      intro ts hs
      obtain rfl := spells_quoted.mp hs
      exact .string

theorem Arguments.derives : (arguments : List Argument) →
    Arguments.passes wellPlaced arguments = true → Arguments.Derive arguments
  | [], _ => by
      intro tss hs
      cases hs
      exact .nil
  | ⟨spot, spread, value⟩ :: rest, h => by
      intro tss hs
      simp only [Arguments.passes, Bool.and_eq_true] at h
      obtain ⟨hv, hr⟩ := h
      cases hs with
      | cons ht hts =>
          obtain ⟨_, hspread, us, hu, rfl⟩ := spells_append.mp ht
          obtain rfl := spells_onlyIf_punct.mp hspread
          exact .cons (Expr.derives_ofPrecedence (value.derives hv) hu)
            (Arguments.derives rest hr _ hts)

theorem Elements.derives : (elements : List Element) →
    Elements.passes wellPlaced elements = true → ∀ tss,
    List.Forall₂ Spells (Elements.outputs elements) tss →
    Grammar.Elements (commas tss ++ onlyIf (endsInHole elements) (mark ","))
      (Elements.bare elements)
  | [], _ => by
      intro tss hs
      cases hs
      exact .nil
  | .single value :: rest, h => by
      intro tss hs
      simp only [Elements.passes, Bool.and_eq_true] at h
      cases hs with
      | cons ht hts =>
          have hv := Expr.derives_ofPrecedence (value.derives h.1) ht
          exact derives_element (.single hv) nofun hts (Elements.derives rest h.2 _ hts)
  | .rest value :: rest, h => by
      intro tss hs
      simp only [Elements.passes, Bool.and_eq_true] at h
      cases hs with
      | cons ht hts =>
          obtain ⟨_, hdots, us, hu, rfl⟩ := spells_append.mp ht
          obtain rfl := spells_punct.mp hdots
          have hv := Expr.derives_ofPrecedence (value.derives h.1) hu
          exact derives_element (.rest hv) nofun hts (Elements.derives rest h.2 _ hts)
  | .hole :: rest, h => by
      intro tss hs
      cases hs with
      | cons ht hts =>
          obtain rfl := spells_empty.mp ht
          exact derives_hole hts (Elements.derives rest h _ hts)

theorem Params.derives : (parameters : List Param) → restOnlyLast parameters = true →
    Params.passes wellPlaced parameters = true → Params.Derive parameters
  | [], _, _ => by
      intro tss hs
      cases hs
      exact .nil
  | ⟨spot, isRest, pattern, type, none⟩ :: params, hrest, h => by
      intro tss hs
      simp only [Params.passes, Bool.and_eq_true] at h
      obtain ⟨⟨hn, ht⟩, hp⟩ := h
      have hname := isIdentifier_of_isFreeName hn
      cases hs with
      | cons hfirst hts =>
          simp only [spells_append, spells_identifier, spells_onlyIf_punct] at hfirst
          obtain ⟨_, ⟨_, rfl, _, rfl, rfl⟩, us, hu, rfl⟩ := hfirst
          have htype := derives_optionalType ht hu
          have hparams := Params.derives params (restOnlyLast_tail hrest) hp _ hts
          cases isRest with
          | true =>
              obtain rfl := eq_nil_of_rest hrest rfl
              cases hts
              exact .rest hname htype
          | false => exact .plain hname htype hparams
  | ⟨spot, isRest, pattern, type, some value⟩ :: params, hrest, h => by
      intro tss hs
      simp only [Params.passes, Bool.and_eq_true] at h
      obtain ⟨⟨⟨hn, ht⟩, hv⟩, hp⟩ := h
      have hname := isIdentifier_of_isFreeName hn
      cases hs with
      | cons hfirst hts =>
          have hparams := Params.derives params (restOnlyLast_tail hrest) hp _ hts
          cases isRest with
          | true => exact absurd hfirst not_spells_fail
          | false =>
              obtain ⟨_, hleft, vs, hvs, rfl⟩ := spells_append.mp hfirst
              simp only [spells_append, spells_identifier, spells_punct] at hleft
              obtain ⟨_, ⟨_, rfl, us, hu, rfl⟩, _, rfl, rfl⟩ := hleft
              exact .withDefault hname (derives_optionalType ht hu)
                (Expr.derives_ofPrecedence (value.derives hv) hvs) hparams

theorem Body.derives : (b : Body) → b.passes wellPlaced = true → ∀ ts, b.print.Spells ts →
    ArrowBody ts b.bare
  | .block spot statements, h => by
      intro ts hs
      obtain ⟨us, hu, rfl⟩ := spells_braced.mp hs
      exact .block (Stmts.derives statements h us hu)
  | .expr spot value, h => by
      intro ts hs
      have hb := Expr.begins_of_beginsAs (Expr.beginsAs_wrap (Expr.beginsAs_print value h) hs)
      exact .expr (Expr.derives_ofPrecedence (value.derives h) hs) (head_ne_brace_of_begins hb)

theorem Stmt.derives : (s : Stmt) → s.passes wellPlaced = true → s.Derives
  | .block _ body, h => Stmt.derives_block (Stmts.derives body h)
  | .breakTo .., h => Stmt.derives_breakTo h
  | .continueTo .., h => Stmt.derives_continueTo h
  | .doWhile _ condition body, h => by
      simp only [Stmt.passes, Bool.and_eq_true] at h
      exact Stmt.derives_doWhile (condition.derives h.1) (body.derives h.2)
  | .empty _, _ => nofun
  | .expr _ value, h => Stmt.derives_expr h (value.derives h)
  | .ifElse _ test consequent none, h => by
      simp only [Stmt.passes, Bool.and_eq_true] at h
      exact Stmt.derives_if (test.derives h.1) (consequent.derives h.2)
  | .ifElse _ test consequent (some alternate), h => by
      simp only [Stmt.passes, Bool.and_eq_true] at h
      obtain ⟨⟨ht, hc⟩, ha⟩ := h
      exact Stmt.derives_ifElse (test.derives ht) (consequent.derives hc) (alternate.derives ha)
  | .ret _ none, _ => Stmt.derives_retNothing
  | .ret _ (some value), h => Stmt.derives_ret (value.derives h)
  | .throw _ value, h => Stmt.derives_throw (value.derives h)
  | .tryBlock _ wrapped none none, _ => by
      intro _ ts hs
      exact absurd hs not_spells_fail
  | .tryBlock _ wrapped (some handler) none, h => by
      simp only [Stmt.passes, Bool.and_eq_true] at h
      exact Stmt.derives_tryCatch (wrapped.derives h.1) (handler.derives h.2)
  | .tryBlock _ wrapped none (some finalizer), h => by
      simp only [Stmt.passes, Bool.and_eq_true] at h
      exact Stmt.derives_tryFinally (wrapped.derives h.1) (finalizer.derives h.2)
  | .tryBlock _ wrapped (some handler) (some finalizer), h => by
      simp only [Stmt.passes, Bool.and_eq_true] at h
      obtain ⟨⟨hw, hh⟩, hf⟩ := h
      exact Stmt.derives_tryCatchFinally (wrapped.derives hw) (handler.derives hh)
        (finalizer.derives hf)
  | .whileDo _ condition body, h => by
      simp only [Stmt.passes, Bool.and_eq_true] at h
      exact Stmt.derives_whileDo (condition.derives h.1) (body.derives h.2)
  | .funcDecl _ _ none _, _ => by
      intro _ ts hs
      exact absurd hs not_spells_fail
  | .funcDecl _ _ (some _) ⟨_, _, _, _, parameters, _, .block _ statements⟩, h => by
      simp only [Stmt.passes, Func.passes, Body.passes, Bool.and_eq_true] at h
      obtain ⟨hn, ⟨⟨hrest, hp⟩, hr⟩, hb⟩ := h
      exact Stmt.derives_funcDecl rfl hn hr (Params.derives parameters hrest hp)
        (Stmts.derives statements hb)
  | .funcDecl _ _ (some _) ⟨_, _, _, _, _, _, .expr ..⟩, _ => by
      intro _ ts hs
      exact absurd hs not_spells_fail
  | .varDecl _ _ _ declarators, h => Stmt.derives_varDecl (Declarators.derives declarators h)

theorem Stmts.derives : (statements : List Stmt) → Stmts.passes wellPlaced statements = true →
    Stmts.Derive statements
  | [], _ => by
      intro ts hs
      obtain rfl := spells_empty.mp hs
      exact .nil
  | s :: rest, h => by
      intro ts hs
      simp only [Stmts.passes, Bool.and_eq_true] at h
      obtain ⟨us, hu, vs, hv, rfl⟩ := spells_append.mp hs
      have hrest := Stmts.derives rest h.2 vs hv
      unfold Stmts.bare
      split
      · next hempty =>
          cases s with
          | empty a =>
              obtain rfl := spells_empty.mp hu
              exact hrest
          | _ => cases hempty
      · next hempty => exact .cons (s.derives h.1 (by simpa using hempty) us hu) hrest

theorem Block.derives : (b : Block) → b.passes wellPlaced = true → b.Derives
  | ⟨_, body⟩, h => Block.derives_mk (Stmts.derives body h)

theorem Catch.derives : (c : Catch) → c.passes wellPlaced = true → c.Derives
  | ⟨_, _, body⟩, h => by
      simp only [Catch.passes, Bool.and_eq_true] at h
      exact Catch.derives_mk h.1 (Stmts.derives body h.2)

theorem Declarators.derives : (declarators : List Declarator) →
    Declarators.passes wellPlaced declarators = true → ∀ tss,
    List.Forall₂ Spells (Declarators.outputs declarators) tss →
    Grammar.Declarators tss (Declarators.bare declarators)
  | [], _ => by
      intro tss hs
      cases hs
      exact .nil
  | ⟨pattern, type, none⟩ :: rest, h => by
      intro tss hs
      simp only [Declarators.passes, Bool.and_eq_true] at h
      obtain ⟨⟨hn, ht⟩, hr⟩ := h
      cases hs with
      | cons hfirst hts =>
          obtain ⟨_, hname, us, hu, rfl⟩ := spells_append.mp hfirst
          obtain rfl := spells_identifier.mp hname
          exact .plain (isIdentifier_of_isFreeName hn) (derives_optionalType ht hu)
            (Declarators.derives rest hr _ hts)
  | ⟨pattern, type, some value⟩ :: rest, h => by
      intro tss hs
      simp only [Declarators.passes, Bool.and_eq_true] at h
      obtain ⟨⟨⟨hn, ht⟩, hv⟩, hr⟩ := h
      cases hs with
      | cons hfirst hts =>
          obtain ⟨_, hleft, vs, hvs, rfl⟩ := spells_append.mp hfirst
          simp only [spells_append, spells_identifier, spells_punct] at hleft
          obtain ⟨_, ⟨_, rfl, us, hu, rfl⟩, _, rfl, rfl⟩ := hleft
          exact .withValue (isIdentifier_of_isFreeName hn) (derives_optionalType ht hu)
            (Expr.derives_ofPrecedence (value.derives hv) hvs) (Declarators.derives rest hr _ hts)

end

/-! ### Programs -/

/-- **Printing respects the grammar.**  The tokens of a program that is printed derive its bare
tree, and those of an expression do so at every place that an expression can be printed for. -/
theorem print_respects_grammar :
    (∀ (p : Program) (text : String), p.passes wellPlaced = true → p.text = .ok text →
      Script (p.print.fragments.map Fragment.token) p.bare) ∧
    (∀ (e : Expr) (min : Nat), e.passes wellPlaced = true → (e.printAt min).error = none →
      Expression (Level.ofPrecedence min) ((e.printAt min).fragments.map Fragment.token)
        e.bare) := by
  constructor
  · intro p text hp ht
    have hs : p.print.Spells (p.print.fragments.map Fragment.token) := by
      refine ⟨?_, rfl⟩
      unfold Program.text Output.text at ht
      split at ht
      · cases ht
      · next he => exact he
    exact ⟨rfl, Stmts.derives p.body hp _ hs⟩
  · intro e min he hs
    exact Expr.derives_ofPrecedence (e.derives he) ⟨hs, rfl⟩

/-- The callee `f().g`, which `new` cannot take without parentheses. -/
def Expr.awkward : Expr :=
  let loc : Loc := ⟨0, 5⟩
  Build.member loc (Build.call loc (Build.ident loc "f") []) "g"

/-- The program `; if (a ?? (b || c)) d = 1..e ** -f; new (f().g)(x, ...[, y]);
(function () {}.h);`. -/
def Program.awkward : Program :=
  let loc : Loc := ⟨0, 70⟩
  let name (text : String) : Expr := Build.ident loc text
  let one : Expr := Build.number loc ⟨0x3ff0000000000000⟩
  let test := Build.binary loc .nullishCoalescing (name "a")
    (Build.binary loc .logicalOr (name "b") (name "c"))
  let power := Build.binary loc .exponentiation (Build.member loc one "e")
    (.unary (.ofLoc loc) .unaryNegation (name "f"))
  let spread := Build.spread (.array (.ofLoc loc) [.hole, .single (name "y")])
  let nothing : Expr := .function (.ofLoc loc) none (Build.func loc false [] (.block loc []))
  Build.program
    [.empty (.ofLoc loc),
      .ifElse (.ofLoc loc) test (Build.exprStmt (Build.assign loc (name "d") power)) none,
      Build.exprStmt (Build.construct loc Expr.awkward [Build.argument (name "x"), spread]),
      Build.exprStmt (Build.member loc nothing "h")]

theorem print_respects_grammar_awkward :
    Program.awkward.text = .ok
        "if(a??(b||c))\x7bd=1..e**-f;\x7dnew(f().g)(x,...[,y]);(function()\x7b\x7d.h);" ∧
      Script (Program.awkward.print.fragments.map Fragment.token) Program.awkward.bare ∧
      Expression .primary
        [mark "(", word "f", mark "(", mark ")", mark ".", word "g", mark ")"]
        Expr.awkward.bare :=
  ⟨rfl, print_respects_grammar.1 Program.awkward _ (by decide) rfl,
    print_respects_grammar.2 Expr.awkward Precedence.primary (by decide) rfl⟩

end TypeProbe
