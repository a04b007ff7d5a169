import TypeProbe.Proofs.Reading.Lists

/-! # Reading calls and functions back

The forms of expressions that hold lists: calls and constructions, array literals and functions.

* **`new`** takes the parentheses after what it constructs; without parentheses it leaves nothing
  that could be taken for them (`Expr.reads_new`), so `new` and `new` with empty parentheses stay
  apart.
* **Arrow functions** are told from expressions in parentheses by what is after the parenthesis
  that closes, and no other expression has the arrow there (`Expr.reads_arrow`, `Reads.wrap`).
* **Bodies** end at their brace, or where an operand of assignments ends. -/

namespace TypeProbe

open Grammar Output Lexeme

/-! ### Calls, constructions and array literals -/

namespace Expr

variable {a : Anchor} {e callee : Expr} {arguments : List Argument}

theorem reads_call {optional : Bool} (hc : callee.Reads) (hp : callee.passes readable = true)
    (ha : Arguments.Read arguments) : (call a ⟨optional, callee, arguments⟩).Reads := by
  intro ts hs min rest hmin _
  obtain ⟨us, hu, vs, hv, rfl⟩ := spells_call hs
  obtain ⟨elements, helements, hbare⟩ := ha.reads hv rest
  generalize htail : lexemes (Token.onlyIf optional (.mark "?.")) ++
    sign '(' :: (lexemes vs ++ sign ')' :: rest) = tail
  have htext : lexemes (us ++ Token.onlyIf optional (.mark "?.") ++
      ([Token.mark "("] ++ vs ++ [Token.mark ")"])) ++ rest = lexemes us ++ tail := by
    rw [← htail]
    simp only [lexemes_append, List.append_assoc]
    rfl
  have hlink : link? tail = some (.call optional, lexemes vs ++ sign ')' :: rest) := by
    rw [← htail]
    cases optional <;> rfl
  have hplain : arrowAfter tail = false ∧ typeTail tail = false := by
    rw [← htail]
    cases optional <;> exact ⟨rfl, rfl⟩
  have hloose : (Link.call optional).precedence < Precedence.primary :=
    (by decide : Precedence.callMember < Precedence.primary)
  have hcallee : readExpr min (lexemes us ++ tail) = readLinks min callee.bare tail :=
    hc.wrap hp hu (fun h => (le_trans hmin h).trans precedence_le_reach)
      (fun h => follows_link hlink (hloose.trans (primary_lt_tight h).1) hplain.1 hplain.2) hplain.1
  rw [htext, hcallee, readLinks_of_call hlink hmin helements, hbare]
  rfl

theorem callMember_le_constructorMin (e : Expr) : Precedence.callMember ≤ e.constructorMin := by
  unfold constructorMin
  split <;> decide

/-- What `new` constructs is read up to the parentheses of the construction or its end. -/
theorem reads_constructed (he : e.Reads) (hp : e.passes readable = true) {ts : List Token}
    (hs : (e.wrap e.constructorMin e.print).Spells ts) {rest : List Lexeme}
    (hf : Follows Precedence.primary rest) :
    readExpr Precedence.primary (lexemes ts ++ rest) = some (e.bare, rest) := by
  have hfollows (h : e.constructorMin ≤ e.precedence) : Follows e.tight rest :=
    hf.mono (primary_lt_tight ((callMember_le_constructorMin e).trans h)).1.le
  rw [he.wrap hp hs primary_le_reach hfollows hf.noArrow, readLinks_of_follows hf]

theorem reads_new (hcall : e.isCall = false) (he : e.Reads) (hp : e.passes readable = true) :
    (unary a .new e).Reads := by
  intro ts hs min rest _ hf
  obtain ⟨us, hu, rfl⟩ := spells_new hcall hs
  have htight : (unary a .new e).tight = Precedence.callMember := rfl
  rw [htight] at hf
  have hopen : after? '(' rest = none :=
    hf.after?_eq_none (.call false) (fun _ => rfl) le_rfl
  have hread := reads_constructed he hp hu (hf.mono (by decide))
  rw [lexemes_append, List.append_assoc]
  exact readExpr_of_construct rfl hread hopen

theorem reads_newCall {b : Anchor} {optional : Bool} (hc : callee.Reads)
    (hp : callee.passes readable = true) (ha : Arguments.Read arguments) :
    (unary a .new (call b ⟨optional, callee, arguments⟩)).Reads := by
  intro ts hs min rest _ _
  obtain ⟨rfl, us, hu, vs, hv, rfl⟩ := spells_newCall hs
  obtain ⟨elements, helements, hbare⟩ := ha.reads hv rest
  have hlink : link? (sign '(' :: (lexemes vs ++ sign ')' :: rest)) =
      some (.call false, lexemes vs ++ sign ')' :: rest) := rfl
  have hread := reads_constructed hc hp hu
    (follows_link hlink (by decide : Precedence.callMember < Precedence.primary) rfl rfl)
  have htext : lexemes ([Operator.sign .new] ++
        (us ++ ([Token.mark "("] ++ vs ++ [Token.mark ")"]))) ++ rest =
      run "new" :: (lexemes us ++ sign '(' :: (lexemes vs ++ sign ')' :: rest)) := by
    simp only [lexemes_append, List.append_assoc]
    rfl
  rw [htext, readExpr_of_constructCall rfl hread helements, hbare]
  rfl

theorem reads_array {elements : List Element} (h : Elements.Read elements) :
    (array a elements).Reads := by
  intro ts hs min rest _ _
  obtain ⟨us, hu, rfl⟩ := spells_array hs
  have hread := h.reads us hu ']' (by decide) rest
  have htext : lexemes ([Token.mark "["] ++ us ++ Token.onlyIf (endsInHole elements) (.mark ",") ++
      [Token.mark "]"]) ++ rest = sign '[' :: (lexemes us ++
        (lexemes (Token.onlyIf (endsInHole elements) (.mark ",")) ++ sign ']' :: rest)) := by
    simp only [lexemes_append, List.append_assoc]
    rfl
  rw [htext]
  exact readExpr_of_array rfl hread

end Expr

/-! ### Bodies -/

/-- Whether lexemes do not go on with the statement before them. -/
def NoClause (ls : List Lexeme) : Prop :=
  ∀ w ∈ ["else", "catch", "finally"], afterWord? w ls = none

/-- Whether statements are read back up to what ends them, and do not go on with a statement before
them. -/
def Stmts.Reads (statements : List Stmt) : Prop :=
  ∀ ts, (Stmts.print statements).Spells ts → ∀ rest, endsStatements rest = true →
    NoClause (lexemes ts ++ rest) ∧
      readStmts (lexemes ts ++ rest) = some (Stmts.bare statements, rest)

/-- Statements in braces are read whatever comes after them. -/
theorem Stmts.Reads.inBraces {statements : List Stmt} (h : Stmts.Reads statements) {ts : List Token}
    (hs : (braced (Stmts.print statements)).Spells ts) (rest : List Lexeme) :
    ∃ ls, lexemes ts ++ rest = sign '\x7b' :: ls ∧
      readBlock (sign '\x7b' :: ls) = some (Stmts.bare statements, rest) := by
  obtain ⟨us, hu, rfl⟩ := spells_braced.mp hs
  exact ⟨_, lexemes_braced us rest, readBlock_of_braces (h us hu _ rfl).2⟩

theorem Stmts.Reads.block {statements : List Stmt} (h : Stmts.Reads statements) {ts : List Token}
    (hs : (braced (Stmts.print statements)).Spells ts) (rest : List Lexeme) :
    readBlock (lexemes ts ++ rest) = some (Stmts.bare statements, rest) := by
  obtain ⟨ls, hls, hread⟩ := h.inBraces hs rest
  rw [hls, hread]

namespace Body

/-- Whether the body of an arrow function is read back in front of what may follow it. -/
def Reads (b : Body) : Prop :=
  ∀ ts, b.print.Spells ts → ∀ rest, Follows Precedence.assignment rest →
    readBody (lexemes ts ++ rest) = some (b.bare, rest)

theorem reads_block {spot : Spot} {statements : List Stmt} (h : Stmts.Reads statements) :
    (block spot statements).Reads := by
  intro ts hs rest _
  obtain ⟨ls, hls, hread⟩ := h.inBraces hs rest
  rw [hls]
  exact readBody_of_block hread

theorem reads_expr {spot : Spot} {value : Expr} (hv : value.Reads)
    (hp : value.passes readable = true) : (expr spot value).Reads := by
  intro ts hs rest hf
  have hopening := (value.opening_print hp).wrap hs
  exact readBody_of_expr (after?_of_opens (hopening.opens rest) rfl) (hv.whole hp hs le_rfl hf)

end Body

/-! ### Functions -/

theorem Expr.reads_arrow {a : Anchor} {f : Func} (hp : Params.passes readable f.parameters = true)
    (hr : TypeExpr.optionPasses readable f.returnType = true) (hps : Params.Read f.parameters)
    (hb : f.body.Reads) : (arrow a f).Reads := by
  intro ts hs min rest _ hf
  obtain ⟨hgenerator, _, hsignature, us, hu, rfl⟩ := spells_arrow hs
  obtain ⟨_, hparameters, vs, hv, rfl⟩ := spells_append.mp hsignature
  obtain ⟨ps, hparams, rfl⟩ := spells_parenthesized.mp hparameters
  obtain ⟨spot, isArrow, async, generator, parameters, returnType, body⟩ := f
  obtain rfl : generator = false := hgenerator
  generalize hbody : lexemes us ++ rest = bs
  generalize htypes : lexemes vs ++ sign '=' :: sign '>' :: bs = types
  have htext : lexemes (Token.onlyIf async (.word "async") ++
      ([Token.mark "("] ++ ps ++ [Token.mark ")"] ++ vs) ++ [Token.mark "=>"] ++ us) ++ rest =
      lexemes (Token.onlyIf async (.word "async")) ++
        sign '(' :: (lexemes ps ++ sign ')' :: types) := by
    rw [← htypes, ← hbody]
    simp only [lexemes_append, List.append_assoc]
    rfl
  have hskip : skip 0 (lexemes ps ++ sign ')' :: types) = types :=
    (regular_commaSeparated (Params.regular parameters hp) ps hparams).2 0 _
  have hstart : start? (lexemes (Token.onlyIf async (.word "async")) ++
      sign '(' :: (lexemes ps ++ sign ')' :: types)) =
        some (.arrow async, lexemes ps ++ sign ')' :: types) := by
    cases async with
    | true => rfl
    | false =>
        show start? (sign '(' :: (lexemes ps ++ sign ')' :: types)) = _
        rw [start?, hskip, ← htypes, arrowAfter_optionalType hr hv]
        rfl
  have hread := hps.reads ps hparams ')' (by decide) types
  have htyped := reads_optionalType hr hv (c := '=') (by decide) (sign '>' :: bs)
  rw [htypes] at htyped
  rw [htext, readExpr_of_arrow hstart hread htyped (hbody ▸ hb us hu rest hf)]
  rfl

namespace Func

/-- A function that is no arrow function is read from behind its first word on. -/
theorem reads_printFunction {f : Func} {name : Option Name} {spot : Spot} {statements : List Stmt}
    (hb : f.body = .block spot statements)
    (hr : TypeExpr.optionPasses readable f.returnType = true) (hp : Params.Read f.parameters)
    (hss : Stmts.Reads statements) {ts : List Token} (h : (f.printFunction name).Spells ts)
    (rest : List Lexeme) :
    ∃ ls, lexemes ts ++ rest =
        lexemes (Token.onlyIf f.async (.word "async")) ++ run "function" :: ls ∧
      readFunction f.async ls = some (name.map Name.bare, f.bare false, rest) := by
  obtain ⟨_, hsignature, us, hu, rfl⟩ := spells_printFunction hb h
  obtain ⟨_, hparameters, vs, hv, rfl⟩ := spells_append.mp hsignature
  obtain ⟨ps, hparams, rfl⟩ := spells_parenthesized.mp hparameters
  obtain ⟨spot', isArrow, async, generator, parameters, returnType, body⟩ := f
  obtain rfl := hb
  generalize hbody : sign '\x7b' :: (lexemes us ++ sign '\x7d' :: rest) = bs
  have hblock : readBlock bs = some (Stmts.bare statements, rest) :=
    hbody ▸ readBlock_of_braces (hss us hu _ rfl).2
  generalize hlist : sign '(' :: (lexemes ps ++ sign ')' :: (lexemes vs ++ bs)) = list
  have htype := reads_optionalType hr hv (c := '\x7b') (by decide)
    (lexemes us ++ sign '\x7d' :: rest)
  rw [hbody] at htype
  have hread := hp.reads ps hparams ')' (by decide) (lexemes vs ++ bs)
  refine ⟨lexemes (Token.onlyIf generator (.mark "*")) ++
    (lexemes (name.map fun n => Token.word n.text).toList ++ list), ?_, ?_⟩
  · rw [← hlist, ← hbody]
    simp only [lexemes_append, List.append_assoc]
    rfl
  · have hname : takeName (lexemes (name.map fun n => Token.word n.text).toList ++ list) =
        (name.map Name.bare, list) := by
      rw [← hlist]
      cases name <;> rfl
    have hstar : takeSign '*' (lexemes (Token.onlyIf generator (.mark "*")) ++
        (lexemes (name.map fun n => Token.word n.text).toList ++ list)) =
          (generator, lexemes (name.map fun n => Token.word n.text).toList ++ list) := by
      rw [← hlist]
      cases generator <;> cases name <;> rfl
    subst hlist
    exact readFunction_of_parts hstar hname hread htype hblock

end Func

theorem Expr.reads_function {a : Anchor} {f : Func} {name : Option Name} {spot : Spot}
    {statements : List Stmt} (hb : f.body = .block spot statements)
    (hr : TypeExpr.optionPasses readable f.returnType = true) (hp : Params.Read f.parameters)
    (hss : Stmts.Reads statements) : (function a name f).Reads := by
  intro ts hs min rest _ _
  have hprint : (f.printFunction name).Spells ts := by
    obtain ⟨spot', isArrow, async, generator, parameters, returnType, body⟩ := f
    obtain rfl := hb
    exact hs
  obtain ⟨ls, htext, hread⟩ := Func.reads_printFunction hb hr hp hss hprint rest
  have hstart : start? (lexemes (Token.onlyIf f.async (.word "async")) ++ run "function" :: ls) =
      some (.function f.async, ls) := by
    cases f.async <;> rfl
  rw [htext]
  exact readExpr_of_function hstart hread

end TypeProbe
