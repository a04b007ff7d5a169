import TypeProbe.Proofs.Reading.Functions

/-! # Reading statements back

One case for every form of statement: if the parts are read as their bare trees, so is the whole
(`Stmt.Reads`).

Statements begin with words that are no names, and that no statement before them goes on with
(`StartsStmt`).  Only `if` and `try` look beyond their own end (`Stmt.takesClause`); what is after
them in a list is a statement or the brace that closes it.  Branches are read as blocks, whatever
they were (`Stmt.ReadsBranch`). -/

namespace TypeProbe

open Grammar Output Lexeme

/-! ### How statements begin -/

/-- What begins a statement neither ends a list of statements nor goes on with the one before. -/
structure StartsStmt (ls : List Lexeme) : Prop where
  noEnd : endsStatements ls = false
  noClause : NoClause ls

theorem startsStmt_brace (ls : List Lexeme) : StartsStmt (sign '\x7b' :: ls) :=
  ⟨rfl, fun _ _ => rfl⟩

theorem startsStmt_run {w : String} (hw : w ∉ ["else", "catch", "finally"]) (ls : List Lexeme) :
    StartsStmt (run w :: ls) where
  noEnd := rfl
  noClause := fun v hv => if_neg fun heq : w = v => hw (heq ▸ hv)

/-- An expression that is a statement of its own. -/
theorem startsStmt_of_opening {ls : List Lexeme} (h : Opening false ls) (rest : List Lexeme) :
    StartsStmt (ls ++ rest) := by
  have hhead := h.head rfl rest
  obtain ⟨l, more, hls, hl⟩ := exists_cons_of_opens (h.opens rest)
  rw [hls] at hhead ⊢
  cases l with
  | run w =>
      refine startsStmt_run (fun hw => ?_) more
      simp only [List.mem_cons, List.not_mem_nil, or_false] at hw
      rcases hw with rfl | rfl | rfl <;> cases hhead
  | sign c =>
      have hc : sign c ≠ sign '\x7d' := ne_of_check hl rfl
      exact ⟨beq_eq_false_iff_ne.mpr hc, fun _ _ => rfl⟩
  | quoted value => exact ⟨rfl, fun _ _ => rfl⟩
  | twice c => exact ⟨rfl, fun _ _ => rfl⟩

theorem noClause_of_endsStatements {ls : List Lexeme} (h : endsStatements ls = true) :
    NoClause ls := by
  cases ls with
  | nil => exact fun _ _ => rfl
  | cons l ls =>
      obtain rfl := eq_of_beq h
      exact fun _ _ => rfl

/-! ### What has to be shown of a statement -/

namespace Stmt

/-- Whether a clause after the statement could belong to it. -/
def takesClause : Stmt → Bool
  | ifElse .. | tryBlock .. => true
  | _ => false

/-- Whether the text of a statement begins like one and is read back as its bare tree. -/
def Reads (s : Stmt) : Prop :=
  ∀ ts, s.print.Spells ts → ∀ rest, (s.takesClause = true → NoClause rest) →
    StartsStmt (lexemes ts ++ rest) ∧ readStmt (lexemes ts ++ rest) = some (s.bare, rest)

/-- Whether a branch or loop body is read back as the block that it stands for. -/
def ReadsBranch (s : Stmt) : Prop :=
  ∀ ts, (s.printBranch s.print).Spells ts → ∀ rest,
    ∃ body, readBlock (lexemes ts ++ rest) = some (body, rest) ∧
      s.branch s.bare = .block .blank body

end Stmt

namespace Stmts

theorem reads_nil : Stmts.Reads [] := by
  intro ts hs rest hend
  obtain rfl := spells_empty.mp hs
  exact ⟨noClause_of_endsStatements hend, readStmts_of_end hend⟩

/-- Lone semicolons leave nothing to read. -/
theorem reads_cons {s : Stmt} {statements : List Stmt} (h : s.isEmpty = false → s.Reads)
    (hr : Stmts.Reads statements) : Stmts.Reads (s :: statements) := by
  intro ts hs rest hend
  obtain ⟨us, hu, vs, hv, rfl⟩ := spells_append.mp hs
  obtain ⟨hclause, hrest⟩ := hr vs hv rest hend
  have hbare : Stmts.bare (s :: statements) =
      if s.isEmpty then Stmts.bare statements else s.bare :: Stmts.bare statements := rfl
  rw [hbare]
  cases hempty : s.isEmpty with
  | true =>
      cases s with
      | empty a =>
          obtain rfl := spells_empty.mp hu
          exact ⟨hclause, hrest⟩
      | _ => cases hempty
  | false =>
      obtain ⟨hstarts, hread⟩ := h hempty us hu (lexemes vs ++ rest) fun _ => hclause
      rw [lexemes_append, List.append_assoc]
      exact ⟨hstarts.noClause, readStmts_of_more hstarts.noEnd hread hrest⟩

end Stmts

namespace Stmt

variable {a : Anchor} {condition test value : Expr} {body consequent alternate s : Stmt}

theorem reads_block {statements : List Stmt} (h : Stmts.Reads statements) :
    (block a statements).Reads := by
  intro ts hs rest _
  obtain ⟨ls, hls, hread⟩ := h.inBraces hs rest
  rw [hls, readStmt_brace, hread]
  exact ⟨startsStmt_brace ls, rfl⟩

/-- A statement that is no block is read in the braces that are put around it. -/
theorem readsBranch_of_reads (h : s.isEmpty = false → s.Reads) : s.ReadsBranch := by
  intro ts hs rest
  have hlist : s.print = Stmts.print [s] := (append_empty s.print).symm
  cases s with
  | block a statements =>
      obtain ⟨us, hu, rfl⟩ := spells_braced.mp hs
      have hread := (h rfl _ hs rest nofun).2
      rw [lexemes_braced, readStmt_brace, Option.map_eq_some_iff] at hread
      obtain ⟨⟨statements', rest'⟩, hblock, heq⟩ := hread
      obtain ⟨hbody, rfl⟩ := Prod.mk.inj heq
      rw [lexemes_braced]
      exact ⟨statements', hblock, hbody.symm⟩
  | empty a =>
      exact ⟨[], (Stmts.reads_cons h Stmts.reads_nil).block hs rest, rfl⟩
  | _ =>
      rw [hlist] at hs
      exact ⟨_, (Stmts.reads_cons h Stmts.reads_nil).block hs rest, rfl⟩

end Stmt

/-- An expression in parentheses is read whatever comes after it. -/
theorem Expr.Reads.group {e : Expr} (h : e.Reads) {ts : List Token}
    (hs : (parenthesized e.print).Spells ts) (rest : List Lexeme) :
    readGroup (lexemes ts ++ rest) = some (e.bare, rest) := by
  obtain ⟨us, hu, rfl⟩ := spells_parenthesized.mp hs
  rw [lexemes_parenthesized]
  exact readGroup_of_parens (h.closed hu (follows_close (by decide) 0 rest))

namespace Stmt

variable {a : Anchor} {condition test value : Expr} {body consequent alternate s : Stmt}

/-! ### Jumps -/

theorem takeName_label (label : Option String) (rest : List Lexeme) :
    takeName (lexemes ((label.map Token.word).toList ++ [Token.mark ";"]) ++ rest) =
      (label.map (Name.mk .blank), sign ';' :: rest) := by
  cases label <;> rfl

theorem reads_breakTo (a : Anchor) (label : Option String) : (breakTo a label).Reads := by
  intro ts hs rest _
  obtain rfl := spells_printJump hs
  refine ⟨startsStmt_run (by decide) _, ?_⟩
  refine (readStmt_of_breakTo (takeName_label label rest)).trans ?_
  rw [Option.map_map]
  cases label <;> rfl

theorem reads_continueTo (a : Anchor) (label : Option String) : (continueTo a label).Reads := by
  intro ts hs rest _
  obtain rfl := spells_printJump hs
  refine ⟨startsStmt_run (by decide) _, ?_⟩
  refine (readStmt_of_continueTo (takeName_label label rest)).trans ?_
  rw [Option.map_map]
  cases label <;> rfl

theorem reads_ret (a : Anchor) : (ret a none).Reads := by
  intro ts hs rest _
  obtain rfl := spells_ret hs
  exact ⟨startsStmt_run (by decide) _, readStmt_of_ret⟩

theorem lexemes_wordValue (w : String) (us : List Token) (rest : List Lexeme) :
    lexemes ([Token.word w] ++ us ++ [Token.mark ";"]) ++ rest =
      run w :: (lexemes us ++ sign ';' :: rest) := by
  simp only [lexemes_append, List.append_assoc]
  rfl

theorem reads_retValue (hv : value.Reads) (hp : value.passes readable = true) :
    (ret a (some value)).Reads := by
  intro ts hs rest _
  obtain ⟨us, hu, rfl⟩ := spells_wordValue hs
  have hopens := (value.opening_print hp us hu).opens (sign ';' :: rest)
  have hread := hv.closed hu (follows_close (c := ';') (by decide) 0 rest)
  rw [lexemes_wordValue]
  exact ⟨startsStmt_run (by decide) _, readStmt_of_retValue (after?_of_opens hopens rfl) hread⟩

theorem reads_throw (hv : value.Reads) : (throw a value).Reads := by
  intro ts hs rest _
  obtain ⟨us, hu, rfl⟩ := spells_wordValue hs
  have hread := hv.closed hu (follows_close (c := ';') (by decide) 0 rest)
  rw [lexemes_wordValue]
  exact ⟨startsStmt_run (by decide) _, readStmt_of_throw hread⟩

/-! ### Branches and loops -/

theorem reads_doWhile (hc : condition.Reads) (hb : body.ReadsBranch) :
    (doWhile a condition body).Reads := by
  intro ts hs rest _
  obtain ⟨us, hu, vs, hv, rfl⟩ := spells_doWhile hs
  have htext : lexemes ([Token.word "do"] ++ us ++ [Token.word "while"] ++ vs ++
        [Token.mark ";"]) ++ rest =
      run "do" :: (lexemes us ++ run "while" :: (lexemes vs ++ sign ';' :: rest)) := by
    simp only [lexemes_append, List.append_assoc]
    rfl
  obtain ⟨statements, hread, hbranch⟩ := hb us hu (run "while" :: (lexemes vs ++ sign ';' :: rest))
  rw [htext, readStmt_of_doWhile hread (hc.group hv _), ← hbranch]
  exact ⟨startsStmt_run (by decide) _, rfl⟩

theorem reads_whileDo (hc : condition.Reads) (hb : body.ReadsBranch) :
    (whileDo a condition body).Reads := by
  intro ts hs rest _
  obtain ⟨us, hu, vs, hv, rfl⟩ := spells_whileDo hs
  have htext : lexemes ([Token.word "while"] ++ us ++ vs) ++ rest =
      run "while" :: (lexemes us ++ (lexemes vs ++ rest)) := by
    simp only [lexemes_append, List.append_assoc]
    rfl
  obtain ⟨statements, hread, hbranch⟩ := hb vs hv rest
  rw [htext, readStmt_of_whileDo (hc.group hu _) hread, ← hbranch]
  exact ⟨startsStmt_run (by decide) _, rfl⟩

theorem reads_ifThen (ht : test.Reads) (hc : consequent.ReadsBranch) :
    (ifElse a test consequent none).Reads := by
  intro ts hs rest hclause
  obtain ⟨us, hu, vs, hv, rfl⟩ := spells_ifThen hs
  have htext : lexemes ([Token.word "if"] ++ us ++ vs) ++ rest =
      run "if" :: (lexemes us ++ (lexemes vs ++ rest)) := by
    simp only [lexemes_append, List.append_assoc]
    rfl
  obtain ⟨statements, hread, hbranch⟩ := hc vs hv rest
  have helse : afterWord? "else" rest = none := hclause rfl "else" (by decide)
  rw [htext, readStmt_of_ifThen (ht.group hu _) hread helse, ← hbranch]
  exact ⟨startsStmt_run (by decide) _, rfl⟩

theorem reads_ifElse (ht : test.Reads) (hc : consequent.ReadsBranch) (ha : alternate.ReadsBranch) :
    (ifElse a test consequent (some alternate)).Reads := by
  intro ts hs rest _
  obtain ⟨us, hu, vs, hv, ws, hw, rfl⟩ := spells_ifElse hs
  have htext : lexemes ([Token.word "if"] ++ us ++ vs ++ [Token.word "else"] ++ ws) ++ rest =
      run "if" :: (lexemes us ++ (lexemes vs ++ run "else" :: (lexemes ws ++ rest))) := by
    simp only [lexemes_append, List.append_assoc]
    rfl
  obtain ⟨thens, hread, hbranch⟩ := hc vs hv (run "else" :: (lexemes ws ++ rest))
  obtain ⟨elses, hread', hbranch'⟩ := ha ws hw rest
  rw [htext, readStmt_of_ifElse (ht.group hu _) hread hread', ← hbranch, ← hbranch']
  exact ⟨startsStmt_run (by decide) _, rfl⟩

end Stmt

/-! ### Exceptions -/

/-- Whether a `catch` clause is read back as its bare tree. -/
def Catch.Reads (c : Catch) : Prop :=
  ∀ ts, c.print.Spells ts → ∀ rest, readCatch (lexemes ts ++ rest) = some (some c.bare, rest)

theorem Catch.reads_of_body {spot : Spot} {parameter : Option Name} {statements : List Stmt}
    (h : Stmts.Reads statements) : (Catch.mk spot parameter statements).Reads := by
  intro ts hs rest
  obtain ⟨us, hu, hts⟩ := spells_print hs
  cases parameter with
  | none =>
      obtain rfl : ts = [Token.word "catch"] ++ us := hts
      obtain ⟨ls, hls, hread⟩ := h.inBraces hu rest
      have htext : lexemes ([Token.word "catch"] ++ us) ++ rest =
          run "catch" :: (lexemes us ++ rest) := by
        simp only [lexemes_append, List.append_assoc]
        rfl
      rw [htext, hls]
      exact readCatch_of_plain hread
  | some name =>
      obtain rfl : ts = [Token.word "catch", Token.mark "(", Token.word name.text,
        Token.mark ")"] ++ us := hts
      have htext : lexemes ([Token.word "catch", Token.mark "(", Token.word name.text,
          Token.mark ")"] ++ us) ++ rest =
            run "catch" :: sign '(' :: run name.text :: sign ')' :: (lexemes us ++ rest) := by
        simp only [lexemes_append, List.append_assoc]
        rfl
      rw [htext]
      exact readCatch_of_binding (h.block hu rest)

/-- Whether statements in braces are read back as their bare tree. -/
def Block.Reads (b : Block) : Prop :=
  ∀ ts, b.print.Spells ts → ∀ rest,
    ∃ statements, readBlock (lexemes ts ++ rest) = some (statements, rest) ∧
      ⟨.blank, statements⟩ = b.bare

theorem Block.reads_of_body {spot : Spot} {statements : List Stmt} (h : Stmts.Reads statements) :
    (Block.mk spot statements).Reads :=
  fun _ hs rest => ⟨_, h.block hs rest, rfl⟩

namespace Stmt

variable {a : Anchor} {wrapped finalizer : Block} {handler : Catch}

theorem reads_tryCatch (hw : wrapped.Reads) (hh : handler.Reads) :
    (tryBlock a wrapped (some handler) none).Reads := by
  intro ts hs rest hclause
  obtain ⟨us, hu, vs, hv, rfl⟩ := spells_tryCatch hs
  have htext : lexemes ([Token.word "try"] ++ us ++ vs) ++ rest =
      run "try" :: (lexemes us ++ (lexemes vs ++ rest)) := by
    simp only [lexemes_append, List.append_assoc]
    rfl
  have hfinally : readFinally rest = some (none, rest) :=
    readFinally_of_none (hclause rfl "finally" (by decide))
  obtain ⟨body, hread, hbare⟩ := hw us hu (lexemes vs ++ rest)
  rw [htext, readStmt_of_tryBlock hread (hh vs hv rest) hfinally, hbare]
  exact ⟨startsStmt_run (by decide) _, rfl⟩

theorem reads_tryFinally (hw : wrapped.Reads) (hf : finalizer.Reads) :
    (tryBlock a wrapped none (some finalizer)).Reads := by
  intro ts hs rest _
  obtain ⟨us, hu, ws, hws, rfl⟩ := spells_tryFinally hs
  have htext : lexemes ([Token.word "try"] ++ us ++ [Token.word "finally"] ++ ws) ++ rest =
      run "try" :: (lexemes us ++ run "finally" :: (lexemes ws ++ rest)) := by
    simp only [lexemes_append, List.append_assoc]
    rfl
  have hcatch : readCatch (run "finally" :: (lexemes ws ++ rest)) = some (none, _) :=
    readCatch_of_none rfl
  obtain ⟨body, hread, hbare⟩ := hw us hu (run "finally" :: (lexemes ws ++ rest))
  obtain ⟨body', hread', hbare'⟩ := hf ws hws rest
  rw [htext, readStmt_of_tryBlock hread hcatch (readFinally_of_clause hread'), hbare, hbare']
  exact ⟨startsStmt_run (by decide) _, rfl⟩

theorem reads_tryCatchFinally (hw : wrapped.Reads) (hh : handler.Reads) (hf : finalizer.Reads) :
    (tryBlock a wrapped (some handler) (some finalizer)).Reads := by
  intro ts hs rest _
  obtain ⟨us, hu, vs, hv, ws, hws, rfl⟩ := spells_tryCatchFinally hs
  have htext : lexemes ([Token.word "try"] ++ us ++ vs ++ [Token.word "finally"] ++ ws) ++ rest =
      run "try" :: (lexemes us ++ (lexemes vs ++ run "finally" :: (lexemes ws ++ rest))) := by
    simp only [lexemes_append, List.append_assoc]
    rfl
  obtain ⟨body, hread, hbare⟩ := hw us hu (lexemes vs ++ run "finally" :: (lexemes ws ++ rest))
  obtain ⟨body', hread', hbare'⟩ := hf ws hws rest
  rw [htext, readStmt_of_tryBlock hread (hh vs hv _) (readFinally_of_clause hread'), hbare, hbare']
  exact ⟨startsStmt_run (by decide) _, rfl⟩

/-! ### Expressions and declarations -/

/-- An expression that is a statement stands in parentheses if it would begin with `function`. -/
theorem exists_wrap_of_expr (value : Expr) : ∃ m,
    (if value.startsWithFunction then parenthesized value.print else value.print) =
        value.wrap m value.print ∧
      (decide (m ≤ value.precedence) && value.startsWithFunction) = false := by
  cases hf : value.startsWithFunction with
  | true =>
      refine ⟨value.precedence + 1, (if_pos (Nat.lt_succ_self _)).symm, ?_⟩
      rw [Bool.and_true, decide_eq_false_iff_not]
      exact Nat.not_succ_le_self _
  | false => exact ⟨0, (if_neg (Nat.not_lt_zero _)).symm, Bool.and_false _⟩

theorem reads_expr {value : Expr} (hv : value.Reads) (hp : value.passes readable = true) :
    (expr a value).Reads := by
  intro ts hs rest _
  obtain ⟨m, hwrap, hfunction⟩ := exists_wrap_of_expr value
  obtain ⟨us, hu, _, hend, rfl⟩ := spells_append.mp hs
  rw [hwrap] at hu
  obtain rfl := spells_punct.mp hend
  have htext : lexemes (us ++ [Token.mark ";"]) ++ rest = lexemes us ++ sign ';' :: rest := by
    rw [lexemes_append, List.append_assoc]
    rfl
  have hopening := (value.opening_print hp).wrap hu
  rw [hfunction] at hopening
  have hread := hv.whole hp hu (Nat.zero_le m) (follows_close (c := ';') (by decide) 0 rest)
  rw [htext]
  exact ⟨startsStmt_of_opening hopening _,
    readStmt_of_expression (hopening.head rfl _) hread⟩

/-- A declaration is read the same with `export` before it. -/
theorem reads_exported {exported : Bool} {ls : List Lexeme} {s : Stmt} {rest : List Lexeme}
    (hstarts : StartsStmt ls) (hplain : readStmt ls = readDeclaration false ls)
    (hread : readDeclaration exported ls = some (s, rest)) :
    StartsStmt (lexemes (Token.onlyIf exported (.word "export")) ++ ls) ∧
      readStmt (lexemes (Token.onlyIf exported (.word "export")) ++ ls) = some (s, rest) := by
  cases exported with
  | true => exact ⟨startsStmt_run (by decide) ls, readStmt_exported.trans hread⟩
  | false => exact ⟨hstarts, hplain.trans hread⟩

theorem reads_funcDecl {exported : Bool} {name : Name} {f : Func} {spot : Spot}
    {statements : List Stmt} (hb : f.body = .block spot statements)
    (hr : TypeExpr.optionPasses readable f.returnType = true) (hp : Params.Read f.parameters)
    (hss : Stmts.Reads statements) : (funcDecl a exported (some name) f).Reads := by
  intro ts hs rest _
  obtain ⟨us, hu, rfl⟩ := spells_funcDecl hs
  obtain ⟨ls, htext, hread⟩ := Func.reads_printFunction hb hr hp hss hu rest
  have hhead : head (lexemes us ++ rest) = (.function f.async, ls) := by
    rw [htext]
    cases f.async <;> rfl
  have hstarts : StartsStmt (lexemes us ++ rest) := by
    rw [htext]
    cases f.async <;> exact startsStmt_run (by decide) _
  rw [lexemes_append, List.append_assoc]
  exact reads_exported hstarts (readStmt_of_function hhead)
    (readDeclaration_of_function hhead hread)

theorem reads_varDecl {exported : Bool} {kind : BindingKind} {declarators : List Declarator}
    (h : Declarators.Read declarators) : (varDecl a exported kind declarators).Reads := by
  intro ts hs rest _
  obtain ⟨_, us, hu, rfl⟩ := spells_varDecl hs
  have htext : lexemes (Token.onlyIf exported (.word "export") ++ [Token.word kind.token] ++ us ++
      [Token.mark ";"]) ++ rest = lexemes (Token.onlyIf exported (.word "export")) ++
        run kind.token :: (lexemes us ++ sign ';' :: rest) := by
    simp only [lexemes_append, List.append_assoc]
    rfl
  rw [Declarators.outputs_eq] at hu
  have hread := h.reads us hu ';' (by decide) rest
  have hhead : head (run kind.token :: (lexemes us ++ sign ';' :: rest)) =
      (.binding kind, lexemes us ++ sign ';' :: rest) := by
    cases kind <;> rfl
  have hstarts : StartsStmt (run kind.token :: (lexemes us ++ sign ';' :: rest)) :=
    startsStmt_run (by cases kind <;> decide) _
  have hdeclaration : readDeclaration exported (run kind.token ::
      (lexemes us ++ sign ';' :: rest)) =
        some (.varDecl .blank exported kind (Declarators.bare declarators), rest) := by
    rw [readDeclaration_of_binding hhead hread, Declarators.bare_eq]
  rw [htext]
  exact reads_exported hstarts (readStmt_of_binding hhead) hdeclaration

end Stmt

end TypeProbe
