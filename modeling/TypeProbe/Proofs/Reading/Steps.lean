import TypeProbe.Proofs.Reading.Following

/-! # Steps of the reader

What the readers do where it is known what comes next.  Everything that is proved about reading
goes through these equations, one for every way an operand begins and every kind of link. -/

namespace TypeProbe

open Grammar Lexeme

variable {min : Nat} {e : Expr} {ls rest more : List Lexeme}

/-! ### Single lexemes -/

@[simp] theorem after?_sign (c : Char) (ls : List Lexeme) : after? c (sign c :: ls) = some ls :=
  if_pos rfl

@[simp] theorem afterWord?_run (w : String) (ls : List Lexeme) :
    afterWord? w (run w :: ls) = some ls := if_pos rfl

@[simp] theorem readSeparator_comma (close : Char) (ls : List Lexeme) :
    readSeparator close (sign ',' :: ls) = some (true, ls) := rfl

@[simp] theorem readSeparator_close {close : Char} (hc : close ≠ ',') (ls : List Lexeme) :
    readSeparator close (sign close :: ls) = some (false, ls) := by
  have hcomma : after? ',' (sign close :: ls) = none := if_neg hc
  rw [readSeparator, hcomma, after?_sign]
  rfl

/-! ### Types -/

theorem readType_of_keyword {w : String} {k : TypeKeyword} (h : typeKeywords.lookup w = some k) :
    readType (run w :: rest) = some (readBrackets (.keyword .blank k) rest) := by
  rw [readType, answer_eq]
  simp [TypePhrase.reading, readingType, readName, h]

theorem readType_of_name {w : String} (h : typeKeywords.lookup w = none)
    (hr : after? '<' rest = none) :
    readType (run w :: rest) = some (readBrackets (.reference .blank w []) rest) := by
  rw [readType, answer_eq]
  simp [TypePhrase.reading, readingType, readName, h, hr]

theorem readType_of_applied {w : String} {arguments : List TypeExpr}
    (h : typeKeywords.lookup w = none) (ha : readTypes rest = some (arguments, more)) :
    readType (run w :: sign '<' :: rest) =
      some (readBrackets (.reference .blank w arguments) more) := by
  rw [readType, answer_eq]
  simp [TypePhrase.reading, readingType, readName, h, ha]

theorem readTypes_of_last {t : TypeExpr} (h : readType ls = some (t, sign '>' :: more)) :
    readTypes ls = some ([t], more) := by
  rw [readTypes, answer_eq]
  simp [TypePhrase.reading, readingTypes, h]

theorem readTypes_of_more {t : TypeExpr} {types : List TypeExpr}
    (h : readType ls = some (t, sign ',' :: rest)) (hr : readTypes rest = some (types, more)) :
    readTypes ls = some (t :: types, more) := by
  rw [readTypes, answer_eq]
  simp [TypePhrase.reading, readingTypes, h, hr]

/-! ### Operands -/

theorem readExpr_of_operand (h : readOperand ls = some (e, rest)) :
    readExpr min ls = readLinks min e rest := by
  rw [readExpr, answer_eq]
  simp [Phrase.reading, readingExpr, h]

theorem readExpr_of_leaf (h : start? ls = some (.leaf e, rest)) :
    readExpr min ls = readLinks min e rest := by
  apply readExpr_of_operand
  rw [readOperand, answer_eq]
  simp [Phrase.reading, readingOperand, h]

theorem readExpr_of_leading {op : Operator} (h : start? ls = some (.leading op, rest))
    (ha : readExpr Precedence.unary rest = some (e, more)) :
    readExpr min ls = readLinks min (.unary .blank op e) more := by
  apply readExpr_of_operand
  rw [readOperand, answer_eq]
  simp [Phrase.reading, readingOperand, h, ha]

theorem readExpr_of_group (h : start? ls = some (.group, rest))
    (ha : readExpr 0 rest = some (e, sign ')' :: more)) :
    readExpr min ls = readLinks min e more := by
  apply readExpr_of_operand
  rw [readOperand, answer_eq]
  simp [Phrase.reading, readingOperand, h, ha]

theorem readExpr_of_array {elements : List Element} (h : start? ls = some (.array, rest))
    (ha : readElements ']' rest = some (elements, more)) :
    readExpr min ls = readLinks min (.array .blank elements) more := by
  apply readExpr_of_operand
  rw [readOperand, answer_eq]
  simp [Phrase.reading, readingOperand, h, ha]

theorem readExpr_of_construct (h : start? ls = some (.construct, rest))
    (ha : readExpr Precedence.primary rest = some (e, more)) (hm : after? '(' more = none) :
    readExpr min ls = readLinks min (.unary .blank .new e) more := by
  apply readExpr_of_operand
  rw [readOperand, answer_eq]
  simp [Phrase.reading, readingOperand, h, ha, hm]

theorem readExpr_of_constructCall {elements : List Element} {more' : List Lexeme}
    (h : start? ls = some (.construct, rest))
    (ha : readExpr Precedence.primary rest = some (e, sign '(' :: more))
    (hm : readElements ')' more = some (elements, more')) :
    readExpr min ls = readLinks min
      (.unary .blank .new (.call .blank ⟨false, e, elements.filterMap Element.argument?⟩))
      more' := by
  apply readExpr_of_operand
  rw [readOperand, answer_eq]
  simp [Phrase.reading, readingOperand, h, ha, hm]

theorem readExpr_of_arrow {async : Bool} {parameters : List Param} {type : Option TypeExpr}
    {body : Body} {ps ts bs : List Lexeme} (h : start? ls = some (.arrow async, ps))
    (hp : readParams ')' ps = some (parameters, ts))
    (ht : readOptionalType ts = some (type, sign '=' :: sign '>' :: bs))
    (hb : readBody bs = some (body, more)) :
    readExpr min ls = readLinks min
      (.arrow .blank ⟨.blank, true, async, false, parameters, type, body⟩) more := by
  apply readExpr_of_operand
  rw [readOperand, answer_eq]
  simp [Phrase.reading, readingOperand, h, hp, ht, hb]

theorem readExpr_of_function {async : Bool} {name : Option Name} {f : Func}
    (h : start? ls = some (.function async, rest))
    (hf : readFunction async rest = some (name, f, more)) :
    readExpr min ls = readLinks min (.function .blank name f) more := by
  apply readExpr_of_operand
  rw [readOperand, answer_eq]
  simp [Phrase.reading, readingOperand, h, hf]

/-! ### Links -/

theorem readLinks_of_stop (h : ∀ link rest, link? ls = some (link, rest) → link.precedence < min) :
    readLinks min e ls = some (e, ls) := by
  rw [readLinks, answer_eq, Phrase.reading, readingLinks]
  split
  · rfl
  · next link rest hl =>
      rw [if_pos (h link rest hl)]
      rfl

theorem readLinks_of_member {optional : Bool} {property : String}
    (h : link? ls = some (.member optional, run property :: rest))
    (hmin : min ≤ Precedence.primary) :
    readLinks min e ls = readLinks min (.member .blank optional e property) rest := by
  rw [readLinks, answer_eq]
  simp [Phrase.reading, readingLinks, h, Link.precedence, readName,
    Nat.not_lt.mpr (hmin.trans (Nat.le_succ _))]

theorem readLinks_of_index {optional : Bool} {key : Expr}
    (h : link? ls = some (.index optional, rest)) (hmin : min ≤ Precedence.primary)
    (hk : readExpr 0 rest = some (key, sign ']' :: more)) :
    readLinks min e ls = readLinks min (.index .blank optional e key) more := by
  rw [readLinks, answer_eq]
  simp [Phrase.reading, readingLinks, h, Link.precedence, Nat.not_lt.mpr hmin, hk]

theorem readLinks_of_call {optional : Bool} {elements : List Element}
    (h : link? ls = some (.call optional, rest)) (hmin : min ≤ Precedence.callMember)
    (ha : readElements ')' rest = some (elements, more)) :
    readLinks min e ls =
      readLinks min (.call .blank ⟨optional, e, elements.filterMap Element.argument?⟩) more := by
  rw [readLinks, answer_eq]
  simp [Phrase.reading, readingLinks, h, Link.precedence, Nat.not_lt.mpr hmin, ha]

theorem readLinks_of_trailing {op : Operator} (h : link? ls = some (.trailing op, rest))
    (hmin : min ≤ Precedence.trailing) :
    readLinks min e ls = readLinks min (.trailing .blank op e) rest := by
  rw [readLinks, answer_eq]
  simp [Phrase.reading, readingLinks, h, Link.precedence, Nat.not_lt.mpr hmin]

theorem readLinks_of_between {op : Operator} {right : Expr}
    (h : link? ls = some (.between op, rest)) (hmin : min ≤ op.precedence)
    (hr : readExpr op.rightPrecedence rest = some (right, more)) :
    readLinks min e ls = readLinks min (.binary .blank op e right) more := by
  rw [readLinks, answer_eq]
  simp [Phrase.reading, readingLinks, h, Link.precedence, Nat.not_lt.mpr hmin, hr]

theorem readLinks_of_test {consequent alternate : Expr} {rest' : List Lexeme}
    (h : link? ls = some (.test, rest)) (hmin : min ≤ Precedence.assignment)
    (hc : readExpr Precedence.assignment rest = some (consequent, sign ':' :: rest'))
    (ha : readExpr Precedence.assignment rest' = some (alternate, more)) :
    readLinks min e ls = readLinks min (.conditional .blank e consequent alternate) more := by
  rw [readLinks, answer_eq]
  simp [Phrase.reading, readingLinks, h, Link.precedence, Nat.not_lt.mpr hmin, hc, ha]

/-! ### Lists -/

variable {close : Char}

theorem readElements_of_close (hc : close ≠ ',') :
    readElements close (sign close :: rest) = some ([], rest) := by
  rw [readElements, answer_eq]
  simp [Phrase.reading, readingElements, hc]

theorem readElements_of_hole {elements : List Element}
    (h : readElements close rest = some (elements, more)) :
    readElements close (sign ',' :: rest) = some (.hole :: elements, more) := by
  rw [readElements, answer_eq]
  simp [Phrase.reading, readingElements, h]

/-- An entry of a list of elements. -/
def Element.entry (spread : Bool) (value : Expr) : Element :=
  if spread then .rest value else .single value

theorem readElements_of_last {spread : Bool} (hc : close ≠ ',')
    (hs : readSeparator close ls = none) (hp : takePoints ls = (spread, rest))
    (hv : readExpr Precedence.assignment rest = some (e, sign close :: more)) :
    readElements close ls = some ([.entry spread e], more) := by
  rw [readElements, answer_eq]
  simp [Phrase.reading, readingElements, Element.entry, hc, hs, hp, hv]

theorem readElements_of_more {spread : Bool} {elements : List Element} {rest' : List Lexeme}
    (hs : readSeparator close ls = none) (hp : takePoints ls = (spread, rest))
    (hv : readExpr Precedence.assignment rest = some (e, sign ',' :: rest'))
    (hr : readElements close rest' = some (elements, more)) :
    readElements close ls = some (.entry spread e :: elements, more) := by
  rw [readElements, answer_eq]
  simp [Phrase.reading, readingElements, Element.entry, hs, hp, hv, hr]

theorem readParams_of_close : readParams close (sign close :: rest) = some ([], rest) := by
  rw [readParams, answer_eq]
  simp [Phrase.reading, readingParams]

theorem readParams_of_last {isRest : Bool} {name : String} {type : Option TypeExpr}
    {value : Option Expr} {ts vs : List Lexeme} (hc : close ≠ ',') (hs : after? close ls = none)
    (hp : takePoints ls = (isRest, run name :: ts)) (ht : readOptionalType ts = some (type, vs))
    (hv : readDefault vs = some (value, sign close :: more)) :
    readParams close ls = some ([⟨.blank, isRest, ⟨.blank, name⟩, type, value⟩], more) := by
  rw [readParams, answer_eq]
  simp [Phrase.reading, readingParams, readName, hc, hs, hp, ht, hv]

theorem readParams_of_more {isRest : Bool} {name : String} {type : Option TypeExpr}
    {value : Option Expr} {params : List Param} {ts vs rest' : List Lexeme}
    (hs : after? close ls = none) (hp : takePoints ls = (isRest, run name :: ts))
    (ht : readOptionalType ts = some (type, vs))
    (hv : readDefault vs = some (value, sign ',' :: rest'))
    (hr : readParams close rest' = some (params, more)) :
    readParams close ls = some (⟨.blank, isRest, ⟨.blank, name⟩, type, value⟩ :: params, more) := by
  rw [readParams, answer_eq]
  simp [Phrase.reading, readingParams, readName, hs, hp, ht, hv, hr]

theorem readDefault_of_value
    (h : readExpr Precedence.assignment rest = some (e, more)) :
    readDefault (sign '=' :: rest) = some (some e, more) := by
  rw [readDefault, answer_eq]
  simp [Phrase.reading, readingDefault, h]

theorem readDefault_of_none (h : after? '=' ls = none) : readDefault ls = some (none, ls) := by
  rw [readDefault, answer_eq]
  simp [Phrase.reading, readingDefault, h]

/-! ### Functions -/

variable {statements : List Stmt}

theorem readBlock_of_braces (h : readStmts rest = some (statements, sign '\x7d' :: more)) :
    readBlock (sign '\x7b' :: rest) = some (statements, more) := by
  rw [readBlock, answer_eq]
  simp [Phrase.reading, readingBlock, h]

theorem readBody_of_block (h : readBlock (sign '\x7b' :: rest) = some (statements, more)) :
    readBody (sign '\x7b' :: rest) = some (.block .blank statements, more) := by
  rw [readBody, answer_eq]
  simp [Phrase.reading, readingBody, h]

theorem readBody_of_expr (hb : after? '\x7b' ls = none)
    (h : readExpr Precedence.assignment ls = some (e, more)) :
    readBody ls = some (.expr .blank e, more) := by
  rw [readBody, answer_eq]
  simp [Phrase.reading, readingBody, hb, h]

theorem readFunction_of_parts {async generator : Bool} {name : Option Name}
    {parameters : List Param} {type : Option TypeExpr} {ns ps ts bs : List Lexeme}
    (hg : takeSign '*' ls = (generator, ns)) (hn : takeName ns = (name, sign '(' :: ps))
    (hp : readParams ')' ps = some (parameters, ts)) (ht : readOptionalType ts = some (type, bs))
    (hb : readBlock bs = some (statements, more)) :
    readFunction async ls = some (name,
      ⟨.blank, false, async, generator, parameters, type, .block .blank statements⟩, more) := by
  rw [readFunction, answer_eq]
  simp [Phrase.reading, readingFunction, hg, hn, hp, ht, hb]

/-! ### Statements -/

variable {s : Stmt} {bs cs : List Lexeme}

theorem readStmts_of_end (h : endsStatements ls = true) : readStmts ls = some ([], ls) := by
  rw [readStmts, answer_eq]
  simp [Phrase.reading, readingStmts, h]

theorem readStmts_of_more (hne : endsStatements ls = false) (hs : readStmt ls = some (s, rest))
    (hr : readStmts rest = some (statements, more)) :
    readStmts ls = some (s :: statements, more) := by
  rw [readStmts, answer_eq]
  simp [Phrase.reading, readingStmts, hne, hs, hr]

theorem readGroup_of_parens (h : readExpr 0 rest = some (e, sign ')' :: more)) :
    readGroup (sign '(' :: rest) = some (e, more) := by
  rw [readGroup, answer_eq]
  simp [Phrase.reading, readingGroup, h]

theorem readStmt_brace (ls : List Lexeme) : readStmt (sign '\x7b' :: ls) =
    (readBlock (sign '\x7b' :: ls)).map fun (body, rest) => (.block .blank body, rest) := by
  have hhead : head (sign '\x7b' :: ls) = (.block, ls) := rfl
  rw [readStmt, answer_eq, Option.map_eq_bind]
  simp [Phrase.reading, readingStmt, hhead]

theorem readStmt_of_breakTo {label : Option Name} (h : takeName rest = (label, sign ';' :: more)) :
    readStmt (run "break" :: rest) = some (.breakTo .blank (label.map Name.text), more) := by
  have hhead : head (run "break" :: rest) = (.breakTo, rest) := rfl
  rw [readStmt, answer_eq]
  simp [Phrase.reading, readingStmt, h, hhead]

theorem readStmt_of_continueTo {label : Option Name}
    (h : takeName rest = (label, sign ';' :: more)) :
    readStmt (run "continue" :: rest) = some (.continueTo .blank (label.map Name.text), more) := by
  have hhead : head (run "continue" :: rest) = (.continueTo, rest) := rfl
  rw [readStmt, answer_eq]
  simp [Phrase.reading, readingStmt, h, hhead]

theorem readStmt_of_doWhile (hb : readBlock bs = some (statements, run "while" :: cs))
    (hc : readGroup cs = some (e, sign ';' :: more)) :
    readStmt (run "do" :: bs) = some (.doWhile .blank e (.block .blank statements), more) := by
  have hhead : head (run "do" :: bs) = (.doWhile, bs) := rfl
  rw [readStmt, answer_eq]
  simp [Phrase.reading, readingStmt, hb, hc, hhead]

theorem readStmt_of_ifThen (hc : readGroup cs = some (e, bs))
    (hb : readBlock bs = some (statements, more)) (he : afterWord? "else" more = none) :
    readStmt (run "if" :: cs) = some (.ifElse .blank e (.block .blank statements) none, more) := by
  have hhead : head (run "if" :: cs) = (.ifElse, cs) := rfl
  rw [readStmt, answer_eq]
  simp [Phrase.reading, readingStmt, hc, hb, he, hhead]

theorem readStmt_of_ifElse {alternate : List Stmt} (hc : readGroup cs = some (e, bs))
    (hb : readBlock bs = some (statements, run "else" :: rest))
    (he : readBlock rest = some (alternate, more)) :
    readStmt (run "if" :: cs) = some
      (.ifElse .blank e (.block .blank statements) (some (.block .blank alternate)), more) := by
  have hhead : head (run "if" :: cs) = (.ifElse, cs) := rfl
  rw [readStmt, answer_eq]
  simp [Phrase.reading, readingStmt, hc, hb, he, hhead]

theorem readStmt_of_ret : readStmt (run "return" :: sign ';' :: rest) =
    some (.ret .blank none, rest) := by
  have hhead : head (run "return" :: sign ';' :: rest) = (.ret, sign ';' :: rest) := rfl
  rw [readStmt, answer_eq]
  simp [Phrase.reading, readingStmt, hhead]

theorem readStmt_of_retValue (hs : after? ';' ls = none)
    (hv : readExpr 0 ls = some (e, sign ';' :: more)) :
    readStmt (run "return" :: ls) = some (.ret .blank (some e), more) := by
  have hhead : head (run "return" :: ls) = (.ret, ls) := rfl
  rw [readStmt, answer_eq]
  simp [Phrase.reading, readingStmt, hs, hv, hhead]

theorem readStmt_of_throw (hv : readExpr 0 ls = some (e, sign ';' :: more)) :
    readStmt (run "throw" :: ls) = some (.throw .blank e, more) := by
  have hhead : head (run "throw" :: ls) = (.throw, ls) := rfl
  rw [readStmt, answer_eq]
  simp [Phrase.reading, readingStmt, hv, hhead]

theorem readStmt_of_tryBlock {handler : Option Catch} {finalizer : Option Block}
    (hb : readBlock bs = some (statements, cs)) (hc : readCatch cs = some (handler, rest))
    (hf : readFinally rest = some (finalizer, more)) :
    readStmt (run "try" :: bs) =
      some (.tryBlock .blank ⟨.blank, statements⟩ handler finalizer, more) := by
  have hhead : head (run "try" :: bs) = (.tryBlock, bs) := rfl
  rw [readStmt, answer_eq]
  simp [Phrase.reading, readingStmt, hb, hc, hf, hhead]

theorem readStmt_of_whileDo (hc : readGroup cs = some (e, bs))
    (hb : readBlock bs = some (statements, more)) :
    readStmt (run "while" :: cs) = some (.whileDo .blank e (.block .blank statements), more) := by
  have hhead : head (run "while" :: cs) = (.whileDo, cs) := rfl
  rw [readStmt, answer_eq]
  simp [Phrase.reading, readingStmt, hc, hb, hhead]

theorem readStmt_of_expression (h : head ls = (.expression, ls))
    (hv : readExpr 0 ls = some (e, sign ';' :: more)) :
    readStmt ls = some (.expr .blank e, more) := by
  rw [readStmt, answer_eq]
  simp [Phrase.reading, readingStmt, h, hv]

/-! ### Clauses -/

theorem readCatch_of_plain (h : readBlock (sign '\x7b' :: rest) = some (statements, more)) :
    readCatch (run "catch" :: sign '\x7b' :: rest) =
      some (some ⟨.blank, none, statements⟩, more) := by
  have hopen : after? '(' (sign '\x7b' :: rest) = none := rfl
  rw [readCatch, answer_eq]
  simp [Phrase.reading, readingCatch, hopen, h]

theorem readCatch_of_binding {name : String} (h : readBlock rest = some (statements, more)) :
    readCatch (run "catch" :: sign '(' :: run name :: sign ')' :: rest) =
      some (some ⟨.blank, some ⟨.blank, name⟩, statements⟩, more) := by
  rw [readCatch, answer_eq]
  simp [Phrase.reading, readingCatch, readName, h]

theorem readCatch_of_none (h : afterWord? "catch" ls = none) :
    readCatch ls = some (none, ls) := by
  rw [readCatch, answer_eq]
  simp [Phrase.reading, readingCatch, h]

theorem readFinally_of_clause (h : readBlock rest = some (statements, more)) :
    readFinally (run "finally" :: rest) = some (some ⟨.blank, statements⟩, more) := by
  rw [readFinally, answer_eq]
  simp [Phrase.reading, readingFinally, h]

theorem readFinally_of_none (h : afterWord? "finally" ls = none) :
    readFinally ls = some (none, ls) := by
  rw [readFinally, answer_eq]
  simp [Phrase.reading, readingFinally, h]

/-! ### Declarations -/

theorem readStmt_exported : readStmt (run "export" :: ls) = readDeclaration true ls := by
  have hhead : head (run "export" :: ls) = (.exported, ls) := rfl
  rw [readStmt, answer_eq]
  simp [Phrase.reading, readingStmt, hhead]

theorem readStmt_of_function {async : Bool} (h : head ls = (.function async, rest)) :
    readStmt ls = readDeclaration false ls := by
  rw [readStmt, answer_eq]
  simp [Phrase.reading, readingStmt, h]

theorem readStmt_of_binding {kind : BindingKind} (h : head ls = (.binding kind, rest)) :
    readStmt ls = readDeclaration false ls := by
  rw [readStmt, answer_eq]
  simp [Phrase.reading, readingStmt, h]

theorem readDeclaration_of_function {exported async : Bool} {name : Option Name} {f : Func}
    (h : head ls = (.function async, rest)) (hf : readFunction async rest = some (name, f, more)) :
    readDeclaration exported ls = some (.funcDecl .blank exported name f, more) := by
  rw [readDeclaration, answer_eq]
  simp [Phrase.reading, readingDeclaration, h, hf]

theorem readDeclaration_of_binding {exported : Bool} {kind : BindingKind} {params : List Param}
    (h : head ls = (.binding kind, rest)) (hp : readParams ';' rest = some (params, more)) :
    readDeclaration exported ls = some (.varDecl .blank exported kind
      (params.map fun p => ⟨p.pattern, p.annotation, p.defaultValue⟩), more) := by
  rw [readDeclaration, answer_eq]
  simp [Phrase.reading, readingDeclaration, h, hp]

end TypeProbe
