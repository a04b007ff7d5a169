import TypeProbe.Proofs.Grammar.Sentence
import TypeProbe.Proofs.Number.Distinct
import TypeProbe.Proofs.Reading.Recursion
import TypeProbe.Proofs.Reading.Scan

/-! # Reading programs

A reader of the program text that trees are printed as.  It works on lexemes, and gives bare
trees.

* **Operators** are read by precedence (`readExpr`): an operand, and then every link or operator
  after it that binds tightly enough (`readLinks`).
* **Arrow functions** begin like an expression in parentheses.  What follows the parenthesis that
  closes decides (`arrowAfter`): the arrow, or a return type and the arrow.
* **Numerals** of digits take the point after them, unless digits follow it.

How each phrase is read is a computation that asks for the phrases inside of it (`Phrase.reading`),
and the readers are the answers to such questions.  Where one of them runs forever or finds
something else than it looks for, there is no result. -/

namespace TypeProbe

open Grammar Lexeme

/-! ### Single lexemes -/

/-- What follows a sign, if the lexemes begin with it. -/
def after? (c : Char) : List Lexeme → Option (List Lexeme)
  | sign d :: rest => if d = c then some rest else none
  | _ => none

/-- What follows a word, if the lexemes begin with it. -/
def afterWord? (w : String) : List Lexeme → Option (List Lexeme)
  | run v :: rest => if v = w then some rest else none
  | _ => none

/-- A sign that may be left out. -/
def takeSign (c : Char) (ls : List Lexeme) : Bool × List Lexeme :=
  match after? c ls with
  | some rest => (true, rest)
  | none => (false, ls)

/-- The three points of a spread or a rest, which may be left out. -/
def takePoints : List Lexeme → Bool × List Lexeme
  | sign '.' :: sign '.' :: sign '.' :: rest => (true, rest)
  | ls => (false, ls)

/-- A name that may be left out. -/
def takeName : List Lexeme → Option Name × List Lexeme
  | run w :: rest => (some ⟨.blank, w⟩, rest)
  | ls => (none, ls)

def readName : List Lexeme → Option (String × List Lexeme)
  | run w :: rest => some (w, rest)
  | _ => none

/-- What ends an entry of a list: a comma, after which the list goes on, or the end of the list. -/
def readSeparator (close : Char) (ls : List Lexeme) : Option (Bool × List Lexeme) :=
  match after? ',' ls with
  | some rest => some (true, rest)
  | none => (after? close ls).map (false, ·)

/-! ### Types -/

def readBrackets (t : TypeExpr) : List Lexeme → TypeExpr × List Lexeme
  | sign '[' :: sign ']' :: rest => readBrackets (.array .blank t) rest
  | ls => (t, ls)

/-- What is read of types, and what it is read as. -/
inductive TypePhrase : Type → Type 1 where
  /-- A type. -/
  | type (ls : List Lexeme) : TypePhrase (TypeExpr × List Lexeme)
  /-- The arguments of a type, from behind the mark that opens them. -/
  | types (ls : List Lexeme) : TypePhrase (List TypeExpr × List Lexeme)

def readingType (ls : List Lexeme) : Asking TypePhrase (TypeExpr × List Lexeme) := do
  let (w, rest) ← readName ls
  match typeKeywords.lookup w with
  | some k => pure (readBrackets (.keyword .blank k) rest)
  | none =>
      match after? '<' rest with
      | some rest => do
          let (arguments, rest) ← answerTo (.types rest)
          pure (readBrackets (.reference .blank w arguments) rest)
      | none => pure (readBrackets (.reference .blank w []) rest)

def readingTypes (ls : List Lexeme) : Asking TypePhrase (List TypeExpr × List Lexeme) := do
  let (t, rest) ← answerTo (.type ls)
  let (goesOn, rest) ← readSeparator '>' rest
  if goesOn then do
    let (more, rest) ← answerTo (.types rest)
    pure (t :: more, rest)
  else pure ([t], rest)

def TypePhrase.reading : (α : Type) → TypePhrase α → Asking TypePhrase α
  | _, .type ls => readingType ls
  | _, .types ls => readingTypes ls

noncomputable abbrev readType (ls : List Lexeme) : Option (TypeExpr × List Lexeme) :=
  answer TypePhrase.reading _ (.type ls)

noncomputable abbrev readTypes (ls : List Lexeme) : Option (List TypeExpr × List Lexeme) :=
  answer TypePhrase.reading _ (.types ls)

/-- A type annotation that may be left out. -/
noncomputable def readOptionalType (ls : List Lexeme) : Option (Option TypeExpr × List Lexeme) :=
  match after? ':' ls with
  | some rest => (readType rest).map fun (t, rest) => (some t, rest)
  | none => some (none, ls)

/-! ### Looking ahead for an arrow -/

/-- What follows the parenthesis that closes, with so many more open. -/
def skip : Nat → List Lexeme → List Lexeme
  | _, [] => []
  | depth, l :: rest =>
      if l = sign '(' then skip (depth + 1) rest
      else if l = sign ')' then
        match depth with
        | 0 => rest
        | depth + 1 => skip depth rest
      else skip depth rest

theorem skip_open (depth : Nat) (rest : List Lexeme) :
    skip depth (sign '(' :: rest) = skip (depth + 1) rest := by
  cases depth <;> rfl

theorem skip_close (depth : Nat) (rest : List Lexeme) :
    skip (depth + 1) (sign ')' :: rest) = skip depth rest := rfl

theorem skip_other {l : Lexeme} (ho : l ≠ sign '(') (hc : l ≠ sign ')') (depth : Nat)
    (rest : List Lexeme) : skip depth (l :: rest) = skip depth rest := by
  cases depth <;> simp only [skip, if_neg ho, if_neg hc]

/-- Whether an arrow comes after what could be the rest of a type. -/
def typeTail : List Lexeme → Bool
  | run _ :: rest => typeTail rest
  | sign '[' :: sign ']' :: rest => typeTail rest
  | sign '=' :: sign '>' :: _ => true
  | sign '<' :: rest => typeTail rest
  | sign '>' :: rest => typeTail rest
  | sign ',' :: rest => typeTail rest
  | _ => false

/-- Whether what follows a parenthesis makes it the end of a parameter list. -/
def arrowAfter : List Lexeme → Bool
  | sign '=' :: sign '>' :: _ => true
  | sign ':' :: rest => typeTail rest
  | _ => false

/-! ### How an operand begins -/

/-- The number that a literal stands for. -/
noncomputable def Binary64.ofNumeral? (text : List Char) : Option Binary64 :=
  open Classical in
  if h : ∃ x, Denotes text x then some h.choose else none

/-- What an operand begins with. -/
inductive Start where
  | leaf (e : Expr)
  | leading (op : Operator)
  | construct
  | arrow (async : Bool)
  | function (async : Bool)
  | group
  | array

/-- The words that an operand may begin with and that are no names. -/
def startWords : List (String × Start) :=
  [("this", .leaf (.this .blank)), ("null", .leaf (.null .blank)),
    ("true", .leaf (.boolean .blank true)), ("false", .leaf (.boolean .blank false)),
    ("await", .leading .await), ("typeof", .leading .typeof), ("void", .leading .void),
    ("new", .construct), ("function", .function false)]

/-- A number literal with a text, and what comes after it. -/
noncomputable def numberStart (text : List Char) (rest : List Lexeme) :
    Option (Start × List Lexeme) :=
  (Binary64.ofNumeral? text).map fun x => (.leaf (.number .blank x), rest)

/-- A number literal, given its first digits. -/
noncomputable def readNumber (whole : String) (ls : List Lexeme) :
    Option (Start × List Lexeme) :=
  match after? '.' ls with
  | none => numberStart whole.toList ls
  | some rest =>
      match readName rest with
      | none => numberStart whole.toList rest
      | some (w, more) =>
          if w.toList.head?.any Char.isDigit then
            numberStart (whole.toList ++ '.' :: w.toList) more
          else numberStart whole.toList rest

/-- An operand that begins with a run. -/
noncomputable def startRun (w : String) (rest : List Lexeme) : Option (Start × List Lexeme) :=
  if w.toList.head?.any Char.isDigit then readNumber w rest
  else if w = "async" then
    match afterWord? "function" rest with
    | some rest => some (.function true, rest)
    | none => (after? '(' rest).map (.arrow true, ·)
  else
    match startWords.lookup w with
    | some start => some (start, rest)
    | none => some (.leaf (.ident .blank w), rest)

/-- What an operand begins with, and what comes after that. -/
noncomputable def start? : List Lexeme → Option (Start × List Lexeme)
  | run w :: rest => startRun w rest
  | quoted value :: rest => some (.leaf (.string .blank value), rest)
  | twice c :: rest =>
      some (.leading (if c = '+' then .prefixIncrement else .prefixDecrement), rest)
  | sign '+' :: rest => some (.leading .unaryPlus, rest)
  | sign '-' :: rest => some (.leading .unaryNegation, rest)
  | sign '!' :: rest => some (.leading .logicalNot, rest)
  | sign '[' :: rest => some (.array, rest)
  | sign '(' :: rest => some (if arrowAfter (skip 0 rest) then .arrow false else .group, rest)
  | _ => none

/-! ### Links and operators after an operand -/

/-- What may follow an operand and makes it part of a larger expression. -/
inductive Link where
  | member (optional : Bool)
  | index (optional : Bool)
  | call (optional : Bool)
  | trailing (op : Operator)
  | between (op : Operator)
  | test

/-- How tightly a link binds to what is before it.  The point of a member access binds tightest,
since it could even become part of a numeral. -/
def Link.precedence : Link → Nat
  | member _ => Precedence.primary + 1
  | index _ => Precedence.primary
  | call _ => Precedence.callMember
  | trailing _ => Precedence.trailing
  | between op => op.precedence
  | test => Precedence.assignment

/-- The operators between operands that are marks, those that begin with another one first. -/
def markOperators : List Operator :=
  [.strictEquality, .strictInequality, .equality, .inequality, .exponentiation, .assignmentAddition,
    .assignmentSubtraction, .greaterThanOrEqual, .lessThanOrEqual, .logicalAnd, .logicalOr,
    .nullishCoalescing, .assignment, .addition, .subtraction, .comma, .division, .multiplication,
    .remainder, .greaterThan, .lessThan]

/-- What follows the signs of an operator, if the lexemes begin with them. -/
def afterSigns? : List Char → List Lexeme → Option (List Lexeme)
  | [], ls => some ls
  | c :: cs, ls => (after? c ls).bind (afterSigns? cs)

/-- An operator of signs between two operands, and what comes after it. -/
def between? (ls : List Lexeme) : Option (Operator × List Lexeme) :=
  markOperators.findSome? fun op => (afterSigns? op.token.toList ls).map (op, ·)

/-- The words between two operands. -/
def betweenWords : List (String × Operator) := [("in", .membership), ("instanceof", .instanceof)]

/-- What follows an operand, if it makes the operand part of a larger expression. -/
def link? : List Lexeme → Option (Link × List Lexeme)
  | sign '.' :: rest => some (.member false, rest)
  | sign '[' :: rest => some (.index false, rest)
  | sign '(' :: rest => some (.call false, rest)
  | sign '?' :: sign '.' :: sign '[' :: rest => some (.index true, rest)
  | sign '?' :: sign '.' :: sign '(' :: rest => some (.call true, rest)
  | sign '?' :: sign '.' :: rest => some (.member true, rest)
  | twice c :: rest =>
      some (.trailing (if c = '+' then .postfixIncrement else .postfixDecrement), rest)
  | run w :: rest => (betweenWords.lookup w).map fun op => (.between op, rest)
  | ls =>
      match between? ls with
      | some (op, rest) => some (.between op, rest)
      | none => (after? '?' ls).map (.test, ·)

/-- The level that the right operand of an operator is read at. -/
def Operator.rightPrecedence (op : Operator) : Nat :=
  match op.associativity with
  | .left => op.precedence + 1
  | .right => op.precedence

/-- The argument that an entry of a list of arguments is. -/
def Element.argument? : Element → Option Argument
  | .single value => some ⟨.blank, false, value⟩
  | .rest value => some ⟨.blank, true, value⟩
  | .hole => none

/-! ### How a statement begins -/

/-- What a statement begins with. -/
inductive Head where
  | block
  | breakTo
  | continueTo
  | doWhile
  | ifElse
  | ret
  | throw
  | tryBlock
  | whileDo
  | exported
  | function (async : Bool)
  | binding (kind : BindingKind)
  | clause
  | expression

/-- The words that statements begin with, or clauses of statements after their first part. -/
def headWords : List (String × Head) :=
  ([("break", .breakTo), ("continue", .continueTo), ("do", .doWhile), ("if", .ifElse),
    ("return", .ret), ("throw", .throw), ("try", .tryBlock), ("while", .whileDo),
    ("export", .exported), ("function", .function false), ("else", .clause), ("catch", .clause),
    ("finally", .clause)] : List (String × Head)) ++
    bindingWords.map fun (w, kind) => (w, .binding kind)

/-- What a statement begins with, and what comes after that. -/
def head : List Lexeme → Head × List Lexeme
  | sign '\x7b' :: rest => (.block, rest)
  | run w :: rest =>
      if w = "async" then
        match afterWord? "function" rest with
        | some rest => (.function true, rest)
        | none => (.expression, run w :: rest)
      else
        match headWords.lookup w with
        | some h => (h, rest)
        | none => (.expression, run w :: rest)
  | ls => (.expression, ls)

/-- Whether a list of statements ends here. -/
def endsStatements : List Lexeme → Bool
  | [] => true
  | l :: _ => l == sign '\x7d'

/-! ### Expressions and statements -/

/-- What is read of programs, and what it is read as. -/
inductive Phrase : Type → Type 1 where
  /-- An expression that binds at least as tightly as `min`. -/
  | expr (min : Nat) (ls : List Lexeme) : Phrase (Expr × List Lexeme)
  /-- An operand: an expression without what follows it. -/
  | operand (ls : List Lexeme) : Phrase (Expr × List Lexeme)
  /-- The links and operators after an expression that bind at least as tightly as `min`. -/
  | links (min : Nat) (e : Expr) (ls : List Lexeme) : Phrase (Expr × List Lexeme)
  /-- The entries of a list of elements or arguments, from behind the mark that opens it. -/
  | elements (close : Char) (ls : List Lexeme) : Phrase (List Element × List Lexeme)
  /-- The entries of a list of parameters or variables, from behind what opens it. -/
  | params (close : Char) (ls : List Lexeme) : Phrase (List Param × List Lexeme)
  /-- A default or initial value that may be left out. -/
  | default (ls : List Lexeme) : Phrase (Option Expr × List Lexeme)
  /-- A function that is no arrow function, from behind the word that begins it. -/
  | function (async : Bool) (ls : List Lexeme) : Phrase (Option Name × Func × List Lexeme)
  /-- The body of an arrow function. -/
  | body (ls : List Lexeme) : Phrase (Body × List Lexeme)
  /-- Statements in braces. -/
  | block (ls : List Lexeme) : Phrase (List Stmt × List Lexeme)
  /-- Statements, up to the brace that closes them or to the end. -/
  | stmts (ls : List Lexeme) : Phrase (List Stmt × List Lexeme)
  /-- An expression in parentheses. -/
  | group (ls : List Lexeme) : Phrase (Expr × List Lexeme)
  /-- A function declaration or a declaration of variables. -/
  | declaration (exported : Bool) (ls : List Lexeme) : Phrase (Stmt × List Lexeme)
  /-- A statement. -/
  | stmt (ls : List Lexeme) : Phrase (Stmt × List Lexeme)
  /-- A `catch` clause that may be left out. -/
  | catch (ls : List Lexeme) : Phrase (Option Catch × List Lexeme)
  /-- A `finally` clause that may be left out. -/
  | finally (ls : List Lexeme) : Phrase (Option Block × List Lexeme)

noncomputable def readingExpr (min : Nat) (ls : List Lexeme) :
    Asking Phrase (Expr × List Lexeme) := do
  let (e, rest) ← answerTo (.operand ls)
  answerTo (.links min e rest)

noncomputable def readingOperand (ls : List Lexeme) : Asking Phrase (Expr × List Lexeme) := do
  let (start, rest) ← start? ls
  match start with
  | .leaf e => pure (e, rest)
  | .leading op => do
      let (e, rest) ← answerTo (.expr Precedence.unary rest)
      pure (.unary .blank op e, rest)
  | .construct => do
      let (callee, rest) ← answerTo (.expr Precedence.primary rest)
      match after? '(' rest with
      | some rest => do
          let (arguments, rest) ← answerTo (.elements ')' rest)
          pure (.unary .blank .new
            (.call .blank ⟨false, callee, arguments.filterMap Element.argument?⟩), rest)
      | none => pure (.unary .blank .new callee, rest)
  | .arrow async => do
      let (parameters, rest) ← answerTo (.params ')' rest)
      let (returnType, rest) ← readOptionalType rest
      let rest ← (after? '=' rest).bind (after? '>')
      let (body, rest) ← answerTo (.body rest)
      pure (.arrow .blank ⟨.blank, true, async, false, parameters, returnType, body⟩, rest)
  | .function async => do
      let (name, f, rest) ← answerTo (.function async rest)
      pure (.function .blank name f, rest)
  | .group => do
      let (e, rest) ← answerTo (.expr 0 rest)
      let rest ← after? ')' rest
      pure (e, rest)
  | .array => do
      let (elements, rest) ← answerTo (.elements ']' rest)
      pure (.array .blank elements, rest)

noncomputable def readingLinks (min : Nat) (e : Expr) (ls : List Lexeme) :
    Asking Phrase (Expr × List Lexeme) :=
  match link? ls with
  | none => pure (e, ls)
  | some (link, rest) =>
      if link.precedence < min then pure (e, ls)
      else
        match link with
        | .member optional => do
            let (property, rest) ← readName rest
            answerTo (.links min (.member .blank optional e property) rest)
        | .index optional => do
            let (key, rest) ← answerTo (.expr 0 rest)
            let rest ← after? ']' rest
            answerTo (.links min (.index .blank optional e key) rest)
        | .call optional => do
            let (arguments, rest) ← answerTo (.elements ')' rest)
            answerTo
              (.links min (.call .blank ⟨optional, e, arguments.filterMap Element.argument?⟩) rest)
        | .trailing op => answerTo (.links min (.trailing .blank op e) rest)
        | .between op => do
            let (right, rest) ← answerTo (.expr op.rightPrecedence rest)
            answerTo (.links min (.binary .blank op e right) rest)
        | .test => do
            let (consequent, rest) ← answerTo (.expr Precedence.assignment rest)
            let rest ← after? ':' rest
            let (alternate, rest) ← answerTo (.expr Precedence.assignment rest)
            answerTo (.links min (.conditional .blank e consequent alternate) rest)

noncomputable def readingElements (close : Char) (ls : List Lexeme) :
    Asking Phrase (List Element × List Lexeme) :=
  match readSeparator close ls with
  | some (false, rest) => pure ([], rest)
  | some (true, rest) => do
      let (more, rest) ← answerTo (.elements close rest)
      pure (.hole :: more, rest)
  | none => do
      let (spread, ls) := takePoints ls
      let (value, rest) ← answerTo (.expr Precedence.assignment ls)
      let element := if spread then Element.rest value else Element.single value
      let (goesOn, rest) ← readSeparator close rest
      if goesOn then do
        let (more, rest) ← answerTo (.elements close rest)
        pure (element :: more, rest)
      else pure ([element], rest)

noncomputable def readingParams (close : Char) (ls : List Lexeme) :
    Asking Phrase (List Param × List Lexeme) :=
  match after? close ls with
  | some rest => pure ([], rest)
  | none => do
      let (isRest, ls) := takePoints ls
      let (name, rest) ← readName ls
      let (type, rest) ← readOptionalType rest
      let (value, rest) ← answerTo (.default rest)
      let (goesOn, rest) ← readSeparator close rest
      if goesOn then do
        let (more, rest) ← answerTo (.params close rest)
        pure (⟨.blank, isRest, ⟨.blank, name⟩, type, value⟩ :: more, rest)
      else pure ([⟨.blank, isRest, ⟨.blank, name⟩, type, value⟩], rest)

noncomputable def readingDefault (ls : List Lexeme) : Asking Phrase (Option Expr × List Lexeme) :=
  match after? '=' ls with
  | some rest => do
      let (value, rest) ← answerTo (.expr Precedence.assignment rest)
      pure (some value, rest)
  | none => pure (none, ls)

noncomputable def readingFunction (async : Bool) (ls : List Lexeme) :
    Asking Phrase (Option Name × Func × List Lexeme) := do
  let (generator, ls) := takeSign '*' ls
  let (name, ls) := takeName ls
  let rest ← after? '(' ls
  let (parameters, rest) ← answerTo (.params ')' rest)
  let (returnType, rest) ← readOptionalType rest
  let (statements, rest) ← answerTo (.block rest)
  pure (name,
    ⟨.blank, false, async, generator, parameters, returnType, .block .blank statements⟩, rest)

noncomputable def readingBody (ls : List Lexeme) : Asking Phrase (Body × List Lexeme) :=
  match after? '\x7b' ls with
  | some _ => do
      let (statements, rest) ← answerTo (.block ls)
      pure (.block .blank statements, rest)
  | none => do
      let (value, rest) ← answerTo (.expr Precedence.assignment ls)
      pure (.expr .blank value, rest)

noncomputable def readingBlock (ls : List Lexeme) : Asking Phrase (List Stmt × List Lexeme) := do
  let rest ← after? '\x7b' ls
  let (statements, rest) ← answerTo (.stmts rest)
  let rest ← after? '\x7d' rest
  pure (statements, rest)

noncomputable def readingStmts (ls : List Lexeme) : Asking Phrase (List Stmt × List Lexeme) :=
  if endsStatements ls then pure ([], ls)
  else do
    let (s, rest) ← answerTo (.stmt ls)
    let (more, rest) ← answerTo (.stmts rest)
    pure (s :: more, rest)

noncomputable def readingGroup (ls : List Lexeme) : Asking Phrase (Expr × List Lexeme) := do
  let rest ← after? '(' ls
  let (e, rest) ← answerTo (.expr 0 rest)
  let rest ← after? ')' rest
  pure (e, rest)

noncomputable def readingDeclaration (exported : Bool) (ls : List Lexeme) :
    Asking Phrase (Stmt × List Lexeme) :=
  match head ls with
  | (.function async, rest) => do
      let (name, f, rest) ← answerTo (.function async rest)
      pure (.funcDecl .blank exported name f, rest)
  | (.binding kind, rest) => do
      let (params, rest) ← answerTo (.params ';' rest)
      pure (.varDecl .blank exported kind
        (params.map fun p => ⟨p.pattern, p.annotation, p.defaultValue⟩), rest)
  | _ => .done none

noncomputable def readingStmt (ls : List Lexeme) : Asking Phrase (Stmt × List Lexeme) :=
  match head ls with
  | (.block, _) => do
      let (body, rest) ← answerTo (.block ls)
      pure (.block .blank body, rest)
  | (.breakTo, rest) => do
      let (label, rest) := takeName rest
      let rest ← after? ';' rest
      pure (.breakTo .blank (label.map Name.text), rest)
  | (.continueTo, rest) => do
      let (label, rest) := takeName rest
      let rest ← after? ';' rest
      pure (.continueTo .blank (label.map Name.text), rest)
  | (.doWhile, rest) => do
      let (body, rest) ← answerTo (.block rest)
      let rest ← afterWord? "while" rest
      let (condition, rest) ← answerTo (.group rest)
      let rest ← after? ';' rest
      pure (.doWhile .blank condition (.block .blank body), rest)
  | (.ifElse, rest) => do
      let (test, rest) ← answerTo (.group rest)
      let (consequent, rest) ← answerTo (.block rest)
      match afterWord? "else" rest with
      | some rest => do
          let (alternate, rest) ← answerTo (.block rest)
          pure (.ifElse .blank test (.block .blank consequent) (some (.block .blank alternate)),
            rest)
      | none => pure (.ifElse .blank test (.block .blank consequent) none, rest)
  | (.ret, rest) =>
      match after? ';' rest with
      | some rest => pure (.ret .blank none, rest)
      | none => do
          let (value, rest) ← answerTo (.expr 0 rest)
          let rest ← after? ';' rest
          pure (.ret .blank (some value), rest)
  | (.throw, rest) => do
      let (value, rest) ← answerTo (.expr 0 rest)
      let rest ← after? ';' rest
      pure (.throw .blank value, rest)
  | (.tryBlock, rest) => do
      let (wrapped, rest) ← answerTo (.block rest)
      let (handler, rest) ← answerTo (.catch rest)
      let (finalizer, rest) ← answerTo (.finally rest)
      pure (.tryBlock .blank ⟨.blank, wrapped⟩ handler finalizer, rest)
  | (.whileDo, rest) => do
      let (condition, rest) ← answerTo (.group rest)
      let (body, rest) ← answerTo (.block rest)
      pure (.whileDo .blank condition (.block .blank body), rest)
  | (.exported, rest) => answerTo (.declaration true rest)
  | (.function _, _) => answerTo (.declaration false ls)
  | (.binding _, _) => answerTo (.declaration false ls)
  | (.clause, _) => .done none
  | (.expression, rest) => do
      let (value, rest) ← answerTo (.expr 0 rest)
      let rest ← after? ';' rest
      pure (.expr .blank value, rest)

noncomputable def readingCatch (ls : List Lexeme) : Asking Phrase (Option Catch × List Lexeme) :=
  match afterWord? "catch" ls with
  | some rest => do
      let (parameter, rest) ←
        match after? '(' rest with
        | some rest => do
            let (name, rest) ← readName rest
            let rest ← after? ')' rest
            pure (some (Name.mk .blank name), rest)
        | none => pure (none, rest)
      let (body, rest) ← answerTo (.block rest)
      pure (some ⟨.blank, parameter, body⟩, rest)
  | none => pure (none, ls)

noncomputable def readingFinally (ls : List Lexeme) : Asking Phrase (Option Block × List Lexeme) :=
  match afterWord? "finally" ls with
  | some rest => do
      let (body, rest) ← answerTo (.block rest)
      pure (some ⟨.blank, body⟩, rest)
  | none => pure (none, ls)

/-- How the phrases of the language are read. -/
noncomputable def Phrase.reading : (α : Type) → Phrase α → Asking Phrase α
  | _, .expr min ls => readingExpr min ls
  | _, .operand ls => readingOperand ls
  | _, .links min e ls => readingLinks min e ls
  | _, .elements close ls => readingElements close ls
  | _, .params close ls => readingParams close ls
  | _, .default ls => readingDefault ls
  | _, .function async ls => readingFunction async ls
  | _, .body ls => readingBody ls
  | _, .block ls => readingBlock ls
  | _, .stmts ls => readingStmts ls
  | _, .group ls => readingGroup ls
  | _, .declaration exported ls => readingDeclaration exported ls
  | _, .stmt ls => readingStmt ls
  | _, .catch ls => readingCatch ls
  | _, .finally ls => readingFinally ls

noncomputable abbrev readExpr (min : Nat) (ls : List Lexeme) : Option (Expr × List Lexeme) :=
  answer Phrase.reading _ (.expr min ls)

noncomputable abbrev readOperand (ls : List Lexeme) : Option (Expr × List Lexeme) :=
  answer Phrase.reading _ (.operand ls)

noncomputable abbrev readLinks (min : Nat) (e : Expr) (ls : List Lexeme) :
    Option (Expr × List Lexeme) :=
  answer Phrase.reading _ (.links min e ls)

noncomputable abbrev readElements (close : Char) (ls : List Lexeme) :
    Option (List Element × List Lexeme) :=
  answer Phrase.reading _ (.elements close ls)

noncomputable abbrev readParams (close : Char) (ls : List Lexeme) :
    Option (List Param × List Lexeme) :=
  answer Phrase.reading _ (.params close ls)

noncomputable abbrev readDefault (ls : List Lexeme) : Option (Option Expr × List Lexeme) :=
  answer Phrase.reading _ (.default ls)

noncomputable abbrev readFunction (async : Bool) (ls : List Lexeme) :
    Option (Option Name × Func × List Lexeme) :=
  answer Phrase.reading _ (.function async ls)

noncomputable abbrev readBody (ls : List Lexeme) : Option (Body × List Lexeme) :=
  answer Phrase.reading _ (.body ls)

noncomputable abbrev readBlock (ls : List Lexeme) : Option (List Stmt × List Lexeme) :=
  answer Phrase.reading _ (.block ls)

noncomputable abbrev readStmts (ls : List Lexeme) : Option (List Stmt × List Lexeme) :=
  answer Phrase.reading _ (.stmts ls)

noncomputable abbrev readGroup (ls : List Lexeme) : Option (Expr × List Lexeme) :=
  answer Phrase.reading _ (.group ls)

noncomputable abbrev readDeclaration (exported : Bool) (ls : List Lexeme) :
    Option (Stmt × List Lexeme) :=
  answer Phrase.reading _ (.declaration exported ls)

noncomputable abbrev readStmt (ls : List Lexeme) : Option (Stmt × List Lexeme) :=
  answer Phrase.reading _ (.stmt ls)

noncomputable abbrev readCatch (ls : List Lexeme) : Option (Option Catch × List Lexeme) :=
  answer Phrase.reading _ (.catch ls)

noncomputable abbrev readFinally (ls : List Lexeme) : Option (Option Block × List Lexeme) :=
  answer Phrase.reading _ (.finally ls)

/-- A program, if the text is one. -/
noncomputable def readProgram (text : List Char) : Option Program :=
  match (scan text).bind readStmts with
  | some (statements, []) => some ⟨.blank, statements⟩
  | _ => none

end TypeProbe
