import TypeProbe.Print.Spacing
import TypeProbe.Proofs.Grammar.Level
import TypeProbe.Proofs.Number.Rounding
import TypeProbe.Proofs.Tree.Chain

/-! # Sentences

The grammar of ECMAScript with type annotations, for the trees of `Tree`: a relation between token
sequences and the bare trees they are the text of.  Each rule is a production of the standard; the
productions that no tree has a use for are left out, and so are the rules of context, such as
where `return`, `await` or `export` may stand.

* **Parentheses** are no part of a tree.  Where they would change the tree they are ruled out: an
  optional chain in parentheses is not continued by the links after it, and a call in parentheses
  after `new` does not pass its arguments on.
* **Numerals.**  A point after a numeral of digits belongs to the numeral, so a member access on
  one needs a second point.
* **Lookahead** of the standard is a condition on the tokens: how an expression statement may
  begin, and the body of an arrow function.  An `if` without `else` does not stand before an
  `else`. -/

namespace TypeProbe

/-- Whether the statement ends in an `if` that an `else` after it would belong to. -/
def Stmt.endsOpen : Stmt → Bool
  | .ifElse _ _ _ none => true
  | .ifElse _ _ _ (some alternate) => alternate.endsOpen
  | .whileDo _ _ body => body.endsOpen
  | _ => false

namespace Grammar

open Token Binary64

/-! ### Names -/

/-- The words that are never names.  `yield` is one only in some contexts. -/
def reservedWords : List String :=
  ["await", "break", "case", "catch", "class", "const", "continue", "debugger", "default",
    "delete", "do", "else", "enum", "export", "extends", "false", "finally", "for", "function",
    "if", "import", "in", "instanceof", "new", "null", "return", "super", "switch", "this",
    "throw", "true", "try", "typeof", "var", "void", "while", "with"]

/-- Whether a word may name a property.  Outside of ASCII, every character counts as a letter. -/
def isIdentifierName (name : String) : Bool :=
  match name.toList with
  | [] => false
  | c :: rest => isWordChar c && !c.isDigit && rest.all isWordChar

/-- Whether a word may name a variable, a function, a type or a label. -/
def isIdentifier (name : String) : Bool :=
  isIdentifierName name && !reservedWords.contains name

/-- The types that are keywords. -/
def typeKeywords : List (String × TypeKeyword) :=
  [("any", .any), ("boolean", .boolean), ("never", .never), ("null", .null), ("number", .number),
    ("string", .string), ("undefined", .undefined), ("unknown", .unknown), ("void", .void)]

/-- The words that declare variables. -/
def bindingWords : List (String × BindingKind) :=
  [("const", .constant), ("let", .lexical), ("var", .hoisted)]

/-- A name that may be left out. -/
inductive OptionalName : List Token → Option String → Prop
  | absent : OptionalName [] none
  | present {name : String} : isIdentifier name = true → OptionalName [word name] (some name)

/-! ### Conditions on tokens -/

/-- The tokens that an expression statement may not begin with. -/
def beginsOtherwise : List Token → Bool
  | mark m :: _ => m == "\x7b"
  | word w :: rest =>
      w == "function" || w == "class" || (w == "async" && rest.head? == some (word "function")) ||
        (w == "let" && rest.head? == some (mark "["))
  | _ => false

/-- Whether the last token is a numeral that would take a point after it. -/
def endsInInteger (ts : List Token) : Bool :=
  match ts.getLast? with
  | some (numeral t) => t.toList.all Char.isDigit
  | _ => false

/-! ### Types -/

mutual

inductive TypeTerm : List Token → TypeExpr → Prop
  | keyword {w : String} {k : TypeKeyword} :
      (w, k) ∈ typeKeywords → TypeTerm [word w] (.keyword .blank k)
  | reference {name : String} :
      isIdentifier name = true → (∀ k, (name, k) ∉ typeKeywords) →
      TypeTerm [word name] (.reference .blank name [])
  | applied {name : String} {tss : List (List Token)} {arguments : List TypeExpr} :
      isIdentifier name = true → (∀ k, (name, k) ∉ typeKeywords) →
      TypeTerms tss arguments → arguments ≠ [] →
      TypeTerm ([word name] ++ ([mark "<"] ++ commas tss ++ [mark ">"]))
        (.reference .blank name arguments)
  | array {ts : List Token} {element : TypeExpr} :
      TypeTerm ts element → TypeTerm (ts ++ [mark "[]"]) (.array .blank element)

inductive TypeTerms : List (List Token) → List TypeExpr → Prop
  | nil : TypeTerms [] []
  | cons {ts : List Token} {tss : List (List Token)} {t : TypeExpr} {rest : List TypeExpr} :
      TypeTerm ts t → TypeTerms tss rest → TypeTerms (ts :: tss) (t :: rest)

end

/-- Type annotations that may be left out. -/
inductive OptionalType : List Token → Option TypeExpr → Prop
  | absent : OptionalType [] none
  | present {ts : List Token} {t : TypeExpr} :
      TypeTerm ts t → OptionalType ([mark ":"] ++ ts) (some t)

/-! ### Expressions and statements -/

mutual

/-- Expressions of a nonterminal. -/
inductive Expression : Level → List Token → Expr → Prop
  | climb {a b : Level} {ts : List Token} {e : Expr} :
      a.parent = some b → Expression a ts e → Expression b ts e
  | parenthesized {ts : List Token} {e : Expr} :
      Expression .expression ts e → Expression .primary ([mark "("] ++ ts ++ [mark ")"]) e
  | this : Expression .primary [word "this"] (.this .blank)
  | null : Expression .primary [word "null"] (.null .blank)
  | yes : Expression .primary [word "true"] (.boolean .blank true)
  | no : Expression .primary [word "false"] (.boolean .blank false)
  | ident {name : String} :
      isIdentifier name = true → Expression .primary [word name] (.ident .blank name)
  | number {t : String} {x : Binary64} :
      Denotes t.toList x → Expression .primary [numeral t] (.number .blank x)
  | pointed {t : String} {x : Binary64} :
      Denotes (t.toList ++ ['.']) x →
      Expression .primary [numeral t, mark "."] (.number .blank x)
  | string {value : String} : Expression .primary [quoted value] (.string .blank value)
  | array {ts : List Token} {elements : List Element} :
      Elements ts elements →
      Expression .primary ([mark "["] ++ ts ++ [mark "]"]) (.array .blank elements)
  | function {ts : List Token} {name : Option String} {f : Func} :
      PlainFunction ts name f →
      Expression .primary ts (.function .blank (name.map (Name.mk .blank)) f)
  | member {a b : Level} {optional : Bool} {ts : List Token} {object : Expr} {property : String} :
      LinkRule false optional a b → Expression a ts object →
      (a ≠ .optional → object.hasOptionalLink = false) →
      (optional = false → endsInInteger ts = false) → isIdentifierName property = true →
      Expression b (ts ++ [mark (if optional then "?." else ".")] ++ [word property])
        (.member .blank optional object property)
  | index {a b : Level} {optional : Bool} {ts us : List Token} {object key : Expr} :
      LinkRule false optional a b → Expression a ts object →
      (a ≠ .optional → object.hasOptionalLink = false) → Expression .expression us key →
      Expression b (ts ++ onlyIf optional (mark "?.") ++ [mark "["] ++ us ++ [mark "]"])
        (.index .blank optional object key)
  | call {a b : Level} {optional : Bool} {ts : List Token} {tss : List (List Token)}
      {callee : Expr} {arguments : List Argument} :
      LinkRule true optional a b → Expression a ts callee →
      (a ≠ .optional → callee.hasOptionalLink = false) → Arguments tss arguments →
      Expression b (ts ++ onlyIf optional (mark "?.") ++ ([mark "("] ++ commas tss ++ [mark ")"]))
        (.call .blank ⟨optional, callee, arguments⟩)
  | construct {ts : List Token} {tss : List (List Token)} {callee : Expr}
      {arguments : List Argument} :
      Expression .member ts callee → Arguments tss arguments →
      Expression .member ([word "new"] ++ (ts ++ ([mark "("] ++ commas tss ++ [mark ")"])))
        (.unary .blank .new (.call .blank ⟨false, callee, arguments⟩))
  | new {ts : List Token} {e : Expr} :
      Expression .new ts e → e.isCall = false →
      Expression .new ([word "new"] ++ ts) (.unary .blank .new e)
  | leading {op : Operator} {t : Token} {ts : List Token} {e : Expr} :
      LeadingRule op t → Expression .unary ts e →
      Expression .unary ([t] ++ ts) (.unary .blank op e)
  | leadingUpdate {op : Operator} {t : Token} {ts : List Token} {e : Expr} :
      LeadingUpdateRule op t → Expression .unary ts e → e.isTarget = true →
      Expression .update ([t] ++ ts) (.unary .blank op e)
  | trailingUpdate {op : Operator} {t : Token} {ts : List Token} {e : Expr} :
      TrailingUpdateRule op t → Expression .leftHandSide ts e → e.isTarget = true →
      Expression .update (ts ++ [t]) (.trailing .blank op e)
  | binary {op : Operator} {t : Token} {l a b : Level} {ts us : List Token} {left right : Expr} :
      InfixRule op t l a b → Expression a ts left → Expression b us right →
      Expression l (ts ++ [t] ++ us) (.binary .blank op left right)
  | assignment {op : Operator} {t : Token} {ts us : List Token} {left right : Expr} :
      AssignmentRule op t → Expression .leftHandSide ts left → left.isTarget = true →
      Expression .assignment us right →
      Expression .assignment (ts ++ [t] ++ us) (.binary .blank op left right)
  | conditional {ts us vs : List Token} {test consequent alternate : Expr} :
      Expression .shortCircuit ts test → Expression .assignment us consequent →
      Expression .assignment vs alternate →
      Expression .conditional (ts ++ [mark "?"] ++ us ++ [mark ":"] ++ vs)
        (.conditional .blank test consequent alternate)
  | arrow {async : Bool} {ss bs : List Token} {parameters : List Param}
      {returnType : Option TypeExpr} {body : Body} :
      Signature ss parameters returnType → ArrowBody bs body →
      Expression .assignment (onlyIf async (word "async") ++ ss ++ [mark "=>"] ++ bs)
        (.arrow .blank ⟨.blank, true, async, false, parameters, returnType, body⟩)

/-- Arguments, each on its own. -/
inductive Arguments : List (List Token) → List Argument → Prop
  | nil : Arguments [] []
  | cons {spread : Bool} {ts : List Token} {tss : List (List Token)} {value : Expr}
      {rest : List Argument} :
      Expression .assignment ts value → Arguments tss rest →
      Arguments ((onlyIf spread (mark "...") ++ ts) :: tss) (⟨.blank, spread, value⟩ :: rest)

/-- Elements of an array literal that are no holes. -/
inductive ElementTerm : List Token → Element → Prop
  | single {ts : List Token} {value : Expr} :
      Expression .assignment ts value → ElementTerm ts (.single value)
  | rest {ts : List Token} {value : Expr} :
      Expression .assignment ts value → ElementTerm ([mark "..."] ++ ts) (.rest value)

/-- The elements of an array literal: the comma after an element is no hole, not even at the end,
and every further one is. -/
inductive Elements : List Token → List Element → Prop
  | nil : Elements [] []
  | hole {ts : List Token} {rest : List Element} :
      Elements ts rest → Elements ([mark ","] ++ ts) (.hole :: rest)
  | last {ts : List Token} {element : Element} : ElementTerm ts element → Elements ts [element]
  | more {ts us : List Token} {element : Element} {rest : List Element} :
      ElementTerm ts element → Elements us rest →
      Elements (ts ++ [mark ","] ++ us) (element :: rest)

/-- Functions that are no arrow functions. -/
inductive PlainFunction : List Token → Option String → Func → Prop
  | intro {async generator : Bool} {ns ss bs : List Token} {name : Option String}
      {parameters : List Param} {returnType : Option TypeExpr} {statements : List Stmt} :
      OptionalName ns name → Signature ss parameters returnType → Statements bs statements →
      PlainFunction
        (onlyIf async (word "async") ++ [word "function"] ++ onlyIf generator (mark "*") ++ ns ++
          ss ++ ([mark "\x7b"] ++ bs ++ [mark "\x7d"]))
        name
        ⟨.blank, false, async, generator, parameters, returnType, .block .blank statements⟩

/-- Parameter lists with the return type. -/
inductive Signature : List Token → List Param → Option TypeExpr → Prop
  | intro {tss : List (List Token)} {us : List Token} {parameters : List Param}
      {returnType : Option TypeExpr} :
      Parameters tss parameters → OptionalType us returnType →
      Signature ([mark "("] ++ commas tss ++ [mark ")"] ++ us) parameters returnType

/-- Parameters, each on its own.  Only the last one may be a rest parameter. -/
inductive Parameters : List (List Token) → List Param → Prop
  | nil : Parameters [] []
  | rest {name : String} {us : List Token} {type : Option TypeExpr} :
      isIdentifier name = true → OptionalType us type →
      Parameters [[mark "..."] ++ [word name] ++ us] [⟨.blank, true, ⟨.blank, name⟩, type, none⟩]
  | plain {name : String} {us : List Token} {tss : List (List Token)} {type : Option TypeExpr}
      {rest : List Param} :
      isIdentifier name = true → OptionalType us type → Parameters tss rest →
      Parameters (([word name] ++ us) :: tss) (⟨.blank, false, ⟨.blank, name⟩, type, none⟩ :: rest)
  | withDefault {name : String} {us vs : List Token} {tss : List (List Token)}
      {type : Option TypeExpr} {value : Expr} {rest : List Param} :
      isIdentifier name = true → OptionalType us type → Expression .assignment vs value →
      Parameters tss rest →
      Parameters (([word name] ++ us ++ [mark "="] ++ vs) :: tss)
        (⟨.blank, false, ⟨.blank, name⟩, type, some value⟩ :: rest)

/-- Bodies of arrow functions. -/
inductive ArrowBody : List Token → Body → Prop
  | block {ts : List Token} {statements : List Stmt} :
      Statements ts statements →
      ArrowBody ([mark "\x7b"] ++ ts ++ [mark "\x7d"]) (.block .blank statements)
  | expr {ts : List Token} {value : Expr} :
      Expression .assignment ts value → ts.head? ≠ some (mark "\x7b") →
      ArrowBody ts (.expr .blank value)

/-- Statements that may be a branch or a loop body. -/
inductive Statement : List Token → Stmt → Prop
  | block {ts : List Token} {body : List Stmt} :
      Statements ts body → Statement ([mark "\x7b"] ++ ts ++ [mark "\x7d"]) (.block .blank body)
  | breakTo {ts : List Token} {label : Option String} :
      OptionalName ts label →
      Statement ([word "break"] ++ ts ++ [mark ";"]) (.breakTo .blank label)
  | continueTo {ts : List Token} {label : Option String} :
      OptionalName ts label →
      Statement ([word "continue"] ++ ts ++ [mark ";"]) (.continueTo .blank label)
  | doWhile {ts us : List Token} {condition : Expr} {body : Stmt} :
      Statement us body → Expression .expression ts condition →
      Statement
        ([word "do"] ++ us ++ [word "while"] ++ ([mark "("] ++ ts ++ [mark ")"]) ++ [mark ";"])
        (.doWhile .blank condition body)
  | empty : Statement [mark ";"] (.empty .blank)
  | expr {ts : List Token} {value : Expr} :
      Expression .expression ts value → beginsOtherwise ts = false →
      Statement (ts ++ [mark ";"]) (.expr .blank value)
  | ifThen {ts us : List Token} {test : Expr} {consequent : Stmt} :
      Expression .expression ts test → Statement us consequent →
      Statement ([word "if"] ++ ([mark "("] ++ ts ++ [mark ")"]) ++ us)
        (.ifElse .blank test consequent none)
  | ifElse {ts us vs : List Token} {test : Expr} {consequent alternate : Stmt} :
      Expression .expression ts test → Statement us consequent → consequent.endsOpen = false →
      Statement vs alternate →
      Statement ([word "if"] ++ ([mark "("] ++ ts ++ [mark ")"]) ++ us ++ [word "else"] ++ vs)
        (.ifElse .blank test consequent (some alternate))
  | ret : Statement ([word "return"] ++ [mark ";"]) (.ret .blank none)
  | retValue {ts : List Token} {value : Expr} :
      Expression .expression ts value →
      Statement ([word "return"] ++ ts ++ [mark ";"]) (.ret .blank (some value))
  | throw {ts : List Token} {value : Expr} :
      Expression .expression ts value →
      Statement ([word "throw"] ++ ts ++ [mark ";"]) (.throw .blank value)
  | tryCatch {ts us : List Token} {wrapped : Block} {handler : Catch} :
      Braced ts wrapped → CatchClause us handler →
      Statement ([word "try"] ++ ts ++ us) (.tryBlock .blank wrapped (some handler) none)
  | tryFinally {ts vs : List Token} {wrapped finalizer : Block} :
      Braced ts wrapped → Braced vs finalizer →
      Statement ([word "try"] ++ ts ++ [word "finally"] ++ vs)
        (.tryBlock .blank wrapped none (some finalizer))
  | tryCatchFinally {ts us vs : List Token} {wrapped finalizer : Block} {handler : Catch} :
      Braced ts wrapped → CatchClause us handler → Braced vs finalizer →
      Statement ([word "try"] ++ ts ++ us ++ [word "finally"] ++ vs)
        (.tryBlock .blank wrapped (some handler) (some finalizer))
  | whileDo {ts us : List Token} {condition : Expr} {body : Stmt} :
      Expression .expression ts condition → Statement us body →
      Statement ([word "while"] ++ ([mark "("] ++ ts ++ [mark ")"]) ++ us)
        (.whileDo .blank condition body)

/-- Statements and declarations that may stand in a list. -/
inductive Item : List Token → Stmt → Prop
  | statement {ts : List Token} {s : Stmt} : Statement ts s → Item ts s
  | funcDecl {exported : Bool} {ts : List Token} {name : String} {f : Func} :
      PlainFunction ts (some name) f →
      Item (onlyIf exported (word "export") ++ ts)
        (.funcDecl .blank exported (some ⟨.blank, name⟩) f)
  | varDecl {exported : Bool} {w : String} {kind : BindingKind} {tss : List (List Token)}
      {declarators : List Declarator} :
      (w, kind) ∈ bindingWords → Declarators tss declarators → declarators ≠ [] →
      Item (onlyIf exported (word "export") ++ [word w] ++ commas tss ++ [mark ";"])
        (.varDecl .blank exported kind declarators)

inductive Statements : List Token → List Stmt → Prop
  | nil : Statements [] []
  | cons {ts us : List Token} {s : Stmt} {rest : List Stmt} :
      Item ts s → Statements us rest → Statements (ts ++ us) (s :: rest)

/-- Statements in braces. -/
inductive Braced : List Token → Block → Prop
  | intro {ts : List Token} {body : List Stmt} :
      Statements ts body → Braced ([mark "\x7b"] ++ ts ++ [mark "\x7d"]) ⟨.blank, body⟩

inductive CatchClause : List Token → Catch → Prop
  | plain {ts : List Token} {body : List Stmt} :
      Statements ts body →
      CatchClause ([word "catch"] ++ ([mark "\x7b"] ++ ts ++ [mark "\x7d"])) ⟨.blank, none, body⟩
  | binding {name : String} {ts : List Token} {body : List Stmt} :
      isIdentifier name = true → Statements ts body →
      CatchClause
        ([word "catch"] ++ ([mark "("] ++ [word name] ++ [mark ")"]) ++
          ([mark "\x7b"] ++ ts ++ [mark "\x7d"]))
        ⟨.blank, some ⟨.blank, name⟩, body⟩

/-- Variables of a declaration, each on its own. -/
inductive Declarators : List (List Token) → List Declarator → Prop
  | nil : Declarators [] []
  | plain {name : String} {us : List Token} {tss : List (List Token)} {type : Option TypeExpr}
      {rest : List Declarator} :
      isIdentifier name = true → OptionalType us type → Declarators tss rest →
      Declarators (([word name] ++ us) :: tss) (⟨⟨.blank, name⟩, type, none⟩ :: rest)
  | withValue {name : String} {us vs : List Token} {tss : List (List Token)}
      {type : Option TypeExpr} {value : Expr} {rest : List Declarator} :
      isIdentifier name = true → OptionalType us type → Expression .assignment vs value →
      Declarators tss rest →
      Declarators (([word name] ++ us ++ [mark "="] ++ vs) :: tss)
        (⟨⟨.blank, name⟩, type, some value⟩ :: rest)

end

def Script (ts : List Token) (p : Program) : Prop := p.loc = .blank ∧ Statements ts p.body

/-- What derives an expression of a nonterminal derives one of those above it. -/
theorem Expression.climb_within {a b : Level} {ts : List Token} {e : Expr}
    (h : a.within b = true) (he : Expression a ts e) : Expression b ts e := by
  unfold Level.within at h
  revert h
  generalize 24 = n
  intro h
  induction n generalizing a with
  | zero =>
      obtain rfl := beq_iff_eq.mp h
      exact he
  | succ n ih =>
      unfold Level.reaches at h
      rw [Bool.or_eq_true, beq_iff_eq, Option.any_eq_true] at h
      obtain rfl | ⟨p, hp, h⟩ := h
      · exact he
      · exact ih (.climb hp he) h

end Grammar

end TypeProbe
