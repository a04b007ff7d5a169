import TypeProbe.Decimal
import TypeProbe.Print.Precedence
import TypeProbe.Print.Spacing

/-! # Printing trees

The fragments of a tree, in the order in which they are written.

* `Expr.print` writes an expression without parentheses of its own; `Expr.printAt` adds them if
  the expression binds looser than its place asks for.
* Branches and loop bodies are always written in braces, and lone semicolons are left out of
  statement lists.
* A position asked of a failure is that of the form, `Place.inner`. -/

namespace TypeProbe

open Output

/-! ### Types -/

def TypeKeyword.token : TypeKeyword → String
  | any => "any"
  | boolean => "boolean"
  | never => "never"
  | null => "null"
  | number => "number"
  | string => "string"
  | undefined => "undefined"
  | unknown => "unknown"
  | void => "void"

mutual

def TypeExpr.print : TypeExpr → Output
  | .array _ element => element.print ++ punct "[]"
  | .keyword _ word => keyword word.token
  | .reference _ name arguments =>
      identifier name ++
        onlyIf (!arguments.isEmpty)
          (punct "<" ++ commaSeparated (TypeExprs.outputs arguments) ++ punct ">")

/-- The types of a list, each on its own. -/
def TypeExprs.outputs : List TypeExpr → List Output
  | [] => []
  | t :: rest => t.print :: TypeExprs.outputs rest

end

/-- A type annotation, if there is one. -/
def printType? : Option TypeExpr → Output
  | none => empty
  | some t => punct ":" ++ t.print

/-! ### Parts without subtrees -/

/-- Puts an expression's text in parentheses if the expression binds looser than `min`. -/
def Expr.wrap (e : Expr) (min : Nat) (text : Output) : Output :=
  if e.precedence < min then parenthesized text else text

def Binary64.print (x : Binary64) : Output := number (String.ofList x.text)

/-- The point that keeps an integer apart from a member access on it. -/
def Expr.integerPoint : Expr → Output
  | e@(.number _ value) =>
      onlyIf (e.precedence == Precedence.primary && value.text.all Char.isDigit) (punct ".")
  | _ => empty

/-- An operator, as a word or as a mark. -/
def Operator.print (op : Operator) : Output :=
  if op.isWord then keyword op.token else punct op.token

/-- The mark of an optional link, if the link is one. -/
def printOptional (optional : Bool) : Output := onlyIf optional (punct "?.")

/-- A function's parameters, each printed on its own, and its return type. -/
def printSignature (parameters : List Output) (returnType : Option TypeExpr) : Output :=
  parenthesized (commaSeparated parameters) ++ printType? returnType

/-- What comes before the parameters of a function that is no arrow function. -/
def printFunctionHead (async generator : Bool) (name : Option Name) : Output :=
  onlyIf async (keyword "async") ++ keyword "function" ++ onlyIf generator (punct "*") ++
    match name with
    | none => empty
    | some n => identifier n.text

/-- A statement that leaves or continues a loop. -/
def printJump (word : String) (label : Option String) : Output :=
  keyword word ++ (match label with | none => empty | some l => identifier l) ++ punct ";"

def BindingKind.token : BindingKind → String
  | constant => "const"
  | lexical => "let"
  | hoisted => "var"

/-- A branch or loop body: a block as it is, any other statement in braces. -/
def Stmt.printBranch (s : Stmt) (text : Output) : Output :=
  match s with
  | .block .. => text
  | _ => braced text

/-- Whether the last element of an array literal is a hole, which takes one more comma. -/
def endsInHole : List Element → Bool
  | [] => false
  | [.hole] => true
  | _ :: rest => endsInHole rest

/-! ### Expressions and statements -/

mutual

/-- An expression, without parentheses around it. -/
def Expr.print : Expr → Output
  | .arrow a f => if f.generator then fail .generatorArrow a.inner else f.printArrow
  | .binary _ op left right =>
      left.wrap (op.leftMin left) left.print ++ op.print ++
        right.wrap (op.rightMin right) right.print
  | .call _ ⟨optional, callee, arguments⟩ =>
      callee.wrap Precedence.callMember callee.print ++ printOptional optional ++
        parenthesized (commaSeparated (Arguments.outputs arguments))
  | .index _ optional object key =>
      object.wrap Precedence.callMember object.print ++ printOptional optional ++
        punct "[" ++ key.print ++ punct "]"
  | .conditional _ test consequent alternate =>
      test.wrap (Precedence.assignment + 1) test.print ++ punct "?" ++
        consequent.wrap Precedence.assignment consequent.print ++ punct ":" ++
        alternate.wrap Precedence.assignment alternate.print
  | .function a name f =>
      match f.body with
      | .expr .. => fail .functionWithExprBody a.inner
      | .block .. => f.printFunction name
  | .ident _ name => identifier name
  | .member _ optional object property =>
      object.wrap Precedence.callMember object.print ++ object.integerPoint ++
        punct (if optional then "?." else ".") ++ identifier property
  | .this _ => keyword "this"
  | .unary _ op argument =>
      op.print ++
        match op, argument with
        | .new, .call a ⟨optional, callee, arguments⟩ =>
            if optional then fail .optionalCallUnderNew a.inner
            else
              callee.wrap callee.constructorMin callee.print ++
                parenthesized (commaSeparated (Arguments.outputs arguments))
        | .new, e => e.wrap e.constructorMin e.print
        | _, e => e.wrap Precedence.unary e.print
  | .trailing _ op argument =>
      argument.wrap Precedence.callMember argument.print ++ punct op.token
  | .array _ elements =>
      punct "[" ++ commaSeparated (Elements.outputs elements) ++
        onlyIf (endsInHole elements) (punct ",") ++ punct "]"
  | .boolean _ value => keyword (if value then "true" else "false")
  | .null _ => keyword "null"
  | .number _ value => value.print
  | .string _ value => quoted value

/-- The arguments of a call, each on its own. -/
def Arguments.outputs : List Argument → List Output
  | [] => []
  | ⟨_, spread, value⟩ :: rest =>
      (onlyIf spread (punct "...") ++ value.wrap Precedence.assignment value.print) ::
        Arguments.outputs rest

/-- The elements of an array literal, each on its own. -/
def Elements.outputs : List Element → List Output
  | [] => []
  | .single value :: rest =>
      value.wrap Precedence.assignment value.print :: Elements.outputs rest
  | .rest value :: rest =>
      (punct "..." ++ value.wrap Precedence.assignment value.print) :: Elements.outputs rest
  | .hole :: rest => empty :: Elements.outputs rest

def Func.printArrow : Func → Output
  | ⟨_, _, async, _, parameters, returnType, body⟩ =>
      onlyIf async (keyword "async") ++ printSignature (Params.outputs parameters) returnType ++
        punct "=>" ++ body.print

/-- A function that is no arrow function. -/
def Func.printFunction (name : Option Name) : Func → Output
  | ⟨_, _, async, generator, parameters, returnType, body⟩ =>
      printFunctionHead async generator name ++
        printSignature (Params.outputs parameters) returnType ++ body.print

def Body.print : Body → Output
  | .block _ statements => braced (Stmts.print statements)
  | .expr _ value => value.wrap Precedence.assignment value.print

/-- The parameters of a function, each on its own. -/
def Params.outputs : List Param → List Output
  | [] => []
  | ⟨_, rest, pattern, annotation, none⟩ :: params =>
      (onlyIf rest (punct "...") ++ identifier pattern.text ++ printType? annotation) ::
        Params.outputs params
  | ⟨spot, rest, pattern, annotation, some value⟩ :: params =>
      (if rest then fail .restWithDefault spot
       else
         identifier pattern.text ++ printType? annotation ++ punct "=" ++
           value.wrap Precedence.assignment value.print) ::
        Params.outputs params

def Stmt.print : Stmt → Output
  | .block _ body => braced (Stmts.print body)
  | .breakTo _ label => printJump "break" label
  | .continueTo _ label => printJump "continue" label
  | .doWhile _ condition body =>
      keyword "do" ++ body.printBranch body.print ++ keyword "while" ++
        parenthesized condition.print ++ punct ";"
  | .empty _ => empty
  | .expr _ value =>
      (if value.startsWithFunction then parenthesized value.print else value.print) ++ punct ";"
  | .ifElse _ test consequent none =>
      keyword "if" ++ parenthesized test.print ++ consequent.printBranch consequent.print
  | .ifElse _ test consequent (some alternate) =>
      keyword "if" ++ parenthesized test.print ++ consequent.printBranch consequent.print ++
        keyword "else" ++ alternate.printBranch alternate.print
  | .ret _ none => keyword "return" ++ punct ";"
  | .ret _ (some value) => keyword "return" ++ value.print ++ punct ";"
  | .throw _ value => keyword "throw" ++ value.print ++ punct ";"
  | .tryBlock a _ none none => fail .tryWithoutHandler a.inner
  | .tryBlock _ wrapped (some handler) none => keyword "try" ++ wrapped.print ++ handler.print
  | .tryBlock _ wrapped none (some finalizer) =>
      keyword "try" ++ wrapped.print ++ keyword "finally" ++ finalizer.print
  | .tryBlock _ wrapped (some handler) (some finalizer) =>
      keyword "try" ++ wrapped.print ++ handler.print ++ keyword "finally" ++ finalizer.print
  | .whileDo _ condition body =>
      keyword "while" ++ parenthesized condition.print ++ body.printBranch body.print
  | .funcDecl a _ none _ => fail .declarationWithoutName a.inner
  | .funcDecl a exported (some name) f =>
      match f.body with
      | .expr .. => fail .declarationWithExprBody a.inner
      | .block .. => onlyIf exported (keyword "export") ++ f.printFunction (some name)
  | .varDecl a exported kind declarators =>
      if declarators.isEmpty then fail .noDeclarators a.inner
      else
        onlyIf exported (keyword "export") ++ keyword kind.token ++
          commaSeparated (Declarators.outputs declarators) ++ punct ";"

/-- The statements of a list, without lone semicolons. -/
def Stmts.print : List Stmt → Output
  | [] => empty
  | s :: rest => s.print ++ Stmts.print rest

def Block.print : Block → Output
  | ⟨_, body⟩ => braced (Stmts.print body)

def Catch.print : Catch → Output
  | ⟨_, parameter, body⟩ =>
      keyword "catch" ++
        (match parameter with
          | none => empty
          | some name => parenthesized (identifier name.text)) ++
        braced (Stmts.print body)

/-- The variables of a declaration, each on its own. -/
def Declarators.outputs : List Declarator → List Output
  | [] => []
  | ⟨pattern, annotation, none⟩ :: rest =>
      (identifier pattern.text ++ printType? annotation) :: Declarators.outputs rest
  | ⟨pattern, annotation, some value⟩ :: rest =>
      (identifier pattern.text ++ printType? annotation ++ punct "=" ++
        value.wrap Precedence.assignment value.print) ::
        Declarators.outputs rest

end

/-- An expression, in parentheses if it binds looser than `min`. -/
def Expr.printAt (min : Nat) (e : Expr) : Output := e.wrap min e.print

def Program.print (p : Program) : Output := Stmts.print p.body

/-- The text of a program, or why it has none. -/
def Program.text (p : Program) : Except PrintError String := p.print.text

end TypeProbe
