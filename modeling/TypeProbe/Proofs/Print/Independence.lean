import TypeProbe.Proofs.Print.Layout
import TypeProbe.Tree.Build

/-! # Statements are printed independently

What an output adds to a text depends on the text through its tail alone (`Tail.emit`), and outputs
one after another are written in turn (`Tail.emit_append`).

Every statement that is printed ends in a brace or a semicolon, after which the tail is that of an
empty page (`Stmt.closes_print`).  So the text of a list of statements consists of the texts of its
parts, wherever the list stands.

* **Main result** (`Stmts.text_eq_inTurn`): this holds of whole programs, after a brace or a
  semicolon, and within the braces of a block, a `catch` clause or a function. -/

namespace TypeProbe

open Output

/-! ### Writing in turn -/

/-- One text after another; the first failure counts. -/
def inTurn (first second : Except PrintError String) : Except PrintError String :=
  match first, second with
  | .error e, _ => .error e
  | .ok _, .error e => .error e
  | .ok s, .ok s' => .ok (s ++ s')

/-- A text between braces. -/
def inBraces (s : String) : String := "\x7b" ++ s ++ "\x7d"

namespace Tail

/-- What an output adds to a text with the given tail, or why it has no text. -/
def emit (t : Tail) (o : Output) : Except PrintError String :=
  match o.error with
  | some e => .error e
  | none => .ok (String.ofList (t.writeAll o.fragments).1)

def after (t : Tail) (o : Output) : Tail := (t.writeAll o.fragments).2

variable (t : Tail)

theorem emit_clear (o : Output) : clear.emit o = o.text := rfl

theorem after_append {a : Output} (h : a.error = none) (b : Output) :
    t.after (a ++ b) = (t.after a).after b := by
  obtain ⟨fs, error⟩ := a
  obtain rfl : error = none := h
  show (t.writeAll (fs ++ b.fragments)).2 = _
  rw [writeAll_append]
  rfl

/-- Outputs one after another are written in turn, the second after the tail of the first. -/
theorem emit_append (a b : Output) : t.emit (a ++ b) = inTurn (t.emit a) ((t.after a).emit b) := by
  obtain ⟨fs, ea⟩ := a
  obtain ⟨gs, eb⟩ := b
  cases ea with
  | some e => rfl
  | none =>
      cases eb with
      | some e => rfl
      | none =>
          show Except.ok (String.ofList (t.writeAll (fs ++ gs)).1) = _
          rw [writeAll_append, String.ofList_append]
          rfl

end Tail

/-! ### Outputs that end in a delimiter -/

/-- Whatever stands before the output, nothing after it merges with it. -/
def Output.Closes (o : Output) : Prop := o.error = none → ∀ t : Tail, t.after o = .clear

namespace Output

theorem Closes.before {o : Output} (h : o.Closes) (a : Output) : (a ++ o).Closes := by
  intro he t
  obtain ⟨ha, ho⟩ := error_append.mp he
  rw [Tail.after_append t ha, h ho]

theorem closes_fail (cause : Unprintable) (loc : Loc) : (fail cause loc).Closes := nofun

theorem closes_mark {mark : String} (h : mark ∈ delimiters) : (punct mark).Closes := by
  intro _ t
  show (t.write (.punct mark)).2 = _
  rw [Tail.write_delimiter t h]

theorem closes_braced (o : Output) : (braced o).Closes := (closes_mark (by decide)).before _

theorem closes_branch (s : Stmt) : (s.printBranch s.print).Closes := by
  cases s <;> exact closes_braced _

end Output

theorem Block.closes_print (b : Block) : b.print.Closes := by
  obtain ⟨spot, body⟩ := b
  exact closes_braced _

theorem Catch.closes_print (c : Catch) : c.print.Closes := by
  obtain ⟨spot, parameter, body⟩ := c
  cases parameter <;> exact (closes_braced _).before _

/-- **A statement ends in a brace or a semicolon**, unless it is a lone semicolon and left out. -/
theorem Stmt.closes_print {s : Stmt} (h : s.isEmpty = false) : s.print.Closes := by
  have hsemicolon : ";" ∈ delimiters := by decide
  cases s with
  | empty a => cases h
  | block a body => exact closes_braced _
  | breakTo a label | continueTo a label => exact (closes_mark hsemicolon).before _
  | doWhile a condition body | expr a value | throw a value =>
      exact (closes_mark hsemicolon).before _
  | ifElse a test consequent alternate =>
      cases alternate <;> exact (closes_branch _).before _
  | ret a value => cases value <;> exact (closes_mark hsemicolon).before _
  | tryBlock a wrapped handler finalizer =>
      cases finalizer with
      | some finalizer => cases handler <;> exact finalizer.closes_print.before _
      | none =>
          cases handler with
          | none => exact closes_fail _ _
          | some handler => exact handler.closes_print.before _
  | whileDo a condition body => exact (closes_branch body).before _
  | funcDecl a exported name f =>
      obtain ⟨spot, arrow, async, generator, parameters, returnType, body⟩ := f
      cases name with
      | none => exact closes_fail _ _
      | some name =>
          cases body with
          | block bodyLoc statements => exact ((closes_braced _).before _).before _
          | expr bodyLoc value => exact closes_fail _ _
  | varDecl a exported kind declarators =>
      unfold Stmt.print
      split
      · exact closes_fail _ _
      · exact (closes_mark hsemicolon).before _

namespace Stmts

theorem print_append (a b : List Stmt) : print (a ++ b) = print a ++ print b := by
  induction a with
  | nil => rfl
  | cons s rest ih =>
      show s.print ++ print (rest ++ b) = s.print ++ print rest ++ print b
      rw [ih, append_assoc]

/-- Statements that follow a delimiter leave a tail that is as after one. -/
theorem after_print {statements : List Stmt} (h : (print statements).error = none) :
    Tail.clear.after (print statements) = .clear := by
  induction statements with
  | nil => rfl
  | cons s rest ih =>
      obtain ⟨hs, hrest⟩ := error_append.mp h
      have hafter : Tail.clear.after s.print = .clear := by
        cases hempty : s.isEmpty with
        | false => exact Stmt.closes_print hempty hs _
        | true =>
            -- a lone semicolon is left out, and nothing is written
            cases s with
            | empty a => rfl
            | _ => cases hempty
      show Tail.clear.after (s.print ++ print rest) = _
      rw [Tail.after_append _ hs, hafter, ih hrest]

theorem text_print_append (a b : List Stmt) :
    (print (a ++ b)).text = inTurn (print a).text (print b).text := by
  rw [print_append, ← Tail.emit_clear, Tail.emit_append]
  cases h : (print a).error with
  | none => rw [after_print h]; rfl
  | some e =>
      have ha : Tail.clear.emit (print a) = .error e := by simp [Tail.emit, h]
      rw [ha, ← Tail.emit_clear, ha]
      rfl

end Stmts

/-! ### Statements in braces -/

namespace Func

/-- An arrow function up to its body. -/
def arrowHead (f : Func) : Output :=
  onlyIf f.async (keyword "async") ++ printSignature (Params.outputs f.parameters) f.returnType ++
    punct "=>"

/-- A function that is no arrow function, up to its body. -/
def functionHead (name : Option Name) (f : Func) : Output :=
  printFunctionHead f.async f.generator name ++
    printSignature (Params.outputs f.parameters) f.returnType

end Func

/-- A place for statements in braces. -/
inductive Enclosure where
  /-- A block as a statement. -/
  | statement (anchor : Anchor)
  /-- The block of a `try` statement, or the one after `finally`. -/
  | block (spot : Spot)
  | handler (spot : Spot) (parameter : Option Name)
  /-- The body of a function; the body of the function given here does not matter. -/
  | arrow (func : Func) (spot : Spot)
  | function (name : Option Name) (func : Func) (spot : Spot)

namespace Enclosure

/-- The output of the place with statements in it. -/
def print : Enclosure → List Stmt → Output
  | statement a, l => (Stmt.block a l).print
  | block spot, l => (Block.mk spot l).print
  | handler spot parameter, l => (Catch.mk spot parameter l).print
  | arrow f spot, l => { f with body := .block spot l }.printArrow
  | function name f spot, l => { f with body := .block spot l }.printFunction name

/-- What is written before the braces. -/
def head : Enclosure → Output
  | statement _ | block _ => empty
  | handler _ none => keyword "catch"
  | handler _ (some name) => keyword "catch" ++ parenthesized (identifier name.text)
  | arrow f _ => f.arrowHead
  | function name f _ => f.functionHead name

theorem print_eq (e : Enclosure) (l : List Stmt) :
    e.print l = e.head ++ braced (Stmts.print l) := by
  cases e with
  | handler spot parameter => cases parameter <;> rfl
  | _ => rfl

end Enclosure

namespace Tail

theorem emit_mark (t : Tail) {mark : String} (h : mark ∈ delimiters) :
    t.emit (punct mark) = .ok mark := by
  show Except.ok (String.ofList ((t.write (.punct mark)).1 ++ [])) = _
  rw [write_delimiter t h, List.append_nil, String.ofList_toList]

/-- What stands in braces is written as on an empty page. -/
theorem emit_braced (t : Tail) (o : Output) : t.emit (braced o) = o.text.map inBraces := by
  have hopen : t.after (punct "\x7b") = clear := closes_mark (by decide) rfl t
  have hclose : (clear.after o).emit (punct "\x7d") = .ok "\x7d" := emit_mark _ (by decide)
  unfold braced
  rw [append_assoc, emit_append, emit_mark t (by decide), hopen, emit_append, hclose, emit_clear]
  cases o.text with
  | error e => rfl
  | ok s => exact congrArg Except.ok (String.append_assoc ..).symm

end Tail

/-- **Statements are printed independently.**  The text of statements one after another is the text
of the first ones followed by that of the others, and the first failure is that of the whole.  This
holds of whole programs, after any text that ends in a brace or a semicolon, and between the braces
of any place for statements, whatever the text before it ends in. -/
theorem Stmts.text_eq_inTurn (a b : List Stmt) :
    (∀ l m n : Spot, (Program.mk l (a ++ b)).text =
        inTurn (Program.mk m a).text (Program.mk n b).text) ∧
      (∀ (t : Tail) (m n : Spot), ∀ mark ∈ ["\x7b", "\x7d", ";"],
        (t.write (.punct mark)).2.emit (Stmts.print (a ++ b)) =
          inTurn (Program.mk m a).text (Program.mk n b).text) ∧
      ∀ (t : Tail) (e : Enclosure) (m n : Spot), t.emit (e.print (a ++ b)) =
        inTurn (t.emit e.head)
          ((inTurn (Program.mk m a).text (Program.mk n b).text).map inBraces) := by
  have htext := Stmts.text_print_append a b
  refine ⟨fun _ _ _ => htext, ?_, ?_⟩
  · intro t m n mark hmark
    have hdelimiter : mark ∈ delimiters := by
      revert mark
      decide
    rw [Tail.write_delimiter t hdelimiter]
    exact htext
  · intro t e m n
    rw [e.print_eq, Tail.emit_append, Tail.emit_braced, htext]
    rfl

/-- After a brace, `x--` and `--y` do not get in each other's way. -/
theorem Stmts.text_eq_inTurn_updates :
    let t : Tail := ⟨.minus, .dashDash⟩
    let x := Expr.trailing (.ofLoc ⟨0, 3⟩) .postfixDecrement (Build.ident ⟨0, 1⟩ "x")
    let y := Expr.unary (.ofLoc ⟨4, 7⟩) .prefixDecrement (Build.ident ⟨6, 7⟩ "y")
    "\x7d" ∈ ["\x7b", "\x7d", ";"] ∧
      (t.write (.punct "\x7d")).2.emit (Stmts.print ([Build.exprStmt x] ++ [Build.exprStmt y])) =
        .ok "x--;--y;" := by
  intro t x y
  have hmark : "\x7d" ∈ ["\x7b", "\x7d", ";"] := by decide
  have htext := (Stmts.text_eq_inTurn [Build.exprStmt x] [Build.exprStmt y]).2.1 t
    (.ofLoc ⟨0, 3⟩) (.ofLoc ⟨4, 7⟩)
  exact ⟨hmark, (htext _ hmark).trans rfl⟩

end TypeProbe
