import TypeProbe.Proofs.Attribution.Exact
import TypeProbe.Proofs.Print.Independence
import TypeProbe.Resolution

/-! # The text of a report

The body of a resolved probe is printed as any other body is.  An error that is constructed in it is
written alike wherever it stands in the list, since the marks around it leave nothing behind that
it could merge with, and neither does the error (`Finding.writes_error`).  So the text of a report
is known for any number of errors, and whatever their messages are (`Finding.writes_statements`). -/

namespace TypeProbe

open Output

/-! ### From one tail to another -/

/-- After a text with the tail `t` the output is written as `s`, and the tail is `u` then. -/
def Tail.Writes (t : Tail) (o : Output) (s : String) (u : Tail) : Prop :=
  t.emit o = .ok s ∧ t.after o = u

namespace Tail

variable {t u v : Tail} {a b : Output} {s s' : String}

theorem Writes.error (h : t.Writes a s u) : a.error = none := by
  obtain ⟨fs, error⟩ := a
  cases error with
  | none => rfl
  | some e => cases h.1

theorem Writes.append (h : t.Writes a s u) (h' : u.Writes b s' v) :
    t.Writes (a ++ b) (s ++ s') v := by
  constructor
  · rw [emit_append, h.1, h.2, h'.1]
    rfl
  · rw [after_append t h.error, h.2, h'.2]

end Tail

/-! ### Reports -/

/-- A text as a string literal. -/
def literalText (value : String) : String := String.ofList (Quoted.encode value.toList)

/-- The construction of an error with a message. -/
def constructionText (message : String) : String := "new Error(" ++ literalText message ++ ")"

/-- What the body of a probe that reports errors with these messages contains. -/
def reportText : List String → String
  | [] => "return[];"
  | messages =>
      "Error.stackTraceLimit=0;throw[" ++ ",".intercalate (messages.map constructionText) ++ "][0];"

/-- A literal is written without a space before it, and leaves nothing behind to merge with. -/
theorem Tail.writes_quoted (t : Tail) (value : String) :
    t.Writes (quoted value) (literalText value) .clear := by
  refine ⟨?_, rfl⟩
  show Except.ok (String.ofList (Quoted.encode value.toList ++ [])) = _
  rw [List.append_nil]
  rfl

namespace Finding

theorem writes_error (f : Finding) :
    Tail.clear.Writes f.error.print (constructionText f.message) .clear := by
  have hprint : f.error.print =
      keyword "new" ++ identifier "Error" ++ punct "(" ++ quoted f.message ++ punct ")" := rfl
  have hopen : Tail.clear.Writes (keyword "new" ++ identifier "Error" ++ punct "(") "new Error("
      .clear := ⟨rfl, rfl⟩
  have hclose : Tail.clear.Writes (punct ")") ")" .clear := ⟨rfl, rfl⟩
  rw [hprint]
  exact (hopen.append (Tail.writes_quoted .clear f.message)).append hclose

/-- The errors of a list, with commas between them. -/
theorem writes_errors (fs : List Finding) :
    Tail.clear.Writes (commaSeparated (fs.map (·.error.print)))
      (",".intercalate (fs.map (constructionText ·.message))) .clear := by
  have hcomma : Tail.clear.Writes (punct ",") "," .clear := ⟨rfl, rfl⟩
  induction fs with
  | nil => exact ⟨rfl, rfl⟩
  | cons f rest ih =>
      cases rest with
      | nil =>
          rw [List.map_singleton, List.map_singleton, String.intercalate_singleton]
          exact f.writes_error
      | cons g rest =>
          have htexts : ",".intercalate ((f :: g :: rest).map (constructionText ·.message)) =
              constructionText f.message ++ "," ++
                ",".intercalate ((g :: rest).map (constructionText ·.message)) :=
            String.intercalate_cons_cons
          rw [htexts]
          exact (f.writes_error.append hcomma).append ih

theorem outputs_errors (fs : List Finding) :
    Elements.outputs ((fs.map error).map .single) = fs.map (·.error.print) := by
  induction fs with
  | nil => rfl
  | cons f rest ih =>
      show f.error.print :: Elements.outputs ((rest.map error).map .single) = _
      rw [ih]
      rfl

theorem endsInHole_errors (fs : List Finding) :
    endsInHole ((fs.map error).map .single) = false := by
  induction fs with
  | nil => rfl
  | cons f rest ih => exact ih

theorem writes_disableTraces (loc : Loc) :
    Tail.clear.Writes (disableTraces loc).print "Error.stackTraceLimit=0;" .clear := by
  have hprint : (disableTraces loc).print =
      identifier "Error" ++ punct "." ++ identifier "stackTraceLimit" ++ punct "=" ++
        number "0" ++ punct ";" := rfl
  rw [hprint]
  exact ⟨rfl, rfl⟩

theorem writes_throwFirst (loc : Loc) (fs : List Finding) :
    Tail.clear.Writes (throwFirst loc (fs.map error)).print
      ("throw[" ++ ",".intercalate (fs.map (constructionText ·.message)) ++ "][0];") .clear := by
  have hopen : Tail.clear.Writes (keyword "throw" ++ punct "[") "throw[" .clear := ⟨rfl, rfl⟩
  have hclose : Tail.clear.Writes
      (punct "]" ++ punct "[" ++ number "0" ++ punct "]" ++ punct ";") "][0];" .clear :=
    ⟨rfl, rfl⟩
  have hprint : (throwFirst loc (fs.map error)).print =
      keyword "throw" ++ punct "[" ++ commaSeparated (fs.map (·.error.print)) ++
        (punct "]" ++ punct "[" ++ number "0" ++ punct "]" ++ punct ";") := by
    show keyword "throw" ++
        (punct "[" ++ commaSeparated (Elements.outputs ((fs.map error).map .single)) ++
          onlyIf (endsInHole ((fs.map error).map .single)) (punct ",") ++ punct "]" ++ empty ++
          punct "[" ++ number "0" ++ punct "]") ++ punct ";" = _
    -- without a hole at the end, no comma follows the last error
    rw [outputs_errors, endsInHole_errors]
    simp only [onlyIf, Bool.false_eq_true, if_false, append_empty, append_assoc]
  rw [hprint]
  exact (hopen.append (writes_errors fs)).append hclose

/-- The statements that report findings have a text, which the messages decide. -/
theorem writes_statements (loc : Loc) (fs : List Finding) :
    Tail.clear.Writes (Stmts.print (statements loc fs)) (reportText (fs.map (·.message)))
      .clear := by
  cases fs with
  | nil => exact ⟨rfl, rfl⟩
  | cons f rest =>
      have hthrow := writes_throwFirst loc (f :: rest)
      have hprint : Stmts.print (statements loc (f :: rest)) =
          (disableTraces loc).print ++ (throwFirst loc ((f :: rest).map error)).print := by
        show _ ++ (_ ++ empty) = _
        rw [append_empty]
      have htext : reportText ((f :: rest).map (·.message)) =
          "Error.stackTraceLimit=0;" ++
            ("throw[" ++ ",".intercalate ((f :: rest).map (constructionText ·.message)) ++
              "][0];") := by
        show "Error.stackTraceLimit=0;throw[" ++
          ",".intercalate (((f :: rest).map (·.message)).map constructionText) ++ "][0];" = _
        rw [List.map_map, ← String.append_assoc, ← String.append_assoc]
        rfl
      rw [hprint, htext]
      exact (writes_disableTraces loc).append hthrow

/-- The text of the statements that report what a region holds. -/
theorem text_statements (loc : Loc) (r : Region) (ds : List Diagnostic) :
    (Stmts.print (statements loc (ofDiagnostics (r.gather ds).selected))).text =
      .ok (reportText ((r.gather ds).selected.map (·.message.head))) := by
  have hmessages := r.map_findings ds (·.message) (·.message.head) fun _ _ hf =>
    (isOf_of_finding? hf).1
  rw [← hmessages]
  exact (writes_statements loc _).1

end Finding

/-- **The text of a report.**  The statements that report the diagnostics of a region always have a
text: `return[];` if there are none, and otherwise a throw of the first of their errors, each
constructed with the head of its message, in order.  In a function that a pass rewrites, this text
stands in braces behind the head of the function, whatever was written before. -/
theorem Finding.text_report :
    (∀ (r : Region) (ds : List Diagnostic) (loc : Loc) (spot : Spot),
      (Program.mk spot (statements loc (ofDiagnostics (r.gather ds).selected))).text =
        .ok (reportText ((r.gather ds).selected.map (·.message.head)))) ∧
      ∀ (source : Source) (file : FileId) (f : Func) (p : Progress) (t : Tail),
        let answer := source.answer p.requests.length file
        let selected := ((Region.ofBody f.body).gather answer).selected
        let body := inBraces (reportText (selected.map (·.message.head)))
        let rewritten := (Pass.resolve source file f p).1
        t.emit rewritten.printArrow = inTurn (t.emit f.arrowHead) (.ok body) ∧
          ∀ name, t.emit (rewritten.printFunction name) =
            inTurn (t.emit (f.functionHead name)) (.ok body) := by
  constructor
  · intro r ds loc spot
    exact text_statements loc r ds
  · intro source file f p t answer selected body rewritten
    let report := statements f.body.loc (ofDiagnostics selected)
    have htext : (Stmts.print report).text.map inBraces = .ok body :=
      congrArg (Except.map inBraces) (text_statements f.body.loc (.ofBody f.body) answer)
    constructor
    · show t.emit ((Enclosure.arrow f f.body.loc).print report) = _
      rw [Enclosure.print_eq, Tail.emit_append, Tail.emit_braced, htext]
      rfl
    · intro name
      show t.emit ((Enclosure.function name f f.body.loc).print report) = _
      rw [Enclosure.print_eq, Tail.emit_append, Tail.emit_braced, htext]
      rfl

end TypeProbe
