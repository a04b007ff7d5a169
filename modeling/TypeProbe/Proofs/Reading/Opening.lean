import TypeProbe.Proofs.Reading.Regular

/-! # How the text of an expression begins

What a reader has to know of the text of an expression before it has read it (`Opening`):

* its first lexeme is one that an expression may begin with, and so ends no list and does not
  continue an operator;
* it does not begin like a statement, unless with a `function` expression;
* it is not taken for the rest of a type with an arrow after it.

The first two are those of the operand that is written first; the last one goes on to everything
that comes before the first parenthesis. -/

namespace TypeProbe

open Grammar Output Lexeme

/-! ### First lexemes -/

/-- Whether an expression may begin with a lexeme. -/
def Lexeme.isOpener : Lexeme → Bool
  | .run _ | .quoted _ | .twice _ => true
  | .sign c => ['(', '[', '+', '-', '!'].contains c

/-- Whether an expression may begin so. -/
def opens (ls : List Lexeme) : Bool := ls.head?.any Lexeme.isOpener

/-- Whether lexemes do not bring an arrow after the rest of a type into sight. -/
def ArrowFree (ls : List Lexeme) : Prop :=
  ∀ rest, typeTail rest = false → typeTail (ls ++ rest) = false

/-- What is known of the text of an expression, which may begin with `function` or not. -/
structure Opening (function : Bool) (ls : List Lexeme) : Prop where
  opens : ∀ rest, opens (ls ++ rest) = true
  head : function = false → ∀ rest, head (ls ++ rest) = (.expression, ls ++ rest)
  arrowFree : ArrowFree ls

/-! ### No arrow in sight -/

theorem arrowFree_nil : ArrowFree [] := fun _ h => h

theorem ArrowFree.append {ls ms : List Lexeme} (hl : ArrowFree ls) (hm : ArrowFree ms) :
    ArrowFree (ls ++ ms) := by
  intro rest h
  rw [List.append_assoc]
  exact hl _ (hm _ h)

theorem ArrowFree.run {ls : List Lexeme} (h : ArrowFree ls) (w : String) :
    ArrowFree (run w :: ls) := h

/-- A lexeme that no type goes on with. -/
theorem arrowFree_of_stop {l : Lexeme} (h : ∀ rest, typeTail (l :: rest) = false)
    (ls : List Lexeme) : ArrowFree (l :: ls) := fun rest _ => h (ls ++ rest)

/-- An arrow has to follow the sign at once. -/
theorem typeTail_equals {l : Lexeme} (h : l ≠ sign '>') (ls : List Lexeme) :
    typeTail (sign '=' :: l :: ls) = false := by
  cases l with
  | sign c =>
      have hc : c ≠ '>' := fun hc => h (congrArg sign hc)
      simp [typeTail, hc]
  | _ => rfl

/-- Brackets after a type are empty. -/
theorem typeTail_bracket {l : Lexeme} (h : l ≠ sign ']') (ls : List Lexeme) :
    typeTail (sign '[' :: l :: ls) = false := by
  cases l with
  | sign c =>
      have hc : c ≠ ']' := fun hc => h (congrArg sign hc)
      simp [typeTail, hc]
  | _ => rfl

theorem exists_cons_of_opens {ls : List Lexeme} (h : opens ls = true) :
    ∃ l ms, ls = l :: ms ∧ l.isOpener = true := by
  cases ls with
  | nil => cases h
  | cons l ms => exact ⟨l, ms, rfl, h⟩

theorem arrowFree_bracket {ls : List Lexeme}
    (h : ∀ rest, ∃ l ms, ls ++ rest = l :: ms ∧ l ≠ sign ']') : ArrowFree (sign '[' :: ls) := by
  intro rest _
  obtain ⟨l, ms, hls, hl⟩ := h rest
  rw [List.cons_append, hls]
  exact typeTail_bracket hl ms

/-- What is first in the text of an expression is no other lexeme. -/
theorem Opening.first {function : Bool} {ls : List Lexeme} (h : Opening function ls) {m : Lexeme}
    (hm : m.isOpener = false) (ms : List Lexeme) (rest : List Lexeme) :
    ∃ l more, ls ++ ms ++ rest = l :: more ∧ l ≠ m := by
  obtain ⟨l, more, hls, hl⟩ := exists_cons_of_opens (h.opens (ms ++ rest))
  rw [List.append_assoc]
  exact ⟨l, more, hls, ne_of_check hl hm⟩

/-- An operator and its right operand. -/
theorem arrowFree_sign {function : Bool} (op : Operator) {ls : List Lexeme}
    (h : Opening function ls) : ArrowFree (op.sign.lexemes ++ ls) := by
  intro rest hrest
  have htail := h.arrowFree rest hrest
  obtain ⟨l, ms, hls, hl⟩ := exists_cons_of_opens (h.opens rest)
  have hassign : typeTail (sign '=' :: (ls ++ rest)) = false := by
    rw [hls]
    exact typeTail_equals (ne_of_check hl rfl) ms
  rw [List.append_assoc]
  cases op <;> first | rfl | exact htail | exact hassign

/-! ### Openings -/

theorem Opening.append {function : Bool} {ls ms : List Lexeme} (h : Opening function ls)
    (hm : ArrowFree ms) : Opening function (ls ++ ms) where
  opens := fun rest => by
    rw [List.append_assoc]
    exact h.opens _
  head := fun hf rest => by
    rw [List.append_assoc]
    exact h.head hf _
  arrowFree := h.arrowFree.append hm

/-- Whatever may begin with `function` may do so if more is asked of something else. -/
theorem Opening.mono {function : Bool} {ls : List Lexeme} (h : Opening false ls) :
    Opening function ls where
  opens := h.opens
  head := fun _ => h.head rfl
  arrowFree := h.arrowFree

/-- A sign that expressions begin with and types do not go on with. -/
theorem opening_sign {c : Char} (hc : c ∈ ['(', '+', '-', '!']) (ls : List Lexeme) :
    Opening false (sign c :: ls) := by
  simp only [List.mem_cons, List.not_mem_nil, or_false] at hc
  rcases hc with rfl | rfl | rfl | rfl <;>
    exact ⟨fun _ => rfl, fun _ _ => rfl, arrowFree_of_stop (fun _ => rfl) ls⟩

theorem opening_twice (c : Char) (ls : List Lexeme) : Opening false (twice c :: ls) :=
  ⟨fun _ => rfl, fun _ _ => rfl, arrowFree_of_stop (fun _ => rfl) ls⟩

/-- A word that no statement begins with. -/
theorem opening_run {w : String} {ls : List Lexeme} (hw : headWords.lookup w = none)
    (ha : w ≠ "async") (hl : ArrowFree ls) : Opening false (run w :: ls) where
  opens := fun _ => rfl
  head := fun _ rest => by
    rw [List.cons_append, TypeProbe.head, if_neg ha, hw]
  arrowFree := hl.run w

/-- The arrow of an `async` function is not what a statement begins with. -/
theorem opening_async (ls : List Lexeme) : Opening false (run "async" :: sign '(' :: ls) :=
  ⟨fun _ => rfl, fun _ _ => rfl, fun _ _ => rfl⟩

theorem lookup_eq_none_of_check {α : Type} {words : List (String × α)} {name : String}
    (h : isPrintedName name = true) (hw : ∀ p ∈ words, p.1 ∈ printedWords) :
    words.lookup name = none := by
  rw [List.lookup_eq_none_iff]
  intro p hp
  refine bne_iff_ne.mpr ?_
  rintro rfl
  exact (isPrintedName_iff.mp h).2 (hw p hp)

/-- A name. -/
theorem opening_name {name : String} (h : isPrintedName name = true) :
    Opening false [run name] :=
  opening_run (lookup_eq_none_of_check h (by decide)) (ne_of_check h (by decide))
    arrowFree_nil

/-- A leading operator. -/
theorem opening_leading {op : Operator} (hop : op.isLeading = true) {ls : List Lexeme}
    (hl : ArrowFree ls) : Opening false (op.sign.lexemes ++ ls) := by
  cases op with
  | await => exact opening_run rfl (by decide) hl
  | new => exact opening_run rfl (by decide) hl
  | typeof => exact opening_run rfl (by decide) hl
  | void => exact opening_run rfl (by decide) hl
  | prefixDecrement => exact opening_twice _ ls
  | prefixIncrement => exact opening_twice _ ls
  | logicalNot => exact opening_sign (by decide) ls
  | unaryNegation => exact opening_sign (by decide) ls
  | unaryPlus => exact opening_sign (by decide) ls
  | _ => cases hop

/-- A run of digits. -/
theorem opening_digits {w : List Char} (hw : DigitRun w) {ls : List Lexeme}
    (hl : ArrowFree ls) : Opening false (run (String.ofList w) :: ls) := by
  have hall : ∀ p ∈ ("async", Head.expression) :: headWords,
      p.1.toList.head?.any Char.isDigit = false := by decide
  have hne : ∀ p ∈ ("async", Head.expression) :: headWords, String.ofList w ≠ p.1 := by
    intro p hp heq
    have := hall p hp
    rw [← heq, String.toList_ofList, hw.head] at this
    cases this
  refine opening_run ?_ (hne _ List.mem_cons_self) hl
  rw [List.lookup_eq_none_iff]
  exact fun p hp => bne_iff_ne.mpr (hne p (List.mem_cons_of_mem _ hp))

/-- A numeral. -/
theorem opening_numeral {text : List Char} (h : isNumeral text = true) :
    Opening false (numeralLexemes text) := by
  obtain ⟨hd, hl⟩ | ⟨_, _, _, hw, _, hl⟩ := numeral_cases h
  · rw [hl]
    exact opening_digits hd arrowFree_nil
  · rw [hl]
    exact opening_digits hw (arrowFree_of_stop (fun _ => rfl) _)

/-! ### Expressions -/

/-- The text of an expression begins like that of an expression. -/
def Expr.Opens (e : Expr) : Prop :=
  ∀ ts, e.print.Spells ts → Opening e.startsWithFunction (lexemes ts)

theorem exists_append_of_commaSeparated {o : Output} {os : List Output} {ts : List Token}
    (h : (commaSeparated (o :: os)).Spells ts) : ∃ us, o.Spells us ∧ ∃ vs, ts = us ++ vs := by
  obtain ⟨us, ho, ⟨_, rfl⟩ | ⟨_, vs, _, rfl⟩⟩ := spells_commaSeparated_cons.mp h
  · exact ⟨_, ho, [], (List.append_nil _).symm⟩
  · exact ⟨us, ho, _, List.append_assoc _ _ _⟩

namespace Expr

variable {a : Anchor} {e l r : Expr} {op : Operator} {optional : Bool} {ts : List Token}

theorem Opens.wrap (ho : e.Opens) {n : Nat} (h : (e.wrap n e.print).Spells ts) :
    Opening (decide (n ≤ e.precedence) && e.startsWithFunction) (lexemes ts) := by
  unfold Expr.wrap at h
  split at h
  · obtain ⟨us, _, rfl⟩ := spells_parenthesized.mp h
    rw [List.append_assoc, lexemes_append]
    exact (opening_sign (by decide) _).mono
  · next hge =>
      rw [decide_eq_true (Nat.not_lt.mp hge), Bool.true_and]
      exact ho ts h

/-! ### Expressions that begin on their own -/

theorem opens_keyword {w : String} (hw : headWords.lookup w = none) (ha : w ≠ "async")
    (hprint : e.print = keyword w) (hfunction : e.startsWithFunction = false) : e.Opens := by
  intro ts hs
  rw [hprint] at hs
  obtain rfl := spells_keyword.mp hs
  rw [hfunction]
  exact opening_run hw ha arrowFree_nil

theorem opens_ident {name : String} (hname : isPrintedName name = true) :
    (ident a name).Opens := by
  intro ts hs
  obtain rfl := spells_identifier.mp hs
  exact opening_name hname

theorem opens_number {value : Binary64} (h : (number a value).isReadable = true) :
    (number a value).Opens := by
  intro ts hs
  obtain ⟨hfinite, hpositive⟩ := isReadable_number_iff.mp h
  obtain rfl := spells_number.mp hs
  rw [lexemes_singleton, Token.lexemes, String.toList_ofList]
  exact opening_numeral (Binary64.isNumeral_text hfinite hpositive)

theorem opens_string (value : String) : (string a value).Opens := by
  intro ts hs
  obtain rfl := spells_quoted.mp hs
  exact ⟨fun _ => rfl, fun _ _ => rfl, arrowFree_of_stop (fun _ => rfl) _⟩

theorem opens_arrow (f : Func) : (arrow a f).Opens := by
  obtain ⟨_, _, async, _, _, _, _⟩ := f
  intro ts hs
  obtain ⟨_, _, hsignature, _, _, rfl⟩ := spells_arrow hs
  obtain ⟨_, hparameters, _, _, rfl⟩ := spells_append.mp hsignature
  obtain ⟨_, _, rfl⟩ := spells_parenthesized.mp hparameters
  cases async with
  | true => exact opening_async _
  | false => exact opening_sign (by decide) _

theorem opens_function (name : Option Name) (f : Func) : (function a name f).Opens := by
  obtain ⟨_, _, async, generator, _, _, body⟩ := f
  intro ts hs
  cases body with
  | expr spot value => exact absurd hs not_spells_fail
  | block spot statements =>
      obtain ⟨_, hsignature, _, _, rfl⟩ := Func.spells_printFunction rfl hs
      obtain ⟨_, hparameters, _, _, rfl⟩ := spells_append.mp hsignature
      obtain ⟨_, _, rfl⟩ := spells_parenthesized.mp hparameters
      refine ⟨fun _ => ?_, nofun, ?_⟩
      · cases async <;> rfl
      · cases async <;> cases generator <;> cases name <;> exact fun _ _ => rfl

/-- An array literal that has elements does not end at once: a hole is followed by a comma. -/
theorem first_elements {first : Element} {rest : List Element} {us ts : List Token}
    (ho : ∀ value, first = .single value → value.Opens)
    (hu : (commaSeparated (Elements.outputs (first :: rest))).Spells us) (more : List Lexeme) :
    ∃ l ls, lexemes (us ++ (Token.onlyIf (endsInHole (first :: rest)) (.mark ",") ++ ts)) ++
      more = l :: ls ∧ l ≠ sign ']' := by
  cases first with
  | single value =>
      obtain ⟨vs, hv, ws, rfl⟩ := exists_append_of_commaSeparated hu
      rw [List.append_assoc, lexemes_append]
      exact ((ho value rfl).wrap hv).first rfl _ more
  | rest value =>
      obtain ⟨_, hv, ws, rfl⟩ := exists_append_of_commaSeparated hu
      obtain ⟨_, hdots, xs, _, rfl⟩ := spells_append.mp hv
      obtain rfl := spells_punct.mp hdots
      exact ⟨sign '.', _, rfl, by decide⟩
  | hole =>
      obtain ⟨_, hv, ⟨hrest, rfl⟩ | ⟨_, ws, _, rfl⟩⟩ := spells_commaSeparated_cons.mp hu
      · obtain rfl := spells_empty.mp hv
        cases rest with
        | nil => exact ⟨sign ',', _, rfl, by decide⟩
        | cons second rest => cases second <;> cases hrest
      · obtain rfl := spells_empty.mp hv
        exact ⟨sign ',', _, rfl, by decide⟩

theorem opens_array {elements : List Element}
    (ho : ∀ value, elements.head? = some (.single value) → value.Opens) :
    (array a elements).Opens := by
  intro ts hs
  obtain ⟨us, hu, rfl⟩ := spells_array hs
  simp only [List.append_assoc]
  refine ⟨fun _ => rfl, fun _ _ => rfl, ?_⟩
  cases elements with
  | nil =>
      obtain rfl := spells_empty.mp hu
      exact fun _ hrest => hrest
  | cons first rest =>
      rw [lexemes_append]
      exact arrowFree_bracket
        (first_elements (fun value hfirst => ho value (congrArg some hfirst)) hu)

/-! ### Expressions that begin with an operator -/

theorem opens_newCall {b : Anchor} {callee : Expr} {arguments : List Argument}
    (ho : callee.Opens) : (unary a .new (.call b ⟨optional, callee, arguments⟩)).Opens := by
  intro ts hs
  obtain ⟨_, us, hu, vs, _, rfl⟩ := spells_newCall hs
  have hnew : Operator.new.isLeading = true := rfl
  simp only [lexemes_append]
  exact opening_leading hnew ((ho.wrap hu).arrowFree.append fun _ _ => rfl)

theorem opens_new (hcall : e.isCall = false) (ho : e.Opens) : (unary a .new e).Opens := by
  intro ts hs
  obtain ⟨us, hu, rfl⟩ := spells_new hcall hs
  have hnew : Operator.new.isLeading = true := rfl
  rw [lexemes_append, lexemes_singleton]
  exact opening_leading hnew (ho.wrap hu).arrowFree

theorem opens_leading (hop : op.isLeading = true) (hnew : op ≠ .new) (ho : e.Opens) :
    (unary a op e).Opens := by
  intro ts hs
  obtain ⟨us, hu, rfl⟩ := spells_leading hnew hs
  rw [lexemes_append, lexemes_singleton]
  exact opening_leading hop (ho.wrap hu).arrowFree

/-! ### Expressions that begin with an operand -/

theorem opens_binary (hl : l.Opens) (hr : r.Opens) : (binary a op l r).Opens := by
  intro ts hs
  obtain ⟨us, hu, vs, hv, rfl⟩ := spells_binary hs
  rw [List.append_assoc, lexemes_append, lexemes_append, lexemes_singleton]
  exact (hl.wrap hu).append (arrowFree_sign op (hr.wrap hv))

theorem opens_call {callee : Expr} {arguments : List Argument} (hc : callee.Opens) :
    (call a ⟨optional, callee, arguments⟩).Opens := by
  intro ts hs
  obtain ⟨us, hu, vs, _, rfl⟩ := spells_call hs
  rw [List.append_assoc, lexemes_append]
  refine (hc.wrap hu).append ?_
  cases optional <;> exact fun _ _ => rfl

theorem opens_index {object key : Expr} (ho : object.Opens) (hk : key.Opens) :
    (index a optional object key).Opens := by
  intro ts hs
  obtain ⟨us, hu, vs, hv, rfl⟩ := spells_index hs
  simp only [List.append_assoc]
  rw [lexemes_append]
  refine (ho.wrap hu).append ?_
  cases optional with
  | true => exact fun _ _ => rfl
  | false =>
      simp only [lexemes_append]
      exact arrowFree_bracket ((hk vs hv).first rfl _)

theorem opens_member {object : Expr} {name : String} (ho : object.Opens) :
    (member a optional object name).Opens := by
  intro ts hs
  obtain ⟨us, hu, rfl⟩ := spells_member hs
  obtain ⟨vs, hv, ps, hp, rfl⟩ := spells_append.mp hu
  obtain rfl := spells_integerPoint.mp hp
  simp only [List.append_assoc]
  rw [lexemes_append]
  refine (ho.wrap hv).append ?_
  cases object.isInteger <;> cases optional <;> exact fun _ _ => rfl

theorem opens_conditional {test yes no : Expr} (ht : test.Opens) :
    (conditional a test yes no).Opens := by
  intro ts hs
  obtain ⟨us, hu, _, _, _, _, rfl⟩ := spells_conditional hs
  simp only [List.append_assoc]
  rw [lexemes_append]
  exact (ht.wrap hu).append fun _ _ => rfl

theorem opens_trailing (hop : op.isTrailing = true) (ho : e.Opens) : (trailing a op e).Opens := by
  intro ts hs
  obtain ⟨us, hu, rfl⟩ := spells_trailing hs
  rw [lexemes_append]
  refine (ho.wrap hu).append ?_
  cases op with
  | postfixDecrement => exact fun _ _ => rfl
  | postfixIncrement => exact fun _ _ => rfl
  | _ => cases hop

/-- **The text of an expression** begins like that of an expression. -/
theorem opening_print : (e : Expr) → e.passes readable = true → e.Opens
  | .arrow _ f, _ => opens_arrow f
  | .binary _ _ l r, h => by
      simp only [passes, Bool.and_eq_true] at h
      exact opens_binary (opening_print l h.1.2) (opening_print r h.2)
  | .call _ ⟨_, callee, _⟩, h => by
      simp only [passes, Call.passes, Bool.and_eq_true] at h
      exact opens_call (opening_print callee h.2.1)
  | .index _ _ object key, h => by
      simp only [passes, Bool.and_eq_true] at h
      exact opens_index (opening_print object h.1.2) (opening_print key h.2)
  | .conditional _ test _ _, h => by
      simp only [passes, Bool.and_eq_true] at h
      exact opens_conditional (opening_print test h.1.1.2)
  | .function _ name f, _ => opens_function name f
  | .ident _ name, h => by
      simp only [passes, Bool.and_eq_true] at h
      exact opens_ident h.2
  | .member _ _ object _, h => by
      simp only [passes, Bool.and_eq_true] at h
      exact opens_member (opening_print object h.1.2)
  | .this _, _ => opens_keyword rfl (by decide) rfl rfl
  | .unary _ op argument, h => by
      obtain ⟨hop, ha⟩ := Bool.and_eq_true_iff.mp h
      have ho := opening_print argument ha
      by_cases hnew : op = .new
      · subst hnew
        cases argument with
        | call _ c =>
            obtain ⟨_, callee, _⟩ := c
            simp only [passes, Call.passes, Bool.and_eq_true] at ha
            exact opens_newCall (opening_print callee ha.2.1)
        | _ => exact opens_new rfl ho
      · exact opens_leading hop hnew ho
  | .trailing _ _ argument, h => by
      obtain ⟨hop, ha⟩ := Bool.and_eq_true_iff.mp h
      exact opens_trailing hop (opening_print argument ha)
  | .array _ [], _ => opens_array (by rintro _ ⟨⟩)
  | .array _ (first :: _), h => by
      simp only [passes, Bool.and_eq_true] at h
      refine opens_array ?_
      cases first with
      | single value =>
          simp only [Elements.passes, Bool.and_eq_true] at h
          have hvalue := opening_print value h.2.1
          rintro _ ⟨⟩
          exact hvalue
      | _ => rintro _ ⟨⟩
  | .boolean _ true, _ => opens_keyword rfl (by decide) rfl rfl
  | .boolean _ false, _ => opens_keyword rfl (by decide) rfl rfl
  | .null _, _ => opens_keyword rfl (by decide) rfl rfl
  | .number _ _, h => opens_number h
  | .string _ value, _ => opens_string value

end Expr

end TypeProbe
