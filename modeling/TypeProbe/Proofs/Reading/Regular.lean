import TypeProbe.Proofs.Grammar.Placement
import TypeProbe.Proofs.Grammar.Spelling
import TypeProbe.Proofs.Print.Composition
import TypeProbe.Proofs.Reading.Reader

/-! # Regular outputs

The trees that can be read back are those with names and numbers that show as such, and with
operators in their own position (`readable`).

What is printed of them is **regular** (`Output.Regular`): every token is written as tokens of its
kind are, and whoever looks for a closing parenthesis finds none that is not opened in between.
Both are closed under the ways outputs are put together. -/

namespace TypeProbe

open Grammar Output Lexeme

/-! ### Readable trees -/

/-- **The check** for trees whose text can be read back. -/
def readable : Check where
  name := isPrintedName
  property := isIdentifierName
  expr := Expr.isReadable
  parameters := fun _ => true

/-! ### Parentheses -/

/-- Whether lexemes do not matter to who looks for a closing parenthesis. -/
def Balanced (ls : List Lexeme) : Prop := ∀ depth rest, skip depth (ls ++ rest) = skip depth rest

theorem balanced_nil : Balanced [] := fun _ _ => rfl

theorem Balanced.append {ls ms : List Lexeme} (hl : Balanced ls) (hm : Balanced ms) :
    Balanced (ls ++ ms) := by
  intro depth rest
  rw [List.append_assoc, hl, hm]

theorem balanced_of_noParens {ls : List Lexeme}
    (h : ls.all (fun l => l != sign '(' && l != sign ')') = true) : Balanced ls := by
  intro depth rest
  induction ls with
  | nil => rfl
  | cons l ls ih =>
      simp only [List.all_cons, Bool.and_eq_true, bne_iff_ne, ne_eq] at h
      rw [List.cons_append, skip_other h.1.1 h.1.2]
      exact ih h.2

theorem Balanced.parenthesized {ls : List Lexeme} (h : Balanced ls) :
    Balanced (sign '(' :: (ls ++ [sign ')'])) := by
  intro depth rest
  rw [List.cons_append, List.append_assoc, skip_open, h, List.singleton_append, skip_close]

/-! ### Outputs -/

namespace Output

/-- Whether all tokens are plain and the parentheses are balanced. -/
def Regular (o : Output) : Prop :=
  ∀ ts, o.Spells ts → (∀ t ∈ ts, t.isPlain = true) ∧ Balanced (lexemes ts)

theorem regular_empty : empty.Regular := by
  intro ts hs
  obtain rfl := spells_empty.mp hs
  exact ⟨nofun, balanced_nil⟩

theorem regular_fail (cause : Unprintable) (loc : Loc) : (fail cause loc).Regular :=
  fun _ hs => absurd hs not_spells_fail

/-- A fragment that is plain and no parenthesis. -/
theorem regular_ofFragment {f : Fragment} (hp : f.token.isPlain = true)
    (hb : f.token.lexemes.all (fun l => l != sign '(' && l != sign ')') = true) :
    (ofFragment f).Regular := by
  intro ts hs
  obtain rfl := spells_ofFragment.mp hs
  refine ⟨?_, ?_⟩
  · intro t ht
    rw [List.mem_singleton.mp ht]
    exact hp
  · rw [lexemes_singleton]
    exact balanced_of_noParens hb

theorem regular_keyword {w : String} (h : (Token.word w).isPlain = true) : (keyword w).Regular :=
  regular_ofFragment h rfl

theorem regular_identifier {name : String} (h : isIdentifierName name = true) :
    (identifier name).Regular := by
  refine regular_ofFragment ?_ rfl
  unfold isIdentifierName at h
  simp only [Fragment.token, Token.isPlain]
  split at h
  · cases h
  · next c rest hname =>
      simp only [Bool.and_eq_true] at h
      simp [hname, h.1.1, h.2]

theorem regular_quoted (value : String) : (quoted value).Regular := regular_ofFragment rfl rfl

theorem regular_number {text : List Char} (h : isNumeral text = true) :
    (number (String.ofList text)).Regular := by
  refine regular_ofFragment (by simpa [Fragment.token, Token.isPlain] using h) ?_
  simp only [Fragment.token, Token.lexemes, String.toList_ofList]
  obtain ⟨_, hl⟩ | ⟨_, _, _, _, _, hl⟩ := numeral_cases h
  · rw [hl]
    rfl
  · rw [hl]
    rfl

theorem Regular.append {a b : Output} (ha : a.Regular) (hb : b.Regular) : (a ++ b).Regular := by
  intro ts hs
  obtain ⟨us, hu, vs, hv, rfl⟩ := spells_append.mp hs
  obtain ⟨hpu, hbu⟩ := ha us hu
  obtain ⟨hpv, hbv⟩ := hb vs hv
  refine ⟨?_, ?_⟩
  · intro t ht
    rcases List.mem_append.mp ht with h | h
    · exact hpu t h
    · exact hpv t h
  · rw [lexemes_append]
    exact hbu.append hbv

theorem Regular.parenthesized {o : Output} (h : o.Regular) : (parenthesized o).Regular := by
  intro ts hs
  obtain ⟨us, hu, rfl⟩ := spells_parenthesized.mp hs
  obtain ⟨hp, hb⟩ := h us hu
  refine ⟨?_, ?_⟩
  · intro t ht
    simp only [List.mem_append, List.mem_singleton] at ht
    rcases ht with (rfl | h) | rfl
    · rfl
    · exact hp t h
    · rfl
  · simp only [lexemes_append, lexemes_singleton]
    exact hb.parenthesized

theorem Regular.braced {o : Output} (h : o.Regular) : (braced o).Regular :=
  ((regular_ofFragment rfl rfl).append h).append (regular_ofFragment rfl rfl)

theorem regular_commaSeparated {os : List Output} (h : ∀ o ∈ os, o.Regular) :
    (commaSeparated os).Regular := by
  induction os with
  | nil => exact regular_empty
  | cons o os ih =>
      have ho := h o List.mem_cons_self
      have hrest := ih fun o' ho' => h o' (List.mem_cons_of_mem _ ho')
      cases os with
      | nil => exact ho
      | cons o' os => exact (ho.append (regular_ofFragment rfl rfl)).append hrest

end Output

/-! ### Numbers -/

/-- The text of a decimal is a numeral. -/
theorem Decimal.isNumeral_text (d : Decimal) : isNumeral d.text = true := by
  have hw := integerDigits_toDigits (d.coefficient / Nat.pow 10 d.places)
  unfold text isNumeral
  split
  · rw [List.takeWhile_eq_self_iff.mpr hw.isDigit, List.dropWhile_eq_nil_iff.mpr hw.isDigit]
    simp
  · next h =>
      have hf : ∀ c ∈ d.fractionDigits, c.isDigit = true :=
        fun _ hc => isDigit_of_mem_fractionDigits hc
      have hne : d.fractionDigits ≠ [] := h
      have hsplit := takeWhile_digits hw.isDigit ('.' :: d.fractionDigits) rfl
      rw [hsplit.1, hsplit.2]
      simpa [hw.ne_nil, hne] using hf

/-- The text of a finite number with positive sign is a numeral. -/
theorem Binary64.isNumeral_text {x : Binary64} (hf : x.isFinite = true)
    (hn : x.isNegative = false) : isNumeral x.text = true := by
  unfold text
  rw [not_isNaN_of_isFinite hf, not_isInfinite_of_isFinite hf, hn]
  cases x.isZero with
  | true => rfl
  | false => exact x.shortest.isNumeral_text

/-! ### What is printed -/

theorem Operator.regular_print (op : Operator) : op.print.Regular := by
  cases op <;> exact regular_ofFragment rfl rfl

theorem regular_mark {m : String} (h : m ∈ plainMarks) : (punct m).Regular := by
  have hplain : ∀ m ∈ plainMarks, (Token.mark m).isPlain = true := by decide
  have hparens : ∀ m ∈ plainMarks,
      (Token.mark m).lexemes.all (fun l => l != sign '(' && l != sign ')') = true := by decide
  exact regular_ofFragment (hplain m h) (hparens m h)

/-- Operators after their operand are written as marks. -/
theorem regular_trailing {a : Anchor} {op : Operator} {e : Expr}
    (h : readable.expr (.trailing a op e) = true) : (punct op.token).Regular := by
  have hop : op.isTrailing = true := h
  cases op with
  | postfixDecrement => exact regular_ofFragment rfl rfl
  | postfixIncrement => exact regular_ofFragment rfl rfl
  | _ => cases hop

theorem compositional_regular : Compositional readable Regular where
  empty := regular_empty
  fail := regular_fail
  append := Regular.append
  parenthesized := Regular.parenthesized
  braced := Regular.braced
  bracketed := fun h => ((regular_ofFragment rfl rfl).append h).append (regular_ofFragment rfl rfl)
  word := fun hne hw => regular_keyword (by simp [Token.isPlain, hne, hw])
  mark := regular_mark
  operator := Operator.regular_print
  trailing := regular_trailing
  name := fun h => regular_identifier (isPrintedName_iff.mp h).1
  property := regular_identifier
  number := fun {a _} h => by
    obtain ⟨hfinite, hpositive⟩ := (Expr.isReadable_number_iff (a := a)).mp h
    exact regular_number (Binary64.isNumeral_text hfinite hpositive)
  quoted := regular_quoted

theorem Expr.regular (e : Expr) (h : e.passes readable = true) : e.print.Regular :=
  e.holds_print compositional_regular h

theorem Params.regular (parameters : List Param) (h : Params.passes readable parameters = true) :
    ∀ o ∈ Params.outputs parameters, o.Regular :=
  Params.holds_outputs compositional_regular parameters h

theorem Stmts.regular (statements : List Stmt) (h : Stmts.passes readable statements = true) :
    (Stmts.print statements).Regular :=
  Stmts.holds_print compositional_regular statements h

end TypeProbe
