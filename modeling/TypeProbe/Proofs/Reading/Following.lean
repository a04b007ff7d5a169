import TypeProbe.Proofs.Grammar.Edges
import TypeProbe.Proofs.Reading.Opening

/-! # What may follow an expression

An expression is read to its end if what comes after it is not read as part of it.

* **On the right**, an expression takes everything that binds at least as tightly as its last
  operand is read (`Expr.tight`); text may follow if it does not begin with such a link
  (`Follows`), nor with what would make a parenthesis before it a list of parameters.
* **On the left**, an expression is read in one piece at the levels up to the loosest link on its
  left edge (`Expr.reach`).

Operands that stand without parentheses keep to both: `Expr.precedence_lt_tight` for the operator
after a left operand, `Expr.precedence_le_tight` and `Expr.precedence_le_reach` for all others. -/

namespace TypeProbe

open Grammar Lexeme

/-! ### Links -/

theorem eq_of_after? {c : Char} {ls rest : List Lexeme} (h : after? c ls = some rest) :
    ls = sign c :: rest := by
  unfold after? at h
  split at h
  · next d more =>
      split at h
      · next hd => rw [hd, Option.some.inj h]
      · cases h
  · cases h

theorem after?_of_opens {ls : List Lexeme} (h : opens ls = true) {c : Char}
    (hc : (sign c).isOpener = false) : after? c ls = none := by
  obtain ⟨l, ms, rfl, hl⟩ := exists_cons_of_opens h
  cases l with
  | sign d =>
      have hne : d ≠ c := fun hd => ne_of_check hl hc (congrArg sign hd)
      exact if_neg hne
  | _ => rfl

/-- An operator and the text of its right operand after it. -/
theorem link?_sign {op : Operator} (hop : op.isInfix = true) {ls : List Lexeme}
    (h : opens ls = true) : link? (op.sign.lexemes ++ ls) = some (.between op, ls) := by
  obtain ⟨l, ms, rfl, hl⟩ := exists_cons_of_opens h
  cases l with
  | sign c =>
      simp only [isOpener, List.contains_eq_mem, List.mem_cons, List.not_mem_nil, or_false,
        decide_eq_true_eq] at hl
      rcases hl with rfl | rfl | rfl | rfl | rfl <;> cases op <;> first | rfl | cases hop
  | _ => cases op <;> first | rfl | cases hop

/-- A question mark and the text of an expression after it. -/
theorem link?_question {ls : List Lexeme} (h : opens ls = true) :
    link? (sign '?' :: ls) = some (.test, ls) := by
  obtain ⟨l, ms, rfl, hl⟩ := exists_cons_of_opens h
  cases l with
  | sign c =>
      simp only [isOpener, List.contains_eq_mem, List.mem_cons, List.not_mem_nil, or_false,
        decide_eq_true_eq] at hl
      rcases hl with rfl | rfl | rfl | rfl | rfl <;> rfl
  | _ => rfl

/-! ### What may follow -/

/-- What is not read as part of an expression that takes everything from a level on. -/
structure Follows (n : Nat) (ls : List Lexeme) : Prop where
  stops : ∀ link rest, link? ls = some (link, rest) → link.precedence < n
  noArrow : arrowAfter ls = false
  typeEnds : typeTail ls = false

theorem Follows.mono {m n : Nat} {ls : List Lexeme} (h : Follows m ls) (hmn : m ≤ n) :
    Follows n ls :=
  ⟨fun link rest hl => Nat.lt_of_lt_of_le (h.stops link rest hl) hmn, h.noArrow, h.typeEnds⟩

/-- The sign of a link that is tight enough does not come next. -/
theorem Follows.after?_eq_none {n : Nat} {c : Char} {ls : List Lexeme} (h : Follows n ls)
    (l : Link) (hl : ∀ rest, link? (sign c :: rest) = some (l, rest)) (hn : n ≤ l.precedence) :
    after? c ls = none := by
  cases hafter : after? c ls with
  | none => rfl
  | some rest =>
      obtain rfl := eq_of_after? hafter
      exact absurd (h.stops l rest (hl rest)) (Nat.not_lt.mpr hn)

/-- What begins with a link follows whatever the link is too loose for. -/
theorem follows_link {n : Nat} {ls rest : List Lexeme} {link : Link}
    (hl : link? ls = some (link, rest)) (hn : link.precedence < n) (ha : arrowAfter ls = false)
    (ht : typeTail ls = false) : Follows n ls := by
  refine ⟨fun link' rest' h => ?_, ha, ht⟩
  rw [hl] at h
  obtain ⟨rfl, -⟩ := Prod.mk.inj (Option.some.inj h)
  exact hn

/-- The signs that close something follow everything. -/
theorem follows_close {c : Char} (hc : c ∈ [')', ']', '\x7d', ';']) (n : Nat)
    (ls : List Lexeme) : Follows n (sign c :: ls) := by
  simp only [List.mem_cons, List.not_mem_nil, or_false] at hc
  have hlink : link? (sign c :: ls) = none := by
    rcases hc with rfl | rfl | rfl | rfl <;> rfl
  refine ⟨fun link rest h => ?_, ?_, ?_⟩
  · rw [hlink] at h
    cases h
  · rcases hc with rfl | rfl | rfl | rfl <;> rfl
  · rcases hc with rfl | rfl | rfl | rfl <;> rfl

theorem follows_comma {n : Nat} (hn : Precedence.assignment ≤ n) {ls : List Lexeme}
    (h : typeTail ls = false) : Follows n (sign ',' :: ls) :=
  have hlink : link? (sign ',' :: ls) = some (.between .comma, ls) := rfl
  follows_link hlink hn rfl h

theorem follows_colon {ls : List Lexeme} (h : typeTail ls = false) (n : Nat) :
    Follows n (sign ':' :: ls) :=
  ⟨nofun, h, rfl⟩

theorem follows_question {n : Nat} (hn : Precedence.assignment < n) {ls : List Lexeme}
    (h : opens ls = true) : Follows n (sign '?' :: ls) :=
  follows_link (link?_question h) hn rfl rfl

theorem arrowAfter_equals {l : Lexeme} (h : l ≠ sign '>') (ls : List Lexeme) :
    arrowAfter (sign '=' :: l :: ls) = false := by
  cases l with
  | sign c =>
      have hc : c ≠ '>' := fun hc => h (congrArg sign hc)
      simp [arrowAfter, hc]
  | _ => rfl

/-- An operator that binds looser follows, together with its right operand. -/
theorem follows_sign {n : Nat} {op : Operator} (hop : op.isInfix = true) (hn : op.precedence < n)
    {function : Bool} {ls rest : List Lexeme} (h : Opening function ls)
    (ht : typeTail rest = false) : Follows n (op.sign.lexemes ++ (ls ++ rest)) := by
  have hopens := h.opens rest
  obtain ⟨l, ms, hls, hl⟩ := exists_cons_of_opens hopens
  refine follows_link (link?_sign hop hopens) hn ?_ ?_
  · have hassign := arrowAfter_equals (ne_of_check hl rfl) ms
    rw [hls]
    cases op <;> first | rfl | exact hassign
  · rw [← List.append_assoc]
    exact arrowFree_sign op h rest ht

/-! ### Levels of expressions -/

namespace Expr

/-- The level that what is written last in an expression is read at; what follows the expression
has to bind looser.  Digits take even the point of a member access. -/
def tight : Expr → Nat
  | arrow .. | conditional .. => Precedence.assignment
  | binary _ op _ _ => op.rightPrecedence
  | unary _ op _ => if op = .new then Precedence.callMember else Precedence.unary
  | e@(number ..) => if e.isInteger then Precedence.primary + 1 else Precedence.primary + 2
  | _ => Precedence.primary + 2

/-- The tightest level at which an expression is read in one piece. -/
def reach : Expr → Nat
  | binary _ op _ _ => op.precedence
  | conditional .. => Precedence.assignment
  | call .. => Precedence.callMember
  | e@(index ..) => if e.hasCallInChain then Precedence.callMember else Precedence.primary
  | e@(member ..) => if e.hasCallInChain then Precedence.callMember else Precedence.primary
  | trailing .. => Precedence.trailing
  | _ => Precedence.primary + 2

theorem precedence_le_rightPrecedence (op : Operator) : op.precedence ≤ op.rightPrecedence := by
  unfold Operator.rightPrecedence
  split <;> omega

theorem primary_lt_tight_number (a : Anchor) (value : Binary64) :
    Precedence.primary < (number a value).tight := by
  show Precedence.primary < if _ then _ else _
  split <;> decide

theorem precedence_number_le (a : Anchor) (value : Binary64) :
    (number a value).precedence ≤ Precedence.primary := by
  show (if _ then _ else _) ≤ Precedence.primary
  split <;> decide

theorem precedence_le_tight {e : Expr} (h : e.isReadable = true) : e.precedence ≤ e.tight := by
  cases e with
  | binary a op l r => exact precedence_le_rightPrecedence op
  | unary a op e => cases op <;> first | exact Nat.le_of_ble_eq_true rfl | cases h
  | number a value =>
      exact (precedence_number_le a value).trans (primary_lt_tight_number a value).le
  | _ => exact Nat.le_of_ble_eq_true rfl

theorem precedence_le_reach {e : Expr} : e.precedence ≤ e.reach := by
  have hchain (e : Expr) : Precedence.callMember ≤
      if e.hasCallInChain then Precedence.callMember else Precedence.primary := by
    split <;> decide
  cases e with
  | binary a op l r => exact le_rfl
  | unary a op e => exact (precedence_lt_callMember op).le.trans (Nat.le_of_ble_eq_true rfl)
  | number a value => exact (precedence_number_le a value).trans (Nat.le_of_ble_eq_true rfl)
  | index a optional object key => exact hchain _
  | member a optional object property => exact hchain _
  | _ => exact Nat.le_of_ble_eq_true rfl

/-- An operator that takes its right operand from a tighter level is looser than what is taken by
an operator that stands on its left. -/
theorem precedence_lt_rightPrecedence {op op' : Operator} (hop : op.isInfix = true)
    (hop' : op'.isInfix = true) (ha : op.associativity = .left)
    (h : op.precedence ≤ op'.precedence) : op.precedence < op'.rightPrecedence := by
  have hall : ∀ op ∈ Operator.all, ∀ op' ∈ Operator.all, op.isInfix = true → op'.isInfix = true →
      op.associativity = .left → op.precedence ≤ op'.precedence →
        op.precedence < op'.rightPrecedence := by decide
  exact hall op op.mem_all op' op'.mem_all hop hop' ha h

/-- A left operand is at least as tight as the operator, and tighter if that groups to the
right. -/
theorem precedence_le_leftMin {op : Operator} (hop : op.isInfix = true) (l : Expr) :
    op.precedence < op.leftMin l ∨ (op.associativity = .left ∧ op.precedence ≤ op.leftMin l) := by
  have hbound : op.precedence < Precedence.unary := by
    cases op <;> first | decide | cases hop
  unfold Operator.leftMin
  split
  · exact .inl (hbound.trans (by decide))
  · split
    · exact .inl (hbound.trans (by decide))
    · split
      · next ha => exact .inr ⟨ha, le_rfl⟩
      · exact .inl (Nat.lt_succ_self _)

/-- The operator after a left operand without parentheses is looser than what the operand takes. -/
theorem precedence_lt_tight {op : Operator} {l : Expr} (hop : op.isInfix = true)
    (hl : l.isReadable = true) (h : op.leftMin l ≤ l.precedence) : op.precedence < l.tight := by
  rcases precedence_le_leftMin hop l with hlt | ⟨ha, hle⟩
  · exact (hlt.trans_le h).trans_le (precedence_le_tight hl)
  have hle := hle.trans h
  have hbound : op.precedence < Precedence.unary := by
    cases op <;> first | decide | cases hop
  have hassign (hp : op.precedence ≤ Precedence.assignment) :
      op.precedence < Precedence.assignment := by
    revert hop ha hp
    cases op <;> decide
  cases l with
  | binary a op' l r => exact precedence_lt_rightPrecedence hop hl ha hle
  | arrow a f => exact hassign hle
  | conditional a t c e => exact hassign hle
  | unary a op' e =>
      refine hbound.trans_le ?_
      show Precedence.unary ≤ if _ then _ else _
      split <;> decide
  | number a value => exact (hbound.trans (by decide)).trans (primary_lt_tight_number a value)
  | _ => exact hbound.trans_le (Nat.le_of_ble_eq_true rfl)

/-- The object of a link is read in one piece wherever the link is. -/
theorem reach_object {object : Expr} (h : Precedence.callMember ≤ object.precedence) :
    (if object.hasCallInChain then Precedence.callMember else Precedence.primary) ≤
      object.reach := by
  cases object with
  | binary a op l r => exact absurd h (Nat.not_le.mpr (precedence_lt_callMember op))
  | unary a op e => exact absurd h (Nat.not_le.mpr (precedence_lt_callMember op))
  | arrow a f => exact absurd h (Nat.not_le.mpr (Nat.le_of_ble_eq_true rfl))
  | conditional a t c e => exact absurd h (Nat.not_le.mpr (Nat.le_of_ble_eq_true rfl))
  | trailing a op e => exact absurd h (Nat.not_le.mpr (Nat.le_of_ble_eq_true rfl))
  | index a optional object key => exact le_rfl
  | member a optional object property => exact le_rfl
  | _ => exact Nat.le_of_ble_eq_true rfl

/-- What `new` constructs is read in one piece in front of the arguments. -/
theorem primary_le_reach {e : Expr} (h : e.constructorMin ≤ e.precedence) :
    Precedence.primary ≤ e.reach := by
  have hchain : e.constructorMin ≤ Precedence.callMember → e.hasCallInChain = false := by
    intro hle
    unfold constructorMin at hle
    split at hle
    · exact absurd hle (by decide)
    · next hc => exact Bool.not_eq_true _ ▸ hc
  have hmin : Precedence.callMember ≤ e.constructorMin := by
    unfold constructorMin
    split <;> decide
  have hreach := reach_object (hmin.trans h)
  cases e with
  | call a c => exact absurd (hchain h) nofun
  | index a optional object key =>
      rw [hchain h] at hreach
      exact hreach
  | member a optional object property =>
      rw [hchain h] at hreach
      exact hreach
  | _ => exact hreach

/-- What may stand before a link does not take it, unless the link is the point of a member access
and might be part of a numeral. -/
theorem primary_lt_tight {e : Expr} (h : Precedence.callMember ≤ e.precedence) :
    Precedence.primary < e.tight ∧ (e.isInteger = false → Precedence.primary + 1 < e.tight) := by
  cases e with
  | binary a op l r => exact absurd h (Nat.not_le.mpr (precedence_lt_callMember op))
  | unary a op e => exact absurd h (Nat.not_le.mpr (precedence_lt_callMember op))
  | arrow a f => exact absurd h (Nat.not_le.mpr (Nat.le_of_ble_eq_true rfl))
  | conditional a t c e => exact absurd h (Nat.not_le.mpr (Nat.le_of_ble_eq_true rfl))
  | number a value =>
      refine ⟨primary_lt_tight_number a value, fun hi => ?_⟩
      show _ < if _ then _ else _
      rw [hi]
      decide
  | _ => exact ⟨Nat.le_of_ble_eq_true rfl, fun _ => Nat.le_of_ble_eq_true rfl⟩

end Expr

end TypeProbe
