import TypeProbe.Proofs.Grammar.Binding

/-! # How the text of expressions begins and ends

Two places of the grammar look at single tokens of an expression:

* an expression statement must not begin like a block or a declaration, and the expression of an
  arrow function not like a block (`Expr.begins_print`);
* a point after a numeral of digits belongs to the numeral (`Expr.endsInInteger_wrap`).

The first token is found by following the operand that is written first, as far as it has no
parentheses (`Expr.beginsAs_print`); what carries the induction is that more tokens after it change
nothing. -/

namespace TypeProbe

open Grammar Output Token

/-! ### First tokens -/

/-- The tokens that an expression may begin with which is not a function, if its names pass the
check. -/
inductive FirstToken (k : Check) : Token → Prop
  | name {w : String} : k.name w = true → FirstToken k (word w)
  | operator (op : Operator) : FirstToken k op.sign
  | keyword {w : String} : w ∈ ["this", "true", "false", "null"] → FirstToken k (word w)
  | bracket {m : String} : m ∈ ["(", "["] → FirstToken k (mark m)
  | numeral (x : Binary64) : FirstToken k (numeral (String.ofList x.text))
  | quoted (value : String) : FirstToken k (quoted value)

/-- How the tokens of an expression begin, with a `function` expression or not. -/
inductive BeginsAs (k : Check) : Bool → List Token → Prop
  | function (rest : List Token) : BeginsAs k true (word "function" :: rest)
  | asyncFunction (rest : List Token) : BeginsAs k true (word "async" :: word "function" :: rest)
  | asyncArrow (rest : List Token) : BeginsAs k false (word "async" :: mark "(" :: rest)
  | other {t : Token} (rest : List Token) : FirstToken k t → BeginsAs k false (t :: rest)

section first

variable {k : Check}

theorem BeginsAs.append {function : Bool} {ts : List Token} (h : BeginsAs k function ts)
    (us : List Token) : BeginsAs k function (ts ++ us) := by
  cases h with
  | function rest => exact .function (rest ++ us)
  | asyncFunction rest => exact .asyncFunction (rest ++ us)
  | asyncArrow rest => exact .asyncArrow (rest ++ us)
  | other rest ht => exact .other (rest ++ us) ht

namespace Expr

theorem beginsAs_wrap {e : Expr} {n : Nat} {ts : List Token}
    (hb : ∀ ts, e.print.Spells ts → BeginsAs k e.startsWithFunction ts)
    (h : (e.wrap n e.print).Spells ts) :
    BeginsAs k (decide (n ≤ e.precedence) && e.startsWithFunction) ts := by
  unfold wrap at h
  split at h
  · next hlt =>
      obtain ⟨us, _, rfl⟩ := spells_parenthesized.mp h
      rw [decide_eq_false (Nat.not_le.mpr hlt)]
      exact .other _ (.bracket (by decide))
  · next hge =>
      rw [decide_eq_true (Nat.not_lt.mp hge), Bool.true_and]
      exact hb ts h

/-- **How the text of an expression begins.** -/
theorem beginsAs_print : (e : Expr) → e.passes k = true → ∀ ts, e.print.Spells ts →
    BeginsAs k e.startsWithFunction ts
  | .arrow _ ⟨_, _, async, _, _, _, _⟩, _ => by
      intro ts hs
      obtain ⟨_, _, hsignature, _, _, rfl⟩ := spells_arrow hs
      obtain ⟨_, hparameters, _, _, rfl⟩ := spells_append.mp hsignature
      obtain ⟨_, _, rfl⟩ := spells_parenthesized.mp hparameters
      cases async with
      | true => exact .asyncArrow _
      | false => exact .other _ (.bracket (by decide))
  | .binary a op l r, h => by
      intro ts hs
      simp only [passes, Bool.and_eq_true] at h
      obtain ⟨⟨_, hl⟩, _⟩ := h
      obtain ⟨us, hu, _, _, rfl⟩ := spells_binary hs
      exact ((beginsAs_wrap (beginsAs_print l hl) hu).append _).append _
  | .call _ ⟨_, callee, _⟩, h => by
      intro ts hs
      simp only [passes, Call.passes, Bool.and_eq_true] at h
      obtain ⟨_, hc, _⟩ := h
      obtain ⟨us, hu, _, _, rfl⟩ := spells_call hs
      exact ((beginsAs_wrap (beginsAs_print callee hc) hu).append _).append _
  | .index _ _ object _, h => by
      intro ts hs
      simp only [passes, Bool.and_eq_true] at h
      obtain ⟨⟨_, ho⟩, _⟩ := h
      obtain ⟨us, hu, _, _, rfl⟩ := spells_index hs
      exact ((((beginsAs_wrap (beginsAs_print object ho) hu).append _).append _).append _).append _
  | .conditional _ test _ _, h => by
      intro ts hs
      simp only [passes, Bool.and_eq_true] at h
      obtain ⟨⟨⟨_, ht⟩, _⟩, _⟩ := h
      obtain ⟨us, hu, _, _, _, _, rfl⟩ := spells_conditional hs
      exact ((((beginsAs_wrap (beginsAs_print test ht) hu).append _).append _).append _).append _
  | .function _ name ⟨_, _, async, _, _, _, body⟩, _ => by
      intro ts hs
      cases body with
      | expr spot value => exact absurd hs not_spells_fail
      | block spot statements =>
          obtain ⟨_, _, _, _, rfl⟩ := Func.spells_printFunction rfl hs
          cases async with
          | true => exact .asyncFunction _
          | false => exact .function _
  | .ident _ name, h => by
      intro ts hs
      simp only [passes, Bool.and_eq_true] at h
      obtain rfl := spells_identifier.mp hs
      exact .other _ (.name h.2)
  | .member _ _ object _, h => by
      intro ts hs
      simp only [passes, Bool.and_eq_true] at h
      obtain ⟨⟨_, ho⟩, _⟩ := h
      obtain ⟨us, hu, rfl⟩ := spells_member hs
      obtain ⟨vs, hv, _, _, rfl⟩ := spells_append.mp hu
      exact (((beginsAs_wrap (beginsAs_print object ho) hv).append _).append _).append _
  | .this _, _ => by
      intro ts hs
      obtain rfl := spells_keyword.mp hs
      exact .other _ (.keyword (by decide))
  | .unary _ op argument, _ => by
      intro ts hs
      obtain ⟨us, rfl⟩ := spells_unary hs
      exact .other us (.operator op)
  | .trailing _ _ argument, h => by
      intro ts hs
      simp only [passes, Bool.and_eq_true] at h
      obtain ⟨us, hu, rfl⟩ := spells_trailing hs
      exact (beginsAs_wrap (beginsAs_print argument h.2) hu).append _
  | .array _ _, _ => by
      intro ts hs
      obtain ⟨_, _, rfl⟩ := spells_array hs
      exact .other _ (.bracket (by decide))
  | .boolean _ value, _ => by
      intro ts hs
      obtain rfl := spells_keyword.mp hs
      cases value <;> exact .other _ (.keyword (by decide))
  | .null _, _ => by
      intro ts hs
      obtain rfl := spells_keyword.mp hs
      exact .other _ (.keyword (by decide))
  | .number _ value, _ => by
      intro ts hs
      obtain rfl := spells_number.mp hs
      exact .other _ (.numeral value)
  | .string _ value, _ => by
      intro ts hs
      obtain rfl := spells_quoted.mp hs
      exact .other _ (.quoted value)

end Expr

end first

/-! ### What a statement may begin with -/

/-- Whether tokens begin as an expression may, with `function` or not.  A leading `async` has to
be that of an arrow function unless `function` is allowed. -/
def begins (function : Bool) : List Token → Bool
  | [] => false
  | word w :: rest =>
      w != "class" && w != "let" &&
        (function || (w != "function" && (w != "async" || rest.head? == some (mark "("))))
  | mark m :: _ => m != "\x7b"
  | _ => true

/-- An expression statement may begin so. -/
theorem beginsOtherwise_of_begins {ts : List Token} (h : begins false ts = true) :
    beginsOtherwise ts = false := by
  cases ts with
  | nil => cases h
  | cons t rest =>
      cases t with
      | word w =>
          simp only [begins, Bool.and_eq_true, bne_iff_ne, ne_eq, Bool.false_or,
            Bool.or_eq_true, beq_iff_eq] at h
          obtain ⟨⟨hclass, hlet⟩, hfunction, hasync⟩ := h
          have hnext : (w == "async" && rest.head? == some (word "function")) = false := by
            rcases hasync with ha | hp
            · rw [beq_false_of_ne ha, Bool.false_and]
            · rw [hp, Bool.and_eq_false_iff]
              exact .inr (by decide)
          simp only [beginsOtherwise, beq_false_of_ne hclass, beq_false_of_ne hlet,
            beq_false_of_ne hfunction, hnext, Bool.false_and, Bool.or_false]
      | mark m => simpa [begins, beginsOtherwise] using h
      | _ => rfl

/-- The expression of an arrow function may begin so. -/
theorem head_ne_brace_of_begins {function : Bool} {ts : List Token}
    (h : begins function ts = true) : ts.head? ≠ some (mark "\x7b") := by
  cases ts with
  | nil => cases h
  | cons t rest =>
      intro ht
      obtain rfl := Option.some.inj ht
      cases h

namespace Expr

theorem begins_ident {name : String} (h : isFreeName name = true) (rest : List Token) :
    begins false (word name :: rest) = true := by
  have hclass := ne_of_check h (y := "class") (by decide)
  have hlet := ne_of_check h (y := "let") (by decide)
  have hfunction := ne_of_check h (y := "function") (by decide)
  have hasync := ne_of_check h (y := "async") (by decide)
  simp only [begins, bne_iff_ne.mpr hclass, bne_iff_ne.mpr hlet, bne_iff_ne.mpr hfunction,
    bne_iff_ne.mpr hasync]
  rfl

theorem begins_sign (op : Operator) (rest : List Token) :
    begins false (op.sign :: rest) = true := by
  cases op <;> rfl

/-- The first token of an expression is none that a block or a declaration begins with. -/
theorem begins_of_firstToken {t : Token} (h : FirstToken wellPlaced t) (rest : List Token) :
    begins false (t :: rest) = true := by
  cases h with
  | name hname => exact begins_ident hname rest
  | operator op => exact begins_sign op rest
  | keyword hw =>
      simp only [List.mem_cons, List.not_mem_nil, or_false] at hw
      rcases hw with rfl | rfl | rfl | rfl <;> rfl
  | bracket hm =>
      simp only [List.mem_cons, List.not_mem_nil, or_false] at hm
      rcases hm with rfl | rfl <;> rfl
  | numeral | quoted => rfl

theorem begins_of_beginsAs {function : Bool} {ts : List Token}
    (h : BeginsAs wellPlaced function ts) : begins function ts = true := by
  cases h with
  | other rest ht => exact begins_of_firstToken ht rest
  | _ => rfl

theorem begins_print {e : Expr} (h : e.passes wellPlaced = true) {ts : List Token}
    (hs : e.print.Spells ts) : begins e.startsWithFunction ts = true :=
  begins_of_beginsAs (beginsAs_print e h ts hs)

/-! ### Last tokens -/

theorem endsInInteger_append (ts us : List Token) (t : Token) :
    endsInInteger (ts ++ (us ++ [t])) = endsInInteger [t] := by
  unfold endsInInteger
  rw [← List.append_assoc, List.getLast?_concat]
  rfl

theorem precedence_lt_callMember (op : Operator) : op.precedence < Precedence.callMember := by
  cases op <;> decide

/-- Only numerals end in a numeral, among expressions that may stand before a link. -/
theorem endsInInteger_print {e : Expr} {ts : List Token} (hp : Precedence.callMember ≤ e.precedence)
    (hn : ∀ a value, e ≠ .number a value) (h : e.print.Spells ts) :
    endsInInteger ts = false := by
  cases e with
  | arrow a f => exact absurd hp (Nat.not_le.mpr (Nat.le_of_ble_eq_true rfl))
  | binary a op l r => exact absurd hp (Nat.not_le.mpr (precedence_lt_callMember op))
  | call a c =>
      obtain ⟨optional, callee, arguments⟩ := c
      obtain ⟨_, _, _, _, rfl⟩ := spells_call h
      exact endsInInteger_append _ _ _
  | index a optional object key =>
      obtain ⟨_, _, _, _, rfl⟩ := spells_index h
      exact endsInInteger_append _ [] _
  | conditional a t c e => exact absurd hp (Nat.not_le.mpr (Nat.le_of_ble_eq_true rfl))
  | function a name f =>
      obtain ⟨_, _, _, _, _, _, body⟩ := f
      cases body with
      | expr spot value => exact absurd h not_spells_fail
      | block spot statements =>
          obtain ⟨_, _, _, _, rfl⟩ := Func.spells_printFunction rfl h
          exact endsInInteger_append _ _ _
  | ident a name =>
      obtain rfl := spells_identifier.mp h
      rfl
  | member a optional object property =>
      obtain ⟨_, _, rfl⟩ := spells_member h
      exact endsInInteger_append _ [] _
  | this a =>
      obtain rfl := spells_keyword.mp h
      rfl
  | unary a op e => exact absurd hp (Nat.not_le.mpr (precedence_lt_callMember op))
  | trailing a op e => exact absurd hp (Nat.not_le.mpr (Nat.le_of_ble_eq_true rfl))
  | array a elements =>
      obtain ⟨_, _, rfl⟩ := spells_array h
      exact endsInInteger_append _ [] _
  | boolean a value =>
      obtain rfl := spells_keyword.mp h
      rfl
  | null a =>
      obtain rfl := spells_keyword.mp h
      rfl
  | number a value => exact absurd rfl (hn a value)
  | string a value =>
      obtain rfl := spells_quoted.mp h
      rfl

theorem endsInInteger_wrap {e : Expr} {ts : List Token}
    (hn : ∀ a value, e ≠ .number a value) (h : (e.wrap Precedence.callMember e.print).Spells ts) :
    endsInInteger ts = false := by
  unfold wrap at h
  split at h
  · obtain ⟨us, _, rfl⟩ := spells_parenthesized.mp h
    exact endsInInteger_append _ [] _
  · next hge => exact endsInInteger_print (Nat.not_lt.mp hge) hn h

end Expr

end TypeProbe
