import TypeProbe.Proofs.Grammar.Placement
import TypeProbe.Proofs.Grammar.Spelling

/-! # Precedences and nonterminals

Printing goes by precedences, the grammar by nonterminals.  `Expr.level` is the nonterminal that
the text of an expression belongs to when it stands without parentheses.  An expression that
binds tightly enough for its place is of a nonterminal that the place admits
(`Expr.level_within`), apart from the operands of `||` and `??` and the links of chains, which need
more than a precedence; and what stands in parentheses fits everywhere (`Expr.derives_wrap`). -/

namespace TypeProbe

open Grammar Output

/-! ### Nonterminals and precedences -/

namespace Grammar.Level

/-- The greatest precedence that expressions of a nonterminal are known to have. -/
def precedence : Level → Nat
  | expression => 1
  | assignment | conditional => 2
  | shortCircuit | coalesce | logicalOr => 3
  | logicalAnd => 4
  | bitwiseOr => 5
  | bitwiseXor => 6
  | bitwiseAnd => 7
  | equality => 8
  | relational => 9
  | shift => 10
  | additive => 11
  | multiplicative => 12
  | exponentiation => 13
  | unary => 14
  | update => 15
  | leftHandSide | new => 16
  | member | call | optional => 17
  | primary => 18

theorem within_ofPrecedence (l : Level) : ∀ n ≤ l.precedence, l.within (ofPrecedence n) = true := by
  cases l <;> decide

theorem within_expression (l : Level) : l.within .expression = true := by
  cases l <;> rfl

theorem primary_within_ofPrecedence (n : Nat) : primary.within (ofPrecedence n) = true := by
  rcases Nat.lt_or_ge 18 n with h | h
  · have hn : ofPrecedence n = primary := by
      unfold ofPrecedence
      split <;> first | omega | rfl
    rw [hn]
    rfl
  · exact within_ofPrecedence primary n h

/-- The nonterminal of a link, given that of the expression it is applied to. -/
def linked (call optional : Bool) (object : Level) : Level :=
  if optional || object == .optional then .optional
  else if call || object == .call then .call
  else .member

/-- What stands before a link: a call, an optional chain or something that becomes a member
expression. -/
def chained : Level → Level
  | .call => .call
  | .optional => .optional
  | _ => .member

theorem linkRule (call optional : Bool) (object : Level) :
    LinkRule call optional object.chained (object.linked call optional) := by
  cases object <;> cases call <;> cases optional <;> constructor

theorem precedence_linked (call optional : Bool) (object : Level) :
    (object.linked call optional).precedence = 17 := by
  unfold linked
  split
  · rfl
  · split <;> rfl

theorem linked_eq_optional {call optional : Bool} {object : Level} :
    object.linked call optional = .optional ↔ optional = true ∨ object = .optional := by
  unfold linked
  cases optional <;> cases call <;> cases object <;> decide

theorem eq_call_of_linked {optional : Bool} {object : Level}
    (h : object.linked false optional = .call) : object = .call := by
  revert h
  cases optional <;> cases object <;> decide

theorem chained_eq_optional {l : Level} : l.chained = .optional ↔ l = .optional := by
  cases l <;> decide

end Grammar.Level

/-! ### Operators -/

namespace Operator

/-- The nonterminal of an operator applied to operands. -/
def level : Operator → Level
  | comma => .expression
  | assignment | assignmentAddition | assignmentSubtraction => .assignment
  | nullishCoalescing => .coalesce
  | logicalOr => .logicalOr
  | logicalAnd => .logicalAnd
  | equality | inequality | strictEquality | strictInequality => .equality
  | lessThan | lessThanOrEqual | greaterThan | greaterThanOrEqual | membership | instanceof =>
      .relational
  | addition | subtraction => .additive
  | multiplication | division | remainder => .multiplicative
  | exponentiation => .exponentiation
  | await | logicalNot | typeof | unaryNegation | unaryPlus | void => .unary
  | prefixDecrement | prefixIncrement | postfixDecrement | postfixIncrement => .update
  | new => .new

/-- The nonterminal on the left of an infix operator. -/
def leftLevel (op : Operator) : Level := if op = exponentiation then .update else op.level

/-- The nonterminal on the right of an infix operator. -/
def rightLevel (op : Operator) : Level :=
  match op.level with
  | .expression => .assignment
  | .logicalOr => .logicalAnd
  | .coalesce | .logicalAnd => .bitwiseOr
  | .equality => .relational
  | .relational => .shift
  | .additive => .multiplicative
  | .multiplicative => .exponentiation
  | l => l

/-- Apart from `??` and `||`, precedences say what the grammar wants on the right … -/
theorem ofPrecedence_right {op : Operator} (hi : op.isInfix = true)
    (hop : op ≠ nullishCoalescing) :
    Level.ofPrecedence
        (match op.associativity with
          | .left => op.precedence + 1
          | .right => op.precedence) = op.rightLevel := by
  revert hi hop
  cases op <;> decide

/-- … and on the left. -/
theorem ofPrecedence_left {op : Operator} (hi : op.isInfix = true) (ha : op.isAssignment = false)
    (hop : op ≠ nullishCoalescing) (hor : op ≠ logicalOr) :
    Level.ofPrecedence
        (if op = exponentiation then Precedence.trailing
          else match op.associativity with
            | .left => op.precedence
            | .right => op.precedence + 1) = op.leftLevel := by
  revert hi ha hop hor
  cases op <;> decide

theorem precedence_le_level (op : Operator) : op.precedence ≤ op.level.precedence := by
  cases op <;> decide

/-- Operators do not make optional chains. -/
theorem level_ne_optional (op : Operator) : op.level ≠ .optional := by
  cases op <;> decide

theorem precedence_level_of_isLeading (op : Operator) :
    op.isLeading = true → 14 ≤ op.level.precedence := by
  cases op <;> decide

theorem level_of_isLeadingUpdate {op : Operator} (hu : op.isLeadingUpdate = true) :
    op.level = .update := by
  revert hu
  cases op <;> decide

theorem level_of_isLeading {op : Operator} (hl : op.isLeading = true) (hn : op ≠ new)
    (hu : op.isLeadingUpdate = false) : op.level = .unary := by
  revert hl hn hu
  cases op <;> decide

theorem infixRule {op : Operator} (hi : op.isInfix = true) (ha : op.isAssignment = false) :
    InfixRule op op.sign op.level op.leftLevel op.rightLevel := by
  cases op <;>
    first
    | exact absurd hi (by decide)
    | exact absurd ha (by decide)
    | exact InfixRule.coalesceMore
    | constructor

theorem assignmentRule {op : Operator} (ha : op.isAssignment = true) :
    AssignmentRule op op.sign := by
  cases op <;> first | exact absurd ha (by decide) | constructor

theorem leadingRule {op : Operator} (hl : op.isLeading = true) (hn : op ≠ new)
    (hu : op.isLeadingUpdate = false) : LeadingRule op op.sign := by
  cases op <;>
    first
    | exact absurd hl (by decide)
    | exact absurd hu (by decide)
    | exact absurd rfl hn
    | constructor

theorem leadingUpdateRule {op : Operator} (hu : op.isLeadingUpdate = true) :
    LeadingUpdateRule op op.sign := by
  cases op <;> first | exact absurd hu (by decide) | constructor

theorem trailingUpdateRule {op : Operator} (ht : op.isTrailing = true) :
    TrailingUpdateRule op (.mark op.token) := by
  cases op <;> first | exact absurd ht (by decide) | constructor

end Operator

/-! ### Expressions -/

namespace Expr

/-- The nonterminal of an expression's text without parentheses. -/
def level : Expr → Level
  | arrow .. => .assignment
  | binary _ op _ _ => op.level
  | call _ ⟨optional, callee, _⟩ => callee.level.linked true optional
  | index _ optional object _ => object.level.linked false optional
  | conditional .. => .conditional
  | member _ optional object _ => object.level.linked false optional
  | unary _ op argument => if op = .new && argument.isCall then .member else op.level
  | trailing .. => .update
  | function .. | ident .. | this _ | array .. | boolean .. | null _ | number .. | string .. =>
      .primary

theorem precedence_le_level (e : Expr) : e.precedence ≤ e.level.precedence := by
  cases e with
  | binary a op l r => exact op.precedence_le_level
  | unary a op e =>
      unfold level
      split
      · next h =>
          rw [Bool.and_eq_true, decide_eq_true_iff] at h
          rw [h.1]
          exact Nat.le_succ 16
      · exact op.precedence_le_level
  | call a c =>
      obtain ⟨optional, callee, arguments⟩ := c
      exact (Level.precedence_linked true optional callee.level).symm.le
  | index a optional o k => exact (Level.precedence_linked false optional o.level).symm.le
  | member a optional o p => exact (Level.precedence_linked false optional o.level).symm.le
  | number a value =>
      show (if value.isNegative && !value.isNaN then 14 else 18) ≤ 18
      split
      · decide
      · decide
  | _ => exact Nat.le_of_ble_eq_true rfl

/-- **Precedences and nonterminals agree**: what binds tightly enough for a place is of a
nonterminal that the place admits. -/
theorem level_within {e : Expr} {n : Nat} (h : n ≤ e.precedence) :
    e.level.within (Level.ofPrecedence n) = true :=
  e.level.within_ofPrecedence n (h.trans e.precedence_le_level)

/-! ### Chains -/

theorem level_eq_optional_iff : (e : Expr) → (e.level = .optional ↔ e.hasOptionalLink = true)
  | .call _ ⟨optional, callee, _⟩ => by
      rw [level, hasOptionalLink, Level.linked_eq_optional, level_eq_optional_iff callee,
        Bool.or_eq_true]
  | .index _ optional object _ => by
      rw [level, hasOptionalLink, Level.linked_eq_optional, level_eq_optional_iff object,
        Bool.or_eq_true]
  | .member _ optional object _ => by
      rw [level, hasOptionalLink, Level.linked_eq_optional, level_eq_optional_iff object,
        Bool.or_eq_true]
  | .binary _ op _ _ => iff_of_false op.level_ne_optional Bool.false_ne_true
  | .unary _ op e => by
      refine iff_of_false ?_ Bool.false_ne_true
      unfold level
      split
      · decide
      · exact op.level_ne_optional
  | .arrow .. | .conditional .. | .function .. | .ident .. | .this _ | .trailing .. | .array ..
  | .boolean .. | .null _ | .number .. | .string .. => by
      constructor <;> intro h <;> cases h

/-- The nonterminal of calls is that of chains with a call. -/
theorem hasCallInChain_of_level_eq : {e : Expr} → e.level = .call → e.hasCallInChain = true
  | .call .., _ => rfl
  | .index _ _ object _, h => by
      have hc := hasCallInChain_of_level_eq (Level.eq_call_of_linked h)
      exact hc
  | .member _ _ object _, h => by
      have hc := hasCallInChain_of_level_eq (Level.eq_call_of_linked h)
      exact hc
  | .binary _ op _ _, h => by cases op <;> cases h
  | .unary _ op e, h => by
      unfold level at h
      split at h
      · cases h
      · cases op <;> cases h
  | .arrow .., h | .conditional .., h | .function .., h | .ident .., h | .this _, h
  | .trailing .., h | .array .., h | .boolean .., h | .null _, h | .number .., h
  | .string .., h => by cases h

/-- What stands before a link without parentheses. -/
theorem level_within_chained {e : Expr} (h : Precedence.callMember ≤ e.precedence) :
    e.level.within e.level.chained = true := by
  have hl : 17 ≤ e.level.precedence := h.trans e.precedence_le_level
  revert hl
  cases e.level <;> decide

/-- What is no link becomes a member expression in parentheses. -/
theorem chained_eq_member {e : Expr} (h : e.precedence < Precedence.callMember) :
    e.level.chained = .member := by
  cases e with
  | call a c => exact absurd h (Nat.lt_irrefl 17)
  | index a optional object key => exact absurd h (Nat.lt_irrefl 17)
  | member a optional object property => exact absurd h (Nat.lt_irrefl 17)
  | binary a op l r => cases op <;> rfl
  | unary a op e =>
      unfold level
      split
      · rfl
      · cases op <;> rfl
  | _ => rfl

/-- What `new` constructs without parentheses. -/
theorem level_within_member {e : Expr} (h : Precedence.callMember ≤ e.precedence)
    (hc : e.hasCallInChain = false) (ho : e.hasOptionalMember = false) :
    e.level.within .member = true := by
  have hl : 17 ≤ e.level.precedence := h.trans e.precedence_le_level
  have hcall : e.level ≠ .call := by
    intro he
    rw [hasCallInChain_of_level_eq he] at hc
    cases hc
  have hoptional : e.level ≠ .optional := by
    intro he
    have hlink := (level_eq_optional_iff e).mp he
    rw [hasOptionalLink_of_not_hasCallInChain hc ho] at hlink
    cases hlink
  revert hl hcall hoptional
  cases e.level <;> decide

/-! ### Operands of `||` and `??` -/

/-- Only `??`, `||` and `&&` bind as loosely as these operators do. -/
theorem isNullish_or_isLogical {e : Expr} (hw : e.isWellPlaced = true)
    (h₁ : 3 ≤ e.level.precedence) (h₂ : e.level.precedence ≤ 4) :
    (e.level = .coalesce ∧ e.isNullish = true) ∨
      (e.level.within .logicalOr = true ∧ e.isLogical = true) := by
  cases e with
  | binary a op l r =>
      revert h₁ h₂
      show 3 ≤ op.level.precedence → op.level.precedence ≤ 4 →
        (op.level = .coalesce ∧ (op == .nullishCoalescing) = true) ∨
          (op.level.within .logicalOr = true ∧ (op == .logicalAnd || op == .logicalOr) = true)
      cases op <;> decide
  | unary a op e =>
      unfold level at h₂
      split at h₂
      · exact absurd h₂ (by decide)
      · have hp := op.precedence_level_of_isLeading (isReadable_of_isWellPlaced hw)
        omega
  | call a c =>
      obtain ⟨optional, callee, arguments⟩ := c
      have hp := Level.precedence_linked true optional callee.level
      unfold level at h₂
      omega
  | index a optional object key =>
      have hp := Level.precedence_linked false optional object.level
      unfold level at h₂
      omega
  | member a optional object property =>
      have hp := Level.precedence_linked false optional object.level
      unfold level at h₂
      omega
  -- Arrow functions and conditionals bind too loosely, all that is left too tightly.
  | arrow a f => exact absurd h₁ (Nat.not_le.mpr (Nat.le_of_ble_eq_true rfl))
  | conditional a t c e => exact absurd h₁ (Nat.not_le.mpr (Nat.le_of_ble_eq_true rfl))
  | _ => exact absurd h₂ (Nat.not_le.mpr (Nat.le_of_ble_eq_true rfl))

theorem level_within_bitwiseOr {e : Expr} (hw : e.isWellPlaced = true) (h : 3 ≤ e.precedence)
    (hn : e.isNullish = false) (hl : e.isLogical = false) : e.level.within .bitwiseOr = true := by
  have h₁ : 3 ≤ e.level.precedence := h.trans e.precedence_le_level
  have h₂ : 5 ≤ e.level.precedence := by
    by_contra hlt
    rcases isNullish_or_isLogical hw h₁ (by omega) with ⟨_, hn'⟩ | ⟨_, hl'⟩
    · rw [hn] at hn'
      cases hn'
    · rw [hl] at hl'
      cases hl'
  revert h₂
  cases e.level <;> decide

theorem level_within_logicalOr {e : Expr} (hw : e.isWellPlaced = true) (h : 3 ≤ e.precedence)
    (hn : e.isNullish = false) : e.level.within .logicalOr = true := by
  have h₁ : 3 ≤ e.level.precedence := h.trans e.precedence_le_level
  rcases Nat.lt_or_ge 4 e.level.precedence with hgt | hle
  · revert hgt
    cases e.level <;> decide
  · rcases isNullish_or_isLogical hw h₁ hle with ⟨_, hn'⟩ | ⟨hor, _⟩
    · rw [hn] at hn'
      cases hn'
    · exact hor

/-! ### Parentheses -/

/-- Whether the text of an expression, without parentheses, is of the nonterminal that the
expression promises. -/
def Derives (e : Expr) : Prop :=
  ∀ ts, e.print.Spells ts → Expression e.level ts e.bare

variable {e : Expr} {n : Nat} {l : Level} {ts : List Token}

theorem derives_parenthesized (hd : e.Derives) (h : (parenthesized e.print).Spells ts) :
    Expression .primary ts e.bare := by
  obtain ⟨us, hu, rfl⟩ := spells_parenthesized.mp h
  exact .parenthesized ((hd us hu).climb_within e.level.within_expression)

/-- **Parentheses** are written around what a place does not admit without them. -/
theorem derives_wrap (hd : e.Derives) (hin : n ≤ e.precedence → e.level.within l = true)
    (hout : e.precedence < n → Level.primary.within l = true) (h : (e.wrap n e.print).Spells ts) :
    Expression l ts e.bare := by
  unfold wrap at h
  split at h
  · next hlt => exact (derives_parenthesized hd h).climb_within (hout hlt)
  · next hge => exact (hd ts h).climb_within (hin (by omega))

/-- In most places a precedence is all that counts. -/
theorem derives_ofPrecedence (hd : e.Derives) (h : (e.wrap n e.print).Spells ts) :
    Expression (Level.ofPrecedence n) ts e.bare :=
  derives_wrap hd level_within (fun _ => Level.primary_within_ofPrecedence n) h

/-- What stands before a link. -/
theorem derives_chained (hd : e.Derives) (h : (e.wrap Precedence.callMember e.print).Spells ts) :
    Expression e.level.chained ts e.bare := by
  refine derives_wrap hd level_within_chained ?_ h
  intro hlt
  rw [chained_eq_member hlt]
  rfl

/-! ### Operands -/

variable {op : Operator}

theorem precedence_of_isLogical (h : e.isLogical = true) : e.precedence < Precedence.primary := by
  cases e with
  | binary a op l r =>
      revert h
      show (op == .logicalAnd || op == .logicalOr) = true → op.precedence < 18
      cases op <;> decide
  | _ => cases h

theorem precedence_of_isNullish (h : e.isNullish = true) : e.precedence = 3 := by
  cases e with
  | binary a op l r =>
      obtain rfl := beq_iff_eq.mp h
      rfl
  | _ => cases h

theorem level_of_isNullish (h : e.isNullish = true) : e.level = .coalesce := by
  cases e with
  | binary a op l r =>
      obtain rfl := beq_iff_eq.mp h
      rfl
  | _ => cases h

theorem precedence_of_mixesWith (h : op.mixesWith e = true) :
    e.precedence < Precedence.primary := by
  unfold Operator.mixesWith at h
  split at h
  · exact precedence_of_isLogical h
  · rw [precedence_of_isNullish h]
    decide
  · rw [precedence_of_isNullish h]
    decide
  · cases h

/-- Operands that must not stand next to the operator are in parentheses. -/
theorem derives_mixed (hd : e.Derives) (hm : op.mixesWith e = true)
    (h : (e.wrap Precedence.primary e.print).Spells ts) : Expression .primary ts e.bare := by
  refine derives_wrap hd ?_ (fun _ => rfl) h
  intro hle
  exact absurd (precedence_of_mixesWith hm) (Nat.not_lt.mpr hle)

/-- The right operand of an infix operator. -/
theorem derives_right (hi : op.isInfix = true) (hw : e.isWellPlaced = true) (hd : e.Derives)
    (h : (e.wrap (op.rightMin e) e.print).Spells ts) : Expression op.rightLevel ts e.bare := by
  unfold Operator.rightMin at h
  split at h
  · next hm =>
      refine (derives_mixed hd hm h).climb_within ?_
      revert hi
      cases op <;> decide
  · next hm =>
      by_cases hop : op = .nullishCoalescing
      · subst hop
        have hl : e.isLogical = false := by simpa [Operator.mixesWith] using hm
        refine derives_wrap hd ?_ (fun _ => rfl) h
        intro hle
        have hn : e.isNullish = false := by
          by_contra hn
          rw [precedence_of_isNullish (by simpa using hn)] at hle
          exact absurd hle (by decide)
        exact level_within_bitwiseOr hw ((Nat.le_succ 3).trans hle) hn hl
      · rw [← Operator.ofPrecedence_right hi hop]
        exact derives_ofPrecedence hd h

/-- The left operand of an infix operator other than `??` and assignments. -/
theorem derives_left (hi : op.isInfix = true) (ha : op.isAssignment = false)
    (hop : op ≠ .nullishCoalescing) (hw : e.isWellPlaced = true) (hd : e.Derives)
    (h : (e.wrap (op.leftMin e) e.print).Spells ts) : Expression op.leftLevel ts e.bare := by
  unfold Operator.leftMin at h
  split at h
  · next hm =>
      refine (derives_mixed hd hm h).climb_within ?_
      revert hi hop
      cases op <;> decide
  · next hm =>
      by_cases hor : op = .logicalOr
      · subst hor
        have hn : e.isNullish = false := by simpa [Operator.mixesWith] using hm
        exact derives_wrap hd (fun hle => level_within_logicalOr hw hle hn) (fun _ => rfl) h
      · rw [← Operator.ofPrecedence_left hi ha hop hor]
        exact derives_ofPrecedence hd h

/-- The left operand of `??`. -/
theorem derives_coalesceLeft (hw : e.isWellPlaced = true) (hd : e.Derives)
    (h : (e.wrap (Operator.leftMin .nullishCoalescing e) e.print).Spells ts) :
    Expression .coalesce ts e.bare ∨ Expression .bitwiseOr ts e.bare := by
  unfold Operator.leftMin at h
  split at h
  · next hm => exact .inr ((derives_mixed hd hm h).climb_within rfl)
  · next hm =>
      have hl : e.isLogical = false := by simpa [Operator.mixesWith] using hm
      cases hn : e.isNullish with
      | true =>
          left
          refine derives_wrap hd ?_ ?_ h
          · intro _
            rw [level_of_isNullish hn]
            rfl
          · intro hlt
            rw [precedence_of_isNullish hn] at hlt
            exact absurd hlt (by decide)
      | false =>
          right
          exact derives_wrap hd (fun hle => level_within_bitwiseOr hw hle hn hl) (fun _ => rfl) h

end Expr

end TypeProbe
