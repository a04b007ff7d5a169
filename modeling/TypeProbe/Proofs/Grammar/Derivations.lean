import TypeProbe.Proofs.Grammar.Edges

/-! # Derivations of expressions

One case for every form of expression: if the parts derive their bare trees, so does the whole.
The conditions of the grammar come from what is known about the parts: the nonterminals of
operands from their precedences, the conditions on single tokens from how expressions begin and
end. -/

namespace TypeProbe

open Grammar Output Token Binary64

/-! ### Types -/

mutual

theorem TypeExpr.derives : (t : TypeExpr) → t.passes wellPlaced = true → ∀ ts, t.print.Spells ts →
    TypeTerm ts t.bare
  | .array _ element, h => by
      intro ts hs
      unfold TypeExpr.print at hs
      simp only [spells_append, spells_punct] at hs
      obtain ⟨us, hu, _, rfl, rfl⟩ := hs
      exact .array (element.derives h us hu)
  | .keyword _ k, _ => by
      intro ts hs
      obtain rfl := spells_keyword.mp hs
      refine .keyword ?_
      cases k <;> decide
  | .reference _ name arguments, h => by
      intro ts hs
      simp only [TypeExpr.passes, Bool.and_eq_true] at h
      obtain ⟨hn, ha⟩ := h
      have hi := isIdentifier_of_isFreeName hn
      have hk := not_typeKeyword_of_isFreeName hn
      unfold TypeExpr.print at hs
      simp only [spells_append, spells_identifier, spells_onlyIf] at hs
      obtain ⟨_, rfl, _, ⟨hne, hs⟩ | ⟨he, rfl⟩, rfl⟩ := hs
      · simp only [spells_punct, spells_commaSeparated] at hs
        obtain ⟨_, ⟨_, rfl, _, ⟨tss, ht, rfl⟩, rfl⟩, _, rfl, rfl⟩ := hs
        refine .applied hi hk (TypeExprs.derives arguments ha tss ht) ?_
        intro hb
        cases arguments with
        | nil => cases hne
        | cons t rest => cases hb
      · cases arguments with
        | nil => exact .reference hi hk
        | cons t rest => cases he

theorem TypeExprs.derives : (types : List TypeExpr) → TypeExprs.passes wellPlaced types = true →
    ∀ tss, List.Forall₂ Spells (TypeExprs.outputs types) tss →
    TypeTerms tss (TypeExprs.bare types)
  | [], _ => by
      intro tss hs
      cases hs
      exact .nil
  | t :: rest, h => by
      intro tss hs
      simp only [TypeExprs.passes, Bool.and_eq_true] at h
      cases hs with
      | cons ht hr => exact .cons (t.derives h.1 _ ht) (TypeExprs.derives rest h.2 _ hr)

end

theorem derives_optionalType {type : Option TypeExpr} {ts : List Token}
    (h : TypeExpr.optionPasses wellPlaced type = true) (hs : (printType? type).Spells ts) :
    OptionalType ts (type.map TypeExpr.bare) := by
  cases type with
  | none =>
      obtain rfl := spells_empty.mp hs
      exact .absent
  | some t =>
      simp only [printType?, spells_append, spells_punct] at hs
      obtain ⟨_, rfl, us, hu, rfl⟩ := hs
      exact .present (t.derives h us hu)

/-! ### Parts of expressions -/

/-- Whether arguments, each written on its own, derive their bare trees. -/
def Arguments.Derive (arguments : List Argument) : Prop :=
  ∀ tss, List.Forall₂ Spells (Arguments.outputs arguments) tss →
    Grammar.Arguments tss (Arguments.bare arguments)

/-- Whether parameters, each written on its own, derive their bare trees. -/
def Params.Derive (parameters : List Param) : Prop :=
  ∀ tss, List.Forall₂ Spells (Params.outputs parameters) tss →
    Parameters tss (Params.bare parameters)

/-- Whether a list of statements derives its bare tree. -/
def Stmts.Derive (statements : List Stmt) : Prop :=
  ∀ ts, (Stmts.print statements).Spells ts → Statements ts (Stmts.bare statements)

theorem derives_arguments {arguments : List Argument} {ts : List Token}
    (hd : Arguments.Derive arguments)
    (h : (commaSeparated (Arguments.outputs arguments)).Spells ts) :
    ∃ tss, Grammar.Arguments tss (Arguments.bare arguments) ∧ ts = commas tss := by
  obtain ⟨tss, ht, rfl⟩ := spells_commaSeparated.mp h
  exact ⟨tss, hd tss ht, rfl⟩

theorem derives_signature {parameters : List Param} {returnType : Option TypeExpr}
    {ts : List Token} (hd : Params.Derive parameters)
    (hr : TypeExpr.optionPasses wellPlaced returnType = true)
    (h : (printSignature (Params.outputs parameters) returnType).Spells ts) :
    Signature ts (Params.bare parameters) (returnType.map TypeExpr.bare) := by
  obtain ⟨_, hp, us, hu, rfl⟩ := spells_append.mp h
  obtain ⟨_, hc, rfl⟩ := spells_parenthesized.mp hp
  obtain ⟨tss, ht, rfl⟩ := spells_commaSeparated.mp hc
  exact .intro (hd tss ht) (derives_optionalType hr hu)

/-- A function that is no arrow function. -/
theorem Func.derives_function {f : Func} {name : Option Name} {statements : List Stmt} {spot : Spot}
    {ts : List Token} (hb : f.body = .block spot statements)
    (hn : Name.passes wellPlaced name = true)
    (hr : TypeExpr.optionPasses wellPlaced f.returnType = true)
    (hp : Params.Derive f.parameters) (hs : Stmts.Derive statements)
    (h : (f.printFunction name).Spells ts) :
    PlainFunction ts (name.map Name.text) (f.bare false) := by
  obtain ⟨ss, hsignature, us, hu, rfl⟩ := spells_printFunction hb h
  obtain ⟨_, _, async, generator, parameters, returnType, body⟩ := f
  obtain rfl := hb
  refine .intro ?_ (derives_signature hp hr hsignature) (hs us hu)
  cases name with
  | none => exact .absent
  | some n => exact .present (isIdentifier_of_isFreeName hn)

/-! ### Expressions -/

namespace Expr

variable {a : Anchor} {e : Expr} {ts : List Token}

theorem derives_target {n : Nat} (hd : e.Derives) (ht : e.isTarget = true)
    (hn : n ≤ Precedence.callMember) (h : (e.wrap n e.print).Spells ts) :
    Expression .leftHandSide ts e.bare := by
  have hp : Precedence.callMember ≤ e.precedence := by
    cases e with
    | ident a name => exact Nat.le_succ 17
    | index a optional object key => exact Nat.le_refl 17
    | member a optional object property => exact Nat.le_refl 17
    | _ => cases ht
  refine derives_wrap hd (fun _ => level_within hp) ?_ h
  intro hlt
  omega

theorem derives_arrow {f : Func} (hr : TypeExpr.optionPasses wellPlaced f.returnType = true)
    (hp : Params.Derive f.parameters)
    (hb : ∀ ts, f.body.print.Spells ts → ArrowBody ts f.body.bare) :
    (arrow a f).Derives := by
  intro ts hs
  obtain ⟨hg, ss, hsignature, us, hu, rfl⟩ := spells_arrow hs
  obtain ⟨_, _, async, generator, parameters, returnType, body⟩ := f
  obtain rfl : generator = false := hg
  exact .arrow (derives_signature hp hr hsignature) (hb us hu)

theorem leftMin_of_isAssignment {op : Operator} (h : op.isAssignment = true) (l : Expr) :
    op.leftMin l = 3 ∧ op.level = .assignment ∧ op.rightLevel = .assignment := by
  cases op <;> first | exact ⟨rfl, rfl, rfl⟩ | cases h

theorem derives_binary {op : Operator} {l r : Expr} (hw : (binary a op l r).isWellPlaced = true)
    (hwl : l.isWellPlaced = true) (hwr : r.isWellPlaced = true) (hl : l.Derives) (hr : r.Derives) :
    (binary a op l r).Derives := by
  intro ts hs
  have hi : op.isInfix = true := isReadable_of_isWellPlaced hw
  have ht : (!op.isAssignment || l.isTarget) = true := (isWellPlaced_iff.mp hw).2
  obtain ⟨us, hu, vs, hv, rfl⟩ := spells_binary hs
  have hright := derives_right hi hwr hr hv
  cases ha : op.isAssignment with
  | true =>
      obtain ⟨hmin, hlevel, hrl⟩ := leftMin_of_isAssignment ha l
      rw [ha] at ht
      rw [hmin] at hu
      rw [hrl] at hright
      have hleft := derives_target hl ht (by decide) hu
      show Expression op.level _ _
      rw [hlevel]
      exact .assignment (Operator.assignmentRule ha) hleft (by rwa [isTarget_bare]) hright
  | false =>
      by_cases hop : op = .nullishCoalescing
      · subst hop
        -- `??` has two rules, for the head of a chain and for what follows it.
        rcases derives_coalesceLeft hwl hl hu with hleft | hleft
        · exact .binary .coalesceMore hleft hright
        · exact .binary .coalesceHead hleft hright
      · exact .binary (Operator.infixRule hi ha) (derives_left hi ha hop hwl hl hu) hright

/-- The condition on what stands before a link: an optional chain is none in parentheses. -/
theorem hasOptionalLink_of_chained (e : Expr) (h : e.level.chained ≠ .optional) :
    e.bare.hasOptionalLink = false := by
  rw [hasOptionalLink_bare]
  by_contra hlink
  have hl := (level_eq_optional_iff e).mpr (by simpa using hlink)
  exact h (Level.chained_eq_optional.mpr hl)

theorem derives_call {optional : Bool} {callee : Expr} {arguments : List Argument}
    (hc : callee.Derives) (ha : Arguments.Derive arguments) :
    (call a ⟨optional, callee, arguments⟩).Derives := by
  intro ts hs
  obtain ⟨us, hu, vs, hv, rfl⟩ := spells_call hs
  obtain ⟨tss, ht, rfl⟩ := derives_arguments ha hv
  exact .call (Level.linkRule true optional callee.level) (derives_chained hc hu)
    (hasOptionalLink_of_chained callee) ht

theorem derives_index {optional : Bool} {object key : Expr} (ho : object.Derives)
    (hk : key.Derives) : (index a optional object key).Derives := by
  intro ts hs
  obtain ⟨us, hu, vs, hv, rfl⟩ := spells_index hs
  have hkey := (hk vs hv).climb_within key.level.within_expression
  exact .index (Level.linkRule false optional object.level) (derives_chained ho hu)
    (hasOptionalLink_of_chained object) hkey

theorem derives_conditional {t c e : Expr} (ht : t.Derives) (hc : c.Derives) (he : e.Derives) :
    (conditional a t c e).Derives := by
  intro ts hs
  obtain ⟨us, hu, vs, hv, ws, hw, rfl⟩ := spells_conditional hs
  exact .conditional (derives_ofPrecedence ht hu) (derives_ofPrecedence hc hv)
    (derives_ofPrecedence he hw)

/-- A numeral stands for its number, with or without a point of its own. -/
theorem denotes_of_isWellPlaced {value : Binary64} (hw : (number a value).isWellPlaced = true) :
    Denotes (String.ofList value.text).toList value := by
  obtain ⟨hfinite, hpositive⟩ := isReadable_number_iff.mp (isReadable_of_isWellPlaced hw)
  rw [String.toList_ofList]
  exact Binary64.denotes_text hfinite hpositive

theorem derives_number {value : Binary64} (hw : (number a value).isWellPlaced = true) :
    (number a value).Derives := by
  intro ts hs
  obtain rfl := spells_number.mp hs
  exact .number (denotes_of_isWellPlaced hw)

theorem precedence_number {value : Binary64} (hw : (number a value).isWellPlaced = true) :
    (number a value).precedence = Precedence.primary := by
  obtain ⟨_, hpositive⟩ := isReadable_number_iff.mp (isReadable_of_isWellPlaced hw)
  show (if value.isNegative && !value.isNaN then Precedence.unary else Precedence.primary) = _
  rw [hpositive]
  rfl

/-- A number before a link, with its own point if its numeral has digits only. -/
theorem derives_numberObject {value : Binary64} (hw : (number a value).isWellPlaced = true)
    (h : ((number a value).wrap Precedence.callMember (number a value).print ++
      (number a value).integerPoint).Spells ts) :
    Expression .primary ts (number a value).bare ∧ endsInInteger ts = false := by
  have hp := precedence_number hw
  have hd := denotes_of_isWellPlaced hw
  have hpoint : (number a value).integerPoint =
      Output.onlyIf (value.text.all Char.isDigit) (punct ".") := by
    show Output.onlyIf ((number a value).precedence == Precedence.primary && _) _ = _
    rw [hp]
    rfl
  unfold wrap at h
  rw [hpoint, hp, if_neg (by decide)] at h
  obtain ⟨_, hn, _, hpoint, rfl⟩ := spells_append.mp h
  obtain rfl := spells_number.mp hn
  obtain rfl := spells_onlyIf_punct.mp hpoint
  cases hdigits : value.text.all Char.isDigit with
  | true =>
      refine ⟨.pointed (hd.point ?_), rfl⟩
      rw [String.toList_ofList]
      exact hdigits
  | false =>
      refine ⟨.number hd, ?_⟩
      show (String.ofList value.text).toList.all Char.isDigit = false
      rw [String.toList_ofList]
      exact hdigits

/-- What stands before the point or the mark of a member access. -/
theorem derives_object {object : Expr} (hw : object.isWellPlaced = true) (hd : object.Derives)
    (h : (object.wrap Precedence.callMember object.print ++ object.integerPoint).Spells ts) :
    Expression object.level.chained ts object.bare ∧ endsInInteger ts = false := by
  by_cases hn : ∀ a value, object ≠ .number a value
  · have hpoint : object.integerPoint = empty := by
      cases object with
      | number a value => exact absurd rfl (hn a value)
      | _ => rfl
    rw [hpoint, append_empty] at h
    exact ⟨derives_chained hd h, endsInInteger_wrap hn h⟩
  · simp only [not_forall, not_not] at hn
    obtain ⟨a, value, rfl⟩ := hn
    obtain ⟨hnumber, hends⟩ := derives_numberObject hw h
    exact ⟨.climb rfl hnumber, hends⟩

theorem derives_member {optional : Bool} {object : Expr} {property : String}
    (hw : object.isWellPlaced = true) (ho : object.Derives)
    (hp : isIdentifierName property = true) : (member a optional object property).Derives := by
  intro ts hs
  obtain ⟨us, hu, rfl⟩ := spells_member hs
  obtain ⟨hobject, hends⟩ := derives_object hw ho hu
  exact .member (Level.linkRule false optional object.level) hobject
    (hasOptionalLink_of_chained object) (fun _ => hends) hp

/-! ### Leading operators -/

theorem precedence_of_hasCallInChain (h : e.hasCallInChain = true) :
    e.precedence = Precedence.callMember := by
  cases e <;> first | rfl | cases h

/-- What `new` constructs. -/
theorem derives_constructed (hd : e.Derives) (ho : e.hasOptionalMember = false)
    (h : (e.wrap e.constructorMin e.print).Spells ts) : Expression .member ts e.bare := by
  unfold constructorMin at h
  split at h
  · next hc =>
      refine derives_wrap hd ?_ (fun _ => rfl) h
      intro hle
      rw [precedence_of_hasCallInChain hc] at hle
      exact absurd hle (by decide)
  · next hc =>
      have hc : e.hasCallInChain = false := by simpa using hc
      exact derives_wrap hd (fun hle => level_within_member hle hc ho) (fun _ => rfl) h

theorem hasOptionalMember_of_isWellPlaced (hw : (unary a .new e).isWellPlaced = true) :
    e.constructed.hasOptionalMember = false := by
  have hoperand := (isWellPlaced_iff.mp hw).2
  simpa [hasOperandsInPlace, Operator.isLeadingUpdate] using hoperand

theorem derives_newCall {b : Anchor} {optional : Bool} {callee : Expr} {arguments : List Argument}
    (ho : callee.hasOptionalMember = false) (hc : callee.Derives)
    (ha : Arguments.Derive arguments) :
    (unary a .new (call b ⟨optional, callee, arguments⟩)).Derives := by
  intro ts hs
  obtain ⟨rfl, us, hu, vs, hv, rfl⟩ := spells_newCall hs
  obtain ⟨tss, ht, rfl⟩ := derives_arguments ha hv
  exact .construct (derives_constructed hc ho hu) ht

theorem derives_new (he : e.isCall = false) (ho : e.hasOptionalMember = false) (hd : e.Derives) :
    (unary a .new e).Derives := by
  intro ts hs
  obtain ⟨us, hu, rfl⟩ := spells_new he hs
  have hmember := derives_constructed hd ho hu
  have hlevel : (unary a .new e).level = .new := by
    unfold level
    rw [he]
    rfl
  rw [hlevel]
  exact .new (.climb rfl hmember) (by rwa [isCall_bare])

theorem level_unary {op : Operator} (hop : op ≠ .new) : (unary a op e).level = op.level := by
  unfold level
  rw [decide_eq_false hop, Bool.false_and]
  rfl

theorem derives_leading {op : Operator} (hw : (unary a op e).isWellPlaced = true)
    (hop : op ≠ .new) (hd : e.Derives) : (unary a op e).Derives := by
  intro ts hs
  have hl : op.isLeading = true := isReadable_of_isWellPlaced hw
  have ht : (!op.isLeadingUpdate || e.isTarget) = true :=
    (Bool.and_eq_true_iff.mp (isWellPlaced_iff.mp hw).2).1
  obtain ⟨us, hu, rfl⟩ := spells_leading hop hs
  have hargument := derives_ofPrecedence hd hu
  rw [level_unary hop]
  cases hupdate : op.isLeadingUpdate with
  | true =>
      rw [hupdate] at ht
      rw [Operator.level_of_isLeadingUpdate hupdate]
      exact .leadingUpdate (Operator.leadingUpdateRule hupdate) hargument (by rwa [isTarget_bare])
  | false =>
      rw [Operator.level_of_isLeading hl hop hupdate]
      exact .leading (Operator.leadingRule hl hop hupdate) hargument

theorem derives_trailing {op : Operator} (hw : (trailing a op e).isWellPlaced = true)
    (hd : e.Derives) : (trailing a op e).Derives := by
  intro ts hs
  obtain ⟨hop, ht⟩ := isWellPlaced_iff.mp hw
  obtain ⟨us, hu, rfl⟩ := spells_trailing hs
  have htarget := derives_target hd ht (Nat.le_refl _) hu
  have hbare := (isTarget_bare e).trans ht
  exact .trailingUpdate (Operator.trailingUpdateRule hop) htarget hbare

/-! ### Array literals and functions -/

theorem derives_array {elements : List Element}
    (hd : ∀ tss, List.Forall₂ Spells (Elements.outputs elements) tss →
      Grammar.Elements (commas tss ++ onlyIf (endsInHole elements) (mark ","))
        (Elements.bare elements)) : (array a elements).Derives := by
  intro ts hs
  obtain ⟨us, hu, rfl⟩ := spells_array hs
  obtain ⟨tss, ht, rfl⟩ := spells_commaSeparated.mp hu
  have harray := Expression.array (hd tss ht)
  rw [← List.append_assoc] at harray
  exact harray

theorem derives_function {f : Func} {name : Option Name} {statements : List Stmt} {spot : Spot}
    (hb : f.body = .block spot statements) (hn : Name.passes wellPlaced name = true)
    (hr : TypeExpr.optionPasses wellPlaced f.returnType = true)
    (hp : Params.Derive f.parameters) (hd : Stmts.Derive statements) :
    (function a name f).Derives := by
  intro ts hs
  obtain ⟨_, _, async, generator, parameters, returnType, body⟩ := f
  obtain rfl := hb
  have hf := Func.derives_function rfl hn hr hp hd hs
  have hfunction := Expression.function hf
  rw [Option.map_map] at hfunction
  exact hfunction

end Expr

/-! ### Elements and parameters -/

variable {ts us : List Token} {tss : List (List Token)}

theorem commas_singleton (ts : List Token) : commas [ts] = ts := List.intercalate_singleton

theorem commas_cons (ts us : List Token) (tss : List (List Token)) :
    commas (ts :: us :: tss) = ts ++ [mark ","] ++ commas (us :: tss) :=
  List.intercalate_cons_cons

/-- A hole takes the comma after it, at the end of the list too. -/
theorem derives_hole {rest : List Element} (hts : List.Forall₂ Spells (Elements.outputs rest) tss)
    (hr : Grammar.Elements (commas tss ++ onlyIf (endsInHole rest) (mark ","))
      (Elements.bare rest)) :
    Grammar.Elements (commas ([] :: tss) ++ onlyIf (endsInHole (.hole :: rest)) (mark ","))
      (.hole :: Elements.bare rest) := by
  cases rest with
  | nil =>
      cases hts
      exact .hole .nil
  | cons e rest =>
      cases tss with
      | nil => cases e <;> cases hts
      | cons us tss =>
          rw [commas_cons, List.nil_append, List.append_assoc]
          exact .hole hr

/-- An element that is no hole is followed by a comma unless it is the last. -/
theorem derives_element {e b : Element} {rest : List Element} (hb : ElementTerm ts b)
    (hne : e ≠ .hole) (hts : List.Forall₂ Spells (Elements.outputs rest) tss)
    (hr : Grammar.Elements (commas tss ++ onlyIf (endsInHole rest) (mark ","))
      (Elements.bare rest)) :
    Grammar.Elements (commas (ts :: tss) ++ onlyIf (endsInHole (e :: rest)) (mark ","))
      (b :: Elements.bare rest) := by
  cases rest with
  | nil =>
      cases hts
      have hends : endsInHole [e] = false := by
        cases e with
        | hole => exact absurd rfl hne
        | _ => rfl
      rw [hends]
      show Grammar.Elements (commas [ts] ++ []) [b]
      rw [List.append_nil, commas_singleton]
      exact .last hb
  | cons e' rest =>
      have hends : endsInHole (e :: e' :: rest) = endsInHole (e' :: rest) := by
        cases e <;> rfl
      cases tss with
      | nil => cases e' <;> cases hts
      | cons us tss =>
          rw [hends, commas_cons, List.append_assoc]
          exact .more hb hr

theorem restOnlyLast_tail {p : Param} {params : List Param}
    (h : restOnlyLast (p :: params) = true) : restOnlyLast params = true := by
  cases params with
  | nil => rfl
  | cons q rest =>
      unfold restOnlyLast at h
      rw [Bool.and_eq_true] at h
      exact h.2

theorem eq_nil_of_rest {p : Param} {params : List Param} (h : restOnlyLast (p :: params) = true)
    (hr : p.rest = true) : params = [] := by
  cases params with
  | nil => rfl
  | cons q rest =>
      unfold restOnlyLast at h
      rw [hr] at h
      cases h

end TypeProbe
