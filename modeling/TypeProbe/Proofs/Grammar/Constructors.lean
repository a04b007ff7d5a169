import TypeProbe.Proofs.Grammar.Printing
import TypeProbe.Proofs.Print.Composition

/-! # What `new` constructs

The text after `new` is that of what is constructed, and the arguments after it.  Whoever reads it
takes the first argument list outside of brackets for that of `new`, and an optional link there is
an error.

* `outside` is what is left of tokens outside of brackets, and `Constructs` says what is read as a
  constructor: a beginning that no link can be taken from, and members and indices after it.
* **Main result** (`Expr.constructor_print`): no call is among the links of what is printed as the
  constructor, so that the argument list after it belongs to `new`.  But an optional member or
  index is, whenever the chain of what is constructed has one and no call; only then
  (`Expr.hasOptionalConstructor`) the text is none that the grammar has. -/

namespace TypeProbe

open Grammar Output Token

/-! ### Brackets -/

namespace Token

def opensBracket : Token → Bool
  | mark m => m == "(" || m == "[" || m == "\x7b"
  | _ => false

def closesBracket : Token → Bool
  | mark m => m == ")" || m == "]" || m == "\x7d"
  | _ => false

/-- Whether a token is no bracket. -/
def isFlat (t : Token) : Bool := !t.opensBracket && !t.closesBracket

end Token

/-- What is outside of brackets, the outermost brackets included, if `depth` brackets have been
opened before. -/
def outside : (depth : Nat) → List Token → List Token
  | _, [] => []
  | depth, t :: rest =>
      if t.opensBracket then (if depth = 0 then [t] else []) ++ outside (depth + 1) rest
      else if t.closesBracket then (if depth ≤ 1 then [t] else []) ++ outside (depth - 1) rest
      else (if depth = 0 then [t] else []) ++ outside depth rest

/-- All brackets that are opened are closed again, and no others. -/
structure Closed (ts : List Token) : Prop where
  inside : ∀ depth, outside (depth + 1) ts = []
  append : ∀ depth rest, outside depth (ts ++ rest) = outside depth ts ++ outside depth rest

theorem outside_flat {t : Token} (h : t.isFlat = true) (depth : Nat) (rest : List Token) :
    outside depth (t :: rest) = (if depth = 0 then [t] else []) ++ outside depth rest := by
  simp only [isFlat, Bool.and_eq_true, Bool.not_eq_true'] at h
  simp [outside, h.1, h.2]

theorem outside_singleton {t : Token} (h : t.isFlat = true) (depth : Nat) :
    outside depth [t] = if depth = 0 then [t] else [] := by
  rw [outside_flat h, outside, List.append_nil]

theorem closed_nil : Closed [] := ⟨fun _ => rfl, fun _ _ => rfl⟩

theorem closed_flat {t : Token} (h : t.isFlat = true) : Closed [t] where
  inside := fun depth => by rw [outside_singleton h, if_neg (Nat.succ_ne_zero depth)]
  append := fun depth rest => by rw [List.singleton_append, outside_flat h, outside_singleton h]

theorem Closed.concat {ts us : List Token} (ht : Closed ts) (hu : Closed us) :
    Closed (ts ++ us) where
  inside := fun depth => by rw [ht.append, ht.inside, hu.inside, List.nil_append]
  append := fun depth rest => by
    rw [List.append_assoc, ht.append, hu.append, ht.append, List.append_assoc]

/-- Pairs of brackets. -/
inductive Pair : Token → Token → Prop
  | round : Pair (mark "(") (mark ")")
  | square : Pair (mark "[") (mark "]")
  | curly : Pair (mark "\x7b") (mark "\x7d")

section pair

variable {t u : Token} (h : Pair t u)
include h

theorem Pair.outside_open (depth : Nat) (rest : List Token) :
    outside depth (t :: rest) = (if depth = 0 then [t] else []) ++ outside (depth + 1) rest := by
  cases h <;> rfl

theorem Pair.outside_close (depth : Nat) (rest : List Token) :
    outside (depth + 1) (u :: rest) = (if depth = 0 then [u] else []) ++ outside depth rest := by
  cases h <;> simp [outside, opensBracket, closesBracket]

/-- A pair of brackets hides what is between them. -/
theorem Pair.outside_enclosed {ts : List Token} (hts : Closed ts) (depth : Nat)
    (rest : List Token) :
    outside depth ([t] ++ ts ++ [u] ++ rest) =
      (if depth = 0 then [t, u] else []) ++ outside depth rest := by
  have hopen := h.outside_open depth (ts ++ [u] ++ rest)
  rw [List.append_assoc, hts.append, hts.inside, List.nil_append, List.singleton_append,
    h.outside_close] at hopen
  have htext : [t] ++ ts ++ [u] ++ rest = t :: (ts ++ u :: rest) := by simp
  rw [htext, hopen]
  by_cases hd : depth = 0
  · simp [hd]
  · simp [hd]

theorem Pair.closed {ts : List Token} (hts : Closed ts) : Closed ([t] ++ ts ++ [u]) := by
  have hall := h.outside_enclosed hts
  have hself (depth : Nat) : outside depth ([t] ++ ts ++ [u]) =
      if depth = 0 then [t, u] else [] := by
    have := hall depth []
    rwa [List.append_nil, outside, List.append_nil] at this
  refine ⟨fun depth => ?_, fun depth rest => ?_⟩
  · rw [hself, if_neg (Nat.succ_ne_zero depth)]
  · rw [hall, hself]

theorem Pair.outside_zero {ts : List Token} (hts : Closed ts) :
    outside 0 ([t] ++ ts ++ [u]) = [t, u] := by
  have hall := h.outside_enclosed hts 0 []
  rwa [List.append_nil, if_pos rfl] at hall

end pair

/-! ### Whatever is printed closes its brackets -/

/-- Operators stand in their own position. -/
def operatorsPlaced : Check where
  name := fun _ => true
  property := fun _ => true
  expr := Expr.hasOperatorInPlace
  parameters := fun _ => true

theorem closed_ofFragment {f : Fragment} (h : f.token.isFlat = true) (ts : List Token)
    (hs : (ofFragment f).Spells ts) : Closed ts := by
  obtain rfl := spells_ofFragment.mp hs
  exact closed_flat h

theorem compositional_closed :
    Compositional operatorsPlaced fun o => ∀ ts, o.Spells ts → Closed ts where
  empty := fun ts hs => by
    obtain rfl := spells_empty.mp hs
    exact closed_nil
  fail := fun _ _ _ hs => absurd hs not_spells_fail
  append := fun ha hb ts hs => by
    obtain ⟨us, hu, vs, hv, rfl⟩ := spells_append.mp hs
    exact (ha us hu).concat (hb vs hv)
  parenthesized := fun ho ts hs => by
    obtain ⟨us, hu, rfl⟩ := spells_parenthesized.mp hs
    exact Pair.round.closed (ho us hu)
  braced := fun ho ts hs => by
    obtain ⟨us, hu, rfl⟩ := spells_braced.mp hs
    exact Pair.curly.closed (ho us hu)
  bracketed := fun ho ts hs => by
    obtain ⟨_, hleft, _, hclose, rfl⟩ := spells_append.mp hs
    obtain ⟨_, hopen, us, hu, rfl⟩ := spells_append.mp hleft
    obtain rfl := spells_punct.mp hopen
    obtain rfl := spells_punct.mp hclose
    exact Pair.square.closed (ho us hu)
  word := fun _ _ => closed_ofFragment rfl
  mark := fun {m} hm => by
    have hflat : ∀ m ∈ plainMarks, (mark m).isFlat = true := by decide
    exact closed_ofFragment (hflat m hm)
  operator := fun op ts hs => by
    obtain rfl := Operator.spells_print.mp hs
    exact closed_flat (by cases op <;> rfl)
  trailing := fun {a op e} _ => closed_ofFragment (by cases op <;> rfl)
  name := fun _ => closed_ofFragment rfl
  property := fun _ => closed_ofFragment rfl
  number := fun _ => closed_ofFragment rfl
  quoted := fun _ => closed_ofFragment rfl

/-! ### What is read as a constructor -/

/-- The tokens that types are made of. -/
def Token.isTypeToken : Token → Bool
  | word _ => true
  | mark m => [":", "<", ">", ",", "[]"].contains m
  | _ => false

/-- What no link can be taken from: a name, a literal, or something in brackets. -/
inductive Beginning : List Token → Prop
  | word (w : String) : Beginning [word w]
  | numeral (t : String) : Beginning [numeral t]
  /-- A point after a numeral belongs to it if a link follows. -/
  | pointed (t : String) : Beginning [numeral t, mark "."]
  | quoted (value : String) : Beginning [quoted value]
  | group {ts : List Token} : Closed ts → Beginning ([mark "("] ++ ts ++ [mark ")"])
  | array {ts : List Token} : Closed ts → Beginning ([mark "["] ++ ts ++ [mark "]"])
  | function {async generator : Bool} {name : Option String} {ps us bs : List Token} :
      Closed ps → (∀ t ∈ us, t.isTypeToken = true) → Closed bs →
      Beginning
        (Token.onlyIf async (.word "async") ++ [Token.word "function"] ++
          Token.onlyIf generator (mark "*") ++ (name.map .word).toList ++
          ([mark "("] ++ ps ++ [mark ")"]) ++ us ++
          ([mark "\x7b"] ++ bs ++ [mark "\x7d"]))

/-- Members and indices, the last one at the end; whether one of them is optional. -/
inductive Links : Bool → List Token → Prop
  | nil : Links false []
  | member {before optional : Bool} {ts : List Token} (property : String) :
      Links before ts →
      Links (optional || before) (ts ++ [mark (if optional then "?." else ".")] ++ [word property])
  | index {before optional : Bool} {ts us : List Token} :
      Links before ts → Closed us →
      Links (optional || before)
        (ts ++ (Token.onlyIf optional (mark "?.") ++ ([mark "["] ++ us ++ [mark "]"])))

/-- Tokens are read as a constructor, or would be if no link was optional. -/
structure Constructs (optional : Bool) (ts : List Token) : Prop where
  parts : ∃ beginning links, Beginning beginning ∧ Links optional links ∧ ts = beginning ++ links

/-! ### Outside of the brackets of a constructor -/

/-- Brackets are closed, and outside of them stands no optional link. -/
structure Clear (ts : List Token) : Prop where
  closed : Closed ts
  not_mem : mark "?." ∉ outside 0 ts

theorem clear_nil : Clear [] := ⟨closed_nil, List.not_mem_nil⟩

theorem clear_flat {t : Token} (h : t.isFlat = true) (hne : t ≠ mark "?.") : Clear [t] where
  closed := closed_flat h
  not_mem := by
    rw [outside_singleton h, if_pos rfl, List.mem_singleton]
    exact Ne.symm hne

theorem Clear.concat {ts us : List Token} (ht : Clear ts) (hu : Clear us) : Clear (ts ++ us) where
  closed := ht.closed.concat hu.closed
  not_mem := by
    rw [ht.closed.append, List.mem_append]
    rintro (h | h)
    · exact ht.not_mem h
    · exact hu.not_mem h

theorem clear_onlyIf {t : Token} (h : t.isFlat = true) (hne : t ≠ mark "?.") (condition : Bool) :
    Clear (Token.onlyIf condition t) := by
  cases condition with
  | true => exact clear_flat h hne
  | false => exact clear_nil

theorem Pair.clear {t u : Token} (h : Pair t u) {ts : List Token} (hts : Closed ts) :
    Clear ([t] ++ ts ++ [u]) where
  closed := h.closed hts
  not_mem := by
    rw [h.outside_zero hts]
    cases h <;> decide

theorem clear_types {ts : List Token} (h : ∀ t ∈ ts, t.isTypeToken = true) : Clear ts := by
  induction ts with
  | nil => exact clear_nil
  | cons t ts ih =>
      have hrest := ih fun u hu => h u (List.mem_cons_of_mem _ hu)
      have hfirst := h t List.mem_cons_self
      have hflat : t.isFlat = true := by
        cases t with
        | mark m =>
            have hall : ∀ m ∈ [":", "<", ">", ",", "[]"], (mark m).isFlat = true := by decide
            exact hall m (by simpa [isTypeToken] using hfirst)
        | _ => rfl
      have hne : t ≠ mark "?." := by
        rintro rfl
        cases hfirst
      exact (clear_flat hflat hne).concat hrest

theorem Beginning.clear {ts : List Token} (h : Beginning ts) : Clear ts := by
  cases h with
  | word w => exact clear_flat rfl nofun
  | numeral t => exact clear_flat rfl nofun
  | pointed t =>
      have hpoint : Clear [mark "."] := clear_flat rfl (by decide)
      have hnumeral : Clear [Token.numeral t] := clear_flat rfl nofun
      exact hnumeral.concat hpoint
  | quoted value => exact clear_flat rfl nofun
  | group hts => exact Pair.round.clear hts
  | array hts => exact Pair.square.clear hts
  | @function async generator name ps us bs hps hus hbs =>
      have hname : Clear (name.map Token.word).toList := by
        cases name with
        | none => exact clear_nil
        | some n => exact clear_flat rfl nofun
      have hasync : Clear (Token.onlyIf async (.word "async")) := 
        clear_onlyIf (t := .word "async") rfl nofun async
      have hfunction : Clear [Token.word "function"] := clear_flat rfl nofun
      have hstar : Clear (Token.onlyIf generator (mark "*")) :=
        clear_onlyIf rfl (by decide) generator
      have hhead := ((hasync.concat hfunction).concat hstar).concat hname
      exact ((hhead.concat (Pair.round.clear hps)).concat (clear_types hus)).concat
        (Pair.curly.clear hbs)

theorem Closed.mem_outside_append {t : Token} {ts us : List Token} (h : Closed ts) :
    t ∈ outside 0 (ts ++ us) ↔ t ∈ outside 0 ts ∨ t ∈ outside 0 us := by
  rw [h.append, List.mem_append]

/-- No call is among members and indices, and the optional mark is if one of them is optional. -/
theorem Links.surface {optional : Bool} {ts : List Token} (h : Links optional ts) :
    Closed ts ∧ mark "(" ∉ outside 0 ts ∧ (mark "?." ∈ outside 0 ts ↔ optional = true) := by
  induction h with
  | nil => exact ⟨closed_nil, by decide, by decide⟩
  | @member before optional ts property _ ih =>
      obtain ⟨hclosed, hcall, hoptional⟩ := ih
      have hmark : Closed [mark (if optional then "?." else ".")] := by
        cases optional <;> exact closed_flat rfl
      have hname : Closed [word property] := closed_flat rfl
      have hlink := hclosed.concat hmark
      refine ⟨hlink.concat hname, ?_, ?_⟩
      · rw [hlink.mem_outside_append, hclosed.mem_outside_append]
        rintro ((h | h) | h)
        · exact hcall h
        · cases optional <;> revert h <;> decide
        · rw [outside_singleton rfl] at h
          simp at h
      · rw [hlink.mem_outside_append, hclosed.mem_outside_append, hoptional]
        have hnever : mark "?." ∉ outside 0 [word property] := by
          rw [outside_singleton rfl]
          simp
        have hdot : mark "?." ∈ outside 0 [mark (if optional then "?." else ".")] ↔
            optional = true := by cases optional <;> decide
        rw [hdot, Bool.or_eq_true, or_comm (b := optional = true)]
        exact or_iff_left hnever
  | @index before optional ts us _ hus ih =>
      obtain ⟨hclosed, hcall, hoptional⟩ := ih
      have hmark : Closed (Token.onlyIf optional (mark "?.")) := by
        cases optional with
        | true => exact closed_flat rfl
        | false => exact closed_nil
      have hdot : mark "?." ∈ outside 0 (Token.onlyIf optional (mark "?.")) ↔
          optional = true := by cases optional <;> decide
      refine ⟨hclosed.concat (hmark.concat (Pair.square.closed hus)), ?_, ?_⟩
      · rw [hclosed.mem_outside_append, hmark.mem_outside_append, Pair.square.outside_zero hus]
        rintro (h | h | h)
        · exact hcall h
        · cases optional <;> revert h <;> decide
        · revert h
          decide
      · rw [hclosed.mem_outside_append, hmark.mem_outside_append, Pair.square.outside_zero hus,
          hoptional, hdot, Bool.or_eq_true, or_comm (b := optional = true ∨ _)]
        have hnever : mark "?." ∉ [mark "[", mark "]"] := by decide
        rw [or_iff_left hnever]

theorem Constructs.mem_outside_iff {optional : Bool} {ts : List Token}
    (h : Constructs optional ts) : mark "?." ∈ outside 0 ts ↔ optional = true := by
  obtain ⟨beginning, links, hb, hl, rfl⟩ := h.parts
  rw [hb.clear.closed.mem_outside_append, hl.surface.2.2]
  exact or_iff_right hb.clear.not_mem

/-! ### What is printed after `new` -/

/-- An output that writes tokens of types only. -/
def TypeTokensOnly (o : Output) : Prop := ∀ ts, o.Spells ts → ∀ t ∈ ts, t.isTypeToken = true

theorem typeTokensOnly_ofFragment {f : Fragment} (h : f.token.isTypeToken = true) :
    TypeTokensOnly (ofFragment f) := by
  intro ts hs t ht
  obtain rfl := spells_ofFragment.mp hs
  rw [List.mem_singleton.mp ht]
  exact h

theorem TypeTokensOnly.append {a b : Output} (ha : TypeTokensOnly a) (hb : TypeTokensOnly b) :
    TypeTokensOnly (a ++ b) := by
  intro ts hs t ht
  obtain ⟨us, hu, vs, hv, rfl⟩ := spells_append.mp hs
  rcases List.mem_append.mp ht with h | h
  · exact ha us hu t h
  · exact hb vs hv t h

theorem typeTokensOnly_empty : TypeTokensOnly .empty := by
  intro ts hs
  obtain rfl := spells_empty.mp hs
  exact nofun

theorem typeTokensOnly_commaSeparated {os : List Output} (h : ∀ o ∈ os, TypeTokensOnly o) :
    TypeTokensOnly (commaSeparated os) := by
  induction os with
  | nil => exact typeTokensOnly_empty
  | cons o os ih =>
      have ho := h o List.mem_cons_self
      have hrest := ih fun o' ho' => h o' (List.mem_cons_of_mem _ ho')
      cases os with
      | nil => exact ho
      | cons o' os => exact (ho.append (typeTokensOnly_ofFragment rfl)).append hrest

mutual

theorem TypeExpr.typeTokensOnly_print : (t : TypeExpr) → TypeTokensOnly t.print
  | .array _ element => element.typeTokensOnly_print.append (typeTokensOnly_ofFragment rfl)
  | .keyword _ w => typeTokensOnly_ofFragment rfl
  | .reference _ name arguments => by
      refine (typeTokensOnly_ofFragment rfl).append ?_
      unfold Output.onlyIf
      split
      · exact ((typeTokensOnly_ofFragment rfl).append
          (typeTokensOnly_commaSeparated (TypeExprs.typeTokensOnly_outputs arguments))).append
          (typeTokensOnly_ofFragment rfl)
      · exact typeTokensOnly_empty

theorem TypeExprs.typeTokensOnly_outputs : (types : List TypeExpr) →
    ∀ o ∈ TypeExprs.outputs types, TypeTokensOnly o
  | [] => nofun
  | t :: rest =>
      List.forall_mem_cons.mpr ⟨t.typeTokensOnly_print, TypeExprs.typeTokensOnly_outputs rest⟩

end

theorem typeTokensOnly_annotation (type : Option TypeExpr) :
    TypeTokensOnly (printType? type) := by
  cases type with
  | none => exact typeTokensOnly_empty
  | some t => exact (typeTokensOnly_ofFragment rfl).append t.typeTokensOnly_print

theorem Beginning.constructs {ts : List Token} (h : Beginning ts) : Constructs false ts :=
  ⟨ts, [], h, .nil, (List.append_nil ts).symm⟩

namespace Expr

/-- Whether what `new` constructs has an optional member or index that is written without
parentheses around it. -/
def hasOptionalConstructor (e : Expr) : Bool :=
  !e.constructed.hasCallInChain && e.constructed.hasOptionalMember

/-- What binds too loosely for a chain has no members or indices. -/
theorem hasOptionalMember_of_precedence_lt {e : Expr}
    (h : e.precedence < Precedence.callMember) : e.hasOptionalMember = false := by
  cases e with
  | index | member => exact absurd h (Nat.lt_irrefl _)
  | _ => rfl

theorem constructs_parenthesized {e : Expr} {ts : List Token}
    (he : e.passes operatorsPlaced = true) (hs : (parenthesized e.print).Spells ts) :
    Constructs false ts := by
  obtain ⟨us, hu, rfl⟩ := spells_parenthesized.mp hs
  exact (Beginning.group (e.holds_print compositional_closed he us hu)).constructs

theorem beginning_function {a : Anchor} {name : Option Name} {f : Func} {ts : List Token}
    (he : (function a name f).passes operatorsPlaced = true)
    (hs : (function a name f).print.Spells ts) : Beginning ts := by
  obtain ⟨spot, arrow, async, generator, parameters, returnType, body⟩ := f
  cases body with
  | expr l value => exact absurd hs not_spells_fail
  | block l statements =>
      simp only [passes, Func.passes, Body.passes, Bool.and_eq_true] at he
      obtain ⟨_, ⟨⟨_, hp⟩, _⟩, hb⟩ := he
      obtain ⟨ss, hsignature, bs, hbody, rfl⟩ := Func.spells_printFunction rfl hs
      obtain ⟨_, hparameters, us, htypes, rfl⟩ := spells_append.mp hsignature
      obtain ⟨ps, hps, rfl⟩ := spells_parenthesized.mp hparameters
      have hclosed := compositional_closed.commaSeparated
        (Params.holds_outputs compositional_closed parameters hp)
      have htypes := typeTokensOnly_annotation returnType us htypes
      have hblock := Stmts.holds_print compositional_closed statements hb bs hbody
      have hname : (name.map fun n => word n.text) = (name.map Name.text).map word := by
        rw [Option.map_map]
        rfl
      rw [hname, ← List.append_assoc (_ ++ (Option.map word _).toList)]
      exact .function (hclosed ps hps) htypes hblock

theorem hasOptionalMember_of_isInteger {e : Expr} (h : e.isInteger = true) :
    e.hasOptionalMember = false := by
  cases e <;> first | rfl | cases h

theorem constructs_array {a : Anchor} {elements : List Element} {ts : List Token}
    (he : Elements.passes operatorsPlaced elements = true)
    (hs : (array a elements).print.Spells ts) : Constructs false ts := by
  obtain ⟨us, hu, rfl⟩ := spells_array hs
  have helements := compositional_closed.commaSeparated
    (Elements.holds_outputs compositional_closed elements he) us hu
  have hcomma : Closed (Token.onlyIf (endsInHole elements) (mark ",")) := by
    cases endsInHole elements with
    | true => exact closed_flat rfl
    | false => exact closed_nil
  rw [List.append_assoc [mark "["]]
  exact (Beginning.array (helements.concat hcomma)).constructs

/-- Whether an expression is written as a chain that `new` can construct. -/
def IsConstructible (e : Expr) : Prop :=
  ∀ ts, (e.wrap Precedence.callMember e.print).Spells ts → Constructs e.hasOptionalMember ts

theorem constructs_index {a : Anchor} {optional : Bool} {object key : Expr} {ts : List Token}
    (ho : object.IsConstructible) (hk : key.passes operatorsPlaced = true)
    (hs : (index a optional object key).print.Spells ts) :
    Constructs (optional || object.hasOptionalMember) ts := by
  obtain ⟨us, hu, vs, hv, rfl⟩ := spells_index hs
  obtain ⟨beginning, links, hb, hl, rfl⟩ := (ho us hu).parts
  have hkey := key.holds_print compositional_closed hk vs hv
  refine ⟨beginning, _, hb, .index hl hkey, ?_⟩
  simp only [List.append_assoc]

theorem constructs_member {a : Anchor} {optional : Bool} {object : Expr} {property : String}
    {ts : List Token} (ho : object.IsConstructible)
    (hs : (member a optional object property).print.Spells ts) :
    Constructs (optional || object.hasOptionalMember) ts := by
  obtain ⟨vs, hv, rfl⟩ := spells_member hs
  obtain ⟨us, hu, _, hpoint, rfl⟩ := spells_append.mp hv
  obtain rfl := spells_integerPoint.mp hpoint
  cases hinteger : object.isInteger with
  | true =>
      obtain ⟨text, _, rfl⟩ := spells_integer hinteger hu
      rw [hasOptionalMember_of_isInteger hinteger]
      exact ⟨_, _, .pointed text, .member property .nil, by simp [Token.onlyIf]⟩
  | false =>
      obtain ⟨beginning, links, hb, hl, rfl⟩ := (ho us hu).parts
      refine ⟨beginning, _, hb, .member property hl, ?_⟩
      have hnone : Token.onlyIf false (mark ".") = [] := rfl
      simp only [hnone, List.append_assoc, List.append_nil]

/-- **The links of a chain** are written after its beginning, and none of them is a call unless
the chain has one. -/
theorem constructs_chain : (e : Expr) → e.passes operatorsPlaced = true →
    e.hasCallInChain = false → e.IsConstructible
  | e, he, hc => by
      intro ts hs
      by_cases hlt : e.precedence < Precedence.callMember
      · rw [hasOptionalMember_of_precedence_lt hlt]
        rw [wrap, if_pos hlt] at hs
        exact constructs_parenthesized he hs
      · rw [wrap, if_neg hlt] at hs
        cases e with
        | call => cases hc
        | arrow a f => exact absurd (Nat.le_of_ble_eq_true rfl) hlt
        | conditional a t c e => exact absurd (Nat.le_of_ble_eq_true rfl) hlt
        | trailing a op e => exact absurd (Nat.le_of_ble_eq_true rfl) hlt
        | binary a op l r => exact absurd (precedence_lt_callMember op) hlt
        | unary a op e => exact absurd (precedence_lt_callMember op) hlt
        | function a name f => exact (beginning_function he hs).constructs
        | ident a name =>
            obtain rfl := spells_identifier.mp hs
            exact (Beginning.word name).constructs
        | this a =>
            obtain rfl := spells_keyword.mp hs
            exact (Beginning.word _).constructs
        | boolean a value =>
            obtain rfl := spells_keyword.mp hs
            exact (Beginning.word _).constructs
        | null a =>
            obtain rfl := spells_keyword.mp hs
            exact (Beginning.word _).constructs
        | number a value =>
            obtain rfl := spells_number.mp hs
            exact (Beginning.numeral _).constructs
        | string a value =>
            obtain rfl := spells_quoted.mp hs
            exact (Beginning.quoted value).constructs
        | array a elements =>
            simp only [passes, Bool.and_eq_true] at he
            exact constructs_array he.2 hs
        | index a optional object key =>
            simp only [passes, Bool.and_eq_true] at he
            exact constructs_index (constructs_chain object he.1.2 hc) he.2 hs
        | member a optional object property =>
            simp only [passes, Bool.and_eq_true] at he
            exact constructs_member (constructs_chain object he.1.2 hc) hs
termination_by e => sizeOf e

/-- The arguments that are written after what `new` constructs. -/
def constructorArguments : Expr → Output
  | call _ ⟨_, _, arguments⟩ => parenthesized (commaSeparated (Arguments.outputs arguments))
  | _ => empty

/-- The text after `new` is that of what is constructed and that of the arguments. -/
theorem spells_construction {a : Anchor} {e : Expr} {ts : List Token}
    (hs : (unary a .new e).print.Spells ts) :
    ∃ constructor, (e.constructed.wrap e.constructed.constructorMin e.constructed.print).Spells
        constructor ∧
      ∃ arguments, e.constructorArguments.Spells arguments ∧
        ts = word "new" :: (constructor ++ arguments) := by
  cases hcall : e.isCall with
  | true =>
      cases e with
      | call b c =>
          obtain ⟨optional, callee, arguments⟩ := c
          obtain ⟨-, us, hu, vs, hv, rfl⟩ := spells_newCall hs
          exact ⟨us, hu, _, spells_parenthesized.mpr ⟨vs, hv, rfl⟩, rfl⟩
      | _ => cases hcall
  | false =>
      obtain ⟨us, hu, rfl⟩ := spells_new hcall hs
      have hself : e.constructed = e := by
        cases e <;> first | rfl | cases hcall
      have hnone : e.constructorArguments = empty := by
        cases e <;> first | rfl | cases hcall
      rw [hself, hnone]
      exact ⟨us, hu, [], spells_empty.mpr rfl, by rw [List.append_nil]; rfl⟩

/-- With a call in its chain, what is constructed stands in parentheses. -/
theorem constructs_wrap {e : Expr} {ts : List Token} (he : e.passes operatorsPlaced = true)
    (hs : (e.wrap e.constructorMin e.print).Spells ts) :
    Constructs (!e.hasCallInChain && e.hasOptionalMember) ts := by
  unfold constructorMin at hs
  cases hc : e.hasCallInChain with
  | true =>
      have hlt : e.precedence < Precedence.primary := by
        rw [precedence_of_hasCallInChain hc]
        decide
      rw [hc, if_pos rfl, wrap, if_pos hlt] at hs
      exact constructs_parenthesized he hs
  | false =>
      rw [hc, if_neg Bool.false_ne_true] at hs
      exact constructs_chain e he hc ts hs

/-- Without an optional link, what is constructed is what the grammar has there. -/
theorem derives_constructor {e : Expr} {ts : List Token} (he : e.passes wellPlaced = true)
    (ho : (!e.hasCallInChain && e.hasOptionalMember) = false)
    (hs : (e.wrap e.constructorMin e.print).Spells ts) : Expression .member ts e.bare := by
  cases hc : e.hasCallInChain with
  | true =>
      rw [constructorMin, hc, if_pos rfl] at hs
      refine derives_wrap (e.derives he) ?_ (fun _ => rfl) hs
      intro hle
      rw [precedence_of_hasCallInChain hc] at hle
      exact absurd hle (by decide)
  | false =>
      rw [hc, Bool.not_false, Bool.true_and] at ho
      exact derives_constructed (e.derives he) ho hs

theorem passes_constructed {check : Check} {e : Expr} (he : e.passes check = true) :
    e.constructed.passes check = true := by
  cases e with
  | call b c =>
      obtain ⟨optional, callee, arguments⟩ := c
      simp only [passes, Call.passes, Bool.and_eq_true] at he
      exact he.2.1
  | _ => exact he

/-- **What `new` constructs** is written without a call outside of brackets, so that the arguments
after it are those of `new`.  An optional mark is outside of brackets exactly if the chain of what
is constructed has an optional member or index and no call.  Otherwise the grammar allows the text
after `new`. -/
theorem constructor_print (a : Anchor) (e : Expr) (ts : List Token)
    (he : (unary a .new e).passes operatorsPlaced = true)
    (hs : (unary a .new e).print.Spells ts) :
    ∃ beginning links arguments,
      ts = word "new" :: (beginning ++ links ++ arguments) ∧
      e.constructorArguments.Spells arguments ∧
      Beginning beginning ∧ Links e.hasOptionalConstructor links ∧
      mark "(" ∉ outside 0 links ∧
      (mark "?." ∈ outside 0 (beginning ++ links) ↔ e.hasOptionalConstructor = true) ∧
      (e.passes wellPlaced = true → e.hasOptionalConstructor = false →
        Expression .member (beginning ++ links) e.constructed.bare) := by
  simp only [passes, Bool.and_eq_true] at he
  obtain ⟨ctor, hconstructor, arguments, harguments, rfl⟩ := spells_construction hs
  have hparts := constructs_wrap (passes_constructed he.2) hconstructor
  have hmark := hparts.mem_outside_iff
  obtain ⟨beginning, links, hb, hl, rfl⟩ := hparts.parts
  refine ⟨beginning, links, arguments, rfl, harguments, hb, hl, hl.surface.2.1, hmark, ?_⟩
  intro hplaced hoptional
  exact derives_constructor (passes_constructed hplaced) hoptional hconstructor

theorem constructor_print_awkward :
    let loc : Loc := ⟨0, 5⟩
    let e : Expr := Build.call loc awkward [Build.argument (Build.ident loc "x")]
    let before := [mark "(", word "f", mark "(", mark ")", mark ".", word "g", mark ")"]
    let after := [mark "(", word "x", mark ")"]
    (unary (.ofLoc loc) .new e).passes operatorsPlaced = true ∧
      (unary (.ofLoc loc) .new e).print.Spells (word "new" :: (before ++ after)) ∧
      ∃ beginning links arguments,
        word "new" :: (before ++ after) = word "new" :: (beginning ++ links ++ arguments) ∧
        e.constructorArguments.Spells arguments ∧
        Beginning beginning ∧ Links false links ∧ mark "(" ∉ outside 0 links ∧
        mark "?." ∉ outside 0 (beginning ++ links) ∧
        Expression .member (beginning ++ links) awkward.bare := by
  refine ⟨by decide, ⟨rfl, rfl⟩, ?_⟩
  obtain ⟨beginning, links, arguments, htext, harguments, hb, hl, hcall, hmark, hd⟩ :=
    constructor_print (.ofLoc ⟨0, 5⟩)
      (Build.call ⟨0, 5⟩ awkward [Build.argument (Build.ident ⟨0, 5⟩ "x")]) _ (by decide)
      ⟨rfl, rfl⟩
  have hoptional : mark "?." ∉ outside 0 (beginning ++ links) := fun hm => nomatch hmark.mp hm
  exact ⟨beginning, links, arguments, htext, harguments, hb, hl, hcall, hoptional,
    hd (by decide) rfl⟩

/-- The call `a?.b()`, which is no optional call itself. -/
def optionalCallee : Expr :=
  let loc : Loc := ⟨0, 6⟩
  Build.call loc (.member (.ofLoc loc) true (Build.ident loc "a") "b") []

/-- Under `new` its callee is written without parentheses. -/
theorem constructor_print_optionalCallee :
    let constructor := [word "a", mark "?.", word "b"]
    (unary (.ofLoc ⟨0, 10⟩) .new optionalCallee).passes operatorsPlaced = true ∧
      (unary (.ofLoc ⟨0, 10⟩) .new optionalCallee).print.text = .ok "new a?.b()" ∧
      (unary (.ofLoc ⟨0, 10⟩) .new optionalCallee).print.Spells
        (word "new" :: (constructor ++ [mark "(", mark ")"])) ∧
      mark "?." ∈ outside 0 constructor :=
  ⟨by decide, rfl, ⟨rfl, rfl⟩, by decide⟩

end Expr

end TypeProbe
