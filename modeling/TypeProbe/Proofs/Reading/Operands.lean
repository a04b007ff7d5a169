import TypeProbe.Proofs.Reading.Steps

/-! # Reading expressions back

One case for every form of expression: if the parts are read as their bare trees, so is the whole
(`Expr.Reads`).  What is proved is not that an expression is read, but that reading goes on with
its bare tree at the links after it; so a left operand hands over to the operator that follows. -/

namespace TypeProbe

open Grammar Output Lexeme

/-! ### What has to be shown of an expression -/

namespace Expr

/-- Whether reading the text of an expression gives its bare tree and goes on at what follows. -/
def Reads (e : Expr) : Prop :=
  ∀ ts, e.print.Spells ts → ∀ min rest, min ≤ e.reach → Follows e.tight rest →
    readExpr min (lexemes ts ++ rest) = readLinks min e.bare rest

variable {e : Expr} {ts : List Token} {m min : Nat} {rest : List Lexeme}

/-- The place on the right of an operator asks for the level that the operator reads there. -/
theorem rightPrecedence_le_rightMin {op : Operator} (hop : op.isInfix = true) (r : Expr) :
    op.rightPrecedence ≤ op.rightMin r := by
  have hlevel : op.rightPrecedence ≤ Precedence.primary := by
    revert hop
    cases op <;> decide
  unfold Operator.rightMin
  split
  · exact hlevel
  · exact le_rfl

theorem readLinks_of_follows (hf : Follows min rest) :
    readLinks min e rest = some (e, rest) := readLinks_of_stop hf.stops

/-- In parentheses or not, an expression is read at the levels of its place. -/
theorem Reads.wrap (h : e.Reads) (hp : e.passes readable = true)
    (hs : (e.wrap m e.print).Spells ts) (hmin : m ≤ e.precedence → min ≤ e.reach)
    (hf : m ≤ e.precedence → Follows e.tight rest) (ha : arrowAfter rest = false) :
    readExpr min (lexemes ts ++ rest) = readLinks min e.bare rest := by
  unfold Expr.wrap at hs
  split at hs
  · obtain ⟨us, hu, rfl⟩ := spells_parenthesized.mp hs
    have hskip : skip 0 (lexemes us ++ sign ')' :: rest) = rest := (e.regular hp us hu).2 0 _
    have hstart : start? (sign '(' :: (lexemes us ++ sign ')' :: rest)) =
        some (.group, lexemes us ++ sign ')' :: rest) := by
      rw [start?, hskip, ha]
      rfl
    have hclose := follows_close (c := ')') (by decide) 0 rest
    have hread := h us hu 0 _ (Nat.zero_le _) (hclose.mono (Nat.zero_le _))
    rw [readLinks_of_follows hclose] at hread
    rw [lexemes_parenthesized, readExpr_of_group hstart hread]
  · next hge => exact h ts hs min rest (hmin (Nat.not_lt.mp hge)) (hf (Nat.not_lt.mp hge))

/-- An operand is read to its end if what follows is looser than its place. -/
theorem Reads.whole (h : e.Reads) (hp : e.passes readable = true)
    (hs : (e.wrap m e.print).Spells ts) (hmin : min ≤ m) (hf : Follows min rest) :
    readExpr min (lexemes ts ++ rest) = some (e.bare, rest) := by
  have hlevel (hm : m ≤ e.precedence) : min ≤ e.precedence := hmin.trans hm
  rw [h.wrap hp hs (fun hm => (hlevel hm).trans precedence_le_reach)
    (fun hm => hf.mono ((hlevel hm).trans (precedence_le_tight (check_of_passes hp))))
    hf.noArrow, readLinks_of_follows hf]

/-- An expression is read to its end in front of what closes it. -/
theorem Reads.closed (h : e.Reads) (hs : e.print.Spells ts) (hf : Follows 0 rest) :
    readExpr 0 (lexemes ts ++ rest) = some (e.bare, rest) := by
  rw [h ts hs 0 rest (Nat.zero_le _) (hf.mono (Nat.zero_le _)), readLinks_of_follows hf]

/-! ### Names and literals -/

theorem start?_name {name : String} (h : isPrintedName name = true) (rest : List Lexeme) :
    start? (run name :: rest) = some (.leaf (.ident .blank name), rest) := by
  have hdigit : name.toList.head?.any Char.isDigit = false := by
    have hn := (isPrintedName_iff.mp h).1
    unfold isIdentifierName at hn
    split at hn
    · cases hn
    · next c cs hname =>
        rw [hname]
        simp only [Bool.and_eq_true, Bool.not_eq_true'] at hn
        exact hn.1.2
  have hwords : startWords.lookup name = none := lookup_eq_none_of_check h (by decide)
  rw [start?, startRun, hdigit, if_neg (by decide), if_neg (ne_of_check h (by decide)),
    hwords]

theorem reads_ident {a : Anchor} {name : String} (h : isPrintedName name = true) :
    (ident a name).Reads := by
  intro ts hs min rest _ _
  obtain rfl := spells_identifier.mp hs
  exact readExpr_of_leaf (start?_name h rest)

/-- Keywords that are an expression. -/
theorem reads_keyword {w : String} (hw : start? (run w :: rest) = some (.leaf e, rest))
    (hs : (keyword w).Spells ts) :
    readExpr min (lexemes ts ++ rest) = readLinks min e rest := by
  obtain rfl := spells_keyword.mp hs
  exact readExpr_of_leaf hw

theorem reads_string (a : Anchor) (value : String) : (string a value).Reads := by
  intro ts hs min rest _ _
  obtain rfl := spells_quoted.mp hs
  exact readExpr_of_leaf rfl

/-! ### Numbers -/

theorem ofNumeral?_text {x : Binary64} (hf : x.isFinite = true) (hn : x.isNegative = false) :
    Binary64.ofNumeral? x.text = some x := by
  have h : ∃ y, Binary64.Denotes x.text y := ⟨x, Binary64.denotes_text hf hn⟩
  rw [Binary64.ofNumeral?, dif_pos h, h.choose_spec.unique (Binary64.denotes_text hf hn)]

theorem startRun_of_digits {w : List Char} (h : DigitRun w) (rest : List Lexeme) :
    start? (run (String.ofList w) :: rest) = readNumber (String.ofList w) rest := by
  rw [start?, startRun, String.toList_ofList, h.head, if_pos rfl]

variable {x : Binary64}

/-- A number is read from its text, unless that is digits with a point after it. -/
theorem start?_number (hf : x.isFinite = true) (hn : x.isNegative = false)
    (hr : x.text.all Char.isDigit = true → after? '.' rest = none) :
    start? (numeralLexemes x.text ++ rest) = some (.leaf (.number .blank x), rest) := by
  have hx := ofNumeral?_text hf hn
  obtain ⟨hd, hl⟩ | ⟨whole, fraction, ht, hw, hfr, hl⟩ :=
    numeral_cases (Binary64.isNumeral_text hf hn)
  · rw [hl, List.singleton_append, startRun_of_digits hd, readNumber,
      hr (List.all_eq_true.mpr hd.isDigit)]
    simp only [numberStart, String.toList_ofList, hx, Option.map_some]
  · rw [hl]
    simp only [List.cons_append, List.nil_append]
    rw [startRun_of_digits hw, readNumber, after?_sign]
    simp only [readName, numberStart, String.toList_ofList, hfr.head, if_true, ← ht, hx,
      Option.map_some]

/-- Digits take a point after them, unless digits follow it. -/
theorem start?_pointed (hf : x.isFinite = true) (hn : x.isNegative = false)
    (hd : x.text.all Char.isDigit = true) (hr : readName rest = none) :
    start? (numeralLexemes x.text ++ sign '.' :: rest) =
      some (.leaf (.number .blank x), rest) := by
  have hx := ofNumeral?_text hf hn
  obtain ⟨hdr, hl⟩ | ⟨whole, fraction, ht, _, _, _⟩ :=
    numeral_cases (Binary64.isNumeral_text hf hn)
  · rw [hl, List.singleton_append, startRun_of_digits hdr, readNumber, after?_sign]
    simp only [hr, numberStart, String.toList_ofList, hx, Option.map_some]
  · rw [ht, List.all_append] at hd
    simp at hd

theorem reads_number {a : Anchor} (hf : x.isFinite = true) (hn : x.isNegative = false) :
    (number a x).Reads := by
  intro ts hs min rest _ hfollows
  obtain rfl := spells_number.mp hs
  have htext : lexemes [Token.numeral (String.ofList x.text)] = numeralLexemes x.text := by
    rw [lexemes_singleton, Token.lexemes, String.toList_ofList]
  rw [htext]
  refine readExpr_of_leaf (start?_number hf hn fun hd => ?_)
  have hi : (number a x).isInteger = true := by
    simp only [isInteger, precedence, hn, hd, Bool.false_and, Bool.and_true]
    rfl
  have htight : (number a x).tight = Precedence.primary + 1 := if_pos hi
  rw [htight] at hfollows
  exact hfollows.after?_eq_none (.member false) (fun _ => rfl) le_rfl

/-! ### Operators -/

theorem reads_leading {a : Anchor} {op : Operator} (hop : op.isLeading = true) (hnew : op ≠ .new)
    (he : e.Reads) (hp : e.passes readable = true) : (unary a op e).Reads := by
  intro ts hs min rest _ hf
  obtain ⟨us, hu, rfl⟩ := spells_leading hnew hs
  have htight : (unary a op e).tight = Precedence.unary := if_neg hnew
  rw [htight] at hf
  have hstart : start? (op.sign.lexemes ++ (lexemes us ++ rest)) =
      some (.leading op, lexemes us ++ rest) := by
    cases op <;> first | rfl | exact absurd rfl hnew | cases hop
  have hread := he.whole hp hu le_rfl hf
  rw [lexemes_append, lexemes_singleton, List.append_assoc]
  exact readExpr_of_leading hstart hread

theorem reads_trailing {a : Anchor} {op : Operator} (hop : op.isTrailing = true)
    (he : e.Reads) (hp : e.passes readable = true) : (trailing a op e).Reads := by
  intro ts hs min rest hmin _
  obtain ⟨us, hu, rfl⟩ := spells_trailing hs
  have hlink : link? (lexemes [Token.mark op.token] ++ rest) = some (.trailing op, rest) := by
    cases op <;> first | rfl | cases hop
  have hplain : arrowAfter (lexemes [Token.mark op.token] ++ rest) = false ∧
      typeTail (lexemes [Token.mark op.token] ++ rest) = false := by
    cases op <;> first | exact ⟨rfl, rfl⟩ | cases hop
  have hbelow : Precedence.trailing ≤ Precedence.callMember := by decide
  have hprimary : Precedence.trailing < Precedence.primary := by decide
  have hfollows (h : Precedence.callMember ≤ e.precedence) :
      Follows e.tight (lexemes [Token.mark op.token] ++ rest) :=
    follows_link hlink (hprimary.trans (primary_lt_tight h).1) hplain.1 hplain.2
  calc readExpr min (lexemes (us ++ [Token.mark op.token]) ++ rest)
      = readExpr min (lexemes us ++ (lexemes [Token.mark op.token] ++ rest)) := by
        rw [lexemes_append, List.append_assoc]
    _ = readLinks min e.bare (lexemes [Token.mark op.token] ++ rest) :=
        he.wrap hp hu (fun h => ((le_trans hmin hbelow).trans h).trans precedence_le_reach)
          hfollows hplain.1
    _ = readLinks min (trailing a op e).bare rest := readLinks_of_trailing hlink hmin

theorem reads_binary {a : Anchor} {op : Operator} {l r : Expr} (hop : op.isInfix = true)
    (hl : l.Reads) (hpl : l.passes readable = true) (hr : r.Reads)
    (hpr : r.passes readable = true) : (binary a op l r).Reads := by
  intro ts hs min rest hmin hf
  obtain ⟨us, hu, vs, hv, rfl⟩ := spells_binary hs
  have hopening := (r.opening_print hpr).wrap hv
  have hlink := link?_sign hop (hopening.opens rest)
  have hright : readExpr op.rightPrecedence (lexemes vs ++ rest) = some (r.bare, rest) :=
    hr.whole hpr hv (rightPrecedence_le_rightMin hop r) hf
  have hfollows (h : op.leftMin l ≤ l.precedence) :
      Follows l.tight (op.sign.lexemes ++ (lexemes vs ++ rest)) :=
    follows_sign hop (precedence_lt_tight hop (check_of_passes hpl) h) hopening hf.typeEnds
  have hmin' (h : op.leftMin l ≤ l.precedence) : min ≤ l.reach := by
    have hle : op.precedence ≤ op.leftMin l := by
      rcases precedence_le_leftMin hop l with hlt | hle
      · exact hlt.le
      · exact hle.2
    exact ((le_trans hmin hle).trans h).trans precedence_le_reach
  calc readExpr min (lexemes (us ++ [op.sign] ++ vs) ++ rest)
      = readExpr min (lexemes us ++ (op.sign.lexemes ++ (lexemes vs ++ rest))) := by
        simp only [lexemes_append, lexemes_singleton, List.append_assoc]
    _ = readLinks min l.bare (op.sign.lexemes ++ (lexemes vs ++ rest)) :=
        hl.wrap hpl hu hmin' hfollows
          (follows_sign hop (Nat.lt_succ_self _) hopening hf.typeEnds).noArrow
    _ = readLinks min (binary a op l r).bare rest := readLinks_of_between hlink hmin hright

theorem reads_conditional {a : Anchor} {t c e : Expr} (ht : t.Reads)
    (hpt : t.passes readable = true) (hc : c.Reads) (hpc : c.passes readable = true)
    (he : e.Reads) (hpe : e.passes readable = true) : (conditional a t c e).Reads := by
  intro ts hs min rest hmin hf
  obtain ⟨us, hu, vs, hv, ws, hw, rfl⟩ := spells_conditional hs
  have hopens := ((c.opening_print hpc).wrap hv).opens
    (sign ':' :: (lexemes ws ++ rest))
  have hcolon : Follows Precedence.assignment (sign ':' :: (lexemes ws ++ rest)) :=
    follows_colon (((e.opening_print hpe).wrap hw).arrowFree rest hf.typeEnds) _
  have hconsequent := hc.whole hpc hv le_rfl hcolon
  have halternate := he.whole hpe hw le_rfl hf
  have hfollows := follows_question (Nat.lt_succ_self Precedence.assignment) hopens
  calc readExpr min (lexemes (us ++ [Token.mark "?"] ++ vs ++ [Token.mark ":"] ++ ws) ++ rest)
      = readExpr min
          (lexemes us ++ sign '?' :: (lexemes vs ++ sign ':' :: (lexemes ws ++ rest))) := by
        simp only [lexemes_append, List.append_assoc]
        rfl
    _ = readLinks min t.bare (sign '?' :: (lexemes vs ++ sign ':' :: (lexemes ws ++ rest))) :=
        ht.wrap hpt hu (fun h => (le_trans hmin ((Nat.le_succ _).trans h)).trans
          precedence_le_reach) (fun h => hfollows.mono (h.trans
          (precedence_le_tight (check_of_passes hpt)))) hfollows.noArrow
    _ = readLinks min (conditional a t c e).bare rest :=
        readLinks_of_test (link?_question hopens) hmin hconsequent halternate

/-! ### Links -/

theorem reads_member {a : Anchor} {optional : Bool} {object : Expr} {property : String}
    (ho : object.Reads) (hp : object.passes readable = true) :
    (member a optional object property).Reads := by
  intro ts hs min rest hmin hf
  obtain ⟨us, hu, rfl⟩ := spells_member hs
  obtain ⟨vs, hv, ps, hps, rfl⟩ := spells_append.mp hu
  obtain rfl := spells_integerPoint.mp hps
  have hprimary : min ≤ Precedence.primary := by
    refine le_trans hmin ?_
    show (if _ then _ else _) ≤ _
    split <;> decide
  generalize htail :
    lexemes [Token.mark (if optional then "?." else ".")] ++ run property :: rest = tail
  have htext : lexemes (vs ++ Token.onlyIf object.isInteger (.mark ".") ++
        [Token.mark (if optional then "?." else ".")] ++ [Token.word property]) ++ rest =
      lexemes vs ++ (lexemes (Token.onlyIf object.isInteger (.mark ".")) ++ tail) := by
    rw [← htail]
    simp only [lexemes_append, List.append_assoc]
    rfl
  have hlink : link? tail = some (.member optional, run property :: rest) := by
    rw [← htail]
    cases optional <;> rfl
  have hplain : arrowAfter tail = false ∧ typeTail tail = false ∧ readName tail = none := by
    rw [← htail]
    cases optional <;> exact ⟨rfl, rfl, rfl⟩
  have hobject : readExpr min (lexemes vs ++
      (lexemes (Token.onlyIf object.isInteger (.mark ".")) ++ tail)) =
        readLinks min object.bare tail := by
    cases hi : object.isInteger with
    | false =>
        refine ho.wrap hp hv (fun h => le_trans hmin (reach_object h)) (fun h => ?_) hplain.1
        exact follows_link hlink ((primary_lt_tight h).2 hi) hplain.1 hplain.2.1
    | true =>
        cases object with
        | number b x =>
            have hx := (isReadable_number_iff (a := b)).mp (check_of_passes hp)
            simp only [isInteger, Bool.and_eq_true, beq_iff_eq] at hi
            have hwrap : (number b x).wrap Precedence.callMember (number b x).print = x.print :=
              if_neg (by rw [hi.1]; decide)
            rw [hwrap] at hv
            obtain rfl := spells_number.mp hv
            have hstart := start?_pointed hx.1 hx.2 hi.2 hplain.2.2
            rw [lexemes_singleton, Token.lexemes, String.toList_ofList]
            exact readExpr_of_leaf hstart
        | _ => cases hi
  rw [htext, hobject]
  exact readLinks_of_member hlink hprimary

theorem reads_index {a : Anchor} {optional : Bool} {object key : Expr} (ho : object.Reads)
    (hp : object.passes readable = true) (hk : key.Reads) (hpk : key.passes readable = true) :
    (index a optional object key).Reads := by
  intro ts hs min rest hmin hf
  obtain ⟨us, hu, vs, hv, rfl⟩ := spells_index hs
  have hprimary : min ≤ Precedence.primary := by
    refine le_trans hmin ?_
    show (if _ then _ else _) ≤ _
    split <;> decide
  have hkey := hk.closed hv (follows_close (c := ']') (by decide) 0 rest)
  generalize htail : lexemes (Token.onlyIf optional (.mark "?.")) ++
    sign '[' :: (lexemes vs ++ sign ']' :: rest) = tail
  have htext : lexemes (us ++ Token.onlyIf optional (.mark "?.") ++ [Token.mark "["] ++ vs ++
      [Token.mark "]"]) ++ rest = lexemes us ++ tail := by
    rw [← htail]
    simp only [lexemes_append, List.append_assoc]
    rfl
  have hlink : link? tail = some (.index optional, lexemes vs ++ sign ']' :: rest) := by
    rw [← htail]
    cases optional <;> rfl
  have hplain : arrowAfter tail = false ∧ typeTail tail = false := by
    obtain ⟨l, more, hls, hl⟩ := (key.opening_print hpk vs hv).first (m := sign ']') rfl []
      (sign ']' :: rest)
    rw [← htail]
    cases optional with
    | true => exact ⟨rfl, rfl⟩
    | false =>
        rw [List.append_nil] at hls
        rw [hls]
        exact ⟨rfl, typeTail_bracket hl more⟩
  have hobject : readExpr min (lexemes us ++ tail) = readLinks min object.bare tail :=
    ho.wrap hp hu (fun h => le_trans hmin (reach_object h))
      (fun h => follows_link hlink (primary_lt_tight h).1 hplain.1 hplain.2) hplain.1
  rw [htext, hobject]
  exact readLinks_of_index hlink hprimary hkey

end Expr

end TypeProbe
