import TypeProbe.Proofs.Grammar.Edges
import TypeProbe.Proofs.Lexical.Writing
import TypeProbe.Proofs.Number.Literal

/-! # Rows of tokens

The writer keeps tokens apart where it can see from the last character that they would merge.  What
else could go on, a mark with a point, an equals sign or another mark, is kept apart by the order in
which tokens come: an operand comes after it, and no operand begins so.

* A `Row` is a row of tokens that may stand next to each other, and that needs nothing more.
* An `Operand` is a row that may come after an operator.

Rows are put together as outputs are, and tokens that wait for an operand are put between
them. -/

namespace TypeProbe

open Grammar Output Lexical

/-! ### Rows of tokens -/

namespace Token

/-- Whether something particular has to come after a token. -/
def isLoose : Token → Bool
  | mark m => m == "?." || !(extensions m).isEmpty
  | numeral w => w.toList.getLast? == some '.'
  | _ => false

/-- Whether anything may come after a token. -/
def isSettled (t : Token) : Bool := t.isWritten && !t.isLoose && !t.isIntegerToken

/-- Whether an operand may come after a token, and the token after anything. -/
def isWaiting : Token → Bool
  | numeral _ => false
  | t => t.isWritten && !t.isPoint && t != mark "?."

theorem precedes_of_not_isLoose {t u : Token} (ht : t.isLoose = false)
    (hu : t.isIntegerToken = false ∨ u.isPoint = false) : t.precedes u = true := by
  cases t with
  | mark m =>
      simp only [isLoose, Bool.or_eq_false_iff, beq_eq_false_iff_ne, Bool.not_eq_false'] at ht
      obtain ⟨hquestion, hempty⟩ := ht
      have hpoint : m ≠ "." := by
        rintro rfl
        revert hempty
        decide
      rw [precedes, if_neg hpoint, if_neg hquestion, hempty, Bool.true_or]
  | numeral w =>
      have hlast : w.toList.getLast? ≠ some '.' := by simpa [isLoose] using ht
      by_cases hd : w.toList.all Char.isDigit = true
      · rw [precedes, if_pos hd]
        rcases hu with hi | hp
        · have hi : w.toList.all Char.isDigit = false := hi
          rw [hd] at hi
          cases hi
        · rw [hp]
          rfl
      · rw [precedes, if_neg hd]
        simp [hlast]
  | _ => rfl

theorem precedes_of_isWaiting {t u : Token} (ht : t.isWaiting = true) (hu : u.isOpener = true) :
    t.precedes u = true := by
  cases t with
  | numeral w => cases ht
  | mark m =>
      simp only [isWaiting, Bool.and_eq_true, Bool.not_eq_true', bne_iff_ne, ne_eq] at ht
      obtain ⟨⟨_, hpoint⟩, hquestion⟩ := ht
      have hdot : m ≠ "." := by
        rintro rfl
        cases hpoint
      have hlink : m ≠ "?." := fun h => hquestion (congrArg mark h)
      rw [precedes, if_neg hdot, if_neg hlink, hu, Bool.or_true]
  | _ => rfl

theorem not_isPoint_of_isOpener {t : Token} (h : t.isOpener = true) : t.isPoint = false := by
  cases t with
  | mark m =>
      have hall : ∀ m ∈ ["(", "[", "+", "++", "-", "--", "!"], (mark m).isPoint = false := by decide
      exact hall m (by simpa [isOpener] using h)
  | _ => rfl

end Token

theorem attach_append (t : Token) {ts : List Token} (hne : ts ≠ []) (us : List Token) :
    t.attach (ts ++ us) = t.attach ts ++ us := by
  obtain ⟨v, ts, rfl⟩ := List.exists_cons_of_ne_nil hne
  cases t with
  | numeral w =>
      rw [List.cons_append, Token.attach, Token.attach]
      split <;> rfl
  | _ => rfl

theorem merged_eq_nil {ts : List Token} : merged ts = [] ↔ ts = [] := by
  cases ts with
  | nil => simp [merged]
  | cons t ts =>
      rw [merged_cons]
      rcases head_attach t (merged ts) with h | ⟨_, _, _, h⟩
      · refine iff_of_false ?_ (List.cons_ne_nil _ _)
        rintro hnil
        rw [hnil] at h
        cases h
      · refine iff_of_false ?_ (List.cons_ne_nil _ _)
        rintro hnil
        rw [hnil] at h
        cases h

theorem endsInInteger_singleton (t : Token) : endsInInteger [t] = t.isIntegerToken := by
  cases t <;> rfl

theorem endsInInteger_cons {t : Token} {ts : List Token} (hne : ts ≠ []) :
    endsInInteger (t :: ts) = endsInInteger ts := by
  obtain ⟨u, ts, rfl⟩ := List.exists_cons_of_ne_nil hne
  unfold endsInInteger
  rw [List.getLast?_cons_cons]

/-- Tokens in a row are merged on their own unless a point comes after an integer. -/
theorem merged_append {ts us : List Token}
    (h : endsInInteger ts = false ∨ us.head? ≠ some (.mark ".")) :
    merged (ts ++ us) = merged ts ++ merged us := by
  induction ts with
  | nil => rfl
  | cons t ts ih =>
      by_cases hnil : ts = []
      · subst hnil
        have hone : t.attach (merged us) = t :: merged us := by
          refine attach_of_not fun hi hp => ?_
          rw [head_merged_eq_point] at hp
          rcases h with hf | hne
          · rw [endsInInteger_singleton, hi] at hf
            cases hf
          · exact hne hp
        exact hone
      · rw [endsInInteger_cons hnil] at h
        have hne : merged ts ≠ [] := fun hm => hnil (merged_eq_nil.mp hm)
        rw [List.cons_append, merged_cons, merged_cons, ih h, attach_append t hne]

theorem not_isIntegerToken_point (w : String) :
    (Token.numeral (w ++ ".")).isIntegerToken = false := by
  rw [Token.isIntegerToken, String.toList_append, List.all_append]
  exact Bool.and_false _

theorem getLast?_cons_of_ne_nil {α : Type} {ts : List α} (hne : ts ≠ []) (t : α) :
    (t :: ts).getLast? = ts.getLast? := by
  obtain ⟨u, ts, rfl⟩ := List.exists_cons_of_ne_nil hne
  exact List.getLast?_cons_cons

/-- Tokens that end in an integer when merged do so before. -/
theorem endsInInteger_of_getLast?_merged {ts : List Token} {t : Token}
    (ht : t ∈ (merged ts).getLast?) (hi : t.isIntegerToken = true) : endsInInteger ts = true := by
  induction ts with
  | nil => cases ht
  | cons u ts ih =>
      by_cases hnil : ts = []
      · subst hnil
        obtain rfl : u = t := Option.some.inj ht
        rw [endsInInteger_singleton, hi]
      · have hne : merged ts ≠ [] := fun hm => hnil (merged_eq_nil.mp hm)
        rw [endsInInteger_cons hnil]
        rw [merged_cons] at ht
        refine ih ?_
        by_cases hpoint : u.isIntegerToken = true → (merged ts).head? ≠ some (.mark ".")
        · rwa [attach_of_not hpoint, getLast?_cons_of_ne_nil hne] at ht
        · simp only [Classical.not_imp, not_not] at hpoint
          obtain ⟨hu, hhead⟩ := hpoint
          obtain ⟨rest, hrest⟩ := List.head?_eq_some_iff.mp hhead
          cases u with
          | numeral w =>
              rw [hrest, attach_point hu] at ht
              rw [hrest]
              by_cases hlast : rest = []
              · subst hlast
                obtain rfl : Token.numeral (w ++ ".") = t := Option.some.inj ht
                rw [not_isIntegerToken_point] at hi
                cases hi
              · rwa [getLast?_cons_of_ne_nil hlast] at ht ⊢
          | _ => cases hu

/-- **Tokens that may stand in a row**, and of which the last needs nothing after it. -/
structure Row (ts : List Token) : Prop where
  written : ∀ t ∈ ts, t.isWritten = true
  chain : (merged ts).IsChain fun s u => s.precedes u = true
  last : ∀ t ∈ (merged ts).getLast?, t.isLoose = false

/-- Tokens that may stand behind an operator. -/
structure Operand (ts : List Token) : Prop extends Row ts where
  opens : ∃ t ∈ ts.head?, t.isOpener = true

theorem row_nil : Row [] := ⟨nofun, .nil, nofun⟩

theorem row_singleton {t : Token} (hw : t.isWritten = true) (hl : t.isLoose = false) :
    Row [t] where
  written := fun _ hu => List.mem_singleton.mp hu ▸ hw
  chain := .singleton t
  last := fun _ hu => Option.some.inj hu ▸ hl

theorem operand_singleton {t : Token} (hw : t.isWritten = true) (hl : t.isLoose = false)
    (ho : t.isOpener = true) : Operand [t] :=
  ⟨row_singleton hw hl, t, rfl, ho⟩

namespace Token

theorem isSettled_spec {t : Token} (h : t.isSettled = true) :
    Row [t] ∧ t.isIntegerToken = false := by
  simp only [isSettled, Bool.and_eq_true, Bool.not_eq_true'] at h
  exact ⟨row_singleton h.1.1 h.1.2, h.2⟩

end Token

/-- What waits for an operand may come after anything. -/
theorem Token.isWaiting_spec {t : Token} (h : t.isWaiting = true) :
    t.isWritten = true ∧ t.isPoint = false ∧ t.isIntegerToken = false := by
  cases t with
  | numeral w => cases h
  | _ =>
      simp only [isWaiting, Bool.and_eq_true, Bool.not_eq_true'] at h
      exact ⟨h.1.1, h.1.2, rfl⟩

/-- The first token stays what it is, but for a number that takes a point. -/
theorem isPoint_head_merged {ts : List Token} (h : ∀ t ∈ ts.head?, t.isPoint = false) :
    ∀ t ∈ (merged ts).head?, t.isPoint = false := by
  intro t ht
  cases ts with
  | nil => cases ht
  | cons u ts =>
      rw [merged_cons] at ht
      rcases head_attach u (merged ts) with hu | ⟨w, rfl, _, hu⟩
      · rw [hu] at ht
        obtain rfl : u = t := Option.some.inj ht
        exact h u rfl
      · rw [hu] at ht
        obtain rfl := Option.some.inj ht
        rfl

theorem isOpener_head_merged {ts : List Token} (h : ∃ t ∈ ts.head?, t.isOpener = true) :
    ∀ t ∈ (merged ts).head?, t.isOpener = true := by
  obtain ⟨u, hu, ho⟩ := h
  intro t ht
  cases ts with
  | nil => cases ht
  | cons v ts =>
      obtain rfl : v = u := Option.some.inj hu
      rw [merged_cons] at ht
      rcases head_attach v (merged ts) with hv | ⟨w, rfl, _, hv⟩
      · rw [hv] at ht
        obtain rfl : v = t := Option.some.inj ht
        exact ho
      · rw [hv] at ht
        obtain rfl := Option.some.inj ht
        rfl

theorem getLast?_append_ne {α : Type} {ts us : List α} {t : α} (ht : t ∈ (ts ++ us).getLast?) :
    t ∈ us.getLast? ∨ us = [] ∧ t ∈ ts.getLast? := by
  by_cases hus : us = []
  · subst hus
    rw [List.append_nil] at ht
    exact .inr ⟨rfl, ht⟩
  · rw [List.getLast?_append_of_ne_nil _ hus] at ht
    exact .inl ht

namespace Row

variable {ts us : List Token} {t : Token}

/-- **A row after a row**, unless a point comes after an integer. -/
theorem append (ht : Row ts) (hu : Row us)
    (h : endsInInteger ts = false ∨ ∀ u ∈ us.head?, u.isPoint = false) : Row (ts ++ us) := by
  have hmerged : merged (ts ++ us) = merged ts ++ merged us := by
    refine merged_append (h.imp_right fun hp hhead => ?_)
    have hpoint := hp _ hhead
    cases hpoint
  have hbetween : ∀ s ∈ (merged ts).getLast?, ∀ u ∈ (merged us).head?, s.precedes u = true := by
    intro s hs u hu
    refine Token.precedes_of_not_isLoose (ht.last s hs) ?_
    rcases h with hinteger | hpoint
    · refine .inl (Bool.eq_false_iff.mpr fun hi => ?_)
      rw [endsInInteger_of_getLast?_merged hs hi] at hinteger
      cases hinteger
    · exact .inr (isPoint_head_merged hpoint u hu)
  refine ⟨?_, ?_, ?_⟩
  · intro t hmem
    rcases List.mem_append.mp hmem with h | h
    · exact ht.written t h
    · exact hu.written t h
  · rw [hmerged]
    exact List.isChain_append.mpr ⟨ht.chain, hu.chain, hbetween⟩
  · intro t hlast
    rw [hmerged] at hlast
    rcases getLast?_append_ne hlast with h | ⟨_, h⟩
    · exact hu.last t h
    · exact ht.last t h

/-- A token in front of a row that may come after it. -/
theorem push (hu : Row us) (hw : t.isWritten = true) (hi : t.isIntegerToken = false)
    (hne : us ≠ []) (h : ∀ u ∈ (merged us).head?, t.precedes u = true) : Row (t :: us) := by
  have hmerged : merged (t :: us) = t :: merged us :=
    attach_of_not fun hinteger => absurd (hi.symm.trans hinteger) Bool.false_ne_true
  refine ⟨List.forall_mem_cons.mpr ⟨hw, hu.written⟩, ?_, ?_⟩
  · rw [hmerged]
    exact List.isChain_cons.mpr ⟨h, hu.chain⟩
  · rw [hmerged, getLast?_cons_of_ne_nil fun hm => hne (merged_eq_nil.mp hm)]
    exact hu.last

/-- Something settled in front of a row. -/
theorem cons (ht : t.isSettled = true) (hu : Row us) : Row (t :: us) := by
  obtain ⟨hrow, hinteger⟩ := Token.isSettled_spec ht
  refine hrow.append hu (.inl ?_)
  rw [endsInInteger_singleton, hinteger]

/-- Something settled behind a row. -/
theorem snoc (ht : Row ts) (hs : t.isSettled = true) (hp : t.isPoint = false) :
    Row (ts ++ [t]) :=
  ht.append (Token.isSettled_spec hs).1 (.inr fun _ hu => Option.some.inj hu ▸ hp)

/-- Two rows with something settled between them. -/
theorem between (ht : Row ts) (hs : t.isSettled = true) (hp : t.isPoint = false)
    (hu : Row us) : Row (ts ++ [t] ++ us) := by
  rw [List.append_assoc]
  exact ht.append (hu.cons hs) (.inr fun _ hv => Option.some.inj hv ▸ hp)

/-- A row in brackets. -/
theorem enclosed {s : Token} (ht : Row ts) (hs : s.isSettled = true) (he : t.isSettled = true)
    (hp : t.isPoint = false) : Row ([s] ++ ts ++ [t]) :=
  (ht.cons hs).snoc he hp

end Row

namespace Operand

variable {ts us : List Token} {t : Token}

theorem ofRow (h : Row (t :: ts)) (ho : t.isOpener = true) : Operand (t :: ts) :=
  ⟨h, t, rfl, ho⟩

/-- A row that begins with an operand is one. -/
theorem grow (ht : Operand ts) (hu : Row us) (hp : ts <+: us) : Operand us := by
  obtain ⟨t, hhead, ho⟩ := ht.opens
  obtain ⟨rest, rfl⟩ := hp
  refine ⟨hu, t, ?_, ho⟩
  rw [List.head?_append, Option.mem_def.mp hhead]
  rfl

/-- An operand behind what waits for one. -/
theorem behind (hu : Operand us) (hw : t.isWaiting = true) : Row (t :: us) := by
  obtain ⟨hwritten, _, hinteger⟩ := Token.isWaiting_spec hw
  obtain ⟨u, hhead, _⟩ := id hu.opens
  have hne : us ≠ [] := by
    rintro rfl
    cases hhead
  exact hu.push hwritten hinteger hne fun v hv =>
    Token.precedes_of_isWaiting hw (isOpener_head_merged hu.opens v hv)

/-- An operand behind a row and an operator. -/
theorem after (hu : Operand us) (ht : Row ts) (hw : t.isWaiting = true) :
    Row (ts ++ [t] ++ us) := by
  have hpoint := (Token.isWaiting_spec hw).2.1
  rw [List.append_assoc]
  exact ht.append (hu.behind hw) (.inr fun _ hv => Option.some.inj hv ▸ hpoint)

theorem notPoint (h : Operand ts) : ∀ t ∈ ts.head?, t.isPoint = false := by
  obtain ⟨u, hu, ho⟩ := h.opens
  intro t ht
  rw [Option.mem_def.mp hu] at ht
  obtain rfl := Option.some.inj ht
  exact Token.not_isPoint_of_isOpener ho

end Operand

/-! ### Words, numbers and links -/

theorem Token.isWritten_word {w : String} (h : isWord w.toList = true) :
    (word w).isWritten = true := by
  have hall : w.toList.all isWordChar = true :=
    List.all_eq_true.mpr fun c hc => isWordChar_of_isWordPart (forall_mem_word h c hc)
  have hne : w.toList ≠ [] := text_ne_nil_of_isLexical (s := word w) h
  have hlexical : (word w).isLexical = true := h
  rw [isWritten, hlexical, isPlain, hall, bne_iff_ne.mpr hne]
  rfl

theorem operand_word {w : String} (h : isWord w.toList = true) : Operand [.word w] :=
  operand_singleton (Token.isWritten_word h) rfl rfl

/-- A numeral with an integer part of digits without superfluous zeros. -/
theorem isPlainNumeral_of_isNumeral {w : List Char} (h : isNumeral w = true)
    (hi : isInteger (w.takeWhile Char.isDigit) = true) : isPlainNumeral w = true := by
  simp only [isNumeral, Bool.and_eq_true] at h
  rw [isPlainNumeral, hi, Bool.true_and]
  cases hd : w.dropWhile Char.isDigit with
  | nil => rfl
  | cons point fraction =>
      rw [hd] at h
      simp only [Bool.and_eq_true] at h
      simp only [h.2.1.1, h.2.2, Bool.and_self]

theorem isInteger_of_integerDigits {digits : List Char} (h : IntegerDigits digits) :
    isInteger digits = true := by
  by_cases hzero : digits = ['0']
  · rw [hzero]
    rfl
  · have hhead := h.head_ne_zero hzero
    have hall : digits.all Char.isDigit = true := List.all_eq_true.mpr h.isDigit
    simp [isInteger, h.ne_nil, hhead, hall]

theorem getLast?_ne_point_of_isNumeral {w : List Char} (h : isNumeral w = true) :
    w.getLast? ≠ some '.' := by
  intro hlast
  have hdigit : ('.' : Char).isDigit = false := rfl
  obtain ⟨hd, _⟩ | ⟨whole, fraction, rfl, _, hf, _⟩ := numeral_cases h
  · rw [hd.isDigit '.' (List.mem_of_getLast? hlast)] at hdigit
    cases hdigit
  · rw [List.append_cons, List.getLast?_append_of_ne_nil _ hf.ne_nil] at hlast
    rw [hf.isDigit '.' (List.mem_of_getLast? hlast)] at hdigit
    cases hdigit

/-- The text of a number. -/
theorem operand_numeral {w : List Char} (h : isNumeral w = true)
    (hi : isInteger (w.takeWhile Char.isDigit) = true) :
    Operand [.numeral (String.ofList w)] := by
  have hwritten : (Token.numeral (String.ofList w)).isWritten = true := by
    rw [Token.isWritten, Token.isPlain, Token.isLexical, String.toList_ofList, h,
      isPlainNumeral_of_isNumeral h hi]
    rfl
  refine operand_singleton hwritten ?_ rfl
  rw [Token.isLoose, String.toList_ofList]
  exact beq_false_of_ne (getLast?_ne_point_of_isNumeral h)

/-- The first token stays what it is if it is no integer. -/
theorem head_merged {u v : Token} {us : List Token} (hu : u.isIntegerToken = false)
    (hv : v ∈ (merged (u :: us)).head?) : v = u := by
  rw [merged_cons, attach_of_not fun hi => absurd (hu.symm.trans hi) Bool.false_ne_true] at hv
  exact (Option.some.inj hv).symm

namespace Row

variable {ts us : List Token} {u : Token}

/-- A call or an index behind a row, optional or not. -/
theorem link (ht : Row ts) (hu : Row (u :: us)) (hm : u.isMark = true)
    (hp : u.isPoint = false) (optional : Bool) :
    Row (ts ++ Token.onlyIf optional (.mark "?.") ++ u :: us) := by
  have hinteger : u.isIntegerToken = false := by
    cases u <;> first | rfl | cases hm
  rw [List.append_assoc]
  cases optional with
  | false => exact ht.append hu (.inr fun _ hv => Option.some.inj hv ▸ hp)
  | true =>
      have hmark : Row (.mark "?." :: u :: us) := by
        refine hu.push (by decide) rfl (List.cons_ne_nil _ _) fun v hv => ?_
        rw [head_merged hinteger hv]
        cases u <;> first | rfl | cases hm
      exact ht.append hmark (.inr fun _ hv => Option.some.inj hv ▸ rfl)

/-- A member access behind a row that ends in no integer. -/
theorem member (ht : Row ts) (hi : endsInInteger ts = false) {property : String}
    (hp : isWord property.toList = true) (optional : Bool) :
    Row (ts ++ [Token.mark (if optional then "?." else ".")] ++ [Token.word property]) := by
  have hlink : Row ([Token.mark (if optional then "?." else ".")] ++ [Token.word property]) := by
    refine (operand_word hp).toRow.push ?_ rfl (List.cons_ne_nil _ _) fun v hv => ?_
    · cases optional <;> decide
    · rw [head_merged rfl hv]
      cases optional <;> rfl
  rw [List.append_assoc]
  exact ht.append hlink (.inl hi)

/-- A member access on an integer, which has a point of its own. -/
theorem integerMember {w property : String} (hw : (Token.numeral w).isWritten = true)
    (hd : w.toList.all Char.isDigit = true) (hp : isWord property.toList = true)
    (optional : Bool) :
    Row ([Token.numeral w] ++ [Token.mark "."] ++ [Token.mark (if optional then "?." else ".")] ++
      [Token.word property]) := by
  have hmerged : merged ([Token.numeral w] ++ [Token.mark "."] ++
      [Token.mark (if optional then "?." else ".")] ++ [Token.word property]) =
      [Token.numeral (w ++ "."), .mark (if optional then "?." else "."), .word property] :=
    attach_point hd _
  have hlast : (w ++ ".").toList.getLast? = some '.' := by
    rw [String.toList_append]
    exact List.getLast?_concat
  refine ⟨?_, ?_, ?_⟩
  · have hlink : (Token.mark (if optional then "?." else ".")).isWritten = true := by
      cases optional <;> decide
    intro t ht
    simp only [List.cons_append, List.nil_append, List.mem_cons, List.not_mem_nil, or_false] at ht
    rcases ht with rfl | rfl | rfl | rfl
    · exact hw
    · decide
    · exact hlink
    · exact Token.isWritten_word hp
  · have hpoint : ¬ (w ++ ".").toList.all Char.isDigit = true := by
      rw [← Token.isIntegerToken, not_isIntegerToken_point]
      exact Bool.false_ne_true
    have hfirst : (Token.numeral (w ++ ".")).precedes
        (.mark (if optional then "?." else ".")) = true := by
      rw [Token.precedes, if_neg hpoint]
      exact Bool.or_true _
    have hsecond : (Token.mark (if optional then "?." else ".")).precedes (.word property) =
        true := by
      cases optional <;> rfl
    rw [hmerged]
    exact List.isChain_cons_cons.mpr ⟨hfirst, List.isChain_cons_cons.mpr ⟨hsecond, .singleton _⟩⟩
  · rw [hmerged]
    intro t ht
    obtain rfl : Token.word property = t := Option.some.inj ht
    rfl

end Row

end TypeProbe
