import Mathlib.Data.List.Chain
import TypeProbe.Proofs.Lexical.Symbols

/-! # Splitting written text

Text is written from tokens with spaces where two of them would merge.  Splitting it gives the
tokens back if each of them may stand before the next (`Token.precedes`): the writer looks at a few
pairs of characters only, so that what else would merge has to be kept apart by the order in which
the tokens come.

A point directly behind an integer is read as part of the number (`merged`). -/

namespace TypeProbe

open Lexical

/-! ### Tokens in a row -/

namespace Token

/-- Whether a token may begin an operand. -/
def isOpener : Token → Bool
  | mark m => ["(", "[", "+", "++", "-", "--", "!"].contains m
  | _ => true

/-- Whether a token begins with a point. -/
def isPoint : Token → Bool
  | mark m => [".", "..."].contains m
  | _ => false

def isWordToken : Token → Bool
  | word _ => true
  | _ => false

/-- Whether a token is a number. -/
def isNumeralToken : Token → Bool
  | numeral _ => true
  | _ => false

def isMark : Token → Bool
  | mark _ => true
  | _ => false

/-- Whether a token is an integer without a point. -/
def isIntegerToken : Token → Bool
  | numeral w => w.toList.all Char.isDigit
  | _ => false

/-- Whether a token may stand before another one, if the writer keeps them apart where it does. -/
def precedes : Token → Token → Bool
  | mark m, u =>
      if m = "." then u.isWordToken
      else if m = "?." then !u.isNumeralToken
      else (extensions m).isEmpty || u.isOpener
  | numeral w, u =>
      if w.toList.all Char.isDigit then !u.isPoint
      else w.toList.getLast? != some '.' || u.isMark
  | _, _ => true

/-- Whether a token can be written and split off again. -/
def isWritten (t : Token) : Bool := t.isPlain && t.isLexical

end Token

/-- A token before others, with a point directly after it if it is an integer. -/
def Token.attach (t : Token) : List Token → List Token
  | [] => [t]
  | u :: rest =>
      match t with
      | numeral w =>
          if w.toList.all Char.isDigit && u == mark "." then numeral (w ++ ".") :: rest
          else t :: u :: rest
      | _ => t :: u :: rest

/-- Tokens, each integer in one with the point directly after it. -/
def merged (ts : List Token) : List Token := ts.foldr Token.attach []

/-! ### First characters -/

/-- The characters that a token can begin with. -/
theorem head_text {u : Token} (hu : u.isLexical = true) {c : Char} (hc : c ∈ u.text.head?) :
    match u with
    | .word _ => isWordStart c = true
    | .numeral _ => c.isDigit = true
    | .quoted _ => c = '"'
    | .mark _ => isPlainSign c = true ∧ (u.isOpener = true → c ∈ ['(', '[', '+', '-', '!']) ∧
        (c = '.' → u.isPoint = true) := by
  cases u with
  | word w =>
      have hw : isWord w.toList = true := hu
      have hc : c ∈ w.toList.head? := hc
      cases htext : w.toList with
      | nil =>
          rw [htext] at hc
          cases hc
      | cons d cs =>
          rw [htext] at hc hw
          obtain rfl := Option.some.inj hc
          simp only [isWord, Bool.and_eq_true] at hw
          exact hw.1
  | numeral w =>
      obtain ⟨d, cs, htext, hd⟩ := exists_digit_of_isPlainNumeral hu
      have hc : c ∈ w.toList.head? := hc
      rw [htext] at hc
      obtain rfl := Option.some.inj hc
      exact hd
  | quoted value =>
      obtain rfl := Option.some.inj hc
      rfl
  | mark m =>
      have hm : m ∈ punctuators := by simpa [Token.isLexical] using hu
      have hc : c ∈ m.toList.head? := hc
      have hopeners : ∀ m ∈ punctuators, (Token.mark m).isOpener = true →
          m.toList.head?.all (['(', '[', '+', '-', '!'].contains ·) = true := by decide
      have hpoints : ∀ m ∈ punctuators, m.toList.head? = some '.' →
          (Token.mark m).isPoint = true := by decide
      have hsign := isPlainSign_head hm
      rw [Option.mem_def.mp hc] at hsign
      refine ⟨hsign, ?_, ?_⟩
      · intro ho
        have hall := hopeners m hm ho
        rw [Option.mem_def.mp hc] at hall
        simpa using hall
      · rintro rfl
        exact hpoints m hm hc

/-- No character of a word or a number. -/
theorem not_isWordPart_of_isPlainSign {c : Char} (h : isPlainSign c = true) :
    isWordPart c = false := by
  simp only [isPlainSign, isWordStart, Bool.and_eq_true, Bool.not_eq_true', Bool.or_eq_false_iff,
    bne_iff_ne, ne_eq] at h
  obtain ⟨⟨_, ⟨halpha, hlow⟩, hdollar⟩, hdigit⟩ := h
  simp only [isWordPart, Char.isAlphanum, halpha, hdigit, hlow, hdollar, Bool.or_self]

theorem isWordChar_of_isWordPart {c : Char} (h : isWordPart c = true) : isWordChar c = true := by
  simp only [isWordPart, Bool.or_eq_true] at h
  simp only [isWordChar, Bool.or_eq_true]
  rcases h with (h | h) | h
  · exact .inl (.inl (.inl h))
  · exact .inl (.inl (.inr h))
  · exact .inl (.inr h)

/-- What does not merge with a character of a word is none. -/
theorem not_isWordPart_of_not_merges {last c : Char} (hl : isWordPart last = true)
    (h : (Edge.ofChar last).merges c = false) : isWordPart c = false := by
  rw [merges_of_isWordChar (isWordChar_of_isWordPart hl)] at h
  by_contra hc
  rw [Bool.not_eq_false] at hc
  rw [isWordChar_of_isWordPart hc] at h
  cases h

/-- What follows a token: a space, or the beginning of a token that may stand there and does not
merge with it. -/
def Token.IsFollowedBy (s : Token) (more : List Char) : Prop :=
  ∀ c ∈ more.head?, c = ' ' ∨
    ∃ u : Token, u.isLexical = true ∧ s.precedes u = true ∧ c ∈ u.text.head? ∧
      s.edge.merges c = false

section apart

variable {more : List Char}

/-- What follows does not go on with a text that ends in a character of words. -/
theorem not_isWordPart_of_isFollowedBy {s : Token} {last : Char} (hl : isWordPart last = true)
    (hedge : s.edge = Edge.ofChar last) (h : s.IsFollowedBy more) :
    more.head?.any isWordPart = false := by
  cases more with
  | nil => rfl
  | cons c more =>
      rcases h c rfl with rfl | ⟨_, _, _, _, hmerges⟩
      · rfl
      · rw [hedge] at hmerges
        exact not_isWordPart_of_not_merges hl hmerges

theorem edge_of_getLast {w : String} {last : Char} (h : w.toList.getLast? = some last) :
    (Token.word w).edge = Edge.ofChar last ∧ (Token.numeral w).edge = Edge.ofChar last ∧
      (Token.mark w).edge = Edge.ofChar last := by
  have hedge : (w.toList.getLast?.map Edge.ofChar).getD .other = Edge.ofChar last := by
    rw [h]
    rfl
  exact ⟨hedge, hedge, hedge⟩

theorem forall_mem_word {w : List Char} (hw : isWord w = true) : ∀ c ∈ w, isWordPart c = true := by
  cases w with
  | nil => exact nofun
  | cons c cs =>
      simp only [isWord, Bool.and_eq_true, List.all_eq_true] at hw
      exact List.forall_mem_cons.mpr ⟨isWordPart_of_isWordStart hw.1, hw.2⟩

theorem isApart_word {w : String} (hw : isWord w.toList = true)
    (h : (Token.word w).IsFollowedBy more) : (Token.word w).IsApart more := by
  have hall := forall_mem_word hw
  have hne : w.toList ≠ [] := by
    rintro hnil
    rw [hnil] at hw
    cases hw
  have hlast := List.getLast?_eq_getLast_of_ne_nil hne
  exact not_isWordPart_of_isFollowedBy (hall _ (List.getLast_mem hne)) (edge_of_getLast hlast).1 h

/-- A numeral ends in a digit, or in its point. -/
theorem getLast_plainNumeral {w : List Char} (hw : isPlainNumeral w = true) :
    (∃ last, w.getLast? = some last ∧ last.isDigit = true) ∨
      w.getLast? = some '.' ∧ w.all Char.isDigit = false := by
  obtain ⟨whole, hi, hwhole, rfl | ⟨fraction, hf, rfl⟩⟩ := plainNumeral_cases hw
  · have hne : w ≠ [] := by
      rintro rfl
      cases hi
    exact .inl ⟨_, List.getLast?_eq_getLast_of_ne_nil hne, hwhole _ (List.getLast_mem hne)⟩
  · by_cases hne : fraction = []
    · subst hne
      refine .inr ⟨List.getLast?_concat, ?_⟩
      simp
    · refine .inl ⟨fraction.getLast hne, ?_, hf _ (List.getLast_mem hne)⟩
      rw [List.append_cons, List.getLast?_append_of_ne_nil _ hne,
        List.getLast?_eq_getLast_of_ne_nil hne]

theorem isApart_numeral {w : String} (hw : isPlainNumeral w.toList = true)
    (h : (Token.numeral w).IsFollowedBy more) : (Token.numeral w).IsApart more := by
  have hpart : more.head?.any isWordPart = false := by
    rcases getLast_plainNumeral hw with ⟨last, hlast, hdigit⟩ | ⟨hlast, hall⟩
    · exact not_isWordPart_of_isFollowedBy (isWordPart_of_isDigit hdigit)
        (edge_of_getLast hlast).2.1 h
    · cases more with
      | nil => rfl
      | cons c more =>
          rcases h c rfl with rfl | ⟨u, hu, hprecedes, hc, _⟩
          · rfl
          · have hmark : u.isMark = true := by
              simp only [Token.precedes, hall, hlast] at hprecedes
              simpa using hprecedes
            have hhead := head_text hu hc
            cases u with
            | mark m => exact not_isWordPart_of_isPlainSign hhead.1
            | _ => cases hmark
  refine ⟨hpart, ?_⟩
  intro hall hpoint
  rcases h '.' hpoint with hspace | ⟨u, hu, hprecedes, hc, _⟩
  · cases hspace
  · have hnot : u.isPoint = false := by
      simp only [Token.precedes, hall, if_true] at hprecedes
      simpa using hprecedes
    have hhead := head_text hu hc
    cases u with
    | mark m =>
        rw [hhead.2.2 rfl] at hnot
        cases hnot
    | _ => cases hhead

/-- Only numbers begin with a digit. -/
theorem not_isDigit_head {u : Token} (hu : u.isLexical = true) (hn : u.isNumeralToken = false)
    {c : Char} (hc : c ∈ u.text.head?) : c.isDigit = false := by
  have hhead := head_text hu hc
  cases u with
  | word w =>
      have hstart : isWordStart c = true := hhead
      revert hstart
      exact forall_isWordPart (P := fun c => isWordStart c = true → c.isDigit = false) (by decide)
        (isWordPart_of_isWordStart hhead)
  | numeral w => cases hn
  | quoted value =>
      obtain rfl : c = '"' := hhead
      rfl
  | mark m =>
      simp only [isPlainSign, Bool.and_eq_true, Bool.not_eq_true'] at hhead
      exact hhead.1.2

/-- What punctuators go on with begins no operand, unless it merges. -/
theorem extensions_spec {m : String} (hm : m ∈ punctuators) {c : Char} (hc : c ∈ extensions m) :
    isPlainSign c = true ∧
      (c ∈ ['(', '[', '+', '-', '!'] → (Token.mark m).edge.merges c = true) := by
  have hall : (punctuators.all fun m => (extensions m).all fun c => isPlainSign c &&
      (!(['(', '[', '+', '-', '!'].contains c) || (Token.mark m).edge.merges c)) = true := by
    decide +kernel
  have hsigns := List.all_eq_true.mp (List.all_eq_true.mp hall m hm) c hc
  simp only [Bool.and_eq_true, Bool.or_eq_true, Bool.not_eq_true', List.contains_eq_mem,
    decide_eq_false_iff_not] at hsigns
  obtain ⟨hplain, hmerges⟩ := hsigns
  exact ⟨hplain, fun hopener => hmerges.resolve_left (not_not_intro hopener)⟩

/-- The beginning of an operand, or of a word, does not go on with a punctuator. -/
theorem not_mem_extensions {m : String} (hm : m ∈ punctuators) {u : Token}
    (hu : u.isLexical = true) (ho : u.isOpener = true) {c : Char} (hc : c ∈ u.text.head?)
    (hmerges : (Token.mark m).edge.merges c = false) : c ∉ extensions m := by
  intro hext
  obtain ⟨hsign, hmerge⟩ := extensions_spec hm hext
  have hpart := not_isWordPart_of_isPlainSign hsign
  have hhead := head_text hu hc
  cases u with
  | word w =>
      rw [isWordPart_of_isWordStart hhead] at hpart
      cases hpart
  | numeral w =>
      rw [isWordPart_of_isDigit hhead] at hpart
      cases hpart
  | quoted value =>
      obtain rfl : c = '"' := hhead
      cases hsign
  | mark n =>
      rw [hmerge (hhead.2.1 ho)] at hmerges
      cases hmerges

theorem isApart_mark {m : String} (hm : m ∈ punctuators)
    (h : (Token.mark m).IsFollowedBy more) (hless : m = "<" → ¬ ['!', '-', '-'] <+: more)
    (hminus : m = "--" → ¬ ['>'] <+: more) : (Token.mark m).IsApart more := by
  refine ⟨?_, ?_, hless, hminus⟩
  · intro c hc
    rcases h c hc with rfl | ⟨u, hu, hprecedes, hhead, hmerges⟩
    · intro hext
      have hsign := (extensions_spec hm hext).1
      cases hsign
    · by_cases hempty : extensions m = []
      · rw [hempty]
        exact List.not_mem_nil
      · have hopener : u.isOpener = true := by
          by_cases hpoint : m = "."
          · rw [Token.precedes, if_pos hpoint] at hprecedes
            cases u <;> first | rfl | cases hprecedes
          · by_cases hquestion : m = "?."
            · exact absurd (by rw [hquestion]; decide) hempty
            · rw [Token.precedes, if_neg hpoint, if_neg hquestion] at hprecedes
              simpa [hempty] using hprecedes
        exact not_mem_extensions hm hu hopener hhead hmerges
  · intro hlink
    cases more with
    | nil => rfl
    | cons c more =>
        rcases h c rfl with rfl | ⟨u, hu, hprecedes, hhead, _⟩
        · rfl
        · have hnumeral : u.isNumeralToken = false := by
            simp only [List.mem_cons, List.not_mem_nil, or_false] at hlink
            rcases hlink with rfl | rfl
            · cases u <;> first | rfl | cases hprecedes
            · simpa [Token.precedes] using hprecedes
          exact not_isDigit_head hu hnumeral hhead

/-- A token is apart from what may follow it. -/
theorem isApart_of_isFollowedBy {s : Token} (hs : s.isLexical = true) (h : s.IsFollowedBy more)
    (hless : s = .mark "<" → ¬ ['!', '-', '-'] <+: more)
    (hminus : s = .mark "--" → ¬ ['>'] <+: more) : s.IsApart more := by
  cases s with
  | word w => exact isApart_word hs h
  | numeral w => exact isApart_numeral hs h
  | mark m =>
      have hm : m ∈ punctuators := by simpa [Token.isLexical] using hs
      exact isApart_mark hm h (fun he => hless (congrArg _ he)) fun he => hminus (congrArg _ he)
  | quoted value => trivial

end apart

/-! ### Comments that the writer prevents -/

namespace Opener

theorem opensIn_append (o : Opener) (a b : List Char) :
    o.opensIn (a ++ b) = (o.opensIn a || (o.after a).opensIn b) := by
  induction a generalizing o with
  | nil => rfl
  | cons c a ih =>
      rw [List.cons_append, opensIn, opensIn, ih, Bool.or_assoc]
      rfl

/-- Where no mark is completed, none is within a beginning. -/
theorem not_opensIn_of_prefix {o : Opener} {text more u : List Char}
    (ho : o.opensIn text = false)
    (hm : ∀ v, v <+: more → '"' ∉ v → (o.after text).opensIn v = false)
    (hu : u <+: text ++ more) (hq : '"' ∉ u) : o.opensIn u = false := by
  rcases prefix_append_cases hu with ⟨v, rfl⟩ | ⟨⟨v, rfl⟩, hv⟩
  · rw [opensIn_append, Bool.or_eq_false_iff] at ho
    exact ho.1
  · rw [List.drop_left] at hv
    have hqv : '"' ∉ v := fun h => hq (List.mem_append_right _ h)
    rw [opensIn_append, ho, hm v hv hqv]
    rfl

/-- No mark is completed where none of its first characters is. -/
theorem opensIn_none_of_plain {text : List Char} (h : ∀ c ∈ text, c ≠ '-' ∧ c ≠ '<') :
    none.opensIn text = false := by
  induction text with
  | nil => rfl
  | cons c text ih =>
      obtain ⟨hdash, hless⟩ := h c List.mem_cons_self
      have hnext : none.next c = none := by
        unfold next
        split <;> first | rfl | contradiction
      have hcompletes : none.completes c = false := rfl
      rw [opensIn, hcompletes, hnext, ih fun d hd => h d (List.mem_cons_of_mem _ hd)]
      rfl

end Opener

theorem isDigit_or_point {w : List Char} (hw : isPlainNumeral w = true) {c : Char} (hc : c ∈ w) :
    c.isDigit = true ∨ c = '.' := by
  obtain ⟨whole, _, hwhole, rfl | ⟨fraction, hf, rfl⟩⟩ := plainNumeral_cases hw
  · exact .inl (hwhole c hc)
  · rcases List.mem_append.mp hc with h | h
    · exact .inl (hwhole c h)
    · rcases List.mem_cons.mp h with rfl | h
      · exact .inr rfl
      · exact .inl (hf c h)

/-- No token but a literal opens a comment on its own. -/
theorem Token.not_opensIn_text {t : Token} (ht : t.isLexical = true)
    (hq : ∀ value, t ≠ .quoted value) : Opener.none.opensIn t.text = false := by
  have hpart {c : Char} (hc : isWordPart c = true) : c ≠ '-' ∧ c ≠ '<' :=
    forall_isWordPart (P := fun c => c ≠ '-' ∧ c ≠ '<') (by decide) hc
  cases t with
  | quoted value => exact absurd rfl (hq value)
  | mark m =>
      have hall : ∀ m ∈ punctuators, Opener.none.opensIn m.toList = false := by decide
      exact hall m (by simpa [isLexical] using ht)
  | word w => exact Opener.opensIn_none_of_plain fun c hc => hpart (forall_mem_word ht c hc)
  | numeral w =>
      refine Opener.opensIn_none_of_plain fun c hc => ?_
      rcases isDigit_or_point ht hc with hdigit | rfl
      · exact hpart (isWordPart_of_isDigit hdigit)
      · decide

theorem Token.isLexical_of_isWritten {t : Token} (h : t.isWritten = true) : t.isLexical = true := by
  unfold isWritten at h
  rw [Bool.and_eq_true] at h
  exact h.2

theorem Token.isPlain_of_isWritten {t : Token} (h : t.isWritten = true) : t.isPlain = true := by
  unfold isWritten at h
  rw [Bool.and_eq_true] at h
  exact h.1

namespace Tail

/-- A text is written as it is if it opens no comment together with what is there, and otherwise
after a space. -/
theorem writeText_cases {text : List Char} (hne : text ≠ []) (t : Tail) :
    ((t.writeText text).1 = text ∧ t.opener.opensIn text = false ∧
        (t.writeText text).2.opener = t.opener.after text) ∨
      ((t.writeText text).1 = ' ' :: text ∧
        (t.writeText text).2.opener = Opener.none.after text) := by
  have hlast := List.getLast?_eq_getLast_of_ne_nil hne
  simp only [writeText, hlast]
  by_cases hspace : t.needsSpace text = true
  · rw [if_pos hspace]
    exact .inr ⟨rfl, rfl⟩
  · rw [if_neg hspace]
    simp only [needsSpace, Bool.or_eq_true, not_or, Bool.not_eq_true] at hspace
    exact .inl ⟨rfl, hspace.2, rfl⟩

/-- **What is written next** completes no mark that would open a comment, up to the next literal. -/
theorem not_opensIn_writeAll {fs : List Fragment} (hfs : ∀ f ∈ fs, f.token.isWritten = true)
    (t : Tail) {u : List Char} (hu : u <+: (t.writeAll fs).1) (hq : '"' ∉ u) :
    t.opener.opensIn u = false := by
  induction fs generalizing t u with
  | nil =>
      obtain rfl := List.prefix_nil.mp hu
      rfl
  | cons f fs ih =>
      have hf := hfs f List.mem_cons_self
      have hrest : ∀ g ∈ fs, g.token.isWritten = true :=
        fun g hg => hfs g (List.mem_cons_of_mem _ hg)
      have hmore {v : List Char} := ih hrest (t.write f).2 (u := v)
      have hu : u <+: (t.write f).1 ++ ((t.write f).2.writeAll fs).1 := hu
      have hne := Token.text_ne_nil (Token.isPlain_of_isWritten hf)
      rw [← f.text_eq] at hne
      by_cases hquoted : ∃ value, f = .quoted value
      · obtain ⟨value, rfl⟩ := hquoted
        -- the quote that comes first is not in `u`
        rcases List.prefix_cons_iff.mp hu with rfl | ⟨v, rfl, _⟩
        · rfl
        · exact absurd List.mem_cons_self hq
      · have hwrite : t.write f = t.writeText f.text := by
          cases f with
          | quoted value => exact absurd ⟨value, rfl⟩ hquoted
          | _ => rfl
        rw [hwrite] at hu hmore
        rcases writeText_cases hne t with ⟨htext, hopens, hafter⟩ | ⟨htext, hafter⟩
        · rw [htext] at hu
          refine Opener.not_opensIn_of_prefix hopens (fun v hv hqv => ?_) hu hq
          rw [← hafter]
          exact hmore hv hqv
        · rw [htext, List.cons_append] at hu
          rcases List.prefix_cons_iff.mp hu with rfl | ⟨v, rfl, hv⟩
          · rfl
          · have hself : Opener.none.opensIn f.text = false := by
              rw [f.text_eq]
              refine Token.not_opensIn_text (Token.isLexical_of_isWritten hf) ?_
              rintro value hvalue
              cases f <;> cases hvalue
              exact hquoted ⟨value, rfl⟩
            have hspace : t.opener.opensIn (' ' :: v) = Opener.none.opensIn v := by
              cases t.opener <;> rfl
            rw [hspace]
            refine Opener.not_opensIn_of_prefix hself (fun w hw hqw => ?_) hv
              fun h => hq (List.mem_cons_of_mem _ h)
            rw [← hafter]
            exact hmore hw hqw

end Tail

/-! ### Integers and their points -/

theorem attach_of_not {t : Token} {ts : List Token}
    (h : t.isIntegerToken = true → ts.head? ≠ some (.mark ".")) : t.attach ts = t :: ts := by
  cases ts with
  | nil => rfl
  | cons u ts =>
      cases t with
      | numeral w =>
          by_cases hw : w.toList.all Char.isDigit = true
          · have hu : u ≠ .mark "." := by
              rintro rfl
              exact h hw rfl
            simp [Token.attach, hu]
          · simp only [Token.attach, hw, Bool.false_and, Bool.false_eq_true, if_false]
      | _ => rfl

theorem attach_point {w : String} (hw : w.toList.all Char.isDigit = true) (ts : List Token) :
    (Token.numeral w).attach (.mark "." :: ts) = .numeral (w ++ ".") :: ts := by
  rw [Token.attach, hw]
  rfl

theorem merged_cons (t : Token) (ts : List Token) : merged (t :: ts) = t.attach (merged ts) := rfl

/-- The first of several tokens stays, or has become a number with a point. -/
theorem head_attach (t : Token) (ts : List Token) :
    (t.attach ts).head? = some t ∨
      ∃ w, t = .numeral w ∧ w.toList.all Char.isDigit = true ∧
        (t.attach ts).head? = some (.numeral (w ++ ".")) := by
  by_cases h : t.isIntegerToken = true → ts.head? ≠ some (.mark ".")
  · rw [attach_of_not h]
    exact .inl rfl
  · simp only [Classical.not_imp, not_not] at h
    obtain ⟨hi, hts⟩ := h
    cases t with
    | numeral w =>
        obtain ⟨rest, rfl⟩ := List.head?_eq_some_iff.mp hts
        rw [attach_point hi]
        exact .inr ⟨w, rfl, hi, rfl⟩
    | _ => cases hi

theorem head_merged_eq_point {ts : List Token} :
    (merged ts).head? = some (.mark ".") ↔ ts.head? = some (.mark ".") := by
  cases ts with
  | nil => rfl
  | cons t ts =>
      rw [merged_cons, List.head?_cons]
      rcases head_attach t (merged ts) with h | ⟨w, rfl, _, h⟩
      · rw [h]
      · rw [h]
        constructor <;> nofun

theorem isPlainNumeral_point {w : List Char} (hw : isPlainNumeral w = true)
    (hd : w.all Char.isDigit = true) : isPlainNumeral (w ++ ['.']) = true := by
  have hall : ∀ c ∈ w, c.isDigit = true := by simpa using hd
  have hself := takeWhile_digits hall [] rfl
  obtain ⟨htake, hdrop⟩ := takeWhile_digits hall ['.'] rfl
  rw [List.append_nil] at hself
  rw [isPlainNumeral, hself.1, hself.2] at hw
  rw [isPlainNumeral, htake, hdrop]
  simpa using hw

/-- What the first of several tokens has become begins like it. -/
theorem exists_head_merged {t : Token} (ht : t.isLexical = true) (ts : List Token) :
    ∃ u, (merged (t :: ts)).head? = some u ∧ u.isLexical = true ∧ u.text.head? = t.text.head? := by
  rw [merged_cons]
  rcases head_attach t (merged ts) with h | ⟨w, rfl, hd, h⟩
  · exact ⟨t, h, ht, rfl⟩
  · obtain ⟨c, cs, hw, _⟩ := exists_digit_of_isPlainNumeral ht
    refine ⟨_, h, ?_, ?_⟩
    · have hpoint := isPlainNumeral_point ht hd
      rwa [Token.isLexical, String.toList_append]
    · simp [Token.text, String.toList_append, hw]

/-! ### Splitting what was written -/

variable {closing : List Char → Bool} {more : List Char}

theorem Token.text_ne_nil_of_isLexical {s : Token} (hs : s.isLexical = true) : s.text ≠ [] := by
  cases s with
  | word w =>
      rintro (hnil : w.toList = [])
      have hw : isWord w.toList = true := hs
      rw [hnil] at hw
      cases hw
  | numeral w =>
      obtain ⟨c, cs, htext, _⟩ := exists_digit_of_isPlainNumeral hs
      rintro (hnil : w.toList = [])
      rw [hnil] at htext
      cases htext
  | mark m =>
      rintro (hnil : m.toList = [])
      have hm : m ∈ punctuators := by simpa [isLexical] using hs
      have hsign := isPlainSign_head hm
      rw [hnil] at hsign
      cases hsign
  | quoted value => exact List.cons_ne_nil _ _

/-- A token that does not go on in the text after it is split off. -/
theorem split_token {s : Token} (hs : s.isLexical = true) (ha : s.IsApart more)
    (before : List Char) :
    split closing before (s.text ++ more) =
      (split closing (before ++ s.text) more).map (s.symbol :: ·) := by
  have hne := Token.text_ne_nil_of_isLexical hs
  have hnumber : s.kind = .number → more.head?.any isWordPart = false := by
    cases s with
    | numeral w => exact fun _ => ha.1
    | _ => exact nofun
  rw [split_eq hne (Token.longest_text hs ha) hnumber]
  cases s <;> rfl

/-- The text that was written next follows a token if a token may follow it that is written next. -/
theorem isFollowedBy_writeAll {s : Token} {t : Tail} (hedge : t.edge = s.edge)
    {fs : List Fragment} (hfs : ∀ f ∈ fs, f.token.isWritten = true)
    (hnext : ∀ u ∈ (merged (fs.map Fragment.token)).head?, s.precedes u = true) :
    s.IsFollowedBy (t.writeAll fs).1 := by
  intro c hc
  cases fs with
  | nil => cases hc
  | cons f fs =>
      have hf := hfs f List.mem_cons_self
      have hc : c ∈ ((t.write f).1 ++ ((t.write f).2.writeAll fs).1).head? := hc
      obtain ⟨u, hu, hlexical, hhead⟩ :=
        exists_head_merged (Token.isLexical_of_isWritten hf) (fs.map Fragment.token)
      rcases Tail.write_eq (Fragment.text_ne_nil (Token.isPlain_of_isWritten hf)) t with
        ⟨d, text, htext, hmerges, hwrite⟩ | hwrite
      · rw [hwrite, htext] at hc
        obtain rfl := Option.some.inj hc
        refine .inr ⟨u, hlexical, hnext u hu, ?_, ?_⟩
        · rw [hhead, ← f.text_eq, htext]
          rfl
        · rwa [← hedge]
      · rw [hwrite] at hc
        obtain rfl := Option.some.inj hc
        exact .inl rfl

/-- What has been written ends with the mark that was written last. -/
theorem opener_write_punct {m : String} (hne : m.toList ≠ []) (t : Tail) :
    ∃ o : Opener, (t.write (.punct m)).2.opener = o.after m.toList := by
  rcases Tail.writeText_cases hne t with ⟨_, _, h⟩ | ⟨_, h⟩
  · exact ⟨t.opener, h⟩
  · exact ⟨.none, h⟩

/-- The writer keeps `<` from what would open a comment with it. -/
theorem not_prefix_less {fs : List Fragment} (hfs : ∀ f ∈ fs, f.token.isWritten = true) (t : Tail) :
    ¬ ['!', '-', '-'] <+: ((t.write (.punct "<")).2.writeAll fs).1 := by
  intro hp
  obtain ⟨o, ho⟩ := opener_write_punct (m := "<") (by decide) t
  have hless : o.after "<".toList = .less := by cases o <;> rfl
  have hnot := Tail.not_opensIn_writeAll hfs _ hp (by decide)
  rw [ho, hless] at hnot
  cases hnot

/-- And likewise `--`. -/
theorem not_prefix_minus {fs : List Fragment} (hfs : ∀ f ∈ fs, f.token.isWritten = true)
    (t : Tail) : ¬ ['>'] <+: ((t.write (.punct "--")).2.writeAll fs).1 := by
  intro hp
  obtain ⟨o, ho⟩ := opener_write_punct (m := "--") (by decide) t
  have hdashes : o.after "--".toList = .dashDash := by cases o <;> rfl
  have hnot := Tail.not_opensIn_writeAll hfs _ hp (by decide)
  rw [ho, hdashes] at hnot
  cases hnot

/-- A token does not go on in what is written after it. -/
theorem isApart_writeAll {f : Fragment} {fs : List Fragment} (hf : f.token.isWritten = true)
    (hfs : ∀ g ∈ fs, g.token.isWritten = true)
    (hnext : ∀ u ∈ (merged (fs.map Fragment.token)).head?, f.token.precedes u = true) (t : Tail) :
    f.token.IsApart ((t.write f).2.writeAll fs).1 := by
  have hedge := Tail.edge_write (Fragment.text_ne_nil (Token.isPlain_of_isWritten hf)) t
  refine isApart_of_isFollowedBy (Token.isLexical_of_isWritten hf)
    (isFollowedBy_writeAll hedge hfs hnext) ?_ ?_
  · intro hless
    cases f <;> cases hless
    exact not_prefix_less hfs t
  · intro hminus
    cases f <;> cases hminus
    exact not_prefix_minus hfs t

/-- The point behind an integer is written without a space. -/
theorem write_point (t : Tail) : (t.write (.punct ".")).1 = ['.'] := by
  have hneeds : t.needsSpace ['.'] = false := by
    obtain ⟨edge, opener⟩ := t
    cases edge <;> cases opener <;> rfl
  show (t.writeText ['.']).1 = _
  simp only [Tail.writeText, List.getLast?_singleton, hneeds]
  rfl

/-- A fragment is written as it is or after a space, which is split off. -/
theorem split_write {f : Fragment} (hf : f.token.isPlain = true) (t : Tail)
    (before text : List Char) :
    ∃ before', split closing before ((t.write f).1 ++ text) =
      split closing before' (f.token.text ++ text) := by
  rw [← f.text_eq]
  rcases Tail.write_eq (Fragment.text_ne_nil hf) t with ⟨_, _, _, _, hwrite⟩ | hwrite
  · exact ⟨before, by rw [hwrite]⟩
  · refine ⟨before ++ [' '], ?_⟩
    rw [hwrite, List.cons_append, split_space]

/-- An integer and its point are split off together. -/
theorem split_pointed {w : String} {fs : List Fragment}
    (hw : (Token.numeral w).isWritten = true) (hd : w.toList.all Char.isDigit = true)
    (hfs : ∀ g ∈ fs, g.token.isWritten = true)
    (hnext : ∀ u ∈ (merged (fs.map Fragment.token)).head?,
      (Token.numeral (w ++ ".")).precedes u = true) (t : Tail) (before : List Char) :
    ∃ (t' : Tail) (before' : List Char),
      split closing before (t.writeAll (.number w :: .punct "." :: fs)).1 =
        (split closing before' (t'.writeAll fs).1).map
          ((Token.numeral (w ++ ".")).symbol :: ·) := by
  let integer := t.write (.number w)
  let point := integer.2.write (.punct ".")
  have hlexical : (Token.numeral (w ++ ".")).isLexical = true := by
    have hpoint := isPlainNumeral_point (Token.isLexical_of_isWritten hw) hd
    rwa [Token.isLexical, String.toList_append]
  have hlast : (w ++ ".").toList.getLast? = some '.' := by
    rw [String.toList_append]
    exact List.getLast?_concat
  have hedge : point.2.edge = (Token.numeral (w ++ ".")).edge := by
    rw [(edge_of_getLast hlast).2.1]
    exact Tail.edge_write (f := .punct ".") (by decide) integer.2
  have hnumeral (m : String) : Token.numeral (w ++ ".") ≠ .mark m := by
    intro hmark
    cases hmark
  have hapart : (Token.numeral (w ++ ".")).IsApart (point.2.writeAll fs).1 :=
    isApart_of_isFollowedBy hlexical (isFollowedBy_writeAll hedge hfs hnext)
      (fun hmark => absurd hmark (hnumeral "<")) (fun hmark => absurd hmark (hnumeral "--"))
  have hall : (t.writeAll (.number w :: .punct "." :: fs)).1 =
      integer.1 ++ (point.1 ++ (point.2.writeAll fs).1) := rfl
  have htext : (Token.numeral w).text ++ (['.'] ++ (point.2.writeAll fs).1) =
      (Token.numeral (w ++ ".")).text ++ (point.2.writeAll fs).1 := by
    have hpoint : (w ++ ".").toList = w.toList ++ ['.'] := String.toList_append
    rw [← List.append_assoc]
    exact congrArg (· ++ _) hpoint.symm
  obtain ⟨before', hwrite⟩ := split_write (f := .number w) (Token.isPlain_of_isWritten hw) t before
    (point.1 ++ (point.2.writeAll fs).1)
  refine ⟨point.2, before' ++ (Token.numeral (w ++ ".")).text, ?_⟩
  rw [hall, hwrite, write_point]
  show split closing before' ((Token.numeral w).text ++ _) = _
  rw [htext, split_token hlexical hapart]

/-- **Splitting what was written** gives the tokens back if each may stand before the next. -/
theorem split_writeAll (fs : List Fragment) (hfs : ∀ f ∈ fs, f.token.isWritten = true)
    (hchain : (merged (fs.map Fragment.token)).IsChain fun s u => s.precedes u = true) (t : Tail)
    (before : List Char) :
    split closing before (t.writeAll fs).1 =
      some ((merged (fs.map Fragment.token)).map Token.symbol) := by
  cases fs with
  | nil => exact split_nil before
  | cons f fs =>
      have hf := hfs f List.mem_cons_self
      have hrest : ∀ g ∈ fs, g.token.isWritten = true :=
        fun g hg => hfs g (List.mem_cons_of_mem _ hg)
      rw [List.map_cons, merged_cons] at hchain ⊢
      have hall : (t.writeAll (f :: fs)).1 = (t.write f).1 ++ ((t.write f).2.writeAll fs).1 := rfl
      by_cases hpoint : f.token.isIntegerToken = true →
          (merged (fs.map Fragment.token)).head? ≠ some (.mark ".")
      · rw [attach_of_not hpoint] at hchain ⊢
        obtain ⟨hnext, hchain⟩ := List.isChain_cons.mp hchain
        obtain ⟨before', hwrite⟩ := split_write (Token.isPlain_of_isWritten hf) t before _
        rw [hall, hwrite, split_token (Token.isLexical_of_isWritten hf)
          (isApart_writeAll hf hrest hnext t), split_writeAll fs hrest hchain]
        rfl
      · simp only [Classical.not_imp, not_not, head_merged_eq_point] at hpoint
        obtain ⟨hinteger, hhead⟩ := hpoint
        obtain ⟨w, rfl⟩ : ∃ w, f = .number w := by
          cases f <;> first | exact ⟨_, rfl⟩ | cases hinteger
        obtain ⟨fs, rfl⟩ : ∃ fs', fs = .punct "." :: fs' := by
          cases fs with
          | nil => cases hhead
          | cons g fs =>
              have hg : g.token = .mark "." := Option.some.inj hhead
              cases g <;> cases hg
              exact ⟨fs, rfl⟩
        have hmerged : (Fragment.number w).token.attach
            (merged ((Fragment.punct "." :: fs).map Fragment.token)) =
              .numeral (w ++ ".") :: merged (fs.map Fragment.token) := by
          have hdot : merged ((Fragment.punct "." :: fs).map Fragment.token) =
              .mark "." :: merged (fs.map Fragment.token) := attach_of_not nofun
          rw [hdot]
          exact attach_point hinteger _
        rw [hmerged] at hchain ⊢
        obtain ⟨hnext, hchain⟩ := List.isChain_cons.mp hchain
        have hlater : ∀ g ∈ fs, g.token.isWritten = true :=
          fun g hg => hrest g (List.mem_cons_of_mem _ hg)
        obtain ⟨t', before', hsplit⟩ := split_pointed hf hinteger hlater hnext t before
        rw [hsplit, split_writeAll fs hlater hchain]
        rfl
termination_by fs.length

end TypeProbe
