import TypeProbe.Proofs.Lexical.Splitting
import TypeProbe.Proofs.Number.Literal
import TypeProbe.Proofs.Reading.Scan

/-! # Tokens as symbols of split text

A token is a symbol of split text (`Token.symbol`), and its text is the longest match in front of a
text that does not go on with it (`Token.longest_text`).  What would go on with a token is said by
`Token.IsApart`, and for a mark it is read off the list of all punctuators. -/

namespace TypeProbe

open Lexical

/-! ### Tokens that are symbols -/

/-- Whether a text is a word. -/
def Lexical.isWord : List Char → Bool
  | [] => false
  | c :: cs => isWordStart c && cs.all isWordPart

/-- Whether a text is a decimal number that begins with a digit and has no exponent. -/
def isPlainNumeral (text : List Char) : Bool :=
  isInteger (text.takeWhile Char.isDigit) &&
    match text.dropWhile Char.isDigit with
    | [] => true
    | point :: fraction => point == '.' && fraction.all Char.isDigit

/-- What may follow directly on a punctuator in a longer one, or in a comment. -/
def extensions (m : String) : List Char :=
  (punctuators ++ ["//", "/*"]).filterMap fun p =>
    if m.toList.isPrefixOf p.toList then p.toList[m.toList.length]? else none

namespace Token

/-- What a token is when text is split. -/
def kind : Token → Kind
  | word _ => .word
  | numeral _ => .number
  | mark _ => .punctuator
  | quoted _ => .string

def symbol (t : Token) : Symbol := ⟨t.kind, t.text⟩

/-- Whether the text of a token is one of its kind. -/
def isLexical : Token → Bool
  | word w => isWord w.toList
  | numeral w => isPlainNumeral w.toList
  | mark m => punctuators.contains m
  | quoted _ => true

/-- Whether a token does not go on in the text after it. -/
def IsApart : Token → List Char → Prop
  | word _, more => more.head?.any isWordPart = false
  | numeral w, more =>
      more.head?.any isWordPart = false ∧ (w.toList.all Char.isDigit = true → more.head? ≠ some '.')
  | mark m, more =>
      (∀ c ∈ more.head?, c ∉ extensions m) ∧
        (m ∈ [".", "?."] → more.head?.any Char.isDigit = false) ∧
        (m = "<" → ¬ ['!', '-', '-'] <+: more) ∧ (m = "--" → ¬ ['>'] <+: more)
  | quoted _, _ => True

end Token

variable {closing : Bool} {more : List Char}

/-! ### Words -/

theorem toNat_lt_of_isWordPart {c : Char} (h : isWordPart c = true) : c.toNat < 128 := by
  have hbound {last : Char} (hle : c.val ≤ last.val) (hlast : last.toNat < 128) :
      c.toNat < 128 :=
    Nat.lt_of_le_of_lt (UInt32.le_iff_toNat_le.mp hle) hlast
  have hparts : ((((c.isUpper || c.isLower) || c.isDigit) || c == '_') || c == '$') = true := h
  simp only [Bool.or_eq_true, beq_iff_eq] at hparts
  rcases hparts with (((hupper | hlower) | hdigit) | rfl) | rfl
  · exact hbound (of_decide_eq_true hupper).2 (by decide)
  · exact hbound (of_decide_eq_true (Bool.and_eq_true_iff.mp hlower).2) (by decide)
  · exact hbound (of_decide_eq_true (Bool.and_eq_true_iff.mp hdigit).2) (by decide)
  · decide +kernel
  · decide +kernel

/-- What holds of the characters of ASCII that words are made of, holds of all of them. -/
theorem forall_isWordPart {P : Char → Prop} (h : ∀ n < 128, isWordPart (.ofNat n) = true →
    P (.ofNat n)) {c : Char} (hc : isWordPart c = true) : P c := by
  have hn := h c.toNat (toNat_lt_of_isWordPart hc)
  rw [Char.ofNat_toNat] at hn
  exact hn hc

theorem isWordPart_of_isWordStart {c : Char} (h : isWordStart c = true) : isWordPart c = true := by
  simp only [isWordStart, isWordPart, Char.isAlphanum, Bool.or_eq_true] at h ⊢
  rcases h with (h | h) | h
  · exact .inl (.inl (.inl h))
  · exact .inl (.inr h)
  · exact .inr h

theorem not_blank_of_isWordPart {c : Char} (h : isWordPart c = true) :
    isBlank c = false ∧ c ≠ '"' := by
  exact forall_isWordPart (P := fun c => isBlank c = false ∧ c ≠ '"') (by decide) h

theorem classify_word {c : Char} (hc : isWordStart c = true) (cs rest : List Char) :
    classify closing (c :: cs) rest = if cs.all isWordPart then some .word else none := by
  obtain ⟨hblank, hquote⟩ := not_blank_of_isWordPart (isWordPart_of_isWordStart hc)
  rw [classify, if_neg (by simp [hblank]), if_neg hquote, if_pos hc]

theorem longest_word {w : List Char} (hw : isWord w = true)
    (hm : more.head?.any isWordPart = false) :
    longest closing (w ++ more) = some (.word, w, more) := by
  cases w with
  | nil => cases hw
  | cons c cs =>
      simp only [isWord, Bool.and_eq_true] at hw
      refine longest_eq (List.cons_ne_nil _ _) ?_ ?_
      · rw [classify_word hw.1, if_pos hw.2]
      · rintro u v hu rfl
        obtain ⟨d, u, rfl⟩ := List.exists_cons_of_ne_nil hu
        have hd : isWordPart d = false := hm
        rw [List.cons_append, classify_word hw.1, if_neg]
        simp [hd]

/-! ### Numbers -/

theorem isWordPart_of_isDigit {c : Char} (h : c.isDigit = true) : isWordPart c = true := by
  simp [isWordPart, Char.isAlphanum, h]

theorem classify_digit {c : Char} (hc : c.isDigit = true) (cs rest : List Char) :
    classify closing (c :: cs) rest = if isDecimal (c :: cs) then some .number else none := by
  have hpart := isWordPart_of_isDigit hc
  obtain ⟨hblank, hquote⟩ := not_blank_of_isWordPart hpart
  have hsign : isWordStart c = false ∧ c ≠ '/' ∧ c ≠ '<' ∧ c ≠ '-' := by
    revert hc
    exact forall_isWordPart (P := fun c => c.isDigit = true →
      isWordStart c = false ∧ c ≠ '/' ∧ c ≠ '<' ∧ c ≠ '-') (by decide) hpart
  obtain ⟨hstart, hslash, hless, hminus⟩ := hsign
  have hline : isLineComment closing (c :: cs) = false := by
    have hopeners : (lineOpeners closing).any (·.isPrefixOf (c :: cs)) = false := by
      cases closing <;> simp [lineOpeners, List.isPrefixOf, hslash.symm, hless.symm, hminus.symm]
    rw [isLineComment, hopeners, Bool.false_and]
  have hblock : isBlockComment (c :: cs) = false := by
    unfold isBlockComment
    split
    · next h => exact absurd (List.cons.inj h).1 hslash
    · rfl
  have hpunctuator : isPunctuator (c :: cs) rest = false := by
    have hheads : ∀ p ∈ punctuators, p.toList.head?.any Char.isDigit = false := by decide
    have hnot : punctuators.contains (String.ofList (c :: cs)) = false := by
      rw [List.contains_eq_mem, decide_eq_false_iff_not]
      intro hp
      have hhead := hheads _ hp
      rw [String.toList_ofList] at hhead
      simp [hc] at hhead
    rw [isPunctuator, hnot, Bool.false_and]
  rw [classify, if_neg (by simp [hblank]), if_neg hquote, if_neg (by simp [hstart]), hline, hblock,
    hpunctuator]
  rfl

/-- The digits before the point of a numeral, and the point with the digits after it if there is
one. -/
theorem plainNumeral_cases {w : List Char} (h : isPlainNumeral w = true) :
    ∃ whole, isInteger whole = true ∧ (∀ c ∈ whole, c.isDigit = true) ∧
      (w = whole ∨
        ∃ fraction, (∀ c ∈ fraction, c.isDigit = true) ∧ w = whole ++ '.' :: fraction) := by
  simp only [isPlainNumeral, Bool.and_eq_true] at h
  obtain ⟨hi, hrest⟩ := h
  have hsplit : w.takeWhile Char.isDigit ++ w.dropWhile Char.isDigit = w :=
    List.takeWhile_append_dropWhile
  refine ⟨_, hi, fun c hc => List.mem_takeWhile_imp hc, ?_⟩
  split at hrest
  · next hd =>
      rw [hd, List.append_nil] at hsplit
      exact .inl hsplit.symm
  · next fraction hd =>
      simp only [Bool.and_eq_true, beq_iff_eq, List.all_eq_true] at hrest
      obtain ⟨rfl, hf⟩ := hrest
      rw [hd] at hsplit
      exact .inr ⟨fraction, hf, hsplit.symm⟩

theorem not_isExponent {c : Char} (hc : isWordPart c = false) (u : List Char) :
    isExponent (c :: u) = false := by
  have he : c ≠ 'e' := by
    rintro rfl
    cases hc
  have hE : c ≠ 'E' := by
    rintro rfl
    cases hc
  unfold isExponent
  split
  · next h => cases h
  · next h =>
      cases h
      simp [he, hE]
  · next h =>
      cases h
      simp [he, hE]
  · next h =>
      cases h
      simp [he, hE]

theorem isDecimal_plainNumeral {w : List Char} (h : isPlainNumeral w = true) :
    isDecimal w = true := by
  obtain ⟨whole, hi, hw, rfl | ⟨fraction, hf, rfl⟩⟩ := plainNumeral_cases h
  · obtain ⟨htake, hdrop⟩ := takeWhile_digits hw [] rfl
    rw [List.append_nil] at htake hdrop
    rw [isDecimal, htake, hdrop]
    simp [hi, isExponent]
  · obtain ⟨htake, hdrop⟩ := takeWhile_digits hw ('.' :: fraction) rfl
    have hfraction := (takeWhile_digits hf [] rfl).2
    rw [List.append_nil] at hfraction
    rw [isDecimal, htake, hdrop]
    simp [hi, hfraction, isExponent]

/-- A numeral does not go on with a character of no word, unless with its point. -/
theorem not_isDecimal_append {w : List Char} (h : isPlainNumeral w = true) {c : Char}
    (hc : isWordPart c = false) (hpoint : w.all Char.isDigit = true → c ≠ '.') (u : List Char) :
    isDecimal (w ++ c :: u) = false := by
  have hdigit : c.isDigit = false := by
    by_contra hd
    rw [Bool.not_eq_false] at hd
    rw [isWordPart_of_isDigit hd] at hc
    cases hc
  have hstop : (c :: u).head?.any Char.isDigit = false := hdigit
  obtain ⟨whole, hi, hw, rfl | ⟨fraction, hf, rfl⟩⟩ := plainNumeral_cases h
  · obtain ⟨htake, hdrop⟩ := takeWhile_digits hw _ hstop
    have hne : c ≠ '.' := hpoint (List.all_eq_true.mpr hw)
    rw [isDecimal, htake, hdrop]
    split
    · next hcons => exact absurd (List.cons.inj hcons).1 hne
    · rw [not_isExponent hc, Bool.and_false]
  · obtain ⟨htake, hdrop⟩ := takeWhile_digits hw ('.' :: (fraction ++ c :: u)) rfl
    have hfraction := (takeWhile_digits hf _ hstop).2
    rw [List.append_assoc, List.cons_append, isDecimal, htake, hdrop]
    simp only [hfraction, not_isExponent hc, Bool.and_false]

theorem exists_digit_of_isPlainNumeral {w : List Char} (h : isPlainNumeral w = true) :
    ∃ c cs, w = c :: cs ∧ c.isDigit = true := by
  obtain ⟨whole, hi, hw, hor⟩ := plainNumeral_cases h
  cases whole with
  | nil => cases hi
  | cons c whole =>
      have hc := hw c List.mem_cons_self
      obtain rfl | ⟨fraction, _, rfl⟩ := hor
      · exact ⟨c, whole, rfl, hc⟩
      · exact ⟨c, _, List.cons_append, hc⟩

theorem longest_numeral {w : List Char} (hw : isPlainNumeral w = true)
    (hm : more.head?.any isWordPart = false)
    (hpoint : w.all Char.isDigit = true → more.head? ≠ some '.') :
    longest closing (w ++ more) = some (.number, w, more) := by
  obtain ⟨c, cs, rfl, hc⟩ := exists_digit_of_isPlainNumeral hw
  refine longest_eq (List.cons_ne_nil _ _) ?_ ?_
  · rw [classify_digit hc, if_pos (isDecimal_plainNumeral hw)]
  · rintro u v hu rfl
    obtain ⟨d, u, rfl⟩ := List.exists_cons_of_ne_nil hu
    have hd : isWordPart d = false := hm
    have hnot : isDecimal ((c :: cs) ++ d :: u) = false := by
      refine not_isDecimal_append hw hd ?_ u
      rintro hall rfl
      exact hpoint hall rfl
    rw [List.cons_append] at hnot ⊢
    rw [classify_digit hc, hnot]
    rfl

/-! ### String literals -/

/-- The character of an escape, and any character that needs none, does not end a literal. -/
theorem endsString_plain {c : Char} (h : c ∉ ['"', '\\', '\n', '\r']) (rest : List Char) :
    endsString (c :: rest) = endsString rest := by
  simp only [List.mem_cons, List.not_mem_nil, or_false, not_or] at h
  simp [endsString, h]

theorem endsString_hexEscape {c : Char} (h : c.toNat < 0x20) (rest : List Char) :
    endsString (Quoted.hexEscape c ++ rest) = endsString rest := by
  have hplain : ∀ n < 0x20, Quoted.hexDigit (n / 16) ∉ ['"', '\\', '\n', '\r'] ∧
      Quoted.hexDigit (n % 16) ∉ ['"', '\\', '\n', '\r'] := by decide +kernel
  obtain ⟨hhigh, hlow⟩ := hplain c.toNat h
  show endsString (_ :: _ :: rest) = _
  rw [endsString_plain hhigh, endsString_plain hlow]

theorem endsString_spell (c : Char) (next : Option Char) (rest : List Char) :
    endsString (Quoted.spell c next ++ rest) = endsString rest := by
  have hs := Quoted.spelledAs_spell c next
  generalize Quoted.spell c next = s at hs
  cases hs with
  | short hd =>
      simp only [Quoted.shortEscapes, List.mem_cons, Prod.mk.injEq, List.not_mem_nil,
        or_false] at hd
      rcases hd with ⟨rfl, rfl⟩ | ⟨rfl, rfl⟩ | ⟨rfl, rfl⟩ | ⟨rfl, rfl⟩ | ⟨rfl, rfl⟩ <;> rfl
  | nul => rfl
  | hex hcontrol => exact endsString_hexEscape hcontrol rest
  | line hd =>
      simp only [List.mem_cons, Prod.mk.injEq, List.not_mem_nil, or_false] at hd
      rcases hd with ⟨rfl, rfl⟩ | ⟨rfl, rfl⟩ <;> rfl
  | plain hraw hbackslash hquote =>
      have hline : c ≠ '\n' ∧ c ≠ '\r' := by
        constructor <;> (rintro rfl; exact absurd hraw.1 (by decide))
      exact endsString_plain (by simp [hbackslash, hquote, hline]) rest

/-- A literal ends at its closing quote and nowhere else. -/
theorem endsString_body (value u : List Char) :
    endsString (Quoted.body value ++ '"' :: u) = decide (u = []) := by
  induction value with
  | nil => cases u <;> rfl
  | cons c value ih =>
      rw [Quoted.body, List.append_assoc, endsString_spell, ih]

theorem classify_quoted (cs rest : List Char) :
    classify closing ('"' :: cs) rest = if endsString cs then some .string else none := rfl

theorem longest_quoted (value : List Char) :
    longest closing (Quoted.encode value ++ more) = some (.string, Quoted.encode value, more) := by
  refine longest_eq (List.cons_ne_nil _ _) ?_ ?_
  · rw [Quoted.encode, List.cons_append, classify_quoted, endsString_body]
    rfl
  · rintro u v hu -
    rw [Quoted.encode, List.cons_append, List.cons_append, classify_quoted, List.append_assoc,
      List.singleton_append, endsString_body, decide_eq_false hu]
    rfl

/-! ### Punctuators -/

/-- Whether a character begins no white space, no literal, no word and no number. -/
def isPlainSign (c : Char) : Bool := !isBlank c && c != '"' && !isWordStart c && !c.isDigit

theorem isPlainSign_head {m : String} (hm : m ∈ punctuators) :
    m.toList.head?.any isPlainSign = true := by
  have hall : ∀ m ∈ punctuators, m.toList.head?.any isPlainSign = true := by decide
  exact hall m hm

theorem classify_sign {c : Char} (hc : isPlainSign c = true) (cs rest : List Char) :
    classify closing (c :: cs) rest =
      if isLineComment closing (c :: cs) || isBlockComment (c :: cs) then some .comment
      else if isDecimal (c :: cs) then some .number
      else if isPunctuator (c :: cs) rest then some .punctuator
      else none := by
  simp only [isPlainSign, Bool.and_eq_true, Bool.not_eq_true', bne_iff_ne, ne_eq] at hc
  obtain ⟨⟨⟨hblank, hquote⟩, hword⟩, _⟩ := hc
  rw [classify, if_neg (by simp [hblank]), if_neg hquote, if_neg (by simp [hword])]

/-- The ways in which a punctuator could go on as a comment. -/
def commentTails : List (String × List Char) :=
  [("/", ['/']), ("/", ['*']), ("<", ['!', '-', '-']), ("-", ['-', '>']), ("--", ['>'])]

theorem prefix_append_cases {s m u : List Char} (h : s <+: m ++ u) :
    s <+: m ∨ m <+: s ∧ s.drop m.length <+: u := by
  rcases List.prefix_or_prefix_of_prefix h (List.prefix_append m u) with hs | hm
  · exact .inl hs
  · obtain ⟨t, rfl⟩ := hm
    rw [List.drop_left]
    exact .inr ⟨List.prefix_append m t, (List.prefix_append_right_inj m).mp h⟩

/-- A punctuator opens no comment together with a text after it, unless as one of
`commentTails`. -/
theorem not_opener_prefix {m : String} (hm : m ∈ punctuators) {u : List Char}
    (hu : ∀ t, (m, t) ∈ commentTails → ¬ t <+: u) {s : List Char}
    (hs : s ∈ lineOpeners true ++ ["/*".toList]) : ¬ s <+: m.toList ++ u := by
  have hall : ∀ m ∈ punctuators, ∀ s ∈ lineOpeners true ++ ["/*".toList], ¬ s <+: m.toList ∧
      (m.toList <+: s → (m, s.drop m.toList.length) ∈ commentTails) := by decide
  intro h
  obtain ⟨hnot, htail⟩ := hall m hm s hs
  rcases prefix_append_cases h with hp | ⟨hp, hd⟩
  · exact hnot hp
  · exact hu _ (htail hp) hd

theorem isComment_eq_false {m : String} (hm : m ∈ punctuators) {u : List Char}
    (hu : ∀ t, (m, t) ∈ commentTails → ¬ t <+: u) :
    isLineComment closing (m.toList ++ u) = false ∧ isBlockComment (m.toList ++ u) = false := by
  have hnot {s : List Char} := not_opener_prefix (s := s) hm hu
  constructor
  · have hopeners : (lineOpeners closing).any (·.isPrefixOf (m.toList ++ u)) = false := by
      rw [List.any_eq_false]
      intro s hs hp
      have hs' : s ∈ lineOpeners true ++ ["/*".toList] := by
        cases closing with
        | true => exact List.mem_append_left _ hs
        | false =>
            have hs : s ∈ ["//".toList, "<!--".toList] := by simpa [lineOpeners] using hs
            exact List.mem_append_left _ (List.mem_append_left _ hs)
      exact hnot hs' (List.isPrefixOf_iff_prefix.mp hp)
    rw [isLineComment, hopeners, Bool.false_and]
  · unfold isBlockComment
    split
    · next rest h =>
        rw [h] at hnot
        exact absurd (List.prefix_append ['/', '*'] rest) (hnot (by simp))
    · rfl

theorem isDecimal_sign {c : Char} {cs : List Char} (hc : c.isDigit = false)
    (hpoint : c = '.' → cs.head?.any Char.isDigit = false) : isDecimal (c :: cs) = false := by
  have htake : (c :: cs).takeWhile Char.isDigit = [] := by simp [hc]
  have hdrop : (c :: cs).dropWhile Char.isDigit = c :: cs := by simp [hc]
  have hempty : isInteger [] = false := rfl
  rw [isDecimal, htake, hdrop]
  split
  · next h =>
      obtain ⟨rfl, rfl⟩ := List.cons.inj h
      simp only [hempty, hpoint rfl, Bool.and_false, Bool.or_false, Bool.false_and]
  · simp only [hempty, Bool.false_and]

theorem isDecimal_punctuator {m : String} (hm : m ∈ punctuators) {u : List Char}
    (hu : m = "." → u.head?.any Char.isDigit = false) : isDecimal (m.toList ++ u) = false := by
  have hpoints : ∀ m ∈ punctuators, m.toList.head? = some '.' → m = "." ∨ m = "..." := by decide
  have hsign := isPlainSign_head hm
  cases htext : m.toList with
  | nil =>
      rw [htext] at hsign
      cases hsign
  | cons c cs =>
      rw [htext] at hsign
      have hdigit : c.isDigit = false := by
        simp only [List.head?_cons, Option.any_some, isPlainSign, Bool.and_eq_true,
          Bool.not_eq_true'] at hsign
        exact hsign.2
      rw [List.cons_append]
      refine isDecimal_sign hdigit ?_
      rintro rfl
      rcases hpoints m hm (by rw [htext]; rfl) with rfl | rfl
      · have hcs : cs = [] := by
          cases htext
          rfl
        rw [hcs]
        exact hu rfl
      · have hcs : cs = ['.', '.'] := by
          cases htext
          rfl
        rw [hcs]
        rfl

theorem isPunctuator_append {m : String} {c : Char} (hc : c ∉ extensions m) (u rest : List Char) :
    isPunctuator (m.toList ++ c :: u) rest = false := by
  have hnot : punctuators.contains (String.ofList (m.toList ++ c :: u)) = false := by
    rw [List.contains_eq_mem, decide_eq_false_iff_not]
    intro hp
    refine hc (List.mem_filterMap.mpr ⟨_, List.mem_append_left _ hp, ?_⟩)
    rw [String.toList_ofList, if_pos (List.isPrefixOf_iff_prefix.mpr (List.prefix_append _ _)),
      List.getElem?_append_right (Nat.le_refl _), Nat.sub_self]
    rfl
  rw [isPunctuator, hnot, Bool.false_and]

theorem mem_head?_of_leads {c : Char} {t : List Char} (h : c :: t <+: more) : c ∈ more.head? := by
  obtain ⟨u, rfl⟩ := h
  rfl

/-- A mark that does not go on in the text after it does not go on as a comment. -/
theorem Token.IsApart.not_commentTail {m : String} {t : List Char} (h : (mark m).IsApart more)
    (ht : (m, t) ∈ commentTails) : ¬ t <+: more := by
  obtain ⟨hext, _, hless, hminus⟩ := h
  intro hp
  simp only [commentTails, List.mem_cons, Prod.mk.injEq, List.not_mem_nil, or_false] at ht
  rcases ht with ⟨rfl, rfl⟩ | ⟨rfl, rfl⟩ | ⟨rfl, rfl⟩ | ⟨rfl, rfl⟩ | ⟨rfl, rfl⟩
  · exact hext '/' (mem_head?_of_leads hp) (by decide)
  · exact hext '*' (mem_head?_of_leads hp) (by decide)
  · exact hless rfl hp
  · exact hext '-' (mem_head?_of_leads hp) (by decide)
  · exact hminus rfl hp

/-- A punctuator is one in front of a text that it does not go on in. -/
theorem Token.IsApart.isPunctuator {m : String} (h : (mark m).IsApart more) (hm : m ∈ punctuators) :
    isPunctuator m.toList more = true := by
  have hcontains : punctuators.contains (String.ofList m.toList) = true := by
    rw [String.ofList_toList]
    simpa using hm
  have hdigit : (m.toList == ['?', '.'] && more.head?.any Char.isDigit) = false := by
    by_cases hq : m.toList = ['?', '.']
    · have hm' : m = "?." := String.toList_inj.mp hq
      rw [h.2.1 (by simp [hm']), Bool.and_false]
    · rw [beq_false_of_ne hq, Bool.false_and]
  rw [Lexical.isPunctuator, hcontains, hdigit]
  rfl

theorem longest_mark {m : String} (hm : m ∈ punctuators) (h : (Token.mark m).IsApart more) :
    longest closing (m.toList ++ more) = some (.punctuator, m.toList, more) := by
  have hsign := isPlainSign_head hm
  obtain ⟨c, cs, htext⟩ : ∃ c cs, m.toList = c :: cs := by
    cases htext : m.toList with
    | nil =>
        rw [htext] at hsign
        cases hsign
    | cons c cs => exact ⟨c, cs, rfl⟩
  have hc : isPlainSign c = true := by
    rw [htext] at hsign
    exact hsign
  have hclassify : ∀ u v, more = u ++ v → classify closing (m.toList ++ u) v =
      if isPunctuator (m.toList ++ u) v then some .punctuator else none := by
    intro u v huv
    have htails : ∀ t, (m, t) ∈ commentTails → ¬ t <+: u :=
      fun t ht hp => h.not_commentTail ht (hp.trans ⟨v, huv.symm⟩)
    obtain ⟨hline, hblock⟩ := @isComment_eq_false closing m hm u htails
    have hdecimal : isDecimal (m.toList ++ u) = false := by
      refine isDecimal_punctuator hm ?_
      rintro rfl
      have hhead := h.2.1 (by decide)
      cases u with
      | nil => rfl
      | cons d u =>
          rw [huv] at hhead
          exact hhead
    rw [htext, List.cons_append] at hline hblock hdecimal ⊢
    rw [classify_sign hc, hline, hblock, hdecimal]
    rfl
  refine longest_eq (by simp [htext]) ?_ ?_
  · have hself := hclassify [] more rfl
    rw [List.append_nil] at hself
    rw [hself, if_pos (h.isPunctuator hm)]
  · intro u v hu huv
    obtain ⟨d, u, rfl⟩ := List.exists_cons_of_ne_nil hu
    have hd : d ∉ extensions m := by
      refine h.1 d ?_
      rw [huv]
      rfl
    rw [hclassify _ v huv, isPunctuator_append hd]
    rfl

/-- **The text of a token is the longest match** in front of a text that does not go on with it. -/
theorem Token.longest_text {t : Token} (ht : t.isLexical = true) (h : t.IsApart more) :
    longest closing (t.text ++ more) = some (t.kind, t.text, more) := by
  cases t with
  | word w => exact longest_word ht h
  | numeral w => exact longest_numeral ht h.1 h.2
  | mark m => exact longest_mark (by simpa [isLexical] using ht) h
  | quoted value => exact longest_quoted _

end TypeProbe
