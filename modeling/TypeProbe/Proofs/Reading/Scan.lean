import Mathlib.Data.List.TakeWhile
import TypeProbe.Print.Spacing
import TypeProbe.Proofs.Grammar.Token
import TypeProbe.Proofs.Reading.Literal

/-! # Scanning

Program text is cut into lexemes (`scan`): runs of word characters, string literals, the doubled
signs `++` and `--`, and all other signs one by one.  Which signs make up an operator is left to
the reader, since `>=` is one in an expression and two marks after a type.

A text that is written from tokens is cut into the lexemes of the tokens (`Tail.scan_writeAll`):
where two tokens would run together a space was written, and a space belongs to no lexeme. -/

namespace TypeProbe

/-- A piece of scanned text. -/
inductive Lexeme where
  | run (text : String)
  | quoted (value : String)
  | twice (c : Char)
  | sign (c : Char)
deriving DecidableEq, Repr

/-- Whether a sign is read together with the same sign after it. -/
def doubles (c : Char) : Bool := c == '+' || c == '-'

def scan (text : List Char) : Option (List Lexeme) :=
  match text with
  | [] => some []
  | c :: rest =>
      if c = ' ' then scan rest
      else if c = '"' then
        match h : Quoted.read rest with
        | none => none
        | some (value, more) =>
            have := Quoted.length_of_read h
            (scan more).map (.quoted (String.ofList value) :: ·)
      else if isWordChar c then
        have := List.length_dropWhile_le isWordChar rest
        (scan (rest.dropWhile isWordChar)).map
          (.run (String.ofList (c :: rest.takeWhile isWordChar)) :: ·)
      else if doubles c && rest.head? == some c then
        (scan rest.tail).map (.twice c :: ·)
      else (scan rest).map (.sign c :: ·)
termination_by text.length
decreasing_by all_goals simp only [List.length_cons, List.length_tail]; omega

/-! ### Tokens and their lexemes -/

def isSign (c : Char) : Bool := !isWordChar c && c != ' ' && c != '"'

/-- The lexemes of a text of signs. -/
def signs : List Char → List Lexeme
  | [] => []
  | [c] => [.sign c]
  | c :: d :: rest =>
      if doubles c && d == c then .twice c :: signs rest else .sign c :: signs (d :: rest)

/-- The lexemes of a numeral: its point stands between two runs. -/
def numeralLexemes (text : List Char) : List Lexeme :=
  match text.dropWhile Char.isDigit with
  | [] => [.run (String.ofList text)]
  | point :: fraction =>
      [.run (String.ofList (text.takeWhile Char.isDigit)), .sign point,
        .run (String.ofList fraction)]

/-- Whether a text is a numeral: digits, and after a point digits again. -/
def isNumeral (text : List Char) : Bool :=
  text.takeWhile Char.isDigit != [] &&
    match text.dropWhile Char.isDigit with
    | [] => true
    | point :: fraction => point == '.' && fraction != [] && fraction.all Char.isDigit

namespace Token

/-- The characters of a token. -/
def text : Token → List Char
  | word t | numeral t | mark t => t.toList
  | quoted value => Quoted.encode value.toList

def lexemes : Token → List Lexeme
  | word t => [.run t]
  | numeral t => numeralLexemes t.toList
  | mark t => signs t.toList
  | quoted value => [.quoted value]

/-- Whether a token is written as tokens of its kind are. -/
def isPlain : Token → Bool
  | word t => t.toList != [] && t.toList.all isWordChar
  | numeral t => isNumeral t.toList
  | mark t => t.toList != [] && t.toList.all isSign
  | quoted _ => true

/-- What the end of a token could merge with. -/
def edge : Token → Edge
  | quoted _ => .other
  | t => (t.text.getLast?.map Edge.ofChar).getD .other

end Token

def lexemes (ts : List Token) : List Lexeme := ts.flatMap Token.lexemes

@[simp] theorem lexemes_nil : lexemes [] = [] := rfl

@[simp] theorem lexemes_append (ts us : List Token) :
    lexemes (ts ++ us) = lexemes ts ++ lexemes us := List.flatMap_append

@[simp] theorem lexemes_singleton (t : Token) : lexemes [t] = t.lexemes := by simp [lexemes]

theorem lexemes_parenthesized (ts : List Token) (rest : List Lexeme) :
    lexemes ([Token.mark "("] ++ ts ++ [Token.mark ")"]) ++ rest =
      Lexeme.sign '(' :: (lexemes ts ++ Lexeme.sign ')' :: rest) := by
  simp only [lexemes_append, List.append_assoc]
  rfl

theorem lexemes_braced (ts : List Token) (rest : List Lexeme) :
    lexemes ([Token.mark "\x7b"] ++ ts ++ [Token.mark "\x7d"]) ++ rest =
      Lexeme.sign '\x7b' :: (lexemes ts ++ Lexeme.sign '\x7d' :: rest) := by
  simp only [lexemes_append, List.append_assoc]
  rfl

/-! ### What scanning does with a token -/

theorem isWordChar_of_isDigit {c : Char} (h : c.isDigit = true) : isWordChar c = true := by
  simp [isWordChar, Char.isAlphanum, h]

/-- Digits, and at least one. -/
structure DigitRun (w : List Char) : Prop where
  ne_nil : w ≠ []
  isDigit : ∀ c ∈ w, c.isDigit = true

theorem DigitRun.isWordChar {w : List Char} (h : DigitRun w) : ∀ c ∈ w, isWordChar c = true :=
  fun c hc => isWordChar_of_isDigit (h.isDigit c hc)

theorem DigitRun.head {w : List Char} (h : DigitRun w) : w.head?.any Char.isDigit = true := by
  obtain ⟨c, w', rfl⟩ := List.exists_cons_of_ne_nil h.ne_nil
  exact h.isDigit c List.mem_cons_self

/-- A numeral is a run of digits, or one before and one after the point. -/
theorem numeral_cases {text : List Char} (h : isNumeral text = true) :
    (DigitRun text ∧ numeralLexemes text = [.run (String.ofList text)]) ∨
      ∃ whole fraction, text = whole ++ '.' :: fraction ∧ DigitRun whole ∧ DigitRun fraction ∧
        numeralLexemes text =
          [.run (String.ofList whole), .sign '.', .run (String.ofList fraction)] := by
  simp only [isNumeral, Bool.and_eq_true, bne_iff_ne, ne_eq] at h
  obtain ⟨hne, hf⟩ := h
  have hsplit : text.takeWhile Char.isDigit ++ text.dropWhile Char.isDigit = text :=
    List.takeWhile_append_dropWhile
  have hw : DigitRun (text.takeWhile Char.isDigit) := ⟨hne, fun c hc => List.mem_takeWhile_imp hc⟩
  unfold numeralLexemes
  split at hf
  · next hd =>
      rw [hd, List.append_nil] at hsplit
      rw [hsplit] at hw
      exact .inl ⟨hw, rfl⟩
  · next fraction hd =>
      simp only [Bool.and_eq_true, beq_iff_eq, bne_iff_ne, ne_eq, List.all_eq_true] at hf
      obtain ⟨⟨rfl, hne'⟩, hdigits⟩ := hf
      rw [hd] at hsplit
      exact .inr ⟨_, _, hsplit.symm, hw, ⟨hne', hdigits⟩, rfl⟩

theorem scan_space (text : List Char) : scan (' ' :: text) = scan text := by
  rw [scan]
  rfl

theorem scan_quoted (value : List Char) (more : List Char) :
    scan (Quoted.encode value ++ more) =
      (scan more).map ([Lexeme.quoted (String.ofList value)] ++ ·) := by
  have hread := Quoted.read_body value more
  rw [Quoted.encode, List.cons_append, List.cons_append, scan, if_neg (by decide), if_pos rfl,
    List.append_assoc, List.singleton_append]
  split
  · next hnone =>
      rw [hread] at hnone
      cases hnone
  · next hsome =>
      rw [hread] at hsome
      cases hsome
      rfl

/-- A run of word characters is a lexeme if it ends there. -/
theorem scan_run {w more : List Char} (hw : w ≠ []) (ha : ∀ c ∈ w, isWordChar c = true)
    (hm : more.head?.any isWordChar = false) :
    scan (w ++ more) = (scan more).map ([Lexeme.run (String.ofList w)] ++ ·) := by
  cases w with
  | nil => exact absurd rfl hw
  | cons c w =>
      have hc : isWordChar c = true := ha c List.mem_cons_self
      have hspace : c ≠ ' ' := by
        rintro rfl
        cases hc
      have hquote : c ≠ '"' := by
        rintro rfl
        cases hc
      have hrest : ∀ d ∈ w, isWordChar d = true := fun d hd => ha d (List.mem_cons_of_mem _ hd)
      have hstop : more.takeWhile isWordChar = [] ∧ more.dropWhile isWordChar = more := by
        cases more with
        | nil => exact ⟨rfl, rfl⟩
        | cons d more =>
            have hd : isWordChar d = false := hm
            simp [hd]
      rw [List.cons_append, scan, if_neg hspace, if_neg hquote, if_pos hc,
        List.takeWhile_append_of_pos hrest, List.dropWhile_append_of_pos hrest, hstop.1, hstop.2,
        List.append_nil]
      rfl

/-- Signs are cut in the same way whatever follows, unless the last one would double. -/
theorem scan_signs {cs more : List Char} (ha : ∀ c ∈ cs, isSign c = true)
    (hm : ∀ c ∈ cs.getLast?, (doubles c && more.head? == some c) = false) :
    scan (cs ++ more) = (scan more).map (signs cs ++ ·) := by
  have hstep {c : Char} (hc : isSign c = true) (text : List Char) :
      scan (c :: text) =
        if doubles c && text.head? == some c then (scan text.tail).map (.twice c :: ·)
        else (scan text).map (.sign c :: ·) := by
    simp only [isSign, Bool.and_eq_true, Bool.not_eq_true', bne_iff_ne] at hc
    rw [scan, if_neg hc.1.2, if_neg hc.2, if_neg (by simp [hc.1.1])]
  induction cs using signs.induct with
  | case1 =>
      rw [List.nil_append]
      cases scan more <;> rfl
  | case2 c =>
      rw [List.singleton_append, hstep (ha c List.mem_cons_self), if_neg (by simp [hm c rfl])]
      rfl
  | case3 c d rest hd ih =>
      have hlast : ∀ e ∈ rest.getLast?, (doubles e && more.head? == some e) = false := by
        intro e he
        cases rest with
        | nil => cases he
        | cons e' rest => exact hm e (by simpa using he)
      have hd' : (doubles c && (d :: (rest ++ more)).head? == some c) = true := by simpa using hd
      rw [List.cons_append, List.cons_append, hstep (ha c List.mem_cons_self), if_pos hd', signs,
        if_pos hd, List.tail_cons,
        ih (fun e he => ha e (List.mem_cons_of_mem _ (List.mem_cons_of_mem _ he))) hlast,
        Option.map_map]
      rfl
  | case4 c d rest hd ih =>
      have hd' : ¬ (doubles c && (d :: (rest ++ more)).head? == some c) = true := by
        simpa using hd
      rw [List.cons_append, List.cons_append, hstep (ha c List.mem_cons_self), if_neg hd', signs,
        if_neg hd, ← List.cons_append,
        ih (fun e he => ha e (List.mem_cons_of_mem _ he)) (fun e he => hm e (by simpa using he)),
        Option.map_map]
      rfl

theorem merges_of_isWordChar {c : Char} (hc : isWordChar c = true) (d : Char) :
    (Edge.ofChar c).merges d = isWordChar d := by
  have hword : Edge.ofChar c = .word := by
    unfold Edge.ofChar
    rw [if_neg, if_neg, if_neg, if_pos hc]
    all_goals
      rintro rfl
      cases hc
  rw [hword]
  rfl

/-- After a run of word characters, what does not merge is no word character. -/
theorem not_isWordChar_of_not_merges {w more : List Char} (hw : w ≠ [])
    (ha : ∀ c ∈ w, isWordChar c = true)
    (hm : ∀ c ∈ more.head?, ((w.getLast?.map Edge.ofChar).getD .other).merges c = false) :
    more.head?.any isWordChar = false := by
  cases more with
  | nil => rfl
  | cons d more =>
      have hd := hm d rfl
      rw [List.getLast?_eq_getLast_of_ne_nil hw, Option.map_some, Option.getD_some,
        merges_of_isWordChar (ha _ (List.getLast_mem hw))] at hd
      exact hd

/-- After a sign, what does not merge does not double it. -/
theorem not_doubles_of_not_merges {c : Char} {more : List Char}
    (hm : ∀ d ∈ more.head?, (Edge.ofChar c).merges d = false) :
    (doubles c && more.head? == some c) = false := by
  cases more with
  | nil => simp
  | cons d more =>
      have hd := hm d rfl
      by_cases hplus : c = '+'
      · subst hplus
        exact hd
      · by_cases hminus : c = '-'
        · subst hminus
          exact hd
        · simp [doubles, hplus, hminus]

theorem scan_numeral {text more : List Char} (ht : isNumeral text = true)
    (hm : ∀ c ∈ more.head?, ((text.getLast?.map Edge.ofChar).getD .other).merges c = false) :
    scan (text ++ more) = (scan more).map (numeralLexemes text ++ ·) := by
  obtain ⟨hd, hl⟩ | ⟨whole, fraction, rfl, hw, hf, hl⟩ := numeral_cases ht
  · rw [hl]
    exact scan_run hd.ne_nil hd.isWordChar (not_isWordChar_of_not_merges hd.ne_nil hd.isWordChar hm)
  · rw [List.append_cons, List.getLast?_append_of_ne_nil _ hf.ne_nil] at hm
    have hstop := not_isWordChar_of_not_merges hf.ne_nil hf.isWordChar hm
    have hpoint : scan (['.'] ++ (fraction ++ more)) =
        (scan (fraction ++ more)).map (signs ['.'] ++ ·) :=
      scan_signs (by simp; decide) (by simp [doubles])
    have hscan : scan (whole ++ (['.'] ++ (fraction ++ more))) =
        (scan more).map (numeralLexemes (whole ++ '.' :: fraction) ++ ·) := by
      rw [scan_run hw.ne_nil hw.isWordChar rfl, hpoint,
        scan_run hf.ne_nil hf.isWordChar hstop, Option.map_map, Option.map_map, hl]
      rfl
    rw [← hscan, List.append_assoc]
    rfl

/-- The lexemes of a token are cut off in front of what the token does not merge with. -/
theorem scan_token {t : Token} (ht : t.isPlain = true) {more : List Char}
    (hm : ∀ c ∈ more.head?, t.edge.merges c = false) :
    scan (t.text ++ more) = (scan more).map (t.lexemes ++ ·) := by
  cases t with
  | word t =>
      simp only [Token.isPlain, Bool.and_eq_true, bne_iff_ne, ne_eq, List.all_eq_true] at ht
      have hstop := not_isWordChar_of_not_merges ht.1 ht.2 hm
      simpa [Token.text, Token.lexemes] using scan_run ht.1 ht.2 hstop
  | numeral t => exact scan_numeral ht hm
  | mark t =>
      simp only [Token.isPlain, Bool.and_eq_true, bne_iff_ne, ne_eq, List.all_eq_true] at ht
      refine scan_signs ht.2 fun c hc => not_doubles_of_not_merges fun d hd => ?_
      have hd := hm d hd
      have hedge : (Token.mark t).edge = Edge.ofChar c :=
        congrArg (fun e => (e.map Edge.ofChar).getD .other) hc
      rw [hedge] at hd
      exact hd
  | quoted value =>
      simpa [Token.text, Token.lexemes] using scan_quoted value.toList more

/-! ### What scanning does with a text -/

theorem Fragment.text_eq (f : Fragment) : f.text = f.token.text := by
  cases f <;> rfl

theorem Token.text_ne_nil {t : Token} (ht : t.isPlain = true) : t.text ≠ [] := by
  cases t with
  | word t =>
      simp only [isPlain, Bool.and_eq_true, bne_iff_ne, ne_eq] at ht
      exact ht.1
  | numeral t =>
      rintro (hnil : t.toList = [])
      have hn : isNumeral t.toList = true := ht
      rw [hnil] at hn
      cases hn
  | mark t =>
      simp only [isPlain, Bool.and_eq_true, bne_iff_ne, ne_eq] at ht
      exact ht.1
  | quoted value => exact List.cons_ne_nil _ _

theorem Fragment.text_ne_nil {f : Fragment} (hf : f.token.isPlain = true) : f.text ≠ [] := by
  rw [f.text_eq]
  exact Token.text_ne_nil hf

namespace Tail

theorem edge_writeText {text : List Char} {last : Char} (h : text.getLast? = some last)
    (t : Tail) : (t.writeText text).2.edge = Edge.ofChar last := by
  simp only [writeText, h]
  split <;> rfl

/-- The end of a text is that of its last token. -/
theorem edge_write {f : Fragment} (hf : f.text ≠ []) (t : Tail) :
    (t.write f).2.edge = f.token.edge := by
  have hlast := List.getLast?_eq_getLast_of_ne_nil hf
  have hedge :
      (f.text.getLast?.map Edge.ofChar).getD .other = Edge.ofChar (f.text.getLast hf) := by
    rw [hlast]
    rfl
  cases f with
  | quoted value => rfl
  | _ => exact (edge_writeText hlast t).trans hedge.symm

/-- A fragment is written as it is or after a space, and does not merge with what is there. -/
theorem write_eq {f : Fragment} (hf : f.text ≠ []) (t : Tail) :
    (∃ c text, f.text = c :: text ∧ t.edge.merges c = false ∧ (t.write f).1 = f.text) ∨
      (t.write f).1 = ' ' :: f.text := by
  have hlast := List.getLast?_eq_getLast_of_ne_nil hf
  obtain ⟨c, text, htext⟩ := List.exists_cons_of_ne_nil hf
  have hwrite : (t.writeText f.text).1 = f.text ∧ t.edge.merges c = false ∨
      (t.writeText f.text).1 = ' ' :: f.text := by
    simp only [writeText, hlast]
    split
    · exact .inr rfl
    · next h =>
        simp only [needsSpace, htext, List.head?_cons, Option.any_some, Bool.or_eq_true,
          not_or, Bool.not_eq_true] at h
        exact .inl ⟨rfl, h.1⟩
  cases f with
  | quoted value =>
      refine .inl ⟨'"', _, rfl, ?_, rfl⟩
      cases t.edge <;> rfl
  | _ =>
      rcases hwrite with ⟨hw, hm⟩ | hw
      · exact .inl ⟨c, text, htext, hm, hw⟩
      · exact .inr hw

/-- An empty fragment leaves no trace. -/
theorem write_nil {f : Fragment} (hf : f.text = []) (t : Tail) : t.write f = ([], t) := by
  cases f with
  | quoted value => cases hf
  | _ => exact congrArg t.writeText hf

/-- What is written next does not merge with what is there. -/
theorem head_writeAll (fs : List Fragment) (t : Tail) :
    ∀ c ∈ (t.writeAll fs).1.head?, t.edge.merges c = false := by
  induction fs with
  | nil => nofun
  | cons f fs ih =>
      intro c hc
      have hc : c ∈ ((t.write f).1 ++ ((t.write f).2.writeAll fs).1).head? := hc
      by_cases hf : f.text = []
      · rw [write_nil hf] at hc
        exact ih c hc
      · obtain ⟨d, text, htext, hm, hw⟩ | hw := write_eq hf t
        · rw [hw, htext] at hc
          obtain rfl := Option.some.inj hc
          exact hm
        · rw [hw] at hc
          obtain rfl := Option.some.inj hc
          cases t.edge <;> rfl

/-- **Scanning a text** that was written from tokens gives the lexemes of the tokens. -/
theorem scan_writeAll {fs : List Fragment} (hfs : ∀ f ∈ fs, f.token.isPlain = true) (t : Tail) :
    scan (t.writeAll fs).1 = some (lexemes (fs.map Fragment.token)) := by
  induction fs generalizing t with
  | nil =>
      rw [writeAll, scan]
      rfl
  | cons f fs ih =>
      have hf := hfs f List.mem_cons_self
      have hrest : ∀ g ∈ fs, g.token.isPlain = true := fun g hg => hfs g (List.mem_cons_of_mem _ hg)
      have hne := Fragment.text_ne_nil hf
      have hmore := head_writeAll fs (t.write f).2
      rw [edge_write hne] at hmore
      have htoken := scan_token hf hmore
      rw [ih hrest, ← f.text_eq] at htoken
      have hpiece : scan ((t.write f).1 ++ ((t.write f).2.writeAll fs).1) =
          scan (f.text ++ ((t.write f).2.writeAll fs).1) := by
        obtain ⟨_, _, _, _, hw⟩ | hw := write_eq hne t
        · rw [hw]
        · rw [hw, List.cons_append, scan_space]
      exact hpiece.trans htoken

end Tail

/-- **Scanning the text of an output** gives the lexemes that it spells. -/
theorem Output.scan_text {o : Output} {text : String} {ts : List Token} (h : o.text = .ok text)
    (hs : o.Spells ts) (ht : ∀ t ∈ ts, t.isPlain = true) :
    scan text.toList = some (lexemes ts) := by
  obtain ⟨he, rfl⟩ := hs
  simp only [Output.text, he, Except.ok.injEq] at h
  subst h
  rw [Fragment.join, String.toList_ofList]
  exact Tail.scan_writeAll (fun f hf => ht _ (List.mem_map_of_mem hf)) _

end TypeProbe
