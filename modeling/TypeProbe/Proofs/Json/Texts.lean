import TypeProbe.Json.Token
import TypeProbe.Proofs.Number.Literal

/-! # JSON texts and their tokens

How JSON may be written, apart from the machine that cuts it into tokens.

* A character of a text stands for itself, or is written as one of the short escapes, or by the
  hexadecimal digits of its UTF-16 units, in either case (`WritesChar`).
* A natural number is written with the digits it has and no others.
* Any blanks may stand before, between and after the tokens (`Layout`).

**The machine finds the tokens of every layout** in which words and numbers are kept apart by the
marks between them (`tokens_layout`). -/

namespace TypeProbe.Json

/-! ### What may be written -/

/-- The number that a natural number is written as. -/
def Number.ofNat (n : Nat) : Number := ⟨false, (Nat.toDigits 10 n).map digitValue, none, none⟩

/-- The forms of a hexadecimal digit. -/
def IsHexDigit (n : Nat) (c : Char) : Prop :=
  "0123456789abcdef".toList[n]? = some c ∨ "0123456789ABCDEF".toList[n]? = some c

/-- A UTF-16 unit is written with four hexadecimal digits. -/
inductive WritesUnit (u : Nat) : List Char → Prop
  | intro {a b c d : Char} :
      IsHexDigit (u / 0x1000) a → IsHexDigit (u / 0x100 % 0x10) b →
      IsHexDigit (u / 0x10 % 0x10) c → IsHexDigit (u % 0x10) d →
      WritesUnit u ['\\', 'u', a, b, c, d]

/-- The short escapes: the letter after the backslash, and what it stands for. -/
def shortEscapes : List (Char × Char) :=
  [('"', '"'), ('\\', '\\'), ('/', '/'), ('b', '\x08'), ('f', '\x0c'), ('n', '\n'), ('r', '\r'),
    ('t', '\t')]

/-- How a character of a text may be written. -/
inductive WritesChar (c : Char) : List Char → Prop
  | plain : 0x20 ≤ c.toNat → c ≠ '"' → c ≠ '\\' → WritesChar c [c]
  | short {letter : Char} : (letter, c) ∈ shortEscapes → WritesChar c ['\\', letter]
  | unit {w : List Char} : WritesUnit c.toNat w → WritesChar c w
  | pair {v w : List Char} : 0x10000 ≤ c.toNat →
      WritesUnit (0xd800 + (c.toNat - 0x10000) / 0x400) v →
      WritesUnit (0xdc00 + (c.toNat - 0x10000) % 0x400) w → WritesChar c (v ++ w)

/-- How a token may be written. -/
inductive Token.Writes : Token → List Char → Prop
  | openArray : Writes .openArray ['[']
  | closeArray : Writes .closeArray [']']
  | openObject : Writes .openObject ['\x7b']
  | closeObject : Writes .closeObject ['\x7d']
  | comma : Writes .comma [',']
  | colon : Writes .colon [':']
  | null : Writes .null "null".toList
  | true : Writes (.boolean true) "true".toList
  | false : Writes (.boolean false) "false".toList
  | number (n : Nat) : Writes (.number (.ofNat n)) (Nat.toDigits 10 n)
  | string {s : String} {ws : List (List Char)} :
      List.Forall₂ WritesChar s.toList ws → Writes (.string (some s)) ('"' :: ws.flatten ++ ['"'])

/-- Whether a character may stand for itself in a text. -/
def isPlain (c : Char) : Bool := 0x20 ≤ c.toNat && c != '"' && c != '\\'

/-- A text of plain characters may be written as it is. -/
theorem Token.writes_plain {s : String} (h : s.toList.all isPlain = true) :
    Token.Writes (.string (some s)) ('"' :: s.toList ++ ['"']) := by
  have hforms : List.Forall₂ WritesChar s.toList (s.toList.map fun c => [c]) := by
    rw [List.forall₂_map_right_iff, List.forall₂_same]
    intro c hc
    have hplain : isPlain c = true := List.all_eq_true.mp h c hc
    simp only [isPlain, Bool.and_eq_true, decide_eq_true_eq, bne_iff_ne] at hplain
    obtain ⟨⟨hprintable, hquote⟩, hbackslash⟩ := hplain
    exact .plain hprintable hquote hbackslash
  have hflat : (s.toList.map fun c => [c]).flatten = s.toList := List.flatMap_singleton' _
  have hwrites := Token.Writes.string hforms
  rwa [hflat] at hwrites

/-- Blanks, and nothing else. -/
def Blanks (w : List Char) : Prop := ∀ c ∈ w, c ∈ [' ', '\t', '\n', '\r']

/-- Tokens one after another, with blanks before, between and after them. -/
inductive Layout : List Token → List Char → Prop
  | nil {w : List Char} : Blanks w → Layout [] w
  | cons {t : Token} {ts : List Token} {w u v : List Char} :
      Blanks w → t.Writes u → Layout ts v → Layout (t :: ts) (w ++ u ++ v)

/-! ### One character -/

theorem tokensFrom_step {st next : Lexing} {c : Char} {ts : List Token}
    (h : st.step c = some (ts, next)) (more : List Char) :
    tokensFrom st (c :: more) = (tokensFrom next more).map (ts ++ ·) := by
  rw [tokensFrom, h]
  show (tokensFrom next more).bind (fun rest => some (ts ++ rest)) = _
  cases tokensFrom next more with
  | none => rfl
  | some rest => rfl

theorem tokensFrom_cons {st next : Lexing} {c : Char} (h : st.step c = some ([], next))
    (more : List Char) : tokensFrom st (c :: more) = tokensFrom next more := by
  rw [tokensFrom_step h]
  show (tokensFrom next more).map id = _
  rw [Option.map_id, id]

/-! ### Texts -/

/-- The pieces that the machine keeps of one character, and the character they stand for. -/
def Decodes (pieces : List Piece) (c : Char) : Prop :=
  ∀ rest, decode (pieces ++ rest) = (c :: ·) <$> decode rest

theorem hexValue?_of_isHexDigit {n : Nat} {c : Char} (h : IsHexDigit n c) :
    hexValue? c = some n ∧ n < 0x10 := by
  have hn : n < 0x10 := by
    rcases h with h | h
    · exact (List.getElem?_eq_some_iff.mp h).1
    · exact (List.getElem?_eq_some_iff.mp h).1
  have hall : ∀ m < 0x10, "0123456789abcdef".toList[m]?.bind hexValue? = some m ∧
      "0123456789ABCDEF".toList[m]?.bind hexValue? = some m := by
    decide
  obtain ⟨hlower, hupper⟩ := hall n hn
  refine ⟨?_, hn⟩
  rcases h with h | h
  · rwa [h] at hlower
  · rwa [h] at hupper

/-- One of the four digits of a unit. -/
theorem step_unit {seen : List Piece} {missing value n : Nat} {c : Char} (h : IsHexDigit n c) :
    (Lexing.unit seen missing value).step c =
      some ([], match missing with
        | 0 => .text (.unit (16 * value + n) :: seen)
        | missing + 1 => .unit seen missing (16 * value + n)) := by
  rw [Lexing.step, (hexValue?_of_isHexDigit h).1]
  rfl

/-- The machine reads a unit that is written with four digits. -/
theorem tokensFrom_unit {u : Nat} {w : List Char} (h : WritesUnit u w) (seen : List Piece)
    (more : List Char) :
    tokensFrom (.text seen) (w ++ more) = tokensFrom (.text (.unit u :: seen)) more := by
  cases h with
  | intro ha hb hc hd =>
      have hvalue : 16 * (16 * (16 * (16 * 0 + u / 0x1000) + u / 0x100 % 0x10) +
          u / 0x10 % 0x10) + u % 0x10 = u := by
        omega
      have hbackslash : (Lexing.text seen).step '\\' = some ([], .escape seen) := rfl
      have hletter : (Lexing.escape seen).step 'u' = some ([], .unit seen 3 0) := rfl
      calc tokensFrom (.text seen) ('\\' :: 'u' :: _ :: _ :: _ :: _ :: more)
          = tokensFrom (.unit seen 3 0) (_ :: _ :: _ :: _ :: more) := by
            rw [tokensFrom_cons hbackslash, tokensFrom_cons hletter]
        _ = tokensFrom (.text (.unit u :: seen)) more := by
            rw [tokensFrom_cons (step_unit ha), tokensFrom_cons (step_unit hb),
              tokensFrom_cons (step_unit hc), tokensFrom_cons (step_unit hd)]
            simp only [hvalue]

theorem decodes_character (c : Char) : Decodes [.character c] c := fun _ => rfl

/-- No character is half of a surrogate pair. -/
theorem not_surrogate (c : Char) : isLeading c.toNat = false ∧ isTrailing c.toNat = false := by
  have hvalid : c.toNat < 0xd800 ∨ 0xdfff < c.toNat ∧ c.toNat < 0x110000 := c.valid
  unfold isLeading isTrailing
  simp only [Bool.and_eq_false_iff, decide_eq_false_iff_not]
  omega

theorem decodes_unit (c : Char) : Decodes [.unit c.toNat] c := by
  obtain ⟨hleading, htrailing⟩ := not_surrogate c
  intro rest
  have hc : Char.ofNat c.toNat = c := Char.ofNat_toNat c
  cases rest with
  | nil => simp [decode, hleading, htrailing, hc]
  | cons p rest => cases p <;> simp [decode, hleading, htrailing, hc]

theorem decodes_pair {c : Char} (h : 0x10000 ≤ c.toNat) :
    Decodes [.unit (0xd800 + (c.toNat - 0x10000) / 0x400),
      .unit (0xdc00 + (c.toNat - 0x10000) % 0x400)] c := by
  have hvalid : c.toNat < 0xd800 ∨ 0xdfff < c.toNat ∧ c.toNat < 0x110000 := c.valid
  have hleading : isLeading (0xd800 + (c.toNat - 0x10000) / 0x400) = true := by
    unfold isLeading
    simp only [Bool.and_eq_true, decide_eq_true_eq]
    omega
  have htrailing : isTrailing (0xdc00 + (c.toNat - 0x10000) % 0x400) = true := by
    unfold isTrailing
    simp only [Bool.and_eq_true, decide_eq_true_eq]
    omega
  have hcode : 0x10000 + (0xd800 + (c.toNat - 0x10000) / 0x400 - 0xd800) * 0x400 +
      (0xdc00 + (c.toNat - 0x10000) % 0x400 - 0xdc00) = c.toNat := by
    omega
  intro rest
  show decode (.unit _ :: .unit _ :: rest) = _
  rw [decode, if_pos hleading, if_pos htrailing, ofPair, hcode, Char.ofNat_toNat]

/-- **The machine keeps pieces of a character that is written**, and they stand for it. -/
theorem tokensFrom_char {c : Char} {w : List Char} (h : WritesChar c w) :
    ∃ pieces, Decodes pieces c ∧ ∀ seen more,
      tokensFrom (.text seen) (w ++ more) = tokensFrom (.text (pieces.reverse ++ seen)) more := by
  cases h with
  | plain hc hquote hbackslash =>
      refine ⟨[.character c], decodes_character c, fun seen more => ?_⟩
      have hstep : (Lexing.text seen).step c = some ([], .text (.character c :: seen)) := by
        rw [Lexing.step, if_neg (by simpa using hquote), if_neg (by simpa using hbackslash),
          if_neg (Nat.not_lt.mpr hc)]
      exact tokensFrom_cons hstep more
  | @short letter hletter =>
      have hall : ∀ p ∈ shortEscapes, escaped? p.1 = some p.2 ∧ p.1 ≠ 'u' := by decide
      obtain ⟨hescaped, hne⟩ := hall _ hletter
      refine ⟨[.character c], decodes_character c, fun seen more => ?_⟩
      have hbackslash : (Lexing.text seen).step '\\' = some ([], .escape seen) := rfl
      have hstep : (Lexing.escape seen).step letter = some ([], .text (.character c :: seen)) := by
        rw [Lexing.step, if_neg (by simpa using hne), hescaped]
        rfl
      show tokensFrom (.text seen) ('\\' :: letter :: more) = _
      rw [tokensFrom_cons hbackslash, tokensFrom_cons hstep]
      rfl
  | unit hu => exact ⟨[.unit c.toNat], decodes_unit c, tokensFrom_unit hu⟩
  | pair hc hv hw =>
      refine ⟨[.unit _, .unit _], decodes_pair hc, fun seen more => ?_⟩
      rw [List.append_assoc, tokensFrom_unit hv, tokensFrom_unit hw]
      rfl

/-- The rest of a text, up to the quote that ends it. -/
theorem tokensFrom_text {cs : List Char} {ws : List (List Char)}
    (h : List.Forall₂ WritesChar cs ws) (seen : List Piece) (more : List Char) :
    ∃ pieces, decode pieces = some cs ∧
      tokensFrom (.text seen) (ws.flatten ++ '"' :: more) =
        tokensFrom (.text (pieces.reverse ++ seen)) ('"' :: more) := by
  induction h generalizing seen with
  | nil => exact ⟨[], rfl, rfl⟩
  | @cons c w cs ws hc _ ih =>
      obtain ⟨first, hfirst, hmachine⟩ := tokensFrom_char hc
      obtain ⟨rest, hrest, htail⟩ := ih (first.reverse ++ seen)
      refine ⟨first ++ rest, ?_, ?_⟩
      · rw [hfirst, hrest]
        rfl
      · rw [List.flatten_cons, List.append_assoc, hmachine, htail, List.reverse_append,
          List.append_assoc]

theorem tokensFrom_quoted {s : String} {ws : List (List Char)}
    (h : List.Forall₂ WritesChar s.toList ws) (more : List Char) :
    tokensFrom .between ('"' :: ws.flatten ++ ['"'] ++ more) =
      (tokensFrom .between more).map ([Token.string (some s)] ++ ·) := by
  obtain ⟨pieces, hpieces, hmachine⟩ := tokensFrom_text h [] more
  have hstart : Lexing.between.step '"' = some ([], .text []) := rfl
  have hend : (Lexing.text (pieces.reverse ++ [])).step '"' =
      some ([.string (some s)], .between) := by
    show some ([Token.string ((decode (pieces.reverse ++ []).reverse).map String.ofList)],
      Lexing.between) = _
    rw [List.append_nil, List.reverse_reverse, hpieces, Option.map_some, String.ofList_toList]
  have htext : '"' :: ws.flatten ++ ['"'] ++ more = '"' :: (ws.flatten ++ '"' :: more) := by simp
  rw [htext, tokensFrom_cons hstart, hmachine, tokensFrom_step hend]

/-! ### Words and numbers -/

/-- Whether a token is a run of characters, which ends where another character comes. -/
def Token.isRun : Token → Bool
  | null | boolean _ | number _ => true
  | _ => false

def Token.isMark : Token → Bool
  | null | boolean _ | number _ | string _ => false
  | _ => true

/-- Whether a character belongs to no word and no number. -/
def endsRun (c : Char) : Bool := !c.isAlpha && !isNumeric c

/-- A character that belongs to no run ends the one that the machine is in. -/
theorem step_ended {st : Lexing} {done : List Token} {c : Char}
    (hrun : ∃ seen, st = .word seen ∨ st = .number seen) (hfinish : st.finish = some done)
    (hc : endsRun c = true) :
    st.step c = (Lexing.first c).map fun r => (done ++ r.1, r.2) := by
  unfold endsRun at hc
  simp only [Bool.and_eq_true, Bool.not_eq_true'] at hc
  obtain ⟨halpha, hnumeric⟩ := hc
  obtain ⟨seen, rfl | rfl⟩ := hrun
  · rw [Lexing.step, if_neg (Bool.eq_false_iff.mp halpha), hfinish]
    cases Lexing.first c <;> rfl
  · rw [Lexing.step, if_neg (Bool.eq_false_iff.mp hnumeric), hfinish]
    cases Lexing.first c <;> rfl

/-- A run is complete where nothing comes that belongs to it. -/
theorem tokensFrom_run {st : Lexing} {done : List Token} {more : List Char}
    (hrun : ∃ seen, st = .word seen ∨ st = .number seen) (hfinish : st.finish = some done)
    (hmore : ∀ c ∈ more.head?, endsRun c = true) :
    tokensFrom st more = (tokensFrom .between more).map (done ++ ·) := by
  cases more with
  | nil =>
      show st.finish = some (done ++ [])
      rw [hfinish, List.append_nil]
  | cons c more =>
      have hc := step_ended hrun hfinish (hmore c rfl)
      cases hfirst : Lexing.first c with
      | none =>
          rw [hfirst] at hc
          rw [tokensFrom, tokensFrom, hc, Lexing.step, hfirst]
          rfl
      | some r =>
          rw [hfirst] at hc
          have hbetween : Lexing.between.step c = some (r.1, r.2) := hfirst
          rw [tokensFrom_step hc, tokensFrom_step hbetween, Option.map_map]
          congr 1
          funext rest
          exact List.append_assoc _ _ _

theorem isNumeric_of_isDigit {c : Char} (h : c.isDigit = true) : isNumeric c = true := by
  simp [isNumeric, h]

theorem first_digit {c : Char} (h : c.isDigit = true) :
    Lexing.first c = some ([], .number [c]) := by
  have hblank : ¬ isBlank c = true := by
    unfold isBlank
    simp only [Bool.or_eq_true, beq_iff_eq]
    rintro (((rfl | rfl) | rfl) | rfl) <;> exact absurd h (by decide)
  have halpha : c.isAlpha = false := by
    have hall : ∀ n < 58, (Char.ofNat n).isDigit = true → (Char.ofNat n).isAlpha = false := by
      decide
    have hlt : c.toNat < 58 := Nat.lt_succ_of_le (Char.isDigit_iff_toNat.mp h).2
    have hchar := hall c.toNat hlt
    rw [Char.ofNat_toNat] at hchar
    exact hchar h
  unfold Lexing.first
  split
  case h_8 =>
    rw [if_neg hblank, if_neg (Bool.eq_false_iff.mp halpha), if_pos (isNumeric_of_isDigit h)]
  all_goals exact absurd h (by decide)

/-- The machine reads digits one after another. -/
theorem tokensFrom_digits {ds : List Char} (h : ∀ c ∈ ds, c.isDigit = true)
    (seen more : List Char) :
    tokensFrom (.number seen) (ds ++ more) = tokensFrom (.number (ds.reverse ++ seen)) more := by
  induction ds generalizing seen with
  | nil => rfl
  | cons c ds ih =>
      obtain ⟨hc, hrest⟩ := List.forall_mem_cons.mp h
      have hstep : (Lexing.number seen).step c = some ([], .number (c :: seen)) := by
        rw [Lexing.step, if_pos (isNumeric_of_isDigit hc)]
      rw [List.cons_append, tokensFrom_cons hstep, ih hrest, List.reverse_cons, List.append_assoc]
      rfl

theorem digitValue_ne_zero {c : Char} (h : c.isDigit = true) (hne : c ≠ '0') :
    digitValue c ≠ 0 := by
  intro hzero
  apply hne
  have hle : '0'.toNat ≤ c.toNat := (Char.isDigit_iff_toNat.mp h).1
  unfold digitValue at hzero
  have hcode : c.toNat = '0'.toNat := by omega
  rw [← Char.ofNat_toNat c, hcode]
  rfl

/-- The digits of a natural number are the whole part of a number. -/
theorem whole?_of_integerDigits {ds : List Char} (h : IntegerDigits ds) :
    whole? ds = some (ds.map digitValue, []) := by
  have htake : ds.takeWhile Char.isDigit = ds := List.takeWhile_eq_self_iff.mpr h.isDigit
  have hdrop : ds.dropWhile Char.isDigit = [] := List.dropWhile_eq_nil_iff.mpr h.isDigit
  obtain ⟨c, cs, rfl⟩ := List.exists_cons_of_ne_nil h.ne_nil
  have hdigits : digits? (c :: cs) = some ((c :: cs).map digitValue, []) := by
    unfold digits?
    rw [htake, hdrop]
  unfold whole?
  rw [hdigits]
  by_cases hnil : cs = []
  · subst hnil
    split
    · next hzero => simp at hzero
    · rfl
  · have hne : c ≠ '0' := by
      rintro rfl
      refine h.head_ne_zero ?_ rfl
      simpa using hnil
    have hvalue := digitValue_ne_zero (h.isDigit c List.mem_cons_self) hne
    obtain ⟨d, ds, rfl⟩ := List.exists_cons_of_ne_nil hnil
    split
    · next hzero =>
        simp only [List.map_cons, Option.some.injEq, Prod.mk.injEq, List.cons.injEq] at hzero
        exact absurd hzero.1.1 hvalue
    · rfl

theorem ofText?_toDigits (n : Nat) : Number.ofText? (Nat.toDigits 10 n) = some (.ofNat n) := by
  have hdigits := integerDigits_toDigits n
  have hwhole := whole?_of_integerDigits hdigits
  unfold Number.ofNat
  revert hdigits hwhole
  generalize Nat.toDigits 10 n = ds
  intro hdigits hwhole
  have hminus : ∀ rest, ds ≠ '-' :: rest := by
    rintro rest rfl
    have hdigit := hdigits.isDigit '-' List.mem_cons_self
    cases hdigit
  unfold Number.ofText?
  split
  next negative s hsign =>
  have hs : negative = false ∧ s = ds := by
    split at hsign
    · next rest => exact absurd rfl (hminus rest)
    · cases hsign
      exact ⟨rfl, rfl⟩
  obtain ⟨rfl, rfl⟩ := hs
  rw [hwhole]
  rfl

/-- **The machine finds a token that is written**; a run needs something after it that ends it. -/
theorem tokensFrom_token {t : Token} {u more : List Char} (h : t.Writes u)
    (hmore : t.isRun = true → ∀ c ∈ more.head?, endsRun c = true) :
    tokensFrom .between (u ++ more) = (tokensFrom .between more).map ([t] ++ ·) := by
  cases h with
  | null =>
      have hword := tokensFrom_run ⟨['l', 'l', 'u', 'n'], .inl rfl⟩ rfl (hmore rfl)
      show tokensFrom .between ('n' :: 'u' :: 'l' :: 'l' :: more) = _
      rw [tokensFrom_cons rfl, tokensFrom_cons rfl, tokensFrom_cons rfl, tokensFrom_cons rfl, hword]
  | true =>
      have hword := tokensFrom_run ⟨['e', 'u', 'r', 't'], .inl rfl⟩ rfl (hmore rfl)
      show tokensFrom .between ('t' :: 'r' :: 'u' :: 'e' :: more) = _
      rw [tokensFrom_cons rfl, tokensFrom_cons rfl, tokensFrom_cons rfl, tokensFrom_cons rfl, hword]
  | false =>
      have hword := tokensFrom_run ⟨['e', 's', 'l', 'a', 'f'], .inl rfl⟩ rfl (hmore rfl)
      show tokensFrom .between ('f' :: 'a' :: 'l' :: 's' :: 'e' :: more) = _
      rw [tokensFrom_cons rfl, tokensFrom_cons rfl, tokensFrom_cons rfl, tokensFrom_cons rfl,
        tokensFrom_cons rfl, hword]
  | number n =>
      have hdigits := integerDigits_toDigits n
      have hparse := ofText?_toDigits n
      revert hdigits hparse
      generalize Nat.toDigits 10 n = ds
      intro hdigits hparse
      obtain ⟨c, cs, rfl⟩ := List.exists_cons_of_ne_nil hdigits.ne_nil
      obtain ⟨hc, hcs⟩ := List.forall_mem_cons.mp hdigits.isDigit
      have hfirst : Lexing.between.step c = some ([], .number [c]) := first_digit hc
      rw [List.cons_append, tokensFrom_cons hfirst, tokensFrom_digits hcs]
      refine tokensFrom_run ⟨_, .inr rfl⟩ ?_ (hmore rfl)
      have hfinish : (cs.reverse ++ [c]).reverse = c :: cs := by
        rw [List.reverse_append, List.reverse_reverse]
        rfl
      rw [Lexing.finish, hfinish, hparse]
      rfl
  | string hs => exact tokensFrom_quoted hs more
  | _ => exact tokensFrom_step rfl more

/-! ### Layouts -/

theorem tokensFrom_blanks {w : List Char} (hw : Blanks w) (more : List Char) :
    tokensFrom .between (w ++ more) = tokensFrom .between more := by
  induction w with
  | nil => rfl
  | cons c w ih =>
      obtain ⟨hc, hrest⟩ := List.forall_mem_cons.mp hw
      have hblank : ∀ d ∈ [' ', '\t', '\n', '\r'], Lexing.between.step d = some ([], .between) := by
        simp only [List.forall_mem_cons]
        exact ⟨rfl, rfl, rfl, rfl, nofun⟩
      rw [List.cons_append, tokensFrom_cons (hblank c hc), ih hrest]

theorem endsRun_blank {w : List Char} (hw : Blanks w) : ∀ c ∈ w, endsRun c = true := by
  have hall : [' ', '\t', '\n', '\r'].all endsRun = true := rfl
  intro c hc
  exact List.all_eq_true.mp hall c (hw c hc)

/-- A mark begins with a character that ends words and numbers. -/
theorem head_mark {t : Token} {u : List Char} (h : t.Writes u) (ht : t.isMark = true) :
    ∃ c, u = [c] ∧ endsRun c = true := by
  cases h with
  | null | true | false | number _ | string _ => cases ht
  | _ => exact ⟨_, rfl, by decide⟩

/-- Whether a token may come right before another one. -/
def Token.precedes (s t : Token) : Bool := !s.isRun || t.isMark

/-- Marks keep runs apart, whatever blanks there are. -/
theorem head_layout {ts : List Token} {text : List Char} (h : Layout ts text)
    (hmark : ∀ t ∈ ts.head?, t.isMark = true) : ∀ c ∈ text.head?, endsRun c = true := by
  intro c hc
  cases h with
  | nil hw => exact endsRun_blank hw c (List.mem_of_mem_head? hc)
  | @cons t ts w u v hw hu _ =>
      cases w with
      | nil =>
          obtain ⟨d, rfl, hd⟩ := head_mark hu (hmark t rfl)
          obtain rfl : d = c := Option.some.inj hc
          exact hd
      | cons d w =>
          obtain rfl : d = c := Option.some.inj hc
          exact endsRun_blank hw d List.mem_cons_self

/-- **The machine finds the tokens of a layout.** -/
theorem tokens_layout {ts : List Token} {text : List Char} (h : Layout ts text)
    (hchain : ts.IsChain fun s t => s.precedes t = true) : tokens text = some ts := by
  unfold tokens
  induction h with
  | @nil w hw =>
      have hblanks := tokensFrom_blanks hw []
      rw [List.append_nil] at hblanks
      rw [hblanks]
      rfl
  | @cons t ts w u v hw hu hv ih =>
      obtain ⟨hfirst, hrest⟩ := List.isChain_cons.mp hchain
      have hmore : t.isRun = true → ∀ c ∈ v.head?, endsRun c = true := by
        intro hrun
        apply head_layout hv
        intro s hs
        have hprecedes := hfirst s hs
        unfold Token.precedes at hprecedes
        rw [hrun] at hprecedes
        exact hprecedes
      rw [List.append_assoc, tokensFrom_blanks hw, tokensFrom_token hu hmore, ih hrest]
      rfl

end TypeProbe.Json
