import TypeProbe.Json.Token
import TypeProbe.Text.Quoted

/-! # Reading string literals

`Quoted.read` reads a double-quoted literal from behind its opening quote: the value, and the text
after the closing quote.  A backslash has to begin one of the escapes that literals are written
with, and a literal may not run over the end of a line.

What is read of a literal as it is written is the value, whatever follows it
(`Quoted.read_body`).  So a literal ends itself, and tells its value apart from all others; and it
fits into one line (`Quoted.literal?_encode`). -/

namespace TypeProbe.Quoted

/-! ### The reader -/

/-- The characters that may not stand in a literal. -/
def endsLine (c : Char) : Bool := c == '\n' || c == '\r'

/-- The character with a code in hexadecimal digits. -/
def ofHex? (digits : List Char) : Option Char := do
  let code ← digits.foldlM (fun n c => (Json.hexValue? c).map (16 * n + ·)) 0
  if Nat.isValidChar code then some (Char.ofNat code) else none

/-- The character that a backslash and a character stand for, given the character after them. -/
def escaped? (c : Char) (next : Option Char) : Option Char :=
  if c = '\\' then some '\\'
  else if c = '"' then some '"'
  else if c = 'n' then some '\n'
  else if c = 'r' then some '\r'
  else if c = 't' then some '\t'
  else if c = '0' && !next.any Char.isDigit then some '\x00'
  else none

/-- The value of a literal from behind its opening quote, and what follows the literal. -/
def read : List Char → Option (List Char × List Char)
  | [] => none
  | '"' :: rest => some ([], rest)
  | '\\' :: 'x' :: a :: b :: rest => do
      let c ← ofHex? [a, b]
      let (value, rest) ← read rest
      some (c :: value, rest)
  | '\\' :: 'u' :: a :: b :: c :: d :: rest => do
      let c ← ofHex? [a, b, c, d]
      let (value, rest) ← read rest
      some (c :: value, rest)
  | '\\' :: c :: rest => do
      let c ← escaped? c rest.head?
      let (value, rest) ← read rest
      some (c :: value, rest)
  | c :: rest =>
      if endsLine c then none
      else do
        let (value, rest) ← read rest
        some (c :: value, rest)

/-- What follows a literal is shorter than the text that begins with the literal. -/
theorem length_of_read {text value rest : List Char} (h : read text = some (value, rest)) :
    rest.length < text.length := by
  induction text using read.induct generalizing value with
  | case1 => cases h
  | case2 =>
      cases h
      exact Nat.lt_succ_self _
  | case3 _ _ text ih | case4 _ _ _ _ text ih | case5 _ text _ _ ih =>
      simp only [read, Option.bind_eq_bind, Option.bind_eq_some_iff] at h
      obtain ⟨_, _, ⟨v, r⟩, hr, he⟩ := h
      cases he
      have hlt : r.length < text.length := ih hr
      simp only [List.length_cons]
      omega
  | case6 c text _ _ _ _ hline => simp [read, hline] at h
  | case7 c text _ _ _ _ hline ih =>
      simp only [read, if_neg hline, Option.bind_eq_bind, Option.bind_eq_some_iff] at h
      obtain ⟨⟨v, r⟩, hr, he⟩ := h
      cases he
      exact Nat.lt_succ_of_lt (ih hr)

/-! ### Single characters -/

/-- A character that may stand in a literal as it is: no control character and no end of a line. -/
def IsRaw (c : Char) : Prop := 0x20 ≤ c.toNat ∧ c ≠ '\u2028' ∧ c ≠ '\u2029'

instance (c : Char) : Decidable (IsRaw c) :=
  inferInstanceAs (Decidable (0x20 ≤ c.toNat ∧ c ≠ '\u2028' ∧ c ≠ '\u2029'))

/-- The characters with an escape of their own, and what stands behind the backslash in it. -/
def shortEscapes : List (Char × Char) :=
  [('\\', '\\'), ('"', '"'), ('\n', 'n'), ('\r', 'r'), ('\t', 't')]

/-- How a character is spelled in front of another one. -/
inductive SpelledAs (next : Option Char) : Char → List Char → Prop
  | short {c d : Char} : (c, d) ∈ shortEscapes → SpelledAs next c ['\\', d]
  | nul : next.any Char.isDigit = false → SpelledAs next '\x00' ['\\', '0']
  | hex {c : Char} : c.toNat < 0x20 → SpelledAs next c (hexEscape c)
  | line {c d : Char} : (c, d) ∈ [('\u2028', '8'), ('\u2029', '9')] →
      SpelledAs next c ['\\', 'u', '2', '0', '2', d]
  | plain {c : Char} : IsRaw c → c ≠ '\\' → c ≠ '"' → SpelledAs next c [c]

theorem spelledAs_spell (c : Char) (next : Option Char) : SpelledAs next c (spell c next) := by
  unfold spell
  by_cases hbackslash : c = '\\'
  · rw [if_pos hbackslash]
    exact .short (by simp [hbackslash, shortEscapes])
  rw [if_neg hbackslash]
  by_cases hquote : c = '"'
  · rw [if_pos hquote]
    exact .short (by simp [hquote, shortEscapes])
  rw [if_neg hquote]
  by_cases hnewline : c = '\n'
  · rw [if_pos hnewline]
    exact .short (by simp [hnewline, shortEscapes])
  rw [if_neg hnewline]
  by_cases hreturn : c = '\r'
  · rw [if_pos hreturn]
    exact .short (by simp [hreturn, shortEscapes])
  rw [if_neg hreturn]
  by_cases htab : c = '\t'
  · rw [if_pos htab]
    exact .short (by simp [htab, shortEscapes])
  rw [if_neg htab]
  by_cases hnul : c = '\x00'
  · subst hnul
    rw [if_pos rfl]
    cases hdigit : next.any Char.isDigit with
    | true => exact .hex (by decide)
    | false => exact .nul hdigit
  rw [if_neg hnul]
  by_cases hseparator : c = '\u2028'
  · rw [if_pos hseparator]
    exact .line (by simp [hseparator])
  rw [if_neg hseparator]
  by_cases hparagraph : c = '\u2029'
  · rw [if_pos hparagraph]
    exact .line (by simp [hparagraph])
  rw [if_neg hparagraph]
  by_cases hcontrol : c.toNat < 0x20
  · rw [if_pos hcontrol]
    exact .hex hcontrol
  · rw [if_neg hcontrol]
    exact .plain ⟨Nat.not_lt.mp hcontrol, hseparator, hparagraph⟩ hbackslash hquote

/-! ### Reading a character -/

theorem ofHex?_hexDigit {c : Char} (h : c.toNat < 0x20) :
    ofHex? [hexDigit (c.toNat / 16), hexDigit (c.toNat % 16)] = some c := by
  have hall : ∀ n < 0x20, ofHex? [hexDigit (n / 16), hexDigit (n % 16)] = some (Char.ofNat n) := by
    decide
  rw [hall c.toNat h, Char.ofNat_toNat]

/-- The short form of the character NUL is not followed by a digit. -/
theorem head_body_not_isDigit {value : List Char} (h : value.head?.any Char.isDigit = false)
    (r : List Char) : (body value ++ '"' :: r).head?.any Char.isDigit = false := by
  cases value with
  | nil => rfl
  | cons c value =>
      have hs := spelledAs_spell c value.head?
      rw [body]
      generalize spell c value.head? = s at hs
      cases hs with
      | plain => exact h
      | _ => rfl

/-- The spelling of a character is read as the character. -/
theorem read_spell (c : Char) (value r : List Char) :
    read (spell c value.head? ++ (body value ++ '"' :: r)) =
      (read (body value ++ '"' :: r)).bind fun p => some (c :: p.1, p.2) := by
  have hnext (h : value.head?.any Char.isDigit = false) := head_body_not_isDigit h r
  have hs := spelledAs_spell c value.head?
  generalize spell c value.head? = s at hs
  revert hnext
  generalize body value ++ '"' :: r = text
  intro hnext
  cases hs with
  | short hd =>
      simp only [shortEscapes, List.mem_cons, Prod.mk.injEq, List.not_mem_nil, or_false] at hd
      rcases hd with ⟨rfl, rfl⟩ | ⟨rfl, rfl⟩ | ⟨rfl, rfl⟩ | ⟨rfl, rfl⟩ | ⟨rfl, rfl⟩ <;> rfl
  | nul hdigit => simp [read, escaped?, hnext hdigit]
  | hex hcontrol => simp [hexEscape, read, ofHex?_hexDigit hcontrol]
  | line hd =>
      simp only [List.mem_cons, Prod.mk.injEq, List.not_mem_nil, or_false] at hd
      rcases hd with ⟨rfl, rfl⟩ | ⟨rfl, rfl⟩ <;> rfl
  | plain hraw hbackslash hquote =>
      have hline : endsLine c = false := by
        rw [endsLine, Bool.or_eq_false_iff, beq_eq_false_iff_ne, beq_eq_false_iff_ne]
        constructor <;> (rintro rfl; exact absurd hraw.1 (by decide))
      simp [read, hbackslash, hline]

/-- **A literal is read as its value**, whatever follows it. -/
theorem read_body (value r : List Char) : read (body value ++ '"' :: r) = some (value, r) := by
  induction value with
  | nil => rfl
  | cons c value ih =>
      unfold body
      rw [List.append_assoc, read_spell, ih]
      rfl

/-! ### Whole literals -/

/-- The value of a literal with both of its quotes, and what follows it. -/
def literal? : List Char → Option (List Char × List Char)
  | '"' :: rest => read rest
  | _ => none

theorem isRaw_hexDigit {n : Nat} (h : n < 16) : IsRaw (hexDigit n) := by
  have hall : ∀ n < 16, IsRaw (hexDigit n) := by decide
  exact hall n h

theorem isRaw_hexEscape {c d : Char} (h : c.toNat < 0x20) (hd : d ∈ hexEscape c) : IsRaw d := by
  simp only [hexEscape, List.mem_cons, List.not_mem_nil, or_false] at hd
  rcases hd with rfl | rfl | rfl | rfl
  · decide
  · decide
  · exact isRaw_hexDigit (by omega)
  · exact isRaw_hexDigit (by omega)

/-- A character is spelled without characters that have to be escaped. -/
theorem isRaw_spell {c d : Char} {next : Option Char} (hd : d ∈ spell c next) : IsRaw d := by
  have hs := spelledAs_spell c next
  generalize spell c next = s at hs hd
  cases hs with
  | short he =>
      simp only [shortEscapes, List.mem_cons, Prod.mk.injEq, List.not_mem_nil, or_false] at he hd
      rcases hd with rfl | rfl
      · decide
      · rcases he with ⟨rfl, rfl⟩ | ⟨rfl, rfl⟩ | ⟨rfl, rfl⟩ | ⟨rfl, rfl⟩ | ⟨rfl, rfl⟩ <;> decide
  | nul =>
      simp only [List.mem_cons, List.not_mem_nil, or_false] at hd
      rcases hd with rfl | rfl <;> decide
  | hex hcontrol => exact isRaw_hexEscape hcontrol hd
  | line he =>
      simp only [List.mem_cons, Prod.mk.injEq, List.not_mem_nil, or_false] at he hd
      rcases he with ⟨rfl, rfl⟩ | ⟨rfl, rfl⟩ <;>
        rcases hd with rfl | rfl | rfl | rfl | rfl | rfl <;> decide
  | plain hraw =>
      obtain rfl := List.mem_singleton.mp hd
      exact hraw

theorem isRaw_body {value : List Char} {d : Char} (hd : d ∈ body value) : IsRaw d := by
  induction value with
  | nil => cases hd
  | cons c value ih =>
      rcases List.mem_append.mp hd with hd | hd
      · exact isRaw_spell hd
      · exact ih hd

/-- **A literal tells its value**, whatever follows it: it is read up to its end and no further,
it has no character in it that a literal may not have, and no other value has the same literal. -/
theorem literal?_encode (value r : List Char) :
    literal? (encode value ++ r) = some (value, r) ∧ (∀ c ∈ encode value, IsRaw c) ∧
      ∀ other, encode value = encode other → value = other := by
  have hread (value r : List Char) : literal? (encode value ++ r) = some (value, r) := by
    have htext : encode value ++ r = '"' :: (body value ++ '"' :: r) := by simp [encode]
    rw [htext]
    exact read_body value r
  refine ⟨hread value r, ?_, ?_⟩
  · intro c hc
    rcases List.mem_append.mp hc with hc | hc
    · rcases List.mem_cons.mp hc with rfl | hc
      · decide
      · exact isRaw_body hc
    · obtain rfl := List.mem_singleton.mp hc
      decide
  · intro other heq
    have hother := hread other r
    rw [← heq, hread value r] at hother
    exact congrArg Prod.fst (Option.some.inj hother)

/-- The character NUL before a digit and before another character, and the end of a line. -/
example : encode "\x001\x00a\u2028".toList = "\"\\x001\\0a\\u2028\"".toList := by decide

end TypeProbe.Quoted
