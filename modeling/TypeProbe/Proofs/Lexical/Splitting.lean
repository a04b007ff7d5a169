import Mathlib.Data.List.TakeWhile

/-! # Splitting text by the longest match

How ECMAScript splits program text: whatever comes next is the longest text that is white space, a
comment, a word, a number, a string literal or a punctuator.

* `classify` says which texts are one of these.  Words and numbers are those of ASCII, numbers are
  decimal, string literals have double quotes, and a slash that opens no comment divides.
* Comments include the two of old HTML.  `<!--` opens one anywhere; whether `-->` does depends on
  what stands before it on the line, and `split` takes any rule for it.
* `split` gives what is no white space and no comment, in order, or nothing if the text cannot be
  split.  No word and no digit may follow a number directly. -/

namespace TypeProbe.Lexical

/-! ### Characters -/

/-- The characters that end a line. -/
def isLineEnd (c : Char) : Bool := ['\n', '\r', '\u2028', '\u2029'].contains c

/-- The characters of white space. -/
def isBlank (c : Char) : Bool :=
  isLineEnd c || ['\t', '\x0b', '\x0c', ' ', '\u00a0', '\ufeff'].contains c ||
    ['\u1680', '\u202f', '\u205f', '\u3000'].contains c ||
    (0x2000 ≤ c.toNat && c.toNat ≤ 0x200a)

/-- The characters that begin words. -/
def isWordStart (c : Char) : Bool := c.isAlpha || c == '_' || c == '$'

/-- The characters of words. -/
def isWordPart (c : Char) : Bool := c.isAlphanum || c == '_' || c == '$'

/-! ### What text may be -/

/-- What the text of a program is split into. -/
inductive Kind where
  | blank
  | comment
  | word
  | number
  | string
  | punctuator
deriving DecidableEq, Repr

/-- What opens a comment that ends with its line; `-->` only if `closing` says so. -/
def lineOpeners (closing : Bool) : List (List Char) :=
  ["//".toList, "<!--".toList] ++ if closing then ["-->".toList] else []

/-- Whether a text is a comment up to the end of a line. -/
def isLineComment (closing : Bool) (text : List Char) : Bool :=
  (lineOpeners closing).any (·.isPrefixOf text) && !text.any isLineEnd

/-- Whether a comment in asterisks ends where the text does, and not before. -/
def endsComment : List Char → Bool
  | ['*', '/'] => true
  | '*' :: '/' :: _ => false
  | _ :: rest => endsComment rest
  | [] => false

/-- Whether a text is a comment in asterisks. -/
def isBlockComment : List Char → Bool
  | '/' :: '*' :: rest => endsComment rest
  | _ => false

/-- Whether a text is an integer without superfluous zeros. -/
def isInteger (text : List Char) : Bool :=
  text == ['0'] || (text != [] && text.head? != some '0' && text.all Char.isDigit)

/-- Whether a text is the exponent of a number, or empty. -/
def isExponent : List Char → Bool
  | [] => true
  | e :: '+' :: digits | e :: '-' :: digits =>
      ['e', 'E'].contains e && digits != [] && digits.all Char.isDigit
  | e :: digits => ['e', 'E'].contains e && digits != [] && digits.all Char.isDigit

/-- Whether a text is a decimal number. -/
def isDecimal (text : List Char) : Bool :=
  let whole := text.takeWhile Char.isDigit
  match text.dropWhile Char.isDigit with
  | '.' :: rest =>
      (isInteger whole || (whole == [] && rest.head?.any Char.isDigit)) &&
        isExponent (rest.dropWhile Char.isDigit)
  | rest => isInteger whole && isExponent rest

/-- Whether a string literal ends where the text behind its opening quote does, and not before. -/
def endsString : List Char → Bool
  | [] => false
  | ['"'] => true
  | '"' :: _ => false
  | '\\' :: '\r' :: '\n' :: rest => endsString rest
  | '\\' :: _ :: rest => endsString rest
  | c :: rest => c != '\n' && c != '\r' && endsString rest

def punctuators : List String :=
  ["\x7b", "\x7d", "(", ")", "[", "]", ".", "...", ";", ",", "<", ">", "<=", ">=", "==", "!=",
    "===", "!==", "+", "-", "*", "/", "%", "**", "++", "--", "<<", ">>", ">>>", "&", "|", "^", "!",
    "~", "&&", "||", "??", "?", "?.", ":", "=", "+=", "-=", "*=", "/=", "%=", "**=", "<<=", ">>=",
    ">>>=", "&=", "|=", "^=", "&&=", "||=", "??=", "=>"]

/-- Whether a text is a punctuator in front of another text: `?.` is none in front of a digit. -/
def isPunctuator (text rest : List Char) : Bool :=
  punctuators.contains (String.ofList text) &&
    !(text == ['?', '.'] && rest.head?.any Char.isDigit)

/-- What a text is in front of another one; `closing` says whether `-->` may open a comment. -/
def classify (closing : Bool) (text rest : List Char) : Option Kind :=
  match text with
  | [] => none
  | c :: cs =>
      if isBlank c then if cs = [] then some .blank else none
      else if c = '"' then if endsString cs then some .string else none
      else if isWordStart c then if cs.all isWordPart then some .word else none
      else if isLineComment closing text || isBlockComment text then some .comment
      else if isDecimal text then some .number
      else if isPunctuator text rest then some .punctuator
      else none

/-! ### The longest match -/

/-- The longest of the first `n` beginnings of a text that is something, and the rest. -/
def longestUpTo (closing : Bool) (text : List Char) : Nat → Option (Kind × List Char × List Char)
  | 0 => none
  | n + 1 =>
      match classify closing (text.take (n + 1)) (text.drop (n + 1)) with
      | some kind => some (kind, text.take (n + 1), text.drop (n + 1))
      | none => longestUpTo closing text n

/-- The longest beginning of a text that is something, and the rest. -/
def longest (closing : Bool) (text : List Char) : Option (Kind × List Char × List Char) :=
  longestUpTo closing text text.length

theorem length_of_longestUpTo {closing : Bool} {text w rest : List Char} {kind : Kind} {n : Nat}
    (h : longestUpTo closing text n = some (kind, w, rest)) (hn : n ≤ text.length) :
    rest.length < text.length := by
  induction n with
  | zero => cases h
  | succ n ih =>
      unfold longestUpTo at h
      split at h
      · cases h
        rw [List.length_drop]
        omega
      · exact ih h (by omega)

theorem length_of_longest {closing : Bool} {text w rest : List Char} {kind : Kind}
    (h : longest closing text = some (kind, w, rest)) : rest.length < text.length :=
  length_of_longestUpTo h (Nat.le_refl _)

/-- A beginning that is something, and that no longer one is, is the longest match. -/
theorem longest_eq {closing : Bool} {w rest : List Char} {kind : Kind} (hw : w ≠ [])
    (hk : classify closing w rest = some kind)
    (hmax : ∀ u v, u ≠ [] → rest = u ++ v → classify closing (w ++ u) v = none) :
    longest closing (w ++ rest) = some (kind, w, rest) := by
  have hlength : 0 < w.length := List.length_pos_iff.mpr hw
  have hupTo : ∀ n ≤ rest.length,
      longestUpTo closing (w ++ rest) (w.length + n) = some (kind, w, rest) := by
    intro n hn
    induction n with
    | zero =>
        obtain ⟨m, hm⟩ := Nat.exists_eq_succ_of_ne_zero (Nat.ne_of_gt hlength)
        rw [Nat.add_zero, hm, longestUpTo, ← Nat.succ_eq_add_one, ← hm, List.take_left,
          List.drop_left, hk]
    | succ n ih =>
        have hne : rest.take (n + 1) ≠ [] := by
          intro hnil
          have := congrArg List.length hnil
          rw [List.length_take, List.length_nil] at this
          omega
        have hnone := hmax (rest.take (n + 1)) (rest.drop (n + 1)) hne
          (List.take_append_drop (n + 1) rest).symm
        have htake : (w ++ rest).take (w.length + n + 1) = w ++ rest.take (n + 1) := by
          rw [Nat.add_assoc, List.take_length_add_append]
        have hdrop : (w ++ rest).drop (w.length + n + 1) = rest.drop (n + 1) := by
          rw [Nat.add_assoc, List.drop_length_add_append]
        rw [← Nat.add_assoc, longestUpTo, htake, hdrop, hnone]
        exact ih (by omega)
  have hall := hupTo rest.length (Nat.le_refl _)
  rwa [← List.length_append] at hall

/-! ### Splitting -/

/-- A piece of split text that is no white space and no comment. -/
structure Symbol where
  kind : Kind
  text : List Char
deriving DecidableEq, Repr

/-- What a text of a kind contributes. -/
def Kind.symbols (kind : Kind) (text : List Char) : List Symbol :=
  if kind = blank ∨ kind = comment then [] else [⟨kind, text⟩]

/-- **Splits a text** that stands behind another one; `closing` says behind which texts `-->` opens
a comment. -/
def split (closing : List Char → Bool) (before text : List Char) : Option (List Symbol) :=
  if text = [] then some []
  else
    match h : longest (closing before) text with
    | none => none
    | some (kind, w, rest) =>
        have := length_of_longest h
        if kind = .number ∧ rest.head?.any isWordPart then none
        else (split closing (before ++ w) rest).map (kind.symbols w ++ ·)
termination_by text.length

variable {closing : List Char → Bool}

theorem split_nil (before : List Char) : split closing before [] = some [] := by
  rw [split, if_pos rfl]

theorem split_eq {before w rest : List Char} {kind : Kind} (hw : w ≠ [])
    (hl : longest (closing before) (w ++ rest) = some (kind, w, rest))
    (hn : kind = .number → rest.head?.any isWordPart = false) :
    split closing before (w ++ rest) =
      (split closing (before ++ w) rest).map (kind.symbols w ++ ·) := by
  have hne : w ++ rest ≠ [] := List.append_ne_nil_of_left_ne_nil hw rest
  have hnumber : ¬ (kind = .number ∧ rest.head?.any isWordPart = true) := by
    rintro ⟨hk, hr⟩
    rw [hn hk] at hr
    cases hr
  rw [split, if_neg hne]
  split
  · next hnone =>
      rw [hl] at hnone
      cases hnone
  · next hsome =>
      rw [hl] at hsome
      cases hsome
      rw [if_neg hnumber]

/-- A space is split off. -/
theorem split_space (before text : List Char) :
    split closing before (' ' :: text) = split closing (before ++ [' ']) text := by
  have hlongest : longest (closing before) ([' '] ++ text) = some (.blank, [' '], text) := by
    refine longest_eq (List.cons_ne_nil _ _) rfl ?_
    intro u v hu _
    exact if_neg hu
  have hsplit := @split_eq closing before _ _ _ (List.cons_ne_nil _ _) hlongest nofun
  rw [List.singleton_append] at hsplit
  rw [hsplit]
  cases split closing (before ++ [' ']) text <;> rfl

end TypeProbe.Lexical
