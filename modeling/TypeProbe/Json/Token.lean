import TypeProbe.Json

/-! # JSON tokens

A JSON text is cut into tokens by a machine that reads one character at a time
(`Lexing.step`).  Blanks are space, tab, line feed and carriage return, and stand between tokens
only.  A word or a number ends before the first character that cannot be part of it. -/

namespace TypeProbe.Json

/-- What a JSON text is made of. -/
inductive Token where
  | openArray
  | closeArray
  | openObject
  | closeObject
  | comma
  | colon
  | null
  | boolean (value : Bool)
  | number (value : Number)
  | string (value : Option String)
deriving DecidableEq, Repr

/-- The blanks that may stand between tokens. -/
def isBlank (c : Char) : Bool := c == ' ' || c == '\t' || c == '\n' || c == '\r'

/-! ### Words and numbers -/

/-- The token that a word stands for. -/
def Token.ofWord? (word : List Char) : Option Token :=
  if word = ['n', 'u', 'l', 'l'] then some .null
  else if word = ['t', 'r', 'u', 'e'] then some (.boolean true)
  else if word = ['f', 'a', 'l', 's', 'e'] then some (.boolean false)
  else none

/-- The characters that numbers are made of. -/
def isNumeric (c : Char) : Bool :=
  c.isDigit || c == '-' || c == '+' || c == '.' || c == 'e' || c == 'E'

def digitValue (c : Char) : Nat := c.toNat - '0'.toNat

/-- The leading digits, at least one, and what follows them. -/
def digits? (s : List Char) : Option (List Nat × List Char) :=
  match s.takeWhile Char.isDigit with
  | [] => none
  | ds => some (ds.map digitValue, s.dropWhile Char.isDigit)

/-- The digits before the point: a zero alone, or digits that do not start with one. -/
def whole? (s : List Char) : Option (List Nat × List Char) :=
  match digits? s with
  | some (0 :: _ :: _, _) => none
  | r => r

/-- The digits after a point, if there is one. -/
def fraction? : List Char → Option (Option (List Nat) × List Char)
  | '.' :: s => (digits? s).map fun (ds, rest) => (some ds, rest)
  | s => some (none, s)

/-- The power of ten, if there is one. -/
def exponent? : List Char → Option (Option Int × List Char)
  | [] => some (none, [])
  | c :: s =>
    if c == 'e' || c == 'E' then
      match s with
      | '-' :: s => (digits? s).map fun (ds, rest) => (some (-(Number.ofDigits ds : Int)), rest)
      | '+' :: s => (digits? s).map fun (ds, rest) => (some (Number.ofDigits ds), rest)
      | s => (digits? s).map fun (ds, rest) => (some (Number.ofDigits ds), rest)
    else some (none, c :: s)

/-- The number that a text writes. -/
def Number.ofText? (s : List Char) : Option Number := do
  let (negative, s) := match s with
    | '-' :: s => (true, s)
    | s => (false, s)
  let (whole, s) ← whole? s
  let (fraction, s) ← fraction? s
  let (exponent, s) ← exponent? s
  if s.isEmpty then some ⟨negative, whole, fraction, exponent⟩ else none

/-! ### Texts -/

/-- A piece of a text: a character, or an escaped UTF-16 unit. -/
inductive Piece where
  | character (c : Char)
  | unit (value : Nat)

/-- Whether a UTF-16 unit is the first half of a surrogate pair. -/
def isLeading (u : Nat) : Bool := 0xd800 ≤ u && u < 0xdc00

/-- Whether a UTF-16 unit is the second half of a surrogate pair. -/
def isTrailing (u : Nat) : Bool := 0xdc00 ≤ u && u < 0xe000

/-- The character of a surrogate pair. -/
def ofPair (leading trailing : Nat) : Char :=
  Char.ofNat (0x10000 + (leading - 0xd800) * 0x400 + (trailing - 0xdc00))

/-- The text of pieces, unless half of a surrogate pair stands alone. -/
def decode : List Piece → Option (List Char)
  | [] => some []
  | .character c :: rest => (c :: ·) <$> decode rest
  | .unit u :: .unit v :: rest =>
      if isLeading u then
        if isTrailing v then (ofPair u v :: ·) <$> decode rest else none
      else if isTrailing u then none
      else (Char.ofNat u :: ·) <$> decode (.unit v :: rest)
  | .unit u :: rest =>
      if isLeading u || isTrailing u then none else (Char.ofNat u :: ·) <$> decode rest

def hexValue? (c : Char) : Option Nat :=
  if c.isDigit then some (c.toNat - '0'.toNat)
  else if 'a' ≤ c && c ≤ 'f' then some (c.toNat - 'a'.toNat + 10)
  else if 'A' ≤ c && c ≤ 'F' then some (c.toNat - 'A'.toNat + 10)
  else none

/-- The character that a backslash and a letter stand for. -/
def escaped? (c : Char) : Option Char :=
  match c with
  | '"' => some '"'
  | '\\' => some '\\'
  | '/' => some '/'
  | 'b' => some '\x08'
  | 'f' => some '\x0c'
  | 'n' => some '\n'
  | 'r' => some '\r'
  | 't' => some '\t'
  | _ => none

/-! ### The machine -/

/-- Where the machine is; what it has seen of a token is kept backwards. -/
inductive Lexing where
  | between
  | word (seen : List Char)
  | number (seen : List Char)
  | text (seen : List Piece)
  | escape (seen : List Piece)
  | unit (seen : List Piece) (missing : Nat) (value : Nat)

namespace Lexing

/-- The first character of a token, or a blank. -/
def first (c : Char) : Option (List Token × Lexing) :=
  match c with
  | '[' => some ([.openArray], between)
  | ']' => some ([.closeArray], between)
  | '\x7b' => some ([.openObject], between)
  | '\x7d' => some ([.closeObject], between)
  | ',' => some ([.comma], between)
  | ':' => some ([.colon], between)
  | '"' => some ([], text [])
  | c =>
    if isBlank c then some ([], between)
    else if c.isAlpha then some ([], word [c])
    else if isNumeric c then some ([], number [c])
    else none

/-- The token that ends where the text does or another token starts. -/
def finish : Lexing → Option (List Token)
  | between => some []
  | word seen => (Token.ofWord? seen.reverse).map ([·])
  | number seen => (Number.ofText? seen.reverse).map fun x => [.number x]
  | text _ | escape _ | unit .. => none

/-- Reads a character: the tokens that are complete now, and where the machine is after it. -/
def step (st : Lexing) (c : Char) : Option (List Token × Lexing) :=
  let ended := do
    let done ← st.finish
    let (tokens, next) ← first c
    return (done ++ tokens, next)
  match st with
  | between => first c
  | word seen => if c.isAlpha then some ([], word (c :: seen)) else ended
  | number seen => if isNumeric c then some ([], number (c :: seen)) else ended
  | text seen =>
      if c == '"' then some ([.string ((decode seen.reverse).map String.ofList)], between)
      else if c == '\\' then some ([], escape seen)
      else if c.toNat < 0x20 then none
      else some ([], text (.character c :: seen))
  | escape seen =>
      if c == 'u' then some ([], unit seen 3 0)
      else (escaped? c).map fun e => ([], text (.character e :: seen))
  | unit seen missing value => do
      let value := 16 * value + (← hexValue? c)
      return ([], match missing with
        | 0 => text (.unit value :: seen)
        | missing + 1 => unit seen missing value)

end Lexing

/-- The tokens of the rest of a text. -/
def tokensFrom (st : Lexing) : List Char → Option (List Token)
  | [] => st.finish
  | c :: s => do
      let (tokens, next) ← st.step c
      let rest ← tokensFrom next s
      return tokens ++ rest

/-- The tokens of a text. -/
def tokens (s : List Char) : Option (List Token) := tokensFrom .between s

end TypeProbe.Json
