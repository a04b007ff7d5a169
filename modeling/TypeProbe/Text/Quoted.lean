/-! # String literals

Double-quoted string literals of JavaScript and TypeScript.

A quote, a backslash and every control character are escaped, and so are the two characters
that end a line inside a literal, U+2028 and U+2029.  All other characters stand for
themselves.  The character NUL is written in its short form unless a digit follows, with which
the short form would read as an octal escape. -/

namespace TypeProbe.Quoted

/-- A hexadecimal digit, in upper case. -/
def hexDigit (n : Nat) : Char := (Nat.digitChar n).toUpper

/-- A character below U+0100 as an escape of two hexadecimal digits. -/
def hexEscape (c : Char) : List Char :=
  ['\\', 'x', hexDigit (c.toNat / 16), hexDigit (c.toNat % 16)]

/-- The spelling of a character inside a literal, given the character after it. -/
def spell (c : Char) (next : Option Char) : List Char :=
  if c = '\\' then ['\\', '\\']
  else if c = '"' then ['\\', '"']
  else if c = '\n' then ['\\', 'n']
  else if c = '\r' then ['\\', 'r']
  else if c = '\t' then ['\\', 't']
  else if c = '\x00' then
    if next.any Char.isDigit then ['\\', 'x', '0', '0'] else ['\\', '0']
  else if c = '\u2028' then ['\\', 'u', '2', '0', '2', '8']
  else if c = '\u2029' then ['\\', 'u', '2', '0', '2', '9']
  else if c.toNat < 0x20 then hexEscape c
  else [c]

/-- The characters between the quotes. -/
def body : List Char → List Char
  | [] => []
  | c :: rest => spell c rest.head? ++ body rest

/-- The literal for a text. -/
def encode (text : List Char) : List Char := '"' :: body text ++ ['"']

end TypeProbe.Quoted
