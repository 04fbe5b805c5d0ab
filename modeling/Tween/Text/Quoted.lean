import Tween.Unicode.Hidden

/-!
# Quoted text

How a text is written as a string literal. Quotation marks, backslashes and the three common
controls get a backslash; NUL is `\0`, or `\x00` where an octal digit follows that could be taken
for a part of it; every other hidden character is written by its code point, as `\u{ad}`. All else,
the apostrophe included, stands for itself.
-/

namespace Tween.Text.Quoted

/-- The code point of a character in lower-case hexadecimal, between braces. -/
def codePoint (c : Char) : List Char :=
  ['\\', 'u', '\x7b'] ++ Nat.toDigits 16 c.toNat ++ ['\x7d']

/-- An octal digit. -/
def isOctal (c : Char) : Bool :=
  '0' ≤ c && c ≤ '7'

/-- NUL, in the long form if `rest` begins with an octal digit. -/
def nul : (rest : List Char) → List Char
  | c :: _ => if isOctal c then ['\\', 'x', '0', '0'] else ['\\', '0']
  | [] => ['\\', '0']

/-- How `c` is written when `rest` follows it. -/
def escape (c : Char) (rest : List Char) : List Char :=
  if c = '\x00' then nul rest
  else if c = '\t' then ['\\', 't']
  else if c = '\n' then ['\\', 'n']
  else if c = '\r' then ['\\', 'r']
  else if c = '"' then ['\\', '"']
  else if c = '\\' then ['\\', '\\']
  else if Unicode.isHidden c then codePoint c
  else [c]

/-- The contents of the literal. -/
def encode : List Char → List Char
  | [] => []
  | c :: rest => escape c rest ++ encode rest

/-- The literal, quotation marks included. -/
def quote (text : String) : String :=
  String.ofList ('"' :: encode text.toList ++ ['"'])

end Tween.Text.Quoted
