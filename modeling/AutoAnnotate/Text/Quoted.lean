import AutoAnnotate.Text.Printable
/-!
# Quoted text

A quoted text stands between quotation marks. The quotation mark, the backslash, tab, line feed,
carriage return and NUL have escapes of two characters; a character that extends a grapheme or does
not print is written by its code point in braces; every other character stands for itself.
-/

namespace AutoAnnotate.Text

/-- The digits of a number in base sixteen, in lower case, without leading zeros. -/
def hexDigits (n : Nat) : List Char := Nat.toDigits 16 n

/-- A character by its code point: a backslash, the letter `u` and the number in braces. -/
def escapeCodePoint (c : Char) : List Char :=
  ['\\', 'u', '\x7b'] ++ hexDigits c.toNat ++ ['\x7d']

/-- A character as it stands inside a quoted text. -/
def quoteChar (c : Char) : List Char :=
  if c = '"' then ['\\', '"']
  else if c = '\\' then ['\\', '\\']
  else if c = '\t' then ['\\', 't']
  else if c = '\r' then ['\\', 'r']
  else if c = '\n' then ['\\', 'n']
  else if c = '\x00' then ['\\', '0']
  else if extendsGrapheme c || !isPrintable c then escapeCodePoint c
  else [c]

/-- A text between quotation marks, escaped so that it shows what it holds. -/
def quote (s : String) : String :=
  String.ofList ('"' :: s.toList.flatMap quoteChar ++ ['"'])

/-- Quoted texts in brackets, as a list. -/
def quoteList (names : List String) : String :=
  "[" ++ ", ".intercalate (names.map quote) ++ "]"

/-- Quoted texts in braces, as a set. -/
def quoteSet (names : List String) : String :=
  "\x7b" ++ ", ".intercalate (names.map quote) ++ "\x7d"

end AutoAnnotate.Text
