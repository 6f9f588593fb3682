import LiveDeck.Text.CodePoints
import LiveDeck.Text.Printable

/-! # Quoted text

A spelled text between quotation marks, with escapes for the mark, the backslash and everything
that cannot be printed.  The mark is the apostrophe, unless the text holds apostrophes and no
double quotes.  Lists of quoted texts stand in parentheses, a single one with a comma. -/

namespace LiveDeck.Text

/-- The `width` last hexadecimal digits of a number. -/
def hexDigits (n : Nat) : Nat → List Char
  | 0 => []
  | width + 1 => hexDigits (n / 16) width ++ [Nat.digitChar (n % 16)]

/-- A character inside quotation marks. -/
def quotedChar (mark c : Char) : List Char :=
  let n := c.toNat
  if c = mark || c = '\\' then ['\\', c]
  else if c = '\n' then ['\\', 'n']
  else if c = '\r' then ['\\', 'r']
  else if c = '\t' then ['\\', 't']
  else if printables.contains c then [c]
  else if n < 0x100 then '\\' :: 'x' :: hexDigits n 2
  else if n < 0x10000 then '\\' :: 'u' :: hexDigits n 4
  else '\\' :: 'U' :: hexDigits n 8

/-- A code point inside quotation marks. -/
def quotedPoint (mark : Char) : CodePoint → List Char
  | .char c => quotedChar mark c
  | .surrogate s => '\\' :: 'u' :: hexDigits s.code 4

/-- A spelled text between quotation marks. -/
def quoted (s : String) : String :=
  let text := s.toList
  let mark := if text.contains '\'' && !text.contains '"' then '"' else '\''
  String.ofList (mark :: (codePoints text).flatMap (quotedPoint mark) ++ [mark])

/-- Items in parentheses; a comma follows a single one. -/
def tuple : List String → String
  | [item] => "(" ++ item ++ ",)"
  | items => "(" ++ ", ".intercalate items ++ ")"

end LiveDeck.Text
