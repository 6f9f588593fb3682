import LiveDeck.Text.NamedCharacters
import LiveDeck.Text.Percent

/-! # Escapes and character references

What a backslash in front of a punctuation character and what `&name;` or `&#number;` stand
for.  In text, a number that stands for no character gives the replacement character; in
addresses and titles (`unescape`) such a reference stays as it is. -/

namespace LiveDeck.Markdown

open Text

/-- The characters that a backslash escapes. -/
def isPunctuation (c : Char) : Bool :=
  let n := c.toNat
  (0x21 ≤ n && n ≤ 0x2F) || (0x3A ≤ n && n ≤ 0x40) || (0x5B ≤ n && n ≤ 0x60) ||
    (0x7B ≤ n && n ≤ 0x7E)

/-- Whether a number may be written as a character reference. -/
def isReferable (n : Nat) : Bool :=
  !((0xD800 ≤ n && n ≤ 0xDFFF) || (0xFDD0 ≤ n && n ≤ 0xFDEF) || n % 0x10000 == 0xFFFF ||
    n % 0x10000 == 0xFFFE || n ≤ 8 || n == 0xB || (0xE ≤ n && n ≤ 0x1F) ||
    (0x7F ≤ n && n ≤ 0x9F) || 0x10FFFF < n)

/-- A number in the given base. -/
def number (base : Nat) (digits : List Char) : Nat :=
  digits.foldl (fun n c => base * n + (hexValue? c).getD 0) 0

/-- The number of a reference whose text after `&#` is given, with at most so many digits. -/
def numericReference? (hexDigits decimalDigits : Nat) (name : List Char) : Option Nat :=
  match name with
  | [] => none
  | c :: digits =>
    if c = 'x' || c = 'X' then
      if !digits.isEmpty && digits.length ≤ hexDigits && digits.all (fun d => (hexValue? d).isSome)
      then some (number 16 digits) else none
    else if name.length ≤ decimalDigits && name.all Char.isDigit then some (number 10 name)
    else none

/-- What stands between the ampersand and the semicolon of a reference at the start of a text:
a letter or a number sign, then letters and digits. -/
def referenceName? : List Char → Option (List Char)
  | '&' :: c :: s =>
    let body := s.takeWhile Char.isAlphanum
    if (c.isAlpha || c = '#') && 1 ≤ body.length && body.length ≤ 31 &&
        s[body.length]? == some ';'
    then some (c :: body) else none
  | _ => none

/-- A reference in text: what it stands for, and how long it is. -/
def textReference? (s : List Char) : Option (List Char × Nat) :=
  match s with
  | '&' :: '#' :: rest =>
    let name := rest.takeWhile Char.isAlphanum
    if rest[name.length]? == some ';' then
      (numericReference? 6 7 name).map fun n =>
        ([if isReferable n then Char.ofNat n else replacementChar], name.length + 3)
    else none
  | _ =>
    match referenceName? s with
    | some name =>
      (namedCharacter? (String.ofList name)).map fun text => (text.toList, name.length + 2)
    | none => none

/-- What the name of a reference in an address stands for. -/
def addressReference? (name : List Char) : Option (List Char) :=
  match namedCharacter? (String.ofList name) with
  | some text => some text.toList
  | none =>
    match name with
    | '#' :: rest =>
      match numericReference? 8 8 rest with
      | some n => if isReferable n then some [Char.ofNat n] else none
      | none => none
    | _ => none

/-- Resolves escapes and references; `skip` more characters belong to the last of them. -/
def unescapeFrom : Nat → List Char → List Char
  | _, [] => []
  | skip + 1, _ :: s => unescapeFrom skip s
  | 0, c :: s =>
    match c, s with
    | '\\', d :: _ => if isPunctuation d then d :: unescapeFrom 1 s else c :: unescapeFrom 0 s
    | '&', _ =>
      match referenceName? (c :: s) with
      | none => c :: unescapeFrom 0 s
      | some name =>
        match addressReference? name with
        | some text => text ++ unescapeFrom (name.length + 1) s
        | none => c :: name ++ ';' :: unescapeFrom (name.length + 1) s
    | _, _ => c :: unescapeFrom 0 s

/-- The text of an address or a title, with escapes and references resolved. -/
def unescape (s : List Char) : List Char := unescapeFrom 0 s

end LiveDeck.Markdown
