import LiveDeck.Number.Decimal
import LiveDeck.Text.Blank
import LiveDeck.Text.WordCharacters

/-! # Numerals

Numbers as people write them: with blanks around them, a sign, the decimal digits of any script
and single underscores between digits.  `readDouble?` reads a number with a fraction and an
exponent, or an infinity or no number by name; `readInt?` reads a whole number to a base.  Whole
numbers of more than `maxDigits` digits are neither read nor written to base 10. -/

namespace LiveDeck.Numeral

open Text (isBlank trimBy digitValue?)

/-- Whether a character may stand around a numeral: the blanks without the four information
separators. -/
def isGap (c : Char) : Bool := isBlank c && !(0x1C ≤ c.toNat && c.toNat ≤ 0x1F)

/-- A text without the blanks around it. -/
def trim (text : List Char) : List Char := trimBy isGap text

/-- A decimal digit of any script as a digit of ASCII; every other character as it is. -/
def asciiDigit (c : Char) : Char :=
  match digitValue? c with
  | some value => Nat.digitChar value
  | none => c

/-- The text without its underscores; `none` unless each stands between two alphanumeric
characters.  `afterDigit` says whether such a character came before. -/
def dropUnderscores? (isDigit : Char → Bool) (afterDigit : Bool) : List Char → Option (List Char)
  | [] => some []
  | '_' :: rest =>
    match rest with
    | [] => none
    | c :: _ => if afterDigit && isDigit c then dropUnderscores? isDigit false rest else none
  | c :: rest => (dropUnderscores? isDigit (isDigit c) rest).map (c :: ·)

/-- Whether the sign of a text is a minus, and the text after its sign. -/
def splitSign : List Char → Bool × List Char
  | '-' :: rest => (true, rest)
  | '+' :: rest => (false, rest)
  | rest => (false, rest)

/-- The value of a digit up to base 36. -/
def alphanumericValue? (c : Char) : Option Nat :=
  if c.isDigit then some (c.toNat - '0'.toNat)
  else if c.isAlpha then some (c.toLower.toNat - 'a'.toNat + 10)
  else none

/-- The number that digits to a base make up. -/
def ofDigits? (base : Nat) (digits : List Char) : Option Nat :=
  digits.foldlM (fun value c => do
    let digit ← alphanumericValue? c
    if digit < base then some (value * base + digit) else none) 0

/-- The digits of a fraction after a point, and what follows them. -/
def splitFraction : List Char → List Char × List Char
  | '.' :: rest => (rest.takeWhile Char.isDigit, rest.dropWhile Char.isDigit)
  | rest => ([], rest)

/-- The exponent that stands at the end of a number, zero if there is none. -/
def exponent? : List Char → Option Int
  | [] => some 0
  | mark :: rest =>
    let (negative, digits) := splitSign rest
    if (mark == 'e' || mark == 'E') && !digits.isEmpty && digits.all Char.isDigit then
      (ofDigits? 10 digits).map fun value => if negative then -(value : Int) else value
    else none

/-- A number with point and exponent, without its sign. -/
def readMagnitude? (negative : Bool) (text : List Char) : Option Double := do
  let whole := text.takeWhile Char.isDigit
  let (fraction, rest) := splitFraction (text.dropWhile Char.isDigit)
  let exponent ← exponent? rest
  let digits := whole ++ fraction
  if digits.isEmpty then none
  else
    let value ← ofDigits? 10 digits
    some (Double.ofDecimal negative ⟨value, exponent - fraction.length⟩)

/-- The number in double precision that a text names. -/
def readDouble? (text : List Char) : Option Double := do
  let plain ← dropUnderscores? Char.isDigit false ((trim text).map asciiDigit)
  let (negative, magnitude) := splitSign plain
  let name := String.ofList (magnitude.map Char.toLower)
  if name = "inf" || name = "infinity" then some (.infinite negative)
  else if name = "nan" then some .nan
  else readMagnitude? negative magnitude

/-- The digits of a numeral to a base, after the letter that may name the base. -/
def afterBaseName (base : Nat) (text : List Char) : List Char :=
  let letter? := match base with
    | 2 => some 'b'
    | 8 => some 'o'
    | 16 => some 'x'
    | _ => none
  match text with
  | '0' :: c :: rest =>
    if some c.toLower == letter? then
      match rest with
      | '_' :: digits => digits
      | digits => digits
    else text
  | _ => text

/-- The whole number to a base that a text names. -/
def readInt? (base : Nat) (text : List Char) : Option Int := do
  let (negative, magnitude) := splitSign ((trim text).map asciiDigit)
  let digits ← dropUnderscores? Char.isAlphanum false (afterBaseName base magnitude)
  if digits.isEmpty then none
  else
    let value ← ofDigits? base digits
    some (if negative then -(value : Int) else value)

/-! ### Long numbers -/

/-- The digits that a whole number may have at most to base 10. -/
def maxDigits : Nat := 4300

/-- Whether a whole number has too many digits. -/
def isLong (value : Int) : Bool := Nat.pow 10 maxDigits ≤ value.natAbs

/-- How many digits a text starts with. -/
def leadingDigits (text : List Char) : Nat :=
  ((splitSign ((trim text).map asciiDigit)).2.takeWhile Char.isDigit).length

end LiveDeck.Numeral
