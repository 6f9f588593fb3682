import LiveDeck.Number.Double

/-! # Decimal notation

`Double.shortest` is the decimal number with the fewest digits that lies nearer to a number than
to any other, and of several the nearest; `Double.rounded` has a given number of digits.
`DecimalFormat` says how digits and exponent are written.  A number written in decimal is read
by `Double.ofDecimal`. -/

namespace LiveDeck

/-- A decimal number: `digits` times ten to the power of `exponent`. -/
structure Decimal where
  digits : Nat
  exponent : Int
  deriving DecidableEq, Repr

namespace Decimal

/-- The number of decimal digits. -/
def length (n : Nat) : Nat := (Nat.toDigits 10 n).length

/-- The same number without zeros at the end of its digits, at most `fuel` of them. -/
def trim : Nat → Decimal → Decimal
  | fuel + 1, ⟨digits, exponent⟩ =>
    if digits ≠ 0 && digits % 10 = 0 then trim fuel ⟨digits / 10, exponent + 1⟩
    else ⟨digits, exponent⟩
  | 0, decimal => decimal

end Decimal

namespace Double

/-- The number nearest to a decimal number. -/
def ofDecimal (negative : Bool) (decimal : Decimal) : Double :=
  let magnitude := decimal.exponent + Decimal.length decimal.digits
  if decimal.digits = 0 || magnitude < -400 then .finite negative 0
  else if 400 < magnitude then .infinite negative
  else if 0 ≤ decimal.exponent then
    ofRatio negative (decimal.digits * Nat.pow 10 decimal.exponent.toNat) 1
  else ofRatio negative decimal.digits (Nat.pow 10 (-decimal.exponent).toNat)

/-- The power of ten of the first digit, plus one. -/
def pointPosition (units : Nat) : Int :=
  (Decimal.length (units * Nat.pow 10 400 / unitsPerOne) : Int) - 400

/-- The factors that turn units into steps of ten to the power of `exponent`: `units * p / q`
steps. -/
def stepRatio (exponent : Int) : Nat × Nat :=
  if 0 ≤ exponent then (1, unitsPerOne * Nat.pow 10 exponent.toNat)
  else (Nat.pow 10 (-exponent).toNat, unitsPerOne)

/-- Whether a number of steps is read back as the given units: it lies nearer to them than to
their neighbours, or half way if they are even. -/
def readsBack (units p q steps : Nat) : Bool :=
  let above := spacing units
  let isPower := units == Nat.pow 2 (bitLength units - 1)
  let low := 4 * units - (if isPower && 1 < above then above else 2 * above)
  let high := 4 * units + 2 * above
  let value := 4 * steps * q
  if units / above % 2 == 0 then low * p ≤ value && value ≤ high * p
  else low * p < value && value < high * p

/-- The steps of a decimal grid next to the given units that read back, the nearer first. -/
def gridPoint? (units p q : Nat) : Option Nat :=
  let below := units * p / q
  let rest := 2 * (units * p % q)
  let isBelowNearer := rest < q || (rest == q && below % 2 == 0)
  let (near, far) := if isBelowNearer then (below, below + 1) else (below + 1, below)
  if readsBack units p q near then some near
  else if readsBack units p q far then some far
  else none

/-- The first grid from `count` digits on, of at most `fuel`, with a point that reads back. -/
def shortestFrom (units : Nat) (point : Int) : Nat → Nat → Decimal
  | 0, count => ⟨units * (stepRatio (point - count)).1 / (stepRatio (point - count)).2, point - count⟩
  | fuel + 1, count =>
    let exponent := point - count
    let (p, q) := stepRatio exponent
    match gridPoint? units p q with
    | some digits => Decimal.trim count ⟨digits, exponent⟩
    | none => shortestFrom units point fuel (count + 1)

/-- The shortest decimal number that is read back as the given units. -/
def shortest (units : Nat) : Decimal :=
  if units = 0 then ⟨0, 0⟩ else shortestFrom units (pointPosition units) 17 1

/-- The decimal number with `count` digits nearest to the given units, without zeros at its
end. -/
def rounded (count units : Nat) : Decimal :=
  if units = 0 then ⟨0, 0⟩
  else
    let exponent := pointPosition units - count
    let (p, q) := stepRatio exponent
    Decimal.trim count ⟨roundDiv (units * p) q, exponent⟩

end Double

/-- How a decimal number is written: the positions of the point between which there is no
exponent, and whether a whole number gets a point and a zero. -/
structure DecimalFormat where
  leastPoint : Int
  mostPoint : Int
  marksWhole : Bool
  deriving DecidableEq, Repr

namespace DecimalFormat

/-- Digits with a point after the first `point` of them. -/
def positional (format : DecimalFormat) (digits : List Char) (point : Int) : List Char :=
  if point ≤ 0 then '0' :: '.' :: List.replicate (-point).toNat '0' ++ digits
  else
    let whole := digits.take point.toNat ++ List.replicate (point.toNat - digits.length) '0'
    match digits.drop point.toNat with
    | [] => if format.marksWhole then whole ++ ['.', '0'] else whole
    | fraction => whole ++ '.' :: fraction

/-- An exponent with its sign and at least two digits. -/
def exponentText (exponent : Int) : List Char :=
  let digits := Nat.toDigits 10 exponent.natAbs
  'e' :: (if exponent < 0 then '-' else '+') :: List.replicate (2 - digits.length) '0' ++ digits

/-- A decimal number as text. -/
def write (format : DecimalFormat) (decimal : Decimal) : List Char :=
  let digits := Nat.toDigits 10 decimal.digits
  let point := decimal.exponent + digits.length
  if format.leastPoint ≤ point && point ≤ format.mostPoint then format.positional digits point
  else
    match digits with
    | [] => []
    | [digit] => digit :: exponentText (point - 1)
    | digit :: others => digit :: '.' :: others ++ exponentText (point - 1)

end DecimalFormat

namespace Double

/-- Numbers from 0.0001 up to ten to the power of 16 are written without exponent; whole numbers
end in a point and a zero. -/
def exactFormat : DecimalFormat := ⟨-3, 16, true⟩

/-- Numbers from 0.0001 up to a million are written without exponent; whole numbers have no
point. -/
def briefFormat : DecimalFormat := ⟨-3, 6, false⟩

/-- A number written with the digits that `digitsOf` gives. -/
def write (digitsOf : Nat → Decimal) (format : DecimalFormat) : Double → String
  | .finite negative units =>
    String.ofList ((if negative then ['-'] else []) ++ format.write (digitsOf units))
  | .infinite negative => if negative then "-inf" else "inf"
  | .nan => "nan"

/-- A number in full. -/
def text (number : Double) : String := number.write shortest exactFormat

/-- A number rounded to six digits. -/
def briefText (number : Double) : String := number.write (rounded 6) briefFormat

end Double

end LiveDeck
