/-! # Numbers in double precision

A finite number is a whole multiple of the smallest positive one, so sums, multiples and
comparisons are those of natural numbers, followed by one rounding.  `Double.ofRatio` rounds a
quotient to the nearest number, half way to the even one. -/

namespace LiveDeck

/-- A number in double precision: a sign and a magnitude in units of the smallest positive
number. -/
inductive Double where
  | finite (negative : Bool) (units : Nat)
  | infinite (negative : Bool)
  | nan
  deriving DecidableEq, Repr, Inhabited

/-- A quotient rounded to the nearest whole number, half way to the even one. -/
def roundDiv (num den : Nat) : Nat :=
  let quotient := num / den
  let rest := 2 * (num % den)
  if den < rest || (rest == den && quotient % 2 == 1) then quotient + 1 else quotient

namespace Double

/-- How many units make one. -/
def unitsPerOne : Nat := Nat.pow 2 1074

/-- The largest finite magnitude. -/
def maxUnits : Nat := (Nat.pow 2 53 - 1) * Nat.pow 2 2045

/-- The number of binary digits. -/
def bitLength (n : Nat) : Nat := if n = 0 then 0 else Nat.log2 n + 1

/-- The distance between neighbouring numbers at a magnitude: 53 binary digits are kept. -/
def spacing (units : Nat) : Nat := Nat.pow 2 (bitLength units - 53)

/-- The number nearest to a quotient of units. -/
def ofUnits (negative : Bool) (num den : Nat) : Double :=
  let step := spacing (num / den)
  let units := roundDiv num (den * step) * step
  if maxUnits < units then .infinite negative else .finite negative units

/-- The number nearest to a quotient. -/
def ofRatio (negative : Bool) (num den : Nat) : Double :=
  ofUnits negative (num * unitsPerOne) den

/-- The number nearest to a natural number. -/
def ofNat (n : Nat) : Double := ofRatio false n 1

/-- The number with the other sign. -/
def neg : Double → Double
  | .finite negative units => .finite (!negative) units
  | .infinite negative => .infinite (!negative)
  | .nan => .nan

/-- Whether a number is greater than zero. -/
def isPositive : Double → Bool
  | .finite negative units => !negative && 0 < units
  | .infinite negative => !negative
  | .nan => false

/-- Whether a number is zero or less. -/
def isAtMostZero : Double → Bool
  | .finite negative units => negative || units == 0
  | .infinite negative => negative
  | .nan => false

/-- Whether a number is zero, of either sign. -/
def isZero : Double → Bool
  | .finite _ units => units == 0
  | _ => false

/-- A sum, rounded. -/
def add : Double → Double → Double
  | .nan, _ => .nan
  | _, .nan => .nan
  | .infinite a, .infinite b => if a = b then .infinite a else .nan
  | .infinite a, _ => .infinite a
  | _, .infinite b => .infinite b
  | .finite a m, .finite b n =>
    if a = b then ofUnits a (m + n) 1
    else if m = n then .finite false 0
    else if n < m then ofUnits a (m - n) 1
    else ofUnits b (n - m) 1

/-- A multiple, rounded. -/
def scale (n : Nat) : Double → Double
  | .finite negative units => ofUnits negative (units * n) 1
  | .infinite negative => if n = 0 then .nan else .infinite negative
  | .nan => .nan

end Double

end LiveDeck
