import LiveDeck.Text.CodePoints

/-! # Punycode

Labels of host names in the letters of ASCII.  The ASCII characters of a label come first; the
others are inserted in order of code points, each as the distance from the one before, written
with variable-length digits whose thresholds follow an adapting bias.  Surrogates are written and
read like characters, so a label is spelled. -/

namespace LiveDeck.Text.Punycode

/-- The threshold of digit `j` under a bias. -/
def threshold (j bias : Nat) : Nat := min 26 (max 1 (36 * (j + 1) - bias))

theorem threshold_le (j bias : Nat) : threshold j bias ≤ 26 := Nat.min_le_left _ _

theorem threshold_pos (j bias : Nat) : 0 < threshold j bias := by
  unfold threshold; omega

/-- Divides by 35 until the quotient is small, and counts 36 for each division. -/
def damp (delta count : Nat) : Nat × Nat :=
  if 455 < delta then damp (delta / 35) (count + 36) else (delta, count)
termination_by delta
decreasing_by omega

/-- The bias after an insertion at distance `delta` into a label that then has `size` characters. -/
def adapt (delta : Nat) (isFirst : Bool) (size : Nat) : Nat :=
  let start := if isFirst then delta / 700 else delta / 2
  let (rest, count) := damp (start + start / size) 0
  count + 36 * rest / (rest + 38)

/-- A digit below 36 as a letter or a figure. -/
def digitChar (d : Nat) : Char :=
  if d < 26 then Char.ofNat ('a'.toNat + d) else Char.ofNat ('0'.toNat + d - 26)

/-- The value of a letter or a figure. -/
def digitValue? (c : Char) : Option Nat :=
  if c.isLower then some (c.toNat - 'a'.toNat)
  else if c.isUpper then some (c.toNat - 'A'.toNat)
  else if c.isDigit then some (c.toNat - '0'.toNat + 26)
  else none

/-! ### Writing -/

/-- The digits of a number from digit `j` on. -/
def digits (bias j n : Nat) : List Char :=
  let t := threshold j bias
  if n < t then [digitChar n]
  else digitChar (t + (n - t) % (36 - t)) :: digits bias (j + 1) ((n - t) / (36 - t))
termination_by n
decreasing_by
  have h1 := threshold_le j bias
  have h2 := threshold_pos j bias
  exact Nat.lt_of_le_of_lt (Nat.div_le_self _ _) (by omega)

/-- What has been written: the digits, the distance so far, the bias, and how many characters
are in place. -/
structure Writer where
  output : List Char
  delta : Nat
  bias : Nat
  placed : Nat
  deriving Repr

/-- Passes one code point of the label while those equal to `n` are inserted. -/
def Writer.pass (basic n : Nat) (w : Writer) (code : Nat) : Writer :=
  if code < n then { w with delta := w.delta + 1 }
  else if code = n then
    ⟨w.output ++ digits w.bias 0 w.delta, 0, adapt w.delta (w.placed = basic) (w.placed + 1),
      w.placed + 1⟩
  else w

/-- Inserts the characters of the given code points, in increasing order. -/
def Writer.insertAll (label : List Nat) (basic : Nat) : Nat → List Nat → Writer → Writer
  | _, [], w => w
  | next, n :: rest, w =>
    let moved := { w with delta := w.delta + (n - next) * (w.placed + 1) }
    let passed := label.foldl (Writer.pass basic n) moved
    insertAll label basic (n + 1) rest { passed with delta := passed.delta + 1 }

/-- Inserts a number into an increasing list. -/
def insertSorted (n : Nat) : List Nat → List Nat
  | [] => [n]
  | m :: rest => if n < m then n :: m :: rest else if n = m then m :: rest else
      m :: insertSorted n rest

/-- A label in the letters of ASCII. -/
def encode (label : List Char) : List Char :=
  let codes := (codePoints label).map CodePoint.toNat
  let ascii := (codes.filter (· < 0x80)).map Char.ofNat
  let others := (codes.filter (0x80 ≤ ·)).foldl (fun sorted code => insertSorted code sorted) []
  let w := Writer.insertAll codes ascii.length 0x80 others ⟨[], 0, 72, ascii.length⟩
  if ascii.isEmpty then w.output else ascii ++ '-' :: w.output

/-! ### Reading -/

/-- Reads a number from digit `j` on, and what follows it. -/
def number? (bias : Nat) : Nat → Nat → Nat → List Char → Option (Nat × List Char)
  | _, _, _, [] => none
  | j, weight, sum, c :: rest =>
    match digitValue? c with
    | none => none
    | some d =>
      let t := threshold j bias
      if d < t then some (sum + d * weight, rest)
      else number? bias (j + 1) (weight * (36 - t)) (sum + d * weight) rest

/-- Inserts code points as long as there are digits; `fuel` is at least their number. -/
def readAll? : Nat → List CodePoint → Nat → Nat → Nat → Bool → List Char →
    Option (List CodePoint)
  | _, label, _, _, _, _, [] => some label
  | 0, _, _, _, _, _, _ => none
  | fuel + 1, label, n, position, bias, isFirst, input =>
    match number? bias 0 1 0 input with
    | none => none
    | some (delta, rest) =>
      let size := label.length + 1
      let next := n + (position + delta) / size
      let place := (position + delta) % size
      if 0x10FFFF < next then none
      else
        readAll? fuel (label.take place ++ CodePoint.ofNat next :: label.drop place) next
          (place + 1) (adapt delta isFirst size) false rest

/-- The characters before the last hyphen and those after it. -/
def splitLastHyphen (input : List Char) : List Char × List Char :=
  if input.contains '-' then
    let tail := (input.reverse.takeWhile (· != '-')).reverse
    (input.take (input.length - tail.length - 1), tail)
  else ([], input)

/-- The label that a text in the letters of ASCII stands for. -/
def decode? (input : List Char) : Option (List Char) :=
  if input.all (·.toNat < 0x80) then
    let (basic, extended) := splitLastHyphen input
    (readAll? extended.length (basic.map .char) 0x80 0 72 true extended).map fun points =>
      points.flatMap CodePoint.spelling
  else none

end LiveDeck.Text.Punycode
