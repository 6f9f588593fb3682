/-! # Sets of characters

A set given by the code points at which membership changes, in increasing order: a character is
in the set iff an odd number of them are at most its code point.  The number is found by
bisection. -/

namespace LiveDeck.Text

/-- A set of characters, as the code points where membership changes. -/
structure CharSet where
  changes : Array Nat
  deriving Repr

namespace CharSet

/-- How many entries of the sorted `a` between `lo` and `hi` are at most `n`, plus `lo`;
`fuel` bounds the number of halvings. -/
def countFrom (a : Array Nat) (n : Nat) : Nat → Nat → Nat → Nat
  | 0, lo, _ => lo
  | fuel + 1, lo, hi =>
    if lo < hi then
      let mid := (lo + hi) / 2
      match a[mid]? with
      | none => lo
      | some x => if x ≤ n then countFrom a n fuel (mid + 1) hi else countFrom a n fuel lo mid
    else lo

/-- Whether a character is in the set. -/
def contains (set : CharSet) (c : Char) : Bool :=
  countFrom set.changes c.toNat set.changes.size 0 set.changes.size % 2 == 1

end CharSet

end LiveDeck.Text
