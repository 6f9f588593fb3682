/-! # Replacing

Every occurrence of a pattern replaced from left to right, occurrences that overlap an earlier
one left alone. -/

namespace LiveDeck.Text

/-- What follows `pattern` at the start of `s`. -/
def dropPrefix? : List Char → List Char → Option (List Char)
  | [], s => some s
  | _ :: _, [] => none
  | p :: pattern, c :: s => if p = c then dropPrefix? pattern s else none

theorem dropPrefix?_eq_some_iff {pattern s rest : List Char} :
    dropPrefix? pattern s = some rest ↔ s = pattern ++ rest := by
  induction pattern generalizing s with
  | nil => simp [dropPrefix?]
  | cons p pattern ih =>
    cases s with
    | nil => simp [dropPrefix?]
    | cons c s =>
      by_cases h : p = c
      · simp [dropPrefix?, h, ih]
      · simp [dropPrefix?, h, Ne.symm h]

/-- `replaceFrom k` copies after having dropped `k` more characters of an occurrence. -/
def replaceFrom (pattern new : List Char) : Nat → List Char → List Char
  | _, [] => []
  | 0, c :: s =>
    if (dropPrefix? pattern (c :: s)).isSome then
      new ++ replaceFrom pattern new (pattern.length - 1) s
    else c :: replaceFrom pattern new 0 s
  | k + 1, _ :: s => replaceFrom pattern new k s

/-- Every occurrence of the non-empty `pattern` replaced by `new`. -/
def replace (pattern new s : List Char) : List Char := replaceFrom pattern new 0 s

end LiveDeck.Text
