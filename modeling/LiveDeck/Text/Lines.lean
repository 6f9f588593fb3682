import LiveDeck.Text.Blank

/-! # Lines

Two notions of a line.  `splitLines` cuts at every line boundary of Unicode and keeps the
boundary with its line, so that `(splitLines s).flatten = s`.  `universal` knows the line feed,
the carriage return and the pair of them only, and writes each as a line feed. -/

namespace LiveDeck.Text

/-- The characters that end a line; a carriage return and a line feed together end one line. -/
def isLineBoundary (c : Char) : Bool :=
  let n := c.toNat
  (0x0A ≤ n && n ≤ 0x0D) || (0x1C ≤ n && n ≤ 0x1E) || n == 0x85 || n == 0x2028 || n == 0x2029

/-- Puts a character in front of the first line. -/
def consLine (c : Char) : List (List Char) → List (List Char)
  | [] => [[c]]
  | line :: rest => (c :: line) :: rest

/-- The lines of a text, each with its boundary. -/
def splitLines : List Char → List (List Char)
  | [] => []
  | '\r' :: '\n' :: s => ['\r', '\n'] :: splitLines s
  | c :: s => if isLineBoundary c then [c] :: splitLines s else consLine c (splitLines s)

theorem flatten_consLine (c : Char) (lines : List (List Char)) :
    (consLine c lines).flatten = c :: lines.flatten := by
  cases lines <;> simp [consLine]

/-- Cutting into lines loses nothing. -/
theorem flatten_splitLines (s : List Char) : (splitLines s).flatten = s := by
  fun_induction splitLines s with
  | case1 => rfl
  | case2 s ih => simp [ih]
  | case3 c s _ h ih => simp [ih]
  | case4 c s _ h ih => simp [flatten_consLine, ih]

/-- Every line ending written as a line feed. -/
def universal : List Char → List Char
  | [] => []
  | '\r' :: '\n' :: s => '\n' :: universal s
  | c :: s => (if c = '\r' then '\n' else c) :: universal s

end LiveDeck.Text
