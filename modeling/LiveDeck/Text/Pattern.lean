import LiveDeck.Text.WordCharacters

/-! # Patterns

Patterns over a text, matched from a position with backtracking: alternatives are tried in
order, a repetition takes as much as it can (or as little, if it is `short`) and gives way when
what follows does not match.  `run` hands every position where a match may end to a
continuation, in order of preference, until the continuation succeeds.

A repetition of a pattern makes progress in every round, so its rounds are bounded by what is
left of the text. -/

namespace LiveDeck.Text

/-- A pattern. -/
inductive Pattern where
  | empty
  | one (p : Char → Bool)
  | many (p : Char → Bool) (least : Nat) (most : Option Nat) (short : Bool)
  | seq (first second : Pattern)
  | alt (first second : Pattern)
  | star (inner : Pattern)
  | textStart
  | lineStart
  | lineEnd
  | lastLineEnd
  | wordEdge
  | notAfter (p : Char → Bool)
  | before (inner : Pattern)

/-- How many characters from position `i` on satisfy `p`. -/
def runLength (s : Array Char) (p : Char → Bool) (i : Nat) : Nat :=
  if h : i < s.size then if p s[i] then runLength s p (i + 1) + 1 else 0 else 0
termination_by s.size - i

/-- The first success among `i + n`, `i + n - 1`, …, `i`. -/
def tryDown {α : Type} (i : Nat) (k : Nat → Option α) : Nat → Option α
  | 0 => k i
  | n + 1 => match k (i + n + 1) with
    | some a => some a
    | none => tryDown i k n

/-- The first success among `i`, `i + 1`, …, `i + n`. -/
def tryUp {α : Type} (k : Nat → Option α) : Nat → Nat → Option α
  | i, 0 => k i
  | i, n + 1 => match k i with
    | some a => some a
    | none => tryUp k (i + 1) n

/-- As many rounds of `step` as possible, at most `fuel`, each of which makes progress. -/
def tryRounds {α : Type} (step : Nat → (Nat → Option α) → Option α) :
    Nat → Nat → (Nat → Option α) → Option α
  | 0, i, k => k i
  | fuel + 1, i, k =>
    match step i fun j => if i < j then tryRounds step fuel j k else none with
    | some a => some a
    | none => k i

/-- Whether the character at a position satisfies `p`; there is none at the end. -/
def charAt (s : Array Char) (p : Char → Bool) (i : Nat) : Bool :=
  match s[i]? with
  | some c => p c
  | none => false

/-- Whether there is a character before a position that satisfies `p`. -/
def charBefore (s : Array Char) (p : Char → Bool) : Nat → Bool
  | 0 => false
  | i + 1 => charAt s p i

namespace Pattern

/-- Whether a pattern without extent holds between two characters. -/
def holdsAt (s : Array Char) (i : Nat) : Pattern → Bool
  | .textStart => i == 0
  | .lineStart => i == 0 || charBefore s (· == '\n') i
  | .lineEnd => i == s.size || charAt s (· == '\n') i
  | .lastLineEnd => i == s.size || (i + 1 == s.size && charAt s (· == '\n') i)
  | .wordEdge => charBefore s wordCharacters.contains i != charAt s wordCharacters.contains i
  | .notAfter p => !charBefore s p i
  | _ => true

/-- Matches a pattern at position `i` and goes on with `k` where the match ends. -/
def run {α : Type} (s : Array Char) : Pattern → Nat → (Nat → Option α) → Option α
  | .empty, i, k => k i
  | .one p, i, k => if charAt s p i then k (i + 1) else none
  | .many p least most short, i, k =>
    let found := runLength s p i
    let n := match most with
      | some m => min m found
      | none => found
    if n < least then none
    else if short then tryUp k (i + least) (n - least)
    else tryDown (i + least) k (n - least)
  | .seq first second, i, k => run s first i fun j => run s second j k
  | .alt first second, i, k =>
    match run s first i k with
    | some a => some a
    | none => run s second i k
  | .star inner, i, k => tryRounds (run s inner) (s.size - i) i k
  | .before inner, i, k => if (run s inner i some).isSome then k i else none
  | .textStart, i, k => if holdsAt s i .textStart then k i else none
  | .lineStart, i, k => if holdsAt s i .lineStart then k i else none
  | .lineEnd, i, k => if holdsAt s i .lineEnd then k i else none
  | .lastLineEnd, i, k => if holdsAt s i .lastLineEnd then k i else none
  | .wordEdge, i, k => if holdsAt s i .wordEdge then k i else none
  | .notAfter p, i, k => if holdsAt s i (.notAfter p) then k i else none

/-- The preferred end of a match at position `i`. -/
def matchEnd? (pattern : Pattern) (s : Array Char) (i : Nat) : Option Nat := run s pattern i some

/-- Whether the pattern matches at the start of a text. -/
def matchesStart (pattern : Pattern) (s : Array Char) : Bool := (matchEnd? pattern s 0).isSome

/-- Whether the pattern matches somewhere in a text. -/
def occursIn (pattern : Pattern) (s : Array Char) : Bool :=
  (List.range (s.size + 1)).any fun i => (matchEnd? pattern s i).isSome

/-- One after another. -/
def all : List Pattern → Pattern
  | [] => .empty
  | [p] => p
  | p :: rest => .seq p (all rest)

/-- The first that matches; `any []` is never used and matches nothing. -/
def any : List Pattern → Pattern
  | [] => .one fun _ => false
  | [p] => p
  | p :: rest => .alt p (any rest)

/-- A pattern or nothing, the pattern preferred. -/
def opt (p : Pattern) : Pattern := .alt p .empty

/-- A pattern once or more. -/
def plus (p : Pattern) : Pattern := .seq p (.star p)

/-- The characters of a text, one after another. -/
def exactly (text : String) : Pattern := all (text.toList.map fun c => .one (· == c))

/-- One of the characters of a text. -/
def oneOf (text : String) : Pattern := .one fun c => text.toList.contains c

/-- Any number of characters, as many as possible. -/
def greedy (p : Char → Bool) : Pattern := .many p 0 none false

/-- One or more characters, as many as possible. -/
def greedy1 (p : Char → Bool) : Pattern := .many p 1 none false

/-- Any number of characters, as few as possible. -/
def lazy (p : Char → Bool) : Pattern := .many p 0 none true

end Pattern

end LiveDeck.Text
