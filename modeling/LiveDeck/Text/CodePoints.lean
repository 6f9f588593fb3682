/-! # Code points

Some of the code points of a text are no characters: the surrogates, which an escape of YAML or a
label of a host name may stand for, and which have no bytes.  Where they may occur, a text is
*spelled*: a surrogate is written as a null character and an ideograph that counts it, and a null
character as two of them.  A text that holds no null character spells itself.

`codePoints` reads a spelled text. -/

namespace LiveDeck.Text

/-- A surrogate, by its distance from the first of them. -/
abbrev Surrogate := Fin 0x800

/-- The code point of a surrogate. -/
def Surrogate.code (s : Surrogate) : Nat := 0xD800 + s.val

/-- Whether a surrogate is the first half of a pair. -/
def Surrogate.isHigh (s : Surrogate) : Bool := s.val < 0x400

/-- The character that counts a surrogate. -/
def Surrogate.ideograph (s : Surrogate) : Char := Char.ofNat (0x20000 + s.val)

/-- The surrogate that a character counts. -/
def surrogate? (c : Char) : Option Surrogate :=
  if h : 0x20000 ≤ c.toNat ∧ c.toNat < 0x20800 then some ⟨c.toNat - 0x20000, by omega⟩ else none

/-- A code point: a character or a surrogate. -/
inductive CodePoint where
  | char (c : Char)
  | surrogate (s : Surrogate)
  deriving DecidableEq, Repr

namespace CodePoint

/-- The code point of a number below `0x110000`. -/
def ofNat (code : Nat) : CodePoint :=
  if h : 0xD800 ≤ code ∧ code < 0xE000 then .surrogate ⟨code - 0xD800, by omega⟩
  else .char (Char.ofNat code)

/-- The number of a code point. -/
def toNat : CodePoint → Nat
  | .char c => c.toNat
  | .surrogate s => s.code

/-- How a code point is spelled. -/
def spelling : CodePoint → List Char
  | .char c => if c = '\x00' then ['\x00', '\x00'] else [c]
  | .surrogate s => ['\x00', s.ideograph]

/-- Whether a code point is a surrogate. -/
def isSurrogate : CodePoint → Bool
  | .char _ => false
  | .surrogate _ => true

end CodePoint

/-- A text as it is spelled. -/
def spelled (text : List Char) : List Char := text.flatMap fun c => (CodePoint.char c).spelling

/-- The code points of a spelled text, or of what follows a null character in it. -/
def codePointsFrom : Bool → List Char → List CodePoint
  | false, [] => []
  | true, [] => [.char '\x00']
  | false, c :: rest =>
    if c = '\x00' then codePointsFrom true rest else .char c :: codePointsFrom false rest
  | true, c :: rest =>
    match surrogate? c with
    | some s => .surrogate s :: codePointsFrom false rest
    | none =>
      if c = '\x00' then .char '\x00' :: codePointsFrom false rest
      else .char '\x00' :: .char c :: codePointsFrom false rest

/-- The code points of a spelled text. -/
def codePoints (text : List Char) : List CodePoint := codePointsFrom false text

end LiveDeck.Text
